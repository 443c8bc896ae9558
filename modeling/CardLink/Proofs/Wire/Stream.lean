import CardLink.Wire.Codec

/-!
# Bytes in flight

What a source has still to deliver, and what a read takes of it. However a script is cut, no read loses or
invents a byte: what was obtained and what is left make up what was there. A source that carries plain
bytes gives every read its bytes as long as there are enough, wherever the pieces end.
-/

namespace CardLink

def ReadEvent.bytes : ReadEvent → Bytes
  | .chunk bytes => bytes
  | _ => []

namespace Source

/-- The bytes still to come, without regard to when and in which pieces. -/
def undelivered (s : Source) : Bytes := s.events.flatMap ReadEvent.bytes

/-- The source delivers those bytes in non-empty pieces, nothing else between them, and ends like that. -/
structure Carries (bytes : Bytes) (atEnd : SourceEnd) (s : Source) : Prop where
  pieces : ∀ e ∈ s.events, ∃ piece, piece ≠ [] ∧ e = .chunk piece
  whole : s.undelivered = bytes
  ends : s.atEnd = atEnd

theorem fill_bytes (sent : Nat) (atEnd : SourceEnd) (need : Nat) (events : List ReadEvent) :
    (fill sent atEnd need events).1 ++ (fill sent atEnd need events).2.2.flatMap ReadEvent.bytes
      = events.flatMap ReadEvent.bytes := by
  fun_induction fill sent atEnd need events with
  | case1 => rfl
  | case2 => rfl
  | case3 need rest => rfl
  | case4 need bytes rest _ _ more stop rest' heq ih =>
    rw [heq] at ih
    simp only [List.flatMap_cons, ReadEvent.bytes, List.append_assoc] at ih ⊢
    rw [ih]
  | case5 need bytes rest _ _ =>
    simp only [List.flatMap_cons, ReadEvent.bytes, ← List.append_assoc, List.take_append_drop]
  | case6 need e rest _ ih => simpa [ReadEvent.bytes] using ih
  | case7 => simp [ReadEvent.bytes]
  | case8 need frames rest _ ih => simpa [ReadEvent.bytes] using ih
  | case9 => rfl

/-- What holds of every event and of the rest of a piece holds of the events that are left. -/
theorem fill_left {P : ReadEvent → Prop}
    (hrest : ∀ piece n, n < piece.length → P (.chunk piece) → P (.chunk (piece.drop n)))
    (sent : Nat) (atEnd : SourceEnd) (need : Nat) (events : List ReadEvent) (h : ∀ e ∈ events, P e) :
    ∀ e ∈ (fill sent atEnd need events).2.2, P e := by
  fun_induction fill sent atEnd need events with
  | case1 => exact h
  | case2 => exact h
  | case3 need rest => exact fun e he => h e (List.mem_cons_of_mem _ he)
  | case4 need piece rest _ _ more stop rest' heq ih =>
    have hleft := ih fun e he => h e (List.mem_cons_of_mem _ he)
    rwa [heq] at hleft
  | case5 need piece rest _ hlt =>
    intro e he
    rcases List.mem_cons.mp he with rfl | he
    · exact hrest piece (need + 1) (by omega) (h _ List.mem_cons_self)
    · exact h e (List.mem_cons_of_mem _ he)
  | case6 need e rest _ ih => exact ih fun e he => h e (List.mem_cons_of_mem _ he)
  | case7 need e rest _ => exact fun e he => h e (List.mem_cons_of_mem _ he)
  | case8 need frames rest _ ih => exact ih fun e he => h e (List.mem_cons_of_mem _ he)
  | case9 => exact h

/-- At the event bytes keep coming: a piece of them, or an interruption. -/
def Flowing : ReadEvent → Prop
  | .chunk bytes => bytes ≠ []
  | .failure e => e.kind = .interrupted
  | .await _ => False

instance : DecidablePred Flowing
  | .chunk bytes => inferInstanceAs (Decidable (bytes ≠ []))
  | .failure e => inferInstanceAs (Decidable (e.kind = .interrupted))
  | .await _ => isFalse id

theorem Flowing.rest (piece : Bytes) (n : Nat) (hlt : n < piece.length) (_ : Flowing (.chunk piece)) :
    Flowing (.chunk (piece.drop n)) := by
  change piece.drop n ≠ []
  simpa using hlt

/-- Reading a stream that keeps flowing stops early only at its end. -/
theorem fill_ends (sent : Nat) (atEnd : SourceEnd) (need : Nat) (events : List ReadEvent)
    (h : ∀ e ∈ events, Flowing e) :
    (fill sent atEnd need events).2.1 = none ∨
      (fill sent atEnd need events).2.1 = some atEnd.stop ∧
        (fill sent atEnd need events).2.2 = [] ∧ (fill sent atEnd need events).1.length < need := by
  fun_induction fill sent atEnd need events with
  | case1 => exact Or.inl rfl
  | case2 => exact Or.inr ⟨rfl, rfl, Nat.succ_pos _⟩
  | case3 need rest => exact absurd rfl (h _ List.mem_cons_self)
  | case4 need piece rest _ hle more stop rest' heq ih =>
    have hstop := ih fun e he => h e (List.mem_cons_of_mem _ he)
    rw [heq] at hstop
    refine hstop.imp id ?_
    rintro ⟨hs, hr, hlt⟩
    refine ⟨hs, hr, ?_⟩
    simp only [List.length_append] at hlt ⊢
    omega
  | case5 => exact Or.inl rfl
  | case6 need e rest _ ih => exact ih fun e he => h e (List.mem_cons_of_mem _ he)
  | case7 need e rest hkind => exact absurd (h _ List.mem_cons_self) hkind
  | case8 => exact (h _ List.mem_cons_self).elim
  | case9 => exact (h _ List.mem_cons_self).elim

/-- Only pieces of plain bytes are left of pieces of plain bytes, and reading them stops early only at
the end. -/
theorem fill_pieces (sent : Nat) (atEnd : SourceEnd) (need : Nat) (events : List ReadEvent)
    (h : ∀ e ∈ events, ∃ piece, piece ≠ [] ∧ e = .chunk piece) :
    (∀ e ∈ (fill sent atEnd need events).2.2, ∃ piece, piece ≠ [] ∧ e = .chunk piece) ∧
    ((fill sent atEnd need events).2.1 = none ∨
      (fill sent atEnd need events).2.1 = some atEnd.stop ∧
        (fill sent atEnd need events).2.2 = [] ∧ (fill sent atEnd need events).1.length < need) := by
  constructor
  · refine fill_left ?_ sent atEnd need events h
    intro piece n hlt _
    exact ⟨_, by simpa using hlt, rfl⟩
  · apply fill_ends
    intro e he
    obtain ⟨piece, hne, rfl⟩ := h e he
    exact hne

/-! ## Reading from any source -/

theorem read_ok {expected sent : Nat} {s s' : Source} {bytes : Bytes}
    (h : s.read expected sent = (.ok bytes, s')) :
    bytes.length = expected ∧ s.undelivered = bytes ++ s'.undelivered := by
  have hb := fill_bytes sent s.atEnd expected s.events
  have hl := fill_length sent s.atEnd expected s.events
  unfold read at h
  split at h
  · next heq =>
    rw [heq] at hb hl
    cases h
    exact ⟨hl rfl, hb.symm⟩
  · simp at h

theorem failure_timeout {expected : Nat} {bytes : Bytes} {stop : ReadStop}
    (h : failure expected bytes.length stop = .timeout) : bytes = [] := by
  by_cases hne : bytes = []
  · exact hne
  · cases stop with
    | gone => simp [failure] at h
    | silent => simp [failure, hne] at h
    | failed e =>
      by_cases hd : e.kind.isDeadline = true
      · simp [failure, hd, hne] at h
      · simp [failure, hd, TransportError.ofIo] at h

theorem read_timeout {expected sent : Nat} {s s' : Source}
    (h : s.read expected sent = (.error .timeout, s')) : s'.undelivered = s.undelivered := by
  have hb := fill_bytes sent s.atEnd expected s.events
  unfold read at h
  split at h
  · simp at h
  · next bytes stop events heq =>
    rw [heq] at hb
    simp only [Prod.mk.injEq, Except.error.injEq] at h
    obtain ⟨hfail, rfl⟩ := h
    have hnil : bytes = [] := failure_timeout hfail
    rw [hnil] at hb
    exact hb

theorem read_ne_tooLarge {expected sent length max : Nat} {s : Source} :
    (s.read expected sent).1 ≠ .error (.frameTooLarge length max) := by
  unfold read
  split
  · simp
  · next bytes stop _ _ =>
    intro h
    cases stop with
    | gone => simp [failure] at h
    | silent =>
      simp only [failure, Except.error.injEq] at h
      split at h <;> cases h
    | failed e =>
      simp only [failure, TransportError.ofIo, Except.error.injEq] at h
      split at h
      · cases h
      · split at h <;> cases h

theorem readRest_ne_tooLarge {expected sent length max : Nat} {s : Source} :
    (s.readRest expected sent).1 ≠ .error (.frameTooLarge length max) := by
  unfold readRest
  split
  · simp
  · exact read_ne_tooLarge

theorem readRest_of_ok {expected sent : Nat} {s s' : Source} {bytes : Bytes} :
    s.readRest expected sent = (.ok bytes, s') ↔ s.read expected sent = (.ok bytes, s') := by
  unfold readRest
  split
  · next heq => simp [heq]
  · rfl

/-! ## Reading plain bytes -/

theorem Carries.read {first rest : Bytes} {atEnd : SourceEnd} {s : Source}
    (h : s.Carries (first ++ rest) atEnd) (sent : Nat) :
    ∃ s', s.read first.length sent = (.ok first, s') ∧ s'.Carries rest atEnd := by
  have hb := fill_bytes sent s.atEnd first.length s.events
  have hl := fill_length sent s.atEnd first.length s.events
  obtain ⟨hp, hs⟩ := fill_pieces sent s.atEnd first.length s.events h.pieces
  have hw : s.events.flatMap ReadEvent.bytes = first ++ rest := h.whole
  rcases hf : fill sent s.atEnd first.length s.events with ⟨got, stop, events⟩
  rw [hf] at hb hl hp hs
  rw [hw] at hb
  have hnone : stop = none := by
    rcases hs with hs | ⟨_, hnil, hlt⟩
    · exact hs
    · simp only at hnil hlt
      have := congrArg List.length hb
      simp only [hnil, List.flatMap_nil, List.append_nil, List.length_append] at this
      omega
  subst hnone
  obtain ⟨rfl, hrest⟩ := List.append_inj hb (hl rfl)
  refine ⟨{ s with events }, ?_, hp, hrest, h.ends⟩
  simp [Source.read, hf]

/-- Too few bytes are all lost, and the stream has ended. -/
theorem Carries.read_short {bytes : Bytes} {atEnd : SourceEnd} {s : Source}
    (h : s.Carries bytes atEnd) {expected : Nat} (hlt : bytes.length < expected) (sent : Nat) :
    ∃ s', s.read expected sent = (.error (failure expected bytes.length atEnd.stop), s') := by
  have hb := fill_bytes sent s.atEnd expected s.events
  have hl := fill_length sent s.atEnd expected s.events
  obtain ⟨-, hs⟩ := fill_pieces sent s.atEnd expected s.events h.pieces
  have hw : s.events.flatMap ReadEvent.bytes = bytes := h.whole
  rcases hf : fill sent s.atEnd expected s.events with ⟨got, stop, events⟩
  rw [hf] at hb hl hs
  rw [hw] at hb
  rcases hs with hs | ⟨hs, hnil, -⟩
  · have := congrArg List.length hb
    have := hl hs
    simp only [List.length_append] at *
    omega
  · simp only at hs hnil
    subst hs hnil
    simp only [List.flatMap_nil, List.append_nil] at hb
    subst hb
    refine ⟨{ s with events := [] }, ?_⟩
    unfold Source.read
    rw [hf, h.ends]

theorem Carries.readRest {first rest : Bytes} {atEnd : SourceEnd} {s : Source}
    (h : s.Carries (first ++ rest) atEnd) (sent : Nat) :
    ∃ s', s.readRest first.length sent = (.ok first, s') ∧ s'.Carries rest atEnd := by
  obtain ⟨s', hr, hc⟩ := h.read sent
  exact ⟨s', readRest_of_ok.mpr hr, hc⟩

theorem Carries.readRest_short {bytes : Bytes} {s : Source}
    (h : s.Carries bytes .eof) {expected : Nat} (hlt : bytes.length < expected) (sent : Nat) :
    ∃ s', s.readRest expected sent = (.error (.connectionClosed expected bytes.length), s') := by
  obtain ⟨s', hr⟩ := h.read_short hlt sent
  refine ⟨s', ?_⟩
  simp only [failure, SourceEnd.stop] at hr
  simp [Source.readRest, hr]

/-! ## Reading from a peer that answers -/

/-- Bytes are held back only until frames are written; no piece is empty and no read fails. -/
def Steady (events : List ReadEvent) : Prop :=
  ∀ e ∈ events, (∃ piece, piece ≠ [] ∧ e = .chunk piece) ∨ ∃ frames, e = .await frames

/-- What has arrived by the time that many frames were written. -/
def arrived (frames : Nat) : List ReadEvent → Bytes
  | [] => []
  | .await n :: rest => if n ≤ frames then arrived frames rest else []
  | e :: rest => e.bytes ++ arrived frames rest

theorem fill_arrived (sent : Nat) (atEnd : SourceEnd) (need : Nat) (events : List ReadEvent)
    (hs : Steady events) (hneed : need ≤ (arrived sent events).length) :
    (fill sent atEnd need events).2.1 = none ∧ Steady (fill sent atEnd need events).2.2 ∧
    ∀ n, sent ≤ n → arrived n events =
      (fill sent atEnd need events).1 ++ arrived n (fill sent atEnd need events).2.2 := by
  fun_induction fill sent atEnd need events with
  | case1 => exact ⟨rfl, hs, fun _ _ => rfl⟩
  | case2 => simp [arrived] at hneed
  | case3 need rest =>
    rcases hs _ List.mem_cons_self with ⟨piece, hne, heq⟩ | ⟨frames, heq⟩
    · cases heq
      exact absurd rfl hne
    · cases heq
  | case4 need bytes rest _ hle more stop rest' heq ih =>
    have hneed' : need + 1 - bytes.length ≤ (arrived sent rest).length := by
      simp only [arrived, ReadEvent.bytes, List.length_append] at hneed
      omega
    obtain ⟨hstop, hsteady, harr⟩ := ih (fun e he => hs e (List.mem_cons_of_mem _ he)) hneed'
    rw [heq] at hstop hsteady harr
    refine ⟨hstop, hsteady, ?_⟩
    intro n hn
    rw [arrived, harr n hn, ReadEvent.bytes, List.append_assoc]
    simp
  | case5 need bytes rest _ hlt =>
    refine ⟨rfl, ?_, ?_⟩
    · intro e he
      rcases List.mem_cons.mp he with rfl | he
      · refine Or.inl ⟨_, ?_, rfl⟩
        intro hnil
        have := List.drop_eq_nil_iff.mp hnil
        omega
      · exact hs e (List.mem_cons_of_mem _ he)
    · intro n _
      simp [arrived, ReadEvent.bytes, ← List.append_assoc]
  | case6 need e rest _ _ =>
    rcases hs _ List.mem_cons_self with ⟨piece, _, heq⟩ | ⟨frames, heq⟩ <;> cases heq
  | case7 need e rest _ =>
    rcases hs _ List.mem_cons_self with ⟨piece, _, heq⟩ | ⟨frames, heq⟩ <;> cases heq
  | case8 need frames rest hle ih =>
    have hneed' : need + 1 ≤ (arrived sent rest).length := by simpa [arrived, hle] using hneed
    obtain ⟨hstop, hsteady, harr⟩ := ih (fun e he => hs e (List.mem_cons_of_mem _ he)) hneed'
    refine ⟨hstop, hsteady, ?_⟩
    intro n hn
    rw [arrived, if_pos (Nat.le_trans hle hn)]
    exact harr n hn
  | case9 need frames rest hlt => simp [arrived, hlt] at hneed

/-- A read that needs no more than has arrived takes it from the front of all that ever arrives. -/
theorem read_arrived {first rest : Bytes} {sent : Nat} {s : Source} (hs : Steady s.events)
    (h : arrived sent s.events = first ++ rest) :
    ∃ s', s.read first.length sent = (.ok first, s') ∧ Steady s'.events ∧
      ∀ n, sent ≤ n → arrived n s.events = first ++ arrived n s'.events := by
  have hneed : first.length ≤ (arrived sent s.events).length := by
    rw [h, List.length_append]
    exact Nat.le_add_right _ _
  have hl := fill_length sent s.atEnd first.length s.events
  obtain ⟨hstop, hsteady, harr⟩ := fill_arrived sent s.atEnd first.length s.events hs hneed
  rcases hf : fill sent s.atEnd first.length s.events with ⟨got, stop, events⟩
  rw [hf] at hl hstop hsteady harr
  simp only at hstop
  subst hstop
  obtain ⟨rfl, -⟩ := List.append_inj ((harr sent (Nat.le_refl sent)).symm.trans h) (hl rfl)
  refine ⟨{ s with events }, ?_, hsteady, harr⟩
  simp [Source.read, hf]

end Source
end CardLink
