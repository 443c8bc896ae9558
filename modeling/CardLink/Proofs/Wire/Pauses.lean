import CardLink.Proofs.Wire.Delivery
import CardLink.Proofs.Wire.Whole

/-!
# Deadlines in a stream

A stream flows for some bytes and then meets whatever comes next. Reads within these bytes do not notice
what comes next; a read that wants more stops there, if a deadline or the end of the stream stands there. A
deadline is a timeout to a read that has taken nothing, and else a stall. In a paused stream all deadlines
stand between frames.
-/

namespace CardLink

namespace Frame

/-- How long the part of a frame is that its first bytes end in, the header or what the header announces, and
how much of that part is there. -/
def underway : Bytes → Nat × Nat
  | hi :: lo :: rest => (headerLength [hi, lo], rest.length)
  | bytes => (headerSize, bytes.length)

end Frame

namespace ReadStop

/-- What a frame under way is lost to. -/
def loss : ReadStop → Nat → Nat → TransportError
  | .gone => .connectionClosed
  | _ => .stalled

/-- The peer is gone, or a deadline was met. -/
inductive Breaks : ReadStop → Prop where
  | gone : Breaks .gone
  | deadline {e : IoError} (h : e.kind.isDeadline) : Breaks (.failed e)

end ReadStop

namespace Source

/-- The events deliver these bytes in non-empty pieces, with interruptions anywhere, and go on like that. -/
def Flows (bytes : Bytes) (after events : List ReadEvent) : Prop :=
  ∃ before, events = before ++ after ∧ (∀ e ∈ before, Flowing e) ∧
    before.flatMap ReadEvent.bytes = bytes

/-- Every read that wants a byte stops at once, for that reason, and leaves those events. -/
def StopsAt (atEnd : SourceEnd) (events : List ReadEvent) (stop : ReadStop) (left : List ReadEvent) : Prop :=
  ∀ sent need, fill sent atEnd (need + 1) events = ([], some stop, left)

variable {bytes : Bytes} {after events left : List ReadEvent} {stop : ReadStop} {atEnd : SourceEnd}

theorem stopsAt_eof : StopsAt .eof [] .gone [] := fun _ _ => rfl

theorem stopsAt_deadline {e : IoError} (he : e.kind.isDeadline) (after : List ReadEvent) :
    StopsAt atEnd (.failure e :: after) (.failed e) after := by
  intro sent need
  have hne : e.kind ≠ .interrupted := by
    intro hk
    rw [hk] at he
    cases he
  simp [fill, hne]

theorem Flows.nil (events : List ReadEvent) : Flows [] events events := ⟨[], rfl, by simp, rfl⟩

theorem Flows.fill (h : Flows bytes after events) {need : Nat} (hneed : need ≤ bytes.length)
    (sent : Nat) (atEnd : SourceEnd) :
    ∃ events', fill sent atEnd need events = (bytes.take need, none, events') ∧
      Flows (bytes.drop need) after events' := by
  obtain ⟨before, rfl, hflow, rfl⟩ := h
  induction before generalizing need with
  | nil =>
    obtain rfl : need = 0 := Nat.le_zero.mp hneed
    exact ⟨after, by simp [Source.fill], .nil after⟩
  | cons e before ih =>
    have hrest : ∀ e ∈ before, Flowing e := fun e he => hflow e (List.mem_cons_of_mem _ he)
    cases need with
    | zero => exact ⟨e :: before ++ after, by simp [Source.fill], e :: before, rfl, hflow, rfl⟩
    | succ need =>
      cases e with
      | await frames => exact (hflow _ List.mem_cons_self).elim
      | failure e =>
        have hkind : e.kind = .interrupted := hflow _ List.mem_cons_self
        obtain ⟨events', hfill, hleft⟩ := ih hrest hneed
        exact ⟨events', by simpa [Source.fill, hkind, ReadEvent.bytes] using hfill, hleft⟩
      | chunk piece =>
        have hne : piece ≠ [] := hflow _ List.mem_cons_self
        simp only [List.flatMap_cons, ReadEvent.bytes, List.length_append] at hneed ⊢
        by_cases hle : piece.length ≤ need + 1
        · obtain ⟨events', hfill, hleft⟩ := ih hrest (show need + 1 - piece.length ≤ _ by omega)
          refine ⟨events', ?_, ?_⟩
          · simp [Source.fill, hne, hle, hfill, List.take_append, List.take_of_length_le hle]
          · rwa [List.drop_append, List.drop_of_length_le hle, List.nil_append]
        · have hlt : need + 1 < piece.length := Nat.lt_of_not_le hle
          refine ⟨.chunk (piece.drop (need + 1)) :: (before ++ after), ?_, ?_⟩
          · simp [Source.fill, hne, hle, List.take_append_of_le_length (Nat.le_of_lt hlt)]
          · refine ⟨.chunk (piece.drop (need + 1)) :: before, rfl, ?_, ?_⟩
            · intro e he
              rcases List.mem_cons.mp he with rfl | he
              · exact Flowing.rest piece _ hlt hne
              · exact hrest e he
            · rw [List.drop_append_of_le_length (Nat.le_of_lt hlt)]
              rfl

theorem Flows.fill_beyond (h : Flows bytes after events) (hstop : StopsAt atEnd after stop left)
    {need : Nat} (hneed : bytes.length < need) (sent : Nat) :
    Source.fill sent atEnd need events = (bytes, some stop, left) := by
  obtain ⟨before, rfl, hflow, rfl⟩ := h
  induction before generalizing need with
  | nil =>
    obtain ⟨need, rfl⟩ : ∃ n, need = n + 1 := ⟨need - 1, by simp at hneed; omega⟩
    exact hstop sent need
  | cons e before ih =>
    have hrest : ∀ e ∈ before, Flowing e := fun e he => hflow e (List.mem_cons_of_mem _ he)
    obtain ⟨need, rfl⟩ : ∃ n, need = n + 1 := ⟨need - 1, by omega⟩
    cases e with
    | await frames => exact (hflow _ List.mem_cons_self).elim
    | failure e =>
      have hkind : e.kind = .interrupted := hflow _ List.mem_cons_self
      simpa [Source.fill, hkind, ReadEvent.bytes] using ih hrest hneed
    | chunk piece =>
      have hne : piece ≠ [] := hflow _ List.mem_cons_self
      simp only [List.flatMap_cons, ReadEvent.bytes, List.length_append] at hneed ⊢
      have hle : piece.length ≤ need + 1 := by omega
      have hfill := ih hrest (show _ < need + 1 - piece.length by omega)
      simp [Source.fill, hne, hle, hfill]

theorem Delivers.flows {s : Source} (h : s.Delivers bytes) : Flows bytes [] s.events :=
  ⟨s.events, (List.append_nil _).symm, h.flowing, h.whole⟩

theorem Flows.delivers (h : Flows bytes [] events) : Delivers bytes ⟨events, .eof⟩ := by
  obtain ⟨before, rfl, hflow, hbytes⟩ := h
  rw [List.append_nil]
  exact ⟨hflow, hbytes, rfl⟩

section

variable {first rest : Bytes} (sent : Nat)

theorem Flows.read (atEnd : SourceEnd) (h : Flows (first ++ rest) after events) :
    ∃ events', Source.read first.length sent ⟨events, atEnd⟩ = (.ok first, ⟨events', atEnd⟩) ∧
      Flows rest after events' := by
  have hneed : first.length ≤ (first ++ rest).length := by simp
  obtain ⟨events', hfill, hleft⟩ := h.fill hneed sent atEnd
  rw [List.take_left] at hfill
  rw [List.drop_left] at hleft
  exact ⟨events', by simp [Source.read, hfill], hleft⟩

theorem Flows.readRest (atEnd : SourceEnd) (h : Flows (first ++ rest) after events) :
    ∃ events', Source.readRest first.length sent ⟨events, atEnd⟩ = (.ok first, ⟨events', atEnd⟩) ∧
      Flows rest after events' := by
  obtain ⟨events', hread, hleft⟩ := h.read sent atEnd
  exact ⟨events', readRest_of_ok.mpr hread, hleft⟩

variable {expected : Nat}

/-- A read that has taken something and stops loses its part. -/
theorem Flows.read_stopped (h : Flows bytes after events) (hstop : StopsAt atEnd after stop left)
    (hbreaks : stop.Breaks) (hlt : bytes.length < expected) (hne : bytes ≠ []) :
    Source.read expected sent ⟨events, atEnd⟩ =
      (.error (stop.loss expected bytes.length), ⟨left, atEnd⟩) := by
  have hlength : bytes.length ≠ 0 := by simpa using hne
  unfold Source.read
  rw [h.fill_beyond hstop hlt sent]
  cases hbreaks with
  | gone => rfl
  | deadline he => simp [failure, he, hlength, ReadStop.loss]

/-- Inside a frame a read that stops loses its part even if it has taken nothing. -/
theorem Flows.readRest_stopped (h : Flows bytes after events) (hstop : StopsAt atEnd after stop left)
    (hbreaks : stop.Breaks) (hlt : bytes.length < expected) :
    Source.readRest expected sent ⟨events, atEnd⟩ =
      (.error (stop.loss expected bytes.length), ⟨left, atEnd⟩) := by
  by_cases hne : bytes = []
  · subst hne
    unfold Source.readRest Source.read
    rw [h.fill_beyond hstop hlt sent]
    cases hbreaks with
    | gone => rfl
    | deadline he => simp [failure, TransportError.ofIo, he, ReadStop.loss]
  · have hread := h.read_stopped sent hstop hbreaks hlt hne
    unfold Source.readRest
    rw [hread]
    cases hbreaks with
    | gone => rfl
    | deadline he => rfl

theorem Flows.read_idle (h : Flows [] after events) {e : IoError}
    (hstop : StopsAt atEnd after (.failed e) left) (he : e.kind.isDeadline) (hpos : 0 < expected) :
    Source.read expected sent ⟨events, atEnd⟩ = (.error .timeout, ⟨left, atEnd⟩) := by
  unfold Source.read
  rw [h.fill_beyond hstop hpos sent]
  simp [failure, TransportError.ofIo, he]

theorem Flows.read_gone (h : Flows [] after events) (hstop : StopsAt atEnd after .gone left)
    (hpos : 0 < expected) :
    Source.read expected sent ⟨events, atEnd⟩ = (.error (.connectionClosed expected 0), ⟨left, atEnd⟩) := by
  unfold Source.read
  rw [h.fill_beyond hstop hpos sent]
  rfl

end

theorem Flows.not_starved (h : Flows bytes after events) {sent : Nat}
    (hafter : isStarved ⟨after, atEnd⟩ sent = false) : isStarved ⟨events, atEnd⟩ sent = false := by
  obtain ⟨before, rfl, hflow, -⟩ := h
  cases before with
  | nil => exact hafter
  | cons e before =>
    cases e with
    | await frames => exact (hflow _ List.mem_cons_self).elim
    | _ => rfl

/-! ## Pauses between frames -/

/-- The events deliver these bytes and go on like that. Every deadline on the way comes after a whole number
of frames. -/
inductive Paused (after : List ReadEvent) : Bytes → List ReadEvent → Prop where
  | flowing {bytes : Bytes} {events : List ReadEvent} (h : Flows bytes after events) :
    Paused after bytes events
  | pause (payloads : List Bytes) {bytes : Bytes} {e : IoError} {events rest : List ReadEvent}
    (hframes : ∀ payload ∈ payloads, payload.length ≤ Frame.maxPayload)
    (hflows : Flows (payloads.flatMap Frame.encode) (.failure e :: rest) events)
    (hdeadline : e.kind.isDeadline) (hrest : Paused after bytes rest) :
    Paused after (payloads.flatMap Frame.encode ++ bytes) events

theorem Paused.not_starved (h : Paused after bytes events) {sent : Nat}
    (hafter : isStarved ⟨after, atEnd⟩ sent = false) : isStarved ⟨events, atEnd⟩ sent = false := by
  cases h with
  | flowing h => exact h.not_starved hafter
  | pause _ _ hflows _ _ => exact hflows.not_starved rfl

/-- At the end of a frame comes a pause, or the next frame flows whole. -/
theorem Paused.frame {payload rest : Bytes} (h : Paused after (Frame.encode payload ++ rest) events)
    (hp : payload.length ≤ Frame.maxPayload) :
    (∃ e next, e.kind.isDeadline ∧ Flows [] (.failure e :: next) events ∧
      Paused after (Frame.encode payload ++ rest) next) ∨
    ∃ more after', Flows (Frame.encode payload ++ more) after' events ∧
      ∀ events', Flows more after' events' → Paused after rest events' := by
  generalize hbytes : Frame.encode payload ++ rest = bytes at h
  cases h with
  | flowing h =>
    subst hbytes
    exact Or.inr ⟨rest, after, h, fun events' h' => .flowing h'⟩
  | @pause payloads bytes e _ next hframes hflows hdeadline hrest =>
    cases payloads with
    | nil =>
      subst hbytes
      exact Or.inl ⟨e, next, hdeadline, hflows, hrest⟩
    | cons first payloads =>
      rw [List.flatMap_cons, List.append_assoc] at hbytes
      obtain ⟨rfl, rfl⟩ := Frame.encode_append_inj hp (hframes _ List.mem_cons_self) hbytes
      refine Or.inr ⟨payloads.flatMap Frame.encode, .failure e :: next, hflows, ?_⟩
      intro events' h'
      exact .pause payloads (fun q hq => hframes q (List.mem_cons_of_mem _ hq)) h' hdeadline hrest

/-- Where less than a frame is to come, a pause comes first, or that part flows. -/
theorem Paused.part {part : Bytes} (h : Paused after part events) (hpart : Frame.Beginning part) :
    (∃ e next, e.kind.isDeadline ∧ Flows [] (.failure e :: next) events ∧ Paused after part next) ∨
    Flows part after events := by
  cases h with
  | flowing h => exact Or.inr h
  | @pause payloads bytes e _ next hframes hflows hdeadline hrest =>
    cases payloads with
    | nil => exact Or.inl ⟨e, next, hdeadline, hflows, hrest⟩
    | cons first payloads =>
      rw [List.flatMap_cons, List.append_assoc] at hpart
      exact absurd hpart (Frame.not_beginning_encode (hframes _ List.mem_cons_self))

end Source
end CardLink
