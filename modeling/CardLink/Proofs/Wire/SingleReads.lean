import CardLink.Proofs.Wire.Timeouts

/-!
# Single reads

A buffer is filled by one read after the other. A read gives some bytes, or it fails, or it says that the peer is
gone; only an interruption is followed by another read for the same bytes. Each read that is not the last takes at
least a byte or an event from the script, so the script bounds the number of reads, and no length that was asked
for does.
-/

namespace CardLink

namespace Source

variable {sent need : Nat} {atEnd : SourceEnd} {events rest : List ReadEvent}

/-! ## What is left -/

theorem scriptSize_eq (events : List ReadEvent) :
    scriptSize events = (events.flatMap ReadEvent.bytes).length + events.length := by
  induction events with
  | nil => rfl
  | cons event events ih =>
    rw [scriptSize_cons, ih, List.flatMap_cons, List.length_append, List.length_cons]
    cases event with
    | chunk bytes =>
      simp only [ReadEvent.size, ReadEvent.bytes]
      omega
    | failure e =>
      simp only [ReadEvent.size, ReadEvent.bytes, List.length_nil]
      omega
    | await frames =>
      simp only [ReadEvent.size, ReadEvent.bytes, List.length_nil]
      omega

/-- The second source is what is left of the first: bytes and events were taken from its front and none added, and
it is at least one byte or one event shorter. -/
structure Consumes (s s' : Source) : Prop where
  bytes : s'.undelivered <:+ s.undelivered
  events : s'.events.length ≤ s.events.length
  shorter : s'.undelivered.length < s.undelivered.length ∨ s'.events.length < s.events.length

theorem consumes_of_size {s s' : Source} (hbytes : s'.undelivered <:+ s.undelivered)
    (hevents : s'.events.length ≤ s.events.length) (hsize : s'.size < s.size) : Consumes s s' := by
  refine ⟨hbytes, hevents, ?_⟩
  unfold size at hsize
  rw [scriptSize_eq, scriptSize_eq] at hsize
  unfold undelivered
  omega

theorem fill_events_le (sent : Nat) (atEnd : SourceEnd) (need : Nat) (events : List ReadEvent) :
    (fill sent atEnd need events).2.2.length ≤ events.length := by
  fun_induction fill sent atEnd need events with
  | case1 => exact Nat.le_refl _
  | case2 => exact Nat.le_refl _
  | case3 => exact Nat.le_succ _
  | case4 need bytes rest _ _ more stop rest' heq ih =>
    rw [heq] at ih
    exact Nat.le_succ_of_le ih
  | case5 => simp
  | case6 need e rest _ ih => exact Nat.le_succ_of_le ih
  | case7 => exact Nat.le_succ _
  | case8 need frames rest _ ih => exact Nat.le_succ_of_le ih
  | case9 => exact Nat.le_refl _

theorem read_events_le (expected sent : Nat) (s : Source) :
    (s.read expected sent).2.events.length ≤ s.events.length := by
  have hle := fill_events_le sent s.atEnd expected s.events
  unfold read
  split
  · next heq => rwa [heq] at hle
  · next heq => rwa [heq] at hle

/-! ## One read -/

/-- What one read gives that wants at most so many bytes, and what is left. A read without bytes says that the peer
is gone. -/
def readOnce (sent : Nat) (atEnd : SourceEnd) (most : Nat) : List ReadEvent → Except ReadStop Bytes × List ReadEvent
  | [] => (.error atEnd.stop, [])
  | .chunk bytes :: rest =>
    if bytes = [] then (.error .gone, rest)
    else if bytes.length ≤ most then (.ok bytes, rest)
    else (.ok (bytes.take most), .chunk (bytes.drop most) :: rest)
  | .failure e :: rest => (.error (.failed e), rest)
  | .await frames :: rest =>
    if frames ≤ sent then readOnce sent atEnd most rest else (.error .silent, .await frames :: rest)

/-- A read has taken its bytes off the front, at least one and not more than were wanted, or it has used up the
event that it failed with. -/
structure Took (most : Nat) (events : List ReadEvent) (o : Except ReadStop Bytes × List ReadEvent) : Prop where
  bytes : events.flatMap ReadEvent.bytes = o.1.toOption.getD [] ++ o.2.flatMap ReadEvent.bytes
  length : o.2.length ≤ events.length
  some : ∀ bytes, o.1 = .ok bytes → 0 < bytes.length ∧ bytes.length ≤ most
  failed : ∀ e, o.1 = .error (.failed e) → o.2.length < events.length

theorem readOnce_took (sent : Nat) (atEnd : SourceEnd) (most : Nat) (hmost : 0 < most) (events : List ReadEvent) :
    Took most events (readOnce sent atEnd most events) := by
  fun_induction readOnce sent atEnd most events with
  | case1 =>
    refine ⟨rfl, Nat.le_refl 0, by simp, ?_⟩
    cases atEnd <;> simp [SourceEnd.stop]
  | case2 rest => exact ⟨rfl, by simp, by simp, by simp⟩
  | case3 bytes rest hne hle =>
    refine ⟨rfl, by simp, ?_, by simp⟩
    intro bytes' h
    cases h
    exact ⟨List.length_pos_iff.mpr hne, hle⟩
  | case4 bytes rest hne hlong =>
    refine ⟨?_, by simp, ?_, by simp⟩
    · simp only [List.flatMap_cons, ReadEvent.bytes, Except.toOption, Option.getD_some]
      rw [← List.append_assoc, List.take_append_drop]
    · intro bytes' h
      cases h
      rw [List.length_take]
      omega
  | case5 e rest => exact ⟨rfl, by simp, by simp, by simp⟩
  | case6 frames rest hle ih =>
    refine ⟨ih.bytes, ?_, ih.some, ?_⟩
    · have hlength := ih.length
      rw [List.length_cons]
      omega
    · intro e h
      have hlength := ih.failed e h
      rw [List.length_cons]
      omega
  | case7 frames rest hlt => exact ⟨rfl, Nat.le_refl _, by simp, by simp⟩

theorem Took.size_lt {most : Nat} {bytes : Bytes} (h : Took most events (.ok bytes, rest)) :
    scriptSize rest < scriptSize events := by
  have hbytes := congrArg List.length h.bytes
  have hpos := (h.some bytes rfl).1
  have hlength := h.length
  simp only [Except.toOption, Option.getD_some, List.length_append] at hbytes hlength
  rw [scriptSize_eq, scriptSize_eq]
  omega

theorem Took.failed_size_lt {most : Nat} {e : IoError} (h : Took most events (.error (.failed e), rest)) :
    scriptSize rest < scriptSize events := by
  have hbytes := congrArg List.length h.bytes
  have hlength := h.failed e rfl
  simp only [Except.toOption, Option.getD_none, List.nil_append] at hbytes hlength
  rw [scriptSize_eq, scriptSize_eq]
  omega

/-- A read without bytes has used up an event, where the script does not wait and is not at its end. -/
theorem readOnce_stopped {most : Nat} {stop : ReadStop} (hevents : ∀ frames, .await frames ∉ events)
    (hne : events ≠ []) (h : readOnce sent atEnd most events = (.error stop, rest)) :
    rest.length < events.length := by
  obtain ⟨event, events', rfl⟩ := List.exists_cons_of_ne_nil hne
  cases event with
  | chunk bytes =>
    simp only [readOnce] at h
    split at h
    · cases h
      exact Nat.lt_succ_self _
    · split at h
      · cases h
      · cases h
  | failure e =>
    cases h
    exact Nat.lt_succ_self _
  | await frames => exact absurd List.mem_cons_self (hevents frames)

/-- A read at the end of an unprompted script says that the peer is gone. Any other takes something. -/
theorem Unprompted.readOnce_consumes {s : Source} (h : s.Unprompted) {most : Nat} (hmost : 0 < most) (sent : Nat) :
    s.events = [] ∧ (readOnce sent s.atEnd most s.events).1 = .error .gone ∨
      Consumes s { s with events := (readOnce sent s.atEnd most s.events).2 } := by
  by_cases hnil : s.events = []
  · refine Or.inl ⟨hnil, ?_⟩
    rw [hnil, h.ends]
    rfl
  · have htook := readOnce_took sent s.atEnd most hmost s.events
    have hbytes : (readOnce sent s.atEnd most s.events).2.flatMap ReadEvent.bytes <:+ s.undelivered :=
      ⟨_, htook.bytes.symm⟩
    refine Or.inr ⟨hbytes, htook.length, ?_⟩
    rcases hread : readOnce sent s.atEnd most s.events with ⟨stop | bytes, rest⟩
    · exact Or.inr (readOnce_stopped h.events hnil hread)
    · rw [hread] at htook
      have hlength := congrArg List.length htook.bytes
      have hpos := (htook.some bytes rfl).1
      rw [List.length_append] at hlength
      refine Or.inl (Nat.lt_of_lt_of_eq ?_ hlength.symm)
      exact Nat.lt_add_of_pos_left hpos

/-! ## Reading on -/

/-- Reads until the wanted bytes are there, with at most so many reads. -/
def accumulate (sent : Nat) (atEnd : SourceEnd) :
    Nat → Nat → List ReadEvent → Option (Bytes × Option ReadStop × List ReadEvent)
  | _, 0, events => some ([], none, events)
  | 0, _ + 1, _ => none
  | reads + 1, need + 1, events =>
    match readOnce sent atEnd (need + 1) events with
    | (.ok bytes, rest) =>
      (accumulate sent atEnd reads (need + 1 - bytes.length) rest).map fun (more, stop, rest) =>
        (bytes ++ more, stop, rest)
    | (.error (.failed e), rest) =>
      if e.kind = .interrupted then accumulate sent atEnd reads (need + 1) rest
      else some ([], some (.failed e), rest)
    | (.error stop, rest) => some ([], some stop, rest)

/-- Filling is one read and, unless that one ends it, filling with what is left. -/
theorem fill_succ (sent : Nat) (atEnd : SourceEnd) (need : Nat) (events : List ReadEvent) :
    fill sent atEnd (need + 1) events =
      match readOnce sent atEnd (need + 1) events with
      | (.ok bytes, rest) =>
        let (more, stop, rest) := fill sent atEnd (need + 1 - bytes.length) rest
        (bytes ++ more, stop, rest)
      | (.error (.failed e), rest) =>
        if e.kind = .interrupted then fill sent atEnd (need + 1) rest else ([], some (.failed e), rest)
      | (.error stop, rest) => ([], some stop, rest) := by
  induction events with
  | nil => cases atEnd <;> rfl
  | cons event events ih =>
    cases event with
    | chunk bytes =>
      by_cases hnil : bytes = []
      · simp [fill, readOnce, hnil]
      · by_cases hle : bytes.length ≤ need + 1
        · simp [fill, readOnce, hnil, hle]
        · have htake : (bytes.take (need + 1)).length = need + 1 := by
            rw [List.length_take]
            omega
          simp only [fill, readOnce, hnil, hle, if_false, htake, Nat.sub_self, List.append_nil]
    | failure e => rfl
    | await frames =>
      by_cases hle : frames ≤ sent
      · simp only [fill, readOnce, hle, if_true]
        exact ih
      · simp [fill, readOnce, hle]

/-- More reads than there are bytes and events in the script are never made, whatever was wanted. -/
theorem accumulate_eq_fill (sent : Nat) (atEnd : SourceEnd) {reads : Nat} (need : Nat) {events : List ReadEvent}
    (hreads : scriptSize events < reads) :
    accumulate sent atEnd reads need events = some (fill sent atEnd need events) := by
  induction reads generalizing need events with
  | zero => omega
  | succ reads ih =>
    cases need with
    | zero => simp [accumulate, fill]
    | succ need =>
      have htook := readOnce_took sent atEnd (need + 1) (Nat.succ_pos need) events
      rw [fill_succ]
      unfold accumulate
      rcases hread : readOnce sent atEnd (need + 1) events with ⟨stop | bytes, rest⟩
      · rw [hread] at htook
        cases stop with
        | gone => rfl
        | silent => rfl
        | failed e =>
          have hlt := htook.failed_size_lt
          simp only
          by_cases hi : e.kind = .interrupted
          · rw [if_pos hi, if_pos hi]
            exact ih (need + 1) (by omega)
          · rw [if_neg hi, if_neg hi]
      · rw [hread] at htook
        have hlt := htook.size_lt
        simp only
        rw [ih (need + 1 - bytes.length) (by omega)]
        rfl

end Source
end CardLink
