import CardLink.Proofs.Wire.Frames

/-!
# Which announcement stands

A codec keeps the length of a data frame from its announcement until the payload was read. What it keeps is read
off the history of its calls: the last announcement made, unless a payload was taken since. The command read last
may be a later one, since a control frame and a failed read leave an earlier announcement standing.
-/

namespace CardLink

namespace Source

theorem readRest_ne_noPending {expected sent : Nat} {s : Source} :
    (s.readRest expected sent).1 ≠ .error .noPendingFrame := by
  unfold readRest read
  rcases fill sent s.atEnd expected s.events with ⟨bytes, stop, events⟩
  cases stop with
  | none => simp
  | some stop =>
    cases stop with
    | gone => simp [failure]
    | silent => by_cases h : bytes = [] <;> simp [failure, h]
    | failed e =>
      by_cases h : e.kind.isDeadline = true <;> by_cases hb : bytes = [] <;>
        simp [failure, TransportError.ofIo, h, hb]

end Source

namespace Codec

/-- A call and its result. -/
abbrev Event := Request × Except TransportError Result

/-- The calls with their results, in order. -/
def history (c : Codec) (requests : List Request) : List Event := requests.zip (c.run requests).1

def announcement (length : Nat) : Event := (.readCommand, .ok (.incoming (.data length)))

def Announces (e : Event) : Prop := ∃ length, e = announcement length

/-- A payload was read. -/
def Takes (e : Event) : Prop := ∃ r, e = (.readData, .ok r)

/-- The event neither announces nor takes anything. -/
def Idle (e : Event) : Prop := ¬ Announces e ∧ ¬ Takes e

/-- That length was announced, and what came after is like that. -/
def Announced (Since : List Event → Prop) (length : Nat) (h : List Event) : Prop :=
  ∃ before after, h = before ++ announcement length :: after ∧ Since after

/-- The length was announced last, and no payload was read since. -/
def Standing : Nat → List Event → Prop :=
  Announced fun after => ∀ e ∈ after, Idle e

/-- The length was announced by the last call that read a command, and no payload was read since. -/
def Latest : Nat → List Event → Prop :=
  Announced fun after => ∀ e ∈ after, e.1 ≠ .readCommand ∧ ¬ Takes e

/-- An announcement stands, though a command was read after it. -/
def Overtaken (h : List Event) : Prop :=
  ∃ length, Announced (fun after => (∀ e ∈ after, Idle e) ∧ ∃ e ∈ after, e.1 = .readCommand) length h

/-! ## Announcements in a history -/

variable {Since : List Event → Prop} {length : Nat} {e : Event} {h : List Event}

theorem history_cons (c : Codec) (request : Request) (requests : List Request) :
    c.history (request :: requests) =
      (request, (c.perform request).1) :: (c.perform request).2.history requests := rfl

theorem run_append (first rest : List Request) (c : Codec) :
    (c.run (first ++ rest)).2 = ((c.run first).2.run rest).2 := by
  induction first generalizing c with
  | nil => rfl
  | cons request first ih => exact ih (c.perform request).2

theorem history_append (first rest : List Request) (c : Codec) :
    c.history (first ++ rest) = c.history first ++ (c.run first).2.history rest := by
  induction first generalizing c with
  | nil => rfl
  | cons request first ih =>
    rw [List.cons_append, history_cons, history_cons, ih]
    rfl

theorem announced_nil : ¬ Announced Since length [] := by
  rintro ⟨before, after, heq, -⟩
  simp at heq

theorem announced_cons :
    Announced Since length (e :: h) ↔ (e = announcement length ∧ Since h) ∨ Announced Since length h := by
  constructor
  · rintro ⟨before, after, heq, hsince⟩
    cases before with
    | nil =>
      cases heq
      exact Or.inl ⟨rfl, hsince⟩
    | cons first before =>
      cases heq
      exact Or.inr ⟨before, after, rfl, hsince⟩
  · rintro (⟨rfl, hsince⟩ | ⟨before, after, rfl, hsince⟩)
    · exact ⟨[], h, rfl, hsince⟩
    · exact ⟨e :: before, after, rfl, hsince⟩

theorem Announced.mem (ha : Announced Since length h) : announcement length ∈ h := by
  obtain ⟨before, after, rfl, -⟩ := ha
  simp

theorem announcement_inj {n m : Nat} : announcement n = announcement m ↔ n = m := by
  simp [announcement]

theorem announcement_announces (n : Nat) : Announces (announcement n) := ⟨n, rfl⟩

theorem Announces.readsCommand (he : Announces e) : e.1 = .readCommand := by
  obtain ⟨n, rfl⟩ := he
  rfl

theorem not_announces (hne : e.1 ≠ .readCommand) : ¬ Announces e := fun he => hne he.readsCommand

theorem not_takes (hne : e.1 ≠ .readData) : ¬ Takes e := by
  rintro ⟨r, rfl⟩
  exact hne rfl

theorem Takes.not_announces (he : Takes e) : ¬ Announces e := by
  obtain ⟨r, rfl⟩ := he
  rintro ⟨n, heq⟩
  cases heq

theorem Latest.standing (hl : Latest length h) : Standing length h := by
  obtain ⟨before, after, rfl, hsince⟩ := hl
  refine ⟨before, after, rfl, ?_⟩
  intro e he
  exact ⟨fun ha => (hsince e he).1 ha.readsCommand, (hsince e he).2⟩

theorem Standing.latest_or_overtaken (hs : Standing length h) : Latest length h ∨ Overtaken h := by
  obtain ⟨before, after, rfl, hidle⟩ := hs
  by_cases hread : ∃ e ∈ after, e.1 = .readCommand
  · exact Or.inr ⟨length, before, after, rfl, hidle, hread⟩
  · refine Or.inl ⟨before, after, rfl, ?_⟩
    intro e he
    exact ⟨fun hcommand => hread ⟨e, he, hcommand⟩, (hidle e he).2⟩

/-- The last call that read a command has either made the standing announcement or overtaken it. -/
theorem Latest.not_overtaken (hl : Latest length h) : ¬ Overtaken h := by
  rintro ⟨m, hover⟩
  induction h with
  | nil => exact announced_nil hl
  | cons e h ih =>
    rcases announced_cons.mp hl with ⟨rfl, hlater⟩ | hl'
    · rcases announced_cons.mp hover with ⟨-, -, e', he', hread⟩ | hover'
      · exact (hlater e' he').1 hread
      · exact (hlater _ hover'.mem).1 (announcement_announces m).readsCommand
    · rcases announced_cons.mp hover with ⟨-, hidle, -⟩ | hover'
      · exact (hidle _ hl'.mem).1 (announcement_announces length)
      · exact ih hl' hover'

/-! ## What the codec keeps -/

theorem readCommand_pending (c : Codec) :
    (∃ n, c.readCommand.1 = .ok (.data n) ∧ c.readCommand.2.pending = some n) ∨
      ((∀ n, c.readCommand.1 ≠ .ok (.data n)) ∧ c.readCommand.2.pending = c.pending) := by
  unfold readCommand read readRest
  rcases c.source.read Frame.headerSize c.sent with ⟨e | header, source⟩
  · exact Or.inr ⟨by simp, rfl⟩
  · by_cases hone : Frame.headerLength header = 1
    · simp only [hone, if_pos]
      rcases source.readRest 1 c.sent with ⟨e | code, source'⟩
      · exact Or.inr ⟨by simp, rfl⟩
      · exact Or.inr ⟨by simp, rfl⟩
    · simp only [hone, if_false]
      exact Or.inl ⟨_, rfl, rfl⟩

theorem readData_none {c : Codec} (hp : c.pending = none) : c.readData = (.error .noPendingFrame, c) := by
  rw [readData, hp]

theorem readData_some {c : Codec} {n : Nat} (hp : c.pending = some n) :
    c.readData = match c.source.readRest n c.sent with
      | (.error e, source) => (.error e, { c with source })
      | (.ok payload, source) => (.ok payload, { c with source, pending := none }) := by
  simp only [readData, readRest, hp]
  rcases c.source.readRest n c.sent with ⟨e | payload, source⟩
  · rw [← hp]
  · rfl

theorem readData_pending (c : Codec) :
    c.readData.2.pending = if c.readData.1.toBool then none else c.pending := by
  rcases hp : c.pending with _ | n
  · simp [readData_none hp, Except.toBool, hp]
  · rw [readData_some hp]
    rcases c.source.readRest n c.sent with ⟨e | payload, source⟩
    · exact hp
    · rfl

theorem readResponse_pending (c : Codec) : c.readResponse.2.pending = c.pending := by
  obtain ⟨source, hr⟩ := readResponse_source c
  rw [hr]

theorem writeFrame_pending (frame : Bytes) (c : Codec) : (c.writeFrame frame).2.pending = c.pending := by
  unfold writeFrame
  rcases c.sink.write frame with ⟨e | done, sink⟩
  · rfl
  · rcases hf : sink.flush with ⟨e | done, sink'⟩ <;> simp only [hf]

theorem writeData_pending (payload : Bytes) (c : Codec) : (c.writeData payload).2.pending = c.pending := by
  unfold writeData
  split
  · rfl
  · exact writeFrame_pending _ c

/-- A call announces a length and the codec keeps it, or takes a payload and the codec keeps nothing, or changes
nothing about what is kept. -/
theorem perform_pending (request : Request) (c : Codec) :
    (∃ n, (request, (c.perform request).1) = announcement n ∧ (c.perform request).2.pending = some n) ∨
      (Takes (request, (c.perform request).1) ∧ (c.perform request).2.pending = none) ∨
      (Idle (request, (c.perform request).1) ∧ (c.perform request).2.pending = c.pending) := by
  cases request with
  | readCommand =>
    rcases readCommand_pending c with ⟨n, hr, hp⟩ | ⟨hr, hp⟩
    · exact Or.inl ⟨n, by simp [perform, hr, Except.map, announcement], hp⟩
    · refine Or.inr (Or.inr ⟨⟨?_, not_takes (by simp)⟩, hp⟩)
      rintro ⟨n, heq⟩
      simp only [perform, announcement, Prod.mk.injEq, true_and] at heq
      rcases hc : c.readCommand.1 with e | i
      · simp [hc, Except.map] at heq
      · simp only [hc, Except.map, Except.ok.injEq, Result.incoming.injEq] at heq
        exact hr n (heq ▸ hc)
  | readData =>
    have hp := readData_pending c
    rcases hr : c.readData.1 with e | payload
    · rw [hr] at hp
      refine Or.inr (Or.inr ⟨⟨not_announces (by simp), ?_⟩, hp⟩)
      rintro ⟨r, heq⟩
      simp [perform, hr, Except.map] at heq
    · rw [hr] at hp
      exact Or.inr (Or.inl ⟨⟨.bytes payload, by simp [perform, hr, Except.map]⟩, hp⟩)
  | readResponse =>
    exact Or.inr (Or.inr ⟨⟨not_announces (by simp), not_takes (by simp)⟩, readResponse_pending c⟩)
  | writeCommand code =>
    exact Or.inr (Or.inr ⟨⟨not_announces (by simp), not_takes (by simp)⟩, writeFrame_pending _ c⟩)
  | writeData payload =>
    exact Or.inr (Or.inr ⟨⟨not_announces (by simp), not_takes (by simp)⟩, writeData_pending payload c⟩)

/-- What the codec keeps after calls: the announcement that stands, or what it kept before if nothing happened to
that. -/
theorem run_pending (requests : List Request) (c : Codec) (n : Nat) :
    (c.run requests).2.pending = some n ↔
      Standing n (c.history requests) ∨ (c.pending = some n ∧ ∀ e ∈ c.history requests, Idle e) := by
  induction requests generalizing c with
  | nil =>
    have hnil : ¬ Standing n [] := announced_nil
    simp [run, history, hnil]
  | cons request requests ih =>
    have hrun : (c.run (request :: requests)).2 = ((c.perform request).2.run requests).2 := rfl
    rw [hrun, ih, history_cons]
    unfold Standing
    rw [announced_cons, List.forall_mem_cons]
    rcases perform_pending request c with ⟨m, hm, hp⟩ | ⟨htakes, hp⟩ | ⟨hidle, hp⟩
    · rw [hm, hp, announcement_inj, Option.some.injEq]
      have hnot : ¬ Idle (announcement m) := fun hi => hi.1 (announcement_announces m)
      simp [hnot, or_comm]
    · rw [hp]
      have hnot : ¬ Idle (request, (c.perform request).1) := fun hi => hi.2 htakes
      have hne : (request, (c.perform request).1) ≠ announcement n :=
        fun heq => htakes.not_announces ⟨n, heq⟩
      simp [hnot, hne]
    · rw [hp]
      have hne : (request, (c.perform request).1) ≠ announcement n := fun heq => hidle.1 ⟨n, heq⟩
      simp [hne, hidle]

theorem run_pending_fresh {c : Codec} (hfresh : c.pending = none) (requests : List Request) (n : Nat) :
    (c.run requests).2.pending = some n ↔ Standing n (c.history requests) := by
  rw [run_pending, hfresh]
  simp

/-- What is kept is the announcement of the last command read, except where an announcement was overtaken. -/
theorem pending_latest_iff {c : Codec} (hfresh : c.pending = none) (requests : List Request) :
    (∀ n, (c.run requests).2.pending = some n ↔ Latest n (c.history requests)) ↔
      ¬ Overtaken (c.history requests) := by
  constructor
  · rintro hlatest ⟨n, before, after, heq, hidle, hread⟩
    have hstanding : Standing n (c.history requests) := ⟨before, after, heq, hidle⟩
    have hl := (hlatest n).mp ((run_pending_fresh hfresh requests n).mpr hstanding)
    exact hl.not_overtaken ⟨n, before, after, heq, hidle, hread⟩
  · intro hover n
    rw [run_pending_fresh hfresh]
    exact ⟨fun hs => hs.latest_or_overtaken.resolve_right hover, Latest.standing⟩

/-- Reading a payload reads what the standing announcement says, and nothing where none stands. -/
theorem readData_standing {c : Codec} (hfresh : c.pending = none) (requests : List Request) :
    let c' := (c.run requests).2
    (∀ n, Standing n (c.history requests) →
      c'.readData.1 = (c'.source.readRest n c'.sent).1 ∧
      c'.readData.2.source = (c'.source.readRest n c'.sent).2) ∧
    (c'.readData = (.error .noPendingFrame, c') ↔ ∀ n, ¬ Standing n (c.history requests)) := by
  intro c'
  have hpending : ∀ n, c'.pending = some n ↔ Standing n (c.history requests) :=
    run_pending_fresh hfresh requests
  have hreads : ∀ n, c'.pending = some n →
      c'.readData.1 = (c'.source.readRest n c'.sent).1 ∧
      c'.readData.2.source = (c'.source.readRest n c'.sent).2 := by
    intro n hp
    rw [readData_some hp]
    rcases c'.source.readRest n c'.sent with ⟨e | payload, source⟩ <;> exact ⟨rfl, rfl⟩
  refine ⟨fun n hs => hreads n ((hpending n).mpr hs), ?_, ?_⟩
  · intro hrefused n hs
    have hread := (hreads n ((hpending n).mpr hs)).1
    rw [hrefused] at hread
    exact Source.readRest_ne_noPending hread.symm
  · intro hnone
    apply readData_none
    apply Option.eq_none_iff_forall_ne_some.mpr
    exact fun n hp => hnone n ((hpending n).mp hp)

/-- A codec that starts with nothing announced keeps exactly the announcement that stands. That is the announcement
of the last command read unless it was overtaken. Its payload, and no other, is what a payload is read for. -/
theorem pending_tracks_announcements {c : Codec} (hfresh : c.pending = none) (requests : List Request) :
    let c' := (c.run requests).2
    let h := c.history requests
    (∀ n, c'.pending = some n ↔ Standing n h) ∧
    ((∀ n, c'.pending = some n ↔ Latest n h) ↔ ¬ Overtaken h) ∧
    (∀ n, Standing n h →
      c'.readData.1 = (c'.source.readRest n c'.sent).1 ∧
      c'.readData.2.source = (c'.source.readRest n c'.sent).2) ∧
    (c'.readData = (.error .noPendingFrame, c') ↔ ∀ n, ¬ Standing n h) :=
  ⟨run_pending_fresh hfresh requests, pending_latest_iff hfresh requests, readData_standing hfresh requests⟩

/-- A data frame of two bytes is announced and the card resets before its payload is read. -/
theorem pending_tracks_announcements_reset :
    let c : Codec := { source := { events := [.chunk [0, 2, 0x6A, 0x82]] } }
    (c.run [.readCommand, .writeCommand .reset]).2.pending = some 2 ∧
      Standing 2 (c.history [.readCommand, .writeCommand .reset]) := by
  intro c
  have hp : (c.run [.readCommand, .writeCommand .reset]).2.pending = some 2 := by decide
  exact ⟨hp, ((pending_tracks_announcements rfl _).1 2).mp hp⟩

/-- A control frame read after an announcement leaves it standing: the next payload is read from whatever follows. -/
theorem overtaken_announcement_stays :
    let c : Codec := { source := { events := [.chunk [0, 3, 0, 1, 4, 0xAA, 0xBB, 0xCC]] } }
    let requests : List Request := [.readCommand, .readCommand]
    (c.run requests).1 = [.ok (.incoming (.data 3)), .ok (.incoming (.control .getAtr))] ∧
      (∀ n, ¬ Latest n (c.history requests)) ∧
      (c.run requests).2.pending = some 3 ∧
      (c.run requests).2.readData.1 = .ok [0xAA, 0xBB, 0xCC] := by
  intro c requests
  have hhistory : c.history requests =
      [] ++ announcement 3 :: [(.readCommand, .ok (.incoming (.control .getAtr)))] := rfl
  have hover : Overtaken (c.history requests) := by
    refine ⟨3, [], _, hhistory, ?_, ?_⟩
    · intro e he
      obtain rfl := List.mem_singleton.mp he
      refine ⟨?_, not_takes (by decide)⟩
      rintro ⟨n, heq⟩
      simp [announcement] at heq
    · exact ⟨_, List.mem_singleton_self _, rfl⟩
  exact ⟨rfl, fun n hl => hl.not_overtaken hover, rfl, rfl⟩

end Codec
end CardLink
