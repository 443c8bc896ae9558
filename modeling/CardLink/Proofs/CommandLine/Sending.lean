import CardLink.CommandLine.Run
import CardLink.Proofs.Connection.FailFast
import CardLink.Proofs.Normalization.Received

/-!
# What a list of commands sends

The commands of a list are transmitted one by one, the whole list as often as it is repeated, until one fails. They
are all read before the first is transmitted. What is printed and what the card is given follow from the attempts
that were made.
-/

namespace CardLink

open CommandLine (Line Failure)

/-! ## Attempts -/

/-- A command that was transmitted, what came of it, and how long that took. -/
structure Attempt where
  command : Command
  outcome : Except ChannelError Response
  elapsed : Nat

namespace Attempt

def Succeeded (a : Attempt) : Prop := ∃ response, a.outcome = .ok response

/-- What is printed of an attempt: the command, and the answer if there is one. -/
def lines (a : Attempt) : List Line :=
  match a.outcome with
  | .ok response => [.sent a.command, .answered response a.elapsed]
  | .error _ => [.sent a.command]

end Attempt

/-- Whether the command is short enough when it is normalized. -/
def NormalizeOptions.admits (o : NormalizeOptions) (c : Command) : Bool := (o.normalize c).checkLengths.isOk

namespace NormalizeOptions

variable {o : NormalizeOptions}

theorem filter_admits_of_succeeded {attempts : List Attempt}
    (hadmitted : ∀ a ∈ attempts, a.Succeeded → o.admits a.command = true) (hall : ∀ a ∈ attempts, a.Succeeded) :
    (attempts.map Attempt.command).filter o.admits = attempts.map Attempt.command := by
  apply List.filter_eq_self.mpr
  intro c hc
  obtain ⟨a, ha, rfl⟩ := List.mem_map.mp hc
  exact hadmitted a ha (hall a ha)

/-- What is short enough in a part of a plan is the whole plan only if the part is, and nothing in it is too long. -/
theorem filter_admits_complete {plan attempted : List Command} (h : attempted <+: plan) :
    (attempted.filter o.admits).map o.normalize = plan.map o.normalize ↔
      attempted = plan ∧ ∀ c ∈ plan, o.admits c = true := by
  constructor
  · intro hall
    have hlength := congrArg List.length hall
    rw [List.length_map, List.length_map] at hlength
    have hfilter := List.length_filter_le o.admits attempted
    obtain rfl : attempted = plan := h.eq_of_length_le (by omega)
    exact ⟨rfl, List.length_filter_eq_length_iff.mp hlength⟩
  · rintro ⟨rfl, hadmits⟩
    rw [List.filter_eq_self.mpr hadmits]

end NormalizeOptions

namespace Normalized

section

variable {W κ : Type} [Host W] [CardChannel W κ]

/-- Transmits the commands in order until one fails. -/
def attemptAll (n : Normalized κ) (w : W) :
    List Command → List Attempt × Except ChannelError Unit × Normalized κ × W
  | [] => ([], .ok (), n, w)
  | c :: rest =>
    match n.transmit c w with
    | (.error e, n, w) => ([⟨c, .error e, n.lastDuration⟩], .error e, n, w)
    | (.ok response, n, w) =>
      let (more, last) := n.attemptAll w rest
      (⟨c, .ok response, n.lastDuration⟩ :: more, last)

/-- The channel beside a record of what it will be given. -/
def recording (n : Normalized κ) : Normalized (Recorded κ) :=
  ⟨⟨n.inner, []⟩, n.options, n.lastCommand, n.lastDuration⟩

theorem attemptAll_failed {n n' : Normalized κ} {w w' : W} {c : Command} {e : ChannelError}
    (h : n.transmit c w = (.error e, n', w')) (rest : List Command) :
    n.attemptAll w (c :: rest) = ([⟨c, .error e, n'.lastDuration⟩], .error e, n', w') := by
  simp only [attemptAll, h]

theorem attemptAll_answered {n n' : Normalized κ} {w w' : W} {c : Command} {response : Response}
    (h : n.transmit c w = (.ok response, n', w')) (rest : List Command) :
    n.attemptAll w (c :: rest) =
      (⟨c, .ok response, n'.lastDuration⟩ :: (n'.attemptAll w' rest).1, (n'.attemptAll w' rest).2) := by
  simp only [attemptAll, h]

/-- More commands are attempted exactly if none failed so far. -/
theorem attemptAll_append (commands more : List Command) (n : Normalized κ) (w : W) :
    n.attemptAll w (commands ++ more) =
      match n.attemptAll w commands with
      | (attempts, .error e, last) => (attempts, .error e, last)
      | (attempts, .ok (), n, w) => (attempts ++ (n.attemptAll w more).1, (n.attemptAll w more).2) := by
  induction commands generalizing n w with
  | nil => rfl
  | cons c rest ih =>
    rcases h : n.transmit c w with ⟨e | response, n', w'⟩
    · rw [List.cons_append, attemptAll_failed h, attemptAll_failed h]
    · rw [List.cons_append, attemptAll_answered h, attemptAll_answered h, ih]
      rcases n'.attemptAll w' rest with ⟨attempts, e | ⟨⟩, last⟩
      · rfl
      · rfl

/-- Every command was attempted, and with success. -/
theorem attemptAll_ok {n n' : Normalized κ} {w w' : W} {commands : List Command} {attempts : List Attempt}
    (h : n.attemptAll w commands = (attempts, .ok (), n', w')) :
    (∀ a ∈ attempts, a.Succeeded) ∧ attempts.map Attempt.command = commands := by
  induction commands generalizing n w attempts with
  | nil =>
    cases h
    exact ⟨by simp, rfl⟩
  | cons c rest ih =>
    rcases htransmit : n.transmit c w with ⟨e | response, n₁, w₁⟩
    · rw [attemptAll_failed htransmit] at h
      cases h
    · rw [attemptAll_answered htransmit] at h
      rcases hrest : n₁.attemptAll w₁ rest with ⟨more, result, n₂, w₂⟩
      rw [hrest] at h
      cases h
      obtain ⟨hsucceeded, hcommands⟩ := ih hrest
      refine ⟨?_, by rw [List.map_cons, hcommands]⟩
      intro a ha
      rcases List.mem_cons.mp ha with rfl | ha
      · exact ⟨response, rfl⟩
      · exact hsucceeded a ha

/-- The attempts end with the first that failed. -/
theorem attemptAll_error {n n' : Normalized κ} {w w' : W} {commands : List Command} {attempts : List Attempt}
    {e : ChannelError} (h : n.attemptAll w commands = (attempts, .error e, n', w')) :
    ∃ before last rest, attempts = before ++ [last] ∧ (∀ a ∈ before, a.Succeeded) ∧ last.outcome = .error e ∧
      commands = before.map Attempt.command ++ last.command :: rest := by
  induction commands generalizing n w attempts with
  | nil => cases h
  | cons c rest ih =>
    rcases htransmit : n.transmit c w with ⟨e' | response, n₁, w₁⟩
    · rw [attemptAll_failed htransmit] at h
      cases h
      exact ⟨[], ⟨c, .error e, n'.lastDuration⟩, rest, rfl, by simp, rfl, rfl⟩
    · rw [attemptAll_answered htransmit] at h
      rcases hrest : n₁.attemptAll w₁ rest with ⟨more, result, n₂, w₂⟩
      rw [hrest] at h
      cases h
      obtain ⟨before, last, left, hmore, hsucceeded, hlast, hplan⟩ := ih hrest
      refine ⟨⟨c, .ok response, n₁.lastDuration⟩ :: before, last, left, ?_, ?_, hlast, ?_⟩
      · rw [hmore, List.cons_append]
      · intro a ha
        rcases List.mem_cons.mp ha with rfl | ha
        · exact ⟨response, rfl⟩
        · exact hsucceeded a ha
      · rw [hplan, List.map_cons, List.cons_append]

end

/-! ## What the card is given -/

variable {W κ : Type} [Host W] [CardChannel W κ]

theorem attemptAll_unrecorded (commands : List Command) (n : Normalized (Recorded κ)) (w : W) :
    n.unrecorded.attemptAll w commands =
      let (attempts, result, n', w') := n.attemptAll w commands
      (attempts, result, n'.unrecorded, w') := by
  induction commands generalizing n w with
  | nil => rfl
  | cons c rest ih =>
    have hsame := transmit_unrecorded c n w
    rcases h : n.transmit c w with ⟨e | response, n', w'⟩
    · rw [h] at hsame
      rw [attemptAll_failed h, attemptAll_failed hsame]
      rfl
    · rw [h] at hsame
      rw [attemptAll_answered h, attemptAll_answered hsame, ih]
      rfl

/-- What succeeded was short enough. -/
theorem admits_of_transmit {n : Normalized κ} {w : W} {c : Command} {response : Response}
    (h : (n.transmit c w).1 = .ok response) : n.options.admits c = true := by
  unfold transmit normalize at h
  unfold NormalizeOptions.admits
  cases hcheck : (n.options.normalize c).checkLengths with
  | ok _ => rfl
  | error e =>
    rw [hcheck] at h
    cases h

/-- The card is given the commands that were attempted and are short enough, normalized. -/
theorem attemptAll_received (commands : List Command) (n : Normalized (Recorded κ)) (w : W) :
    (n.attemptAll w commands).2.2.1.inner.received = n.inner.received ++
      (((n.attemptAll w commands).1.map Attempt.command).filter n.options.admits).map n.normalize := by
  induction commands generalizing n w with
  | nil => simp [attemptAll]
  | cons c rest ih =>
    have hstep := transmit_handsOn c n w
    have hhanded : (((some c).filter fun c => (n.normalize c).checkLengths.isOk).map n.normalize).toList =
        ([c].filter n.options.admits).map n.normalize := by
      cases hadmits : n.options.admits c with
      | true => simp [Option.filter, hadmits, show (n.normalize c).checkLengths.isOk = true from hadmits]
      | false => simp [Option.filter, hadmits, show (n.normalize c).checkLengths.isOk = false from hadmits]
    have hreceived := hstep.received
    have hoptions := hstep.options
    rw [hhanded] at hreceived
    rcases h : n.transmit c w with ⟨e | response, n₁, w₁⟩
    · rw [h] at hreceived
      rw [attemptAll_failed h]
      exact hreceived
    · rw [h] at hreceived hoptions
      have hnormalize : n₁.normalize = n.normalize := by
        funext c
        rw [normalize, normalize, hoptions]
      rw [attemptAll_answered h, ih n₁ w₁, hreceived, hoptions, hnormalize, List.append_assoc, ← List.map_append,
        ← List.filter_append]
      rfl

theorem attemptAll_admitted (commands : List Command) (n : Normalized (Recorded κ)) (w : W) :
    ∀ a ∈ (n.attemptAll w commands).1, a.Succeeded → n.options.admits a.command = true := by
  induction commands generalizing n w with
  | nil => simp [attemptAll]
  | cons c rest ih =>
    have hoptions := (transmit_handsOn c n w).options
    rcases h : n.transmit c w with ⟨e | response, n₁, w₁⟩
    · rw [attemptAll_failed h]
      rintro a ha ⟨response, hresponse⟩
      rw [List.mem_singleton.mp ha] at hresponse
      cases hresponse
    · rw [h] at hoptions
      rw [attemptAll_answered h]
      intro a ha hsucceeded
      rcases List.mem_cons.mp ha with rfl | ha
      · exact admits_of_transmit (congrArg Prod.fst h)
      · rw [← hoptions]
        exact ih n₁ w₁ a ha hsucceeded

end Normalized

/-! ## Arguments -/

namespace CommandLine

theorem parseCommands_ok_iff {apdus : List Bytes} {commands : List Command} :
    parseCommands apdus = .ok commands ↔ apdus.map Command.parse = commands.map .ok := by
  induction apdus generalizing commands with
  | nil => cases commands <;> simp [parseCommands]
  | cons bytes rest ih =>
    cases hparse : Command.parse bytes with
    | error e => cases commands <;> simp [parseCommands, hparse]
    | ok c =>
      have hmap : ∀ result : Except Failure (List Command), result.map (c :: ·) = .ok commands ↔
          ∃ parsed, result = .ok parsed ∧ c :: parsed = commands := by
        intro result
        cases result <;> simp [Except.map]
      simp only [parseCommands, hparse, hmap, ih, List.map_cons]
      cases commands with
      | nil => simp
      | cons c' commands =>
        simp only [List.cons.injEq, List.map_cons, Except.ok.injEq]
        constructor
        · rintro ⟨parsed, hparsed, hhead, rfl⟩
          exact ⟨hhead, hparsed⟩
        · rintro ⟨hhead, hparsed⟩
          exact ⟨commands, hparsed, hhead, rfl⟩

/-- The first argument that is no command is named, whatever follows it. -/
theorem parseCommands_error {apdus : List Bytes} {failure : Failure} (h : parseCommands apdus = .error failure) :
    ∃ before bytes after e, apdus = before ++ bytes :: after ∧ (∀ b ∈ before, ∃ c, Command.parse b = .ok c) ∧
      Command.parse bytes = .error e ∧ failure = ⟨"Invalid APDU " ++ Hex.encode bytes, [e.message]⟩ := by
  induction apdus with
  | nil => cases h
  | cons first rest ih =>
    cases hparse : Command.parse first with
    | error e =>
      simp only [parseCommands, hparse] at h
      cases h
      exact ⟨[], first, rest, e, rfl, by simp, hparse, rfl⟩
    | ok c =>
      simp only [parseCommands, hparse] at h
      cases hrest : parseCommands rest with
      | ok commands =>
        rw [hrest] at h
        cases h
      | error failure' =>
        rw [hrest] at h
        cases h
        obtain ⟨before, bytes, after, e, rfl, hbefore, hbytes, hfailure⟩ := ih hrest
        refine ⟨first :: before, bytes, after, e, rfl, ?_, hbytes, hfailure⟩
        intro b hb
        rcases List.mem_cons.mp hb with rfl | hb
        · exact ⟨c, hparse⟩
        · exact hbefore b hb

theorem parseCommands_unparsed {apdus : List Bytes} {bytes : Bytes} {e : CommandError} (hmem : bytes ∈ apdus)
    (hbytes : Command.parse bytes = .error e) : ∃ failure, parseCommands apdus = .error failure := by
  cases hparsed : parseCommands apdus with
  | error failure => exact ⟨failure, rfl⟩
  | ok commands =>
    have hmap : .error e ∈ commands.map Except.ok := by
      rw [← parseCommands_ok_iff.mp hparsed, ← hbytes]
      exact List.mem_map_of_mem hmem
    obtain ⟨c, -, hc⟩ := List.mem_map.mp hmap
    cases hc

theorem parseCommands_parsed {apdus : List Bytes} (h : ∀ bytes ∈ apdus, ∃ c, Command.parse bytes = .ok c) :
    ∃ commands, parseCommands apdus = .ok commands := by
  cases hparsed : parseCommands apdus with
  | ok commands => exact ⟨commands, rfl⟩
  | error failure =>
    obtain ⟨before, bytes, after, e, rfl, -, hbytes, -⟩ := parseCommands_error hparsed
    obtain ⟨c, hc⟩ := h bytes (List.mem_append_right _ List.mem_cons_self)
    rw [hc] at hbytes
    cases hbytes

/-! ## Rounds -/

def Line.isExchange : Line → Bool
  | .sent _ | .answered _ _ => true
  | _ => false

variable {W κ ς : Type}

/-- What the program makes of attempts over the channel of its manager. -/
def reported (m : Manager W κ ς) (o : List Attempt × Except ChannelError Unit × Normalized (Backend κ) × W) :
    Printed W κ ς :=
  let (attempts, result, n, w) := o
  (attempts.flatMap Attempt.lines, result.mapError fun e => .ofConnection (.card e),
    { m with channel := some n, state := m.state.after result }, w)

theorem filter_isExchange_lines (attempts : List Attempt) :
    (attempts.flatMap Attempt.lines).filter Line.isExchange = attempts.flatMap Attempt.lines := by
  apply List.filter_eq_self.mpr
  intro line hline
  obtain ⟨a, -, ha⟩ := List.mem_flatMap.mp hline
  unfold Attempt.lines at ha
  split at ha
  · rcases List.mem_cons.mp ha with rfl | ha
    · rfl
    · rw [List.mem_singleton.mp ha]
      rfl
  · rw [List.mem_singleton.mp ha]
    rfl

variable [CardChannel W κ] [VirtualCard.Network W] [Host W] {m : Manager W κ ς}
  {n : Normalized (Backend κ)}

theorem sendAll_eq (hstate : m.state = .connected) (hch : m.channel = some n) (commands : List Command) (w : W) :
    sendAll m w commands = reported m (n.attemptAll w commands) := by
  induction commands generalizing m n w with
  | nil =>
    have hsame : { m with channel := some n, state := m.state } = m := by rw [← hch]
    simp only [sendAll, Normalized.attemptAll, reported, ConnectionState.after, hsame]
    rfl
  | cons c rest ih =>
    have htransmit : m.transmit c w = _ := (if_pos hstate).trans (Manager.send_some hch c w)
    rcases h : n.transmit c w with ⟨e | response, n', w'⟩
    · have hfailed : m.transmit c w =
          (.error (.card e), { m with channel := some n', state := .failed }, w') := by
        rw [htransmit, show CardChannel.transmit c n w = n.transmit c w from rfl, h]
        rfl
      rw [Normalized.attemptAll_failed h]
      simp only [sendAll, hfailed]
      rfl
    · have hanswered : m.transmit c w = (.ok response, { m with channel := some n' }, w') := by
        rw [htransmit, show CardChannel.transmit c n w = n.transmit c w from rfl, h]
        rfl
      have hrest := ih (m := { m with channel := some n' }) hstate rfl w'
      rw [Normalized.attemptAll_answered h]
      simp only [sendAll, hanswered, hrest]
      rfl

/-- All rounds together attempt the list as often as there are rounds; between the attempts are only the heads of
the rounds. -/
theorem sendRounds_eq (hstate : m.state = .connected) (hch : m.channel = some n) (commands : List Command)
    (headed : Bool) (done left : Nat) (w : W) :
    let o := reported m (n.attemptAll w (List.replicate left commands).flatten)
    (sendRounds commands headed done m w left).1.filter Line.isExchange = o.1 ∧
      (sendRounds commands headed done m w left).2 = o.2 := by
  induction left generalizing m n w done with
  | zero =>
    have hsame : { m with channel := some n, state := m.state } = m := by rw [← hch]
    simp only [sendRounds, List.replicate_zero, List.flatten_nil, Normalized.attemptAll, reported,
      ConnectionState.after, hsame]
    exact ⟨rfl, rfl⟩
  | succ left ih =>
    have hall := sendAll_eq hstate hch commands w
    have hhead : (if headed then [Line.round (done + 1)] else []).filter Line.isExchange = [] := by
      cases headed <;> rfl
    rw [List.replicate_succ, List.flatten_cons, Normalized.attemptAll_append]
    rcases h : n.attemptAll w commands with ⟨attempts, e | ⟨⟩, n', w'⟩
    · rw [h] at hall
      simp only [sendRounds, hall]
      refine ⟨?_, rfl⟩
      show (_ ++ attempts.flatMap Attempt.lines).filter Line.isExchange = attempts.flatMap Attempt.lines
      rw [List.filter_append, hhead, filter_isExchange_lines, List.nil_append]
    · rw [h] at hall
      obtain ⟨hlines, hrest⟩ := ih (m := { m with channel := some n' }) hstate rfl (done + 1) w'
      simp only [sendRounds, hall]
      refine ⟨?_, hrest⟩
      show (_ ++ attempts.flatMap Attempt.lines ++ _).filter Line.isExchange = (attempts ++ _).flatMap Attempt.lines
      rw [List.filter_append, List.filter_append, hhead, filter_isExchange_lines, List.nil_append,
        List.flatMap_append]
      exact congrArg _ hlines

/-! ## Sending -/

/-- The attempts at a plan and what the card received: all of it, or all up to the first attempt that failed. The
command of that attempt was received if it is short enough. -/
def Followed (o : NormalizeOptions) (plan : List Command) (attempts : List Attempt) (received : List Command) :
    Except Failure Unit → Prop
  | .ok () =>
    (∀ a ∈ attempts, a.Succeeded) ∧ attempts.map Attempt.command = plan ∧ received = plan.map o.normalize
  | .error failure =>
    ∃ before last rest e, attempts = before ++ [last] ∧ (∀ a ∈ before, a.Succeeded) ∧
      last.outcome = .error e ∧ failure = .ofConnection (.card e) ∧
      plan = before.map Attempt.command ++ last.command :: rest ∧
      received = (before.map Attempt.command).map o.normalize ++
        if o.admits last.command then [o.normalize last.command] else []

theorem Followed.attempted {o : NormalizeOptions} {plan received : List Command} {attempts : List Attempt}
    {result : Except Failure Unit} (h : Followed o plan attempts received result) :
    attempts.map Attempt.command <+: plan := by
  match result with
  | .ok () =>
    obtain ⟨-, rfl, -⟩ := h
    exact List.prefix_rfl
  | .error failure =>
    obtain ⟨before, last, rest, e, rfl, -, -, -, rfl, -⟩ := h
    exact ⟨rest, by simp⟩

theorem Followed.received {o : NormalizeOptions} {plan received : List Command} {attempts : List Attempt}
    {result : Except Failure Unit} (h : Followed o plan attempts received result) :
    received <+: plan.map o.normalize := by
  match result with
  | .ok () =>
    obtain ⟨-, -, rfl⟩ := h
    exact List.prefix_rfl
  | .error failure =>
    obtain ⟨before, last, rest, e, -, -, -, -, rfl, rfl⟩ := h
    rw [List.map_append, List.prefix_append_right_inj]
    split
    · exact ⟨rest.map o.normalize, rfl⟩
    · exact List.nil_prefix

theorem attempts_followed (commands : List Command) (n : Normalized (Recorded (Backend κ))) (w : W)
    (hfresh : n.inner.received = []) :
    let (attempts, result, n', _) := n.attemptAll w commands
    Followed n.options commands attempts n'.inner.received (result.mapError fun e => .ofConnection (.card e)) := by
  have hreceived := n.attemptAll_received commands w
  have hadmitted := n.attemptAll_admitted commands w
  rw [hfresh, List.nil_append] at hreceived
  rcases h : n.attemptAll w commands with ⟨attempts, e | ⟨⟩, n', w'⟩
  · rw [h] at hreceived hadmitted
    obtain ⟨before, last, rest, rfl, hbefore, hlast, hplan⟩ := Normalized.attemptAll_error h
    refine ⟨before, last, rest, e, rfl, hbefore, hlast, rfl, hplan, hreceived.trans ?_⟩
    have hfit := NormalizeOptions.filter_admits_of_succeeded
      (fun a ha => hadmitted a (List.mem_append_left _ ha)) hbefore
    rw [List.map_append, List.filter_append, hfit, List.map_append]
    cases hlong : n.options.admits last.command <;> simp [hlong, Normalized.normalize]
  · rw [h] at hreceived hadmitted
    obtain ⟨hall, hplan⟩ := Normalized.attemptAll_ok h
    refine ⟨hall, hplan, hreceived.trans ?_⟩
    rw [NormalizeOptions.filter_admits_of_succeeded hadmitted hall, hplan]
    rfl

/-- If an argument is no command then nothing is transmitted, and the first such argument is named. Otherwise the
attempts and what the card receives are those of the list, as often as it is repeated, up to the first failure. An
attempt that failed is received if its command is short enough, so that the card can be given the whole list also
when the last attempt fails. Each attempt is printed with its answer, if there is one, in the order of the
attempts. -/
theorem send_stops_at_first_failure (hstate : m.state = .connected) (hch : m.channel = some n) (apdus : List Bytes)
    (repeats : Nat) (w : W) :
    ((∃ bytes ∈ apdus, ∃ e, Command.parse bytes = .error e) →
      ∃ before bytes after e, apdus = before ++ bytes :: after ∧ (∀ b ∈ before, ∃ c, Command.parse b = .ok c) ∧
        Command.parse bytes = .error e ∧
        send apdus repeats m w = ([], .error ⟨"Invalid APDU " ++ Hex.encode bytes, [e.message]⟩, m, w)) ∧
    ((∀ bytes ∈ apdus, ∃ c, Command.parse bytes = .ok c) →
      ∃ commands, apdus.map Command.parse = commands.map .ok ∧
        let plan := (List.replicate repeats commands).flatten
        let (lines, result, m', w') := send apdus repeats m w
        let (attempts, _, n', w'') := n.recording.attemptAll w plan
        let received := n'.inner.received
        m'.channel = some n'.unrecorded ∧ w' = w'' ∧
          lines.filter Line.isExchange = attempts.flatMap Attempt.lines ∧
          received = ((attempts.map Attempt.command).filter n.options.admits).map n.options.normalize ∧
          received <+: plan.map n.options.normalize ∧
          (received = plan.map n.options.normalize ↔
            attempts.map Attempt.command = plan ∧ ∀ c ∈ plan, n.options.admits c = true) ∧
          Followed n.options plan attempts received result) := by
  constructor
  · rintro ⟨bad, hmem, e, hbad⟩
    obtain ⟨failure, hfailure⟩ := parseCommands_unparsed hmem hbad
    obtain ⟨before, bytes, after, e, hsplit, hbefore, hbytes, rfl⟩ := parseCommands_error hfailure
    refine ⟨before, bytes, after, e, hsplit, hbefore, hbytes, ?_⟩
    rw [send, hfailure]
  · intro hall
    obtain ⟨commands, hparsed⟩ := parseCommands_parsed hall
    refine ⟨commands, parseCommands_ok_iff.mp hparsed, ?_⟩
    intro plan
    have hsend : send apdus repeats m w = sendRounds commands (decide (1 < repeats)) 0 m w repeats := by
      rw [send, hparsed]
    -- the recording channel attempts what the manager attempts
    have hrounds := sendRounds_eq hstate hch commands (decide (1 < repeats)) 0 repeats w
    have hsame : n.attemptAll w plan = _ := n.recording.attemptAll_unrecorded plan w
    have hreceived := n.recording.attemptAll_received plan w
    have hfollowed := attempts_followed plan n.recording w rfl
    rcases hattempts : n.recording.attemptAll w plan with ⟨attempts, result, n', w''⟩
    rw [hattempts] at hsame hreceived hfollowed
    dsimp only at hsame hreceived hfollowed
    change _ = ((attempts.map Attempt.command).filter n.options.admits).map n.options.normalize at hreceived
    rw [hsame] at hrounds
    rcases hprinted : sendRounds commands (decide (1 < repeats)) 0 m w repeats with ⟨lines, outcome, m', w'⟩
    rw [hprinted] at hrounds
    obtain ⟨hlines, hend⟩ := hrounds
    cases hend
    rw [hsend, hprinted]
    refine ⟨rfl, rfl, hlines, hreceived, hfollowed.received, ?_, hfollowed⟩
    rw [hreceived]
    exact NormalizeOptions.filter_admits_complete hfollowed.attempted

section

open Scripted

/-- A card that answers twice. -/
def fadingCard : Card :=
  { replies := [.raw [0x90, 0x00], .raw [0x90, 0x00], .failure (.transmit .timeout)] }

def fadingChannel : Normalized (Backend AnyChannel) := ⟨.inr (.inr (.inr (.inl fadingCard))), {}, none, 0⟩

def fadingConnected : Manager World AnyChannel AnySimulator × World :=
  (Manager.new false none).run {}
    [.withRemote (remoteConnector none fun w => (.inr (.inl fadingCard), w)),
      .connect { kind := .remote, doSelect := false }]

def fadingUpdate : Command := ⟨0x00, 0xD6, 0x00, 0x00, some [0xAA], none⟩

def fadingPlan : List Command := [slowCommand, fadingUpdate, slowCommand, fadingUpdate]

/-- Two rounds of two commands, of which the third attempt fails. Nothing is attempted when the second argument is
no command. -/
theorem send_stops_at_first_failure_fading :
    let (m, w) := fadingConnected
    let (attempts, _, n', _) := fadingChannel.recording.attemptAll w fadingPlan
    let result := (send [slowCommand.encode, fadingUpdate.encode] 2 m w).2.1
    m.state = .connected ∧ m.channel = some fadingChannel ∧
      (∃ before bytes after, ∃ e : CommandError, [slowCommand.encode, [0x00]] = before ++ bytes :: after ∧
        send [slowCommand.encode, [0x00]] 2 m w =
          ([], .error ⟨"Invalid APDU " ++ Hex.encode bytes, [e.message]⟩, m, w)) ∧
      Followed fadingChannel.options fadingPlan attempts n'.inner.received result ∧
      attempts.map Attempt.command = [slowCommand, fadingUpdate, slowCommand] ∧
      n'.inner.received = [slowCommand, fadingUpdate, slowCommand].map fadingChannel.options.normalize := by
  have hstate : fadingConnected.1.state = .connected := rfl
  have hch : fadingConnected.1.channel = some fadingChannel := rfl
  have hbad := (send_stops_at_first_failure hstate hch [slowCommand.encode, [0x00]] 2 fadingConnected.2).1
    ⟨[0x00], by simp, .invalidLength 1, rfl⟩
  have hparsed : ∀ bytes ∈ [slowCommand.encode, fadingUpdate.encode], ∃ c, Command.parse bytes = .ok c := by
    intro bytes hbytes
    rcases List.mem_cons.mp hbytes with rfl | hbytes
    · exact ⟨slowCommand, rfl⟩
    · rw [List.mem_singleton.mp hbytes]
      exact ⟨fadingUpdate, rfl⟩
  obtain ⟨commands, hcommands, hgood⟩ := (send_stops_at_first_failure hstate hch
    [slowCommand.encode, fadingUpdate.encode] 2 fadingConnected.2).2 hparsed
  have hsame : [slowCommand, fadingUpdate].map Except.ok = commands.map (Except.ok : _ → Except CommandError _) :=
    hcommands
  obtain rfl := (List.map_inj_right fun _ _ h => Except.ok.inj h).mp hsame
  obtain ⟨before, bytes, after, e, hsplit, -, -, hsend⟩ := hbad
  obtain ⟨-, -, -, -, -, -, hfollowed⟩ := hgood
  exact ⟨hstate, hch, ⟨before, bytes, after, e, hsplit, hsend⟩, hfollowed, rfl, rfl⟩

/-- The card is given all rounds of the commands exactly if nothing fails. -/
def GivenAllIffSent (commands : List Command) (repeats : Nat) (m : Manager W κ ς) (n : Normalized (Backend κ))
    (w : W) : Prop :=
  let plan := (List.replicate repeats commands).flatten
  (n.recording.attemptAll w plan).2.2.1.inner.received = plan.map n.options.normalize ↔
    (send (commands.map Command.encode) repeats m w).2.1 = .ok ()

/-- A card that fails at the last command has been given all of them. -/
theorem failing_card_is_given_all :
    fadingConnected.1.state = .connected ∧ fadingConnected.1.channel = some fadingChannel ∧
      ¬ GivenAllIffSent [slowCommand, fadingUpdate, slowCommand] 1 fadingConnected.1 fadingChannel
        fadingConnected.2 := by
  refine ⟨rfl, rfl, ?_⟩
  intro h
  cases h.mp rfl

end

end CommandLine
end CardLink
