import CardLink.Proofs.Connection.Debugging
import CardLink.Proofs.Connection.Views

/-!
# The terminal that is connected to

Three kinds of card sit in terminals, and each has its own rule for which one to take: by name, by index, or by index
if there is a card at all. A source of terminals is asked for the terminal that the rule gives and for no other, and
it is not asked when the rule gives none.
-/

namespace CardLink

open VirtualCard (Network)

/-! ## Rules -/

theorem Text.occursIn_iff (needle text : List Char) : Text.occursIn needle text = true ↔ needle <:+: text := by
  induction text with
  | nil => simp [Text.occursIn]
  | cons c rest ih =>
    rw [Text.occursIn, Bool.or_eq_true, List.isPrefixOf_iff_prefix, ih, List.infix_cons_iff]

namespace Terminal

variable {settings : Settings} {terminals : List Terminal}

/-- The name contains the wanted text, both in lower case. -/
def Named (wanted : String) (t : Terminal) : Prop :=
  (Text.lowercase wanted).toList <:+: (Text.lowercase t.name).toList

theorem matchesName_iff (wanted : String) (t : Terminal) : t.matchesName wanted = true ↔ t.Named wanted :=
  Text.occursIn_iff _ _

/-- Whether the kind of card goes by the index alone, and needs a card at it. -/
def ByIndex (settings : Settings) : Prop :=
  settings.kind = .physical ∧ settings.readerName = none ∨ settings.kind = .physicalDirect

/-- What the rule of the configured kind makes of a list of terminals: the terminal to connect to, none if there is
no card, or a failure. -/
inductive Chosen (settings : Settings) (terminals : List Terminal) :
    Except ConnectionError (Option Terminal) → Prop where
  | named {wanted : String} {before after : List Terminal} {t : Terminal} :
      settings.kind = .physical → settings.readerName = some wanted → terminals = before ++ t :: after →
      (∀ t' ∈ before, ¬ t'.Named wanted) → t.Named wanted → Chosen settings terminals (.ok (some t))
  | unnamed {wanted : String} :
      settings.kind = .physical → settings.readerName = some wanted → (∀ t ∈ terminals, ¬ t.Named wanted) →
      Chosen settings terminals (.error (.readerNotFound wanted))
  | indexed {t : Terminal} :
      ByIndex settings → terminals[settings.index]? = some t → t.cardPresent = true →
      Chosen settings terminals (.ok (some t))
  | empty :
      ByIndex settings → (∀ t, terminals[settings.index]? = some t → t.cardPresent = false) →
      Chosen settings terminals (.error (.noTerminal settings.index))
  | noCard :
      settings.kind = .legacySimulator → (∀ t ∈ terminals, t.cardPresent = false) →
      Chosen settings terminals (.ok none)
  | simulated {t t' : Terminal} :
      settings.kind = .legacySimulator → t' ∈ terminals → t'.cardPresent = true →
      terminals[settings.index]? = some t → Chosen settings terminals (.ok (some t))
  | short {t' : Terminal} :
      settings.kind = .legacySimulator → t' ∈ terminals → t'.cardPresent = true →
      terminals.length ≤ settings.index → Chosen settings terminals (.error (.noTerminal settings.index))

/-- The choice that is made for the configured kind. -/
def choice (settings : Settings) (terminals : List Terminal) : Except ConnectionError (Option Terminal) :=
  match settings.kind with
  | .legacySimulator => chooseSimulated settings terminals
  | kind => (choose settings (kind = .physical) terminals).map some

/-- The kinds of card that sit in terminals. -/
def InTerminal (settings : Settings) : Prop :=
  settings.kind = .physical ∨ settings.kind = .physicalDirect ∨ settings.kind = .legacySimulator

theorem choice_named {wanted : String} (hkind : settings.kind = .physical)
    (hname : settings.readerName = some wanted) :
    choice settings terminals =
      match terminals.find? (matchesName wanted) with
      | some t => .ok (some t)
      | none => .error (.readerNotFound wanted) := by
  simp only [choice, hkind, choose, hname, Option.filter, decide_true, if_true]
  cases terminals.find? (matchesName wanted) <;> rfl

theorem choice_byIndex (h : ByIndex settings) :
    choice settings terminals =
      match terminals[settings.index]?.filter (·.cardPresent) with
      | some t => .ok (some t)
      | none => .error (.noTerminal settings.index) := by
  rcases h with ⟨hkind, hname⟩ | hkind
  · simp only [choice, hkind, choose, hname, Option.filter_none]
    cases terminals[settings.index]?.filter (·.cardPresent) <;> rfl
  · have hname : (settings.readerName.filter fun _ => false) = none := by simp
    simp only [choice, hkind, choose, reduceCtorEq, decide_false, hname]
    cases terminals[settings.index]?.filter (·.cardPresent) <;> rfl

theorem choice_simulated (hkind : settings.kind = .legacySimulator) :
    choice settings terminals = chooseSimulated settings terminals := by
  simp only [choice, hkind]

/-- The rules leave no other choice. -/
theorem Chosen.eq_choice {c : Except ConnectionError (Option Terminal)} (h : Chosen settings terminals c) :
    c = choice settings terminals := by
  cases h with
  | @named wanted before after t hkind hname hsplit hbefore ht =>
    have hfind : terminals.find? (matchesName wanted) = some t := by
      rw [List.find?_eq_some_iff_append]
      refine ⟨(matchesName_iff wanted t).mpr ht, before, after, hsplit, ?_⟩
      intro t' ht'
      rw [Bool.not_eq_true', Bool.eq_false_iff]
      exact fun hmatches => hbefore t' ht' ((matchesName_iff wanted t').mp hmatches)
    rw [choice_named hkind hname, hfind]
  | @unnamed wanted hkind hname hnone =>
    have hfind : terminals.find? (matchesName wanted) = none := by
      rw [List.find?_eq_none]
      intro t ht hmatches
      exact hnone t ht ((matchesName_iff wanted t).mp hmatches)
    rw [choice_named hkind hname, hfind]
  | indexed hindex ht hpresent => rw [choice_byIndex hindex, ht, Option.filter_some, if_pos hpresent]
  | empty hindex habsent =>
    have hfilter : terminals[settings.index]?.filter (·.cardPresent) = none := by
      rw [Option.filter_eq_none_iff]
      intro t ht
      rw [habsent t ht]
      exact Bool.false_ne_true
    rw [choice_byIndex hindex, hfilter]
  | noCard hkind hnone =>
    have hany : terminals.any (·.cardPresent) = false := by
      simpa using hnone
    rw [choice_simulated hkind, chooseSimulated, hany]
    rfl
  | simulated hkind hmem hpresent ht =>
    have hany := List.any_eq_true.mpr ⟨_, hmem, hpresent⟩
    rw [choice_simulated hkind, chooseSimulated, if_pos hany, ht]
  | short hkind hmem hpresent hshort =>
    have hany := List.any_eq_true.mpr ⟨_, hmem, hpresent⟩
    rw [choice_simulated hkind, chooseSimulated, if_pos hany, List.getElem?_eq_none hshort]

/-- The rules leave a choice, whatever the list. -/
theorem choice_chosen (h : InTerminal settings) : Chosen settings terminals (choice settings terminals) := by
  have hindexed : ByIndex settings → Chosen settings terminals (choice settings terminals) := by
    intro hindex
    rw [choice_byIndex hindex]
    cases hfilter : terminals[settings.index]?.filter (·.cardPresent) with
    | none =>
      refine .empty hindex ?_
      intro t ht
      rw [ht, Option.filter_eq_none_iff] at hfilter
      exact Bool.eq_false_iff.mpr (hfilter t rfl)
    | some t =>
      obtain ⟨ht, hpresent⟩ := Option.filter_eq_some_iff.mp hfilter
      exact .indexed hindex ht hpresent
  rcases h with hkind | hkind | hkind
  · cases hname : settings.readerName with
    | none => exact hindexed (Or.inl ⟨hkind, hname⟩)
    | some wanted =>
      rw [choice_named hkind hname]
      cases hfind : terminals.find? (matchesName wanted) with
      | none =>
        refine .unnamed hkind hname ?_
        intro t ht hnamed
        exact List.find?_eq_none.mp hfind t ht ((matchesName_iff wanted t).mpr hnamed)
      | some t =>
        obtain ⟨hmatches, before, after, hsplit, hbefore⟩ := List.find?_eq_some_iff_append.mp hfind
        refine .named hkind hname hsplit ?_ ((matchesName_iff wanted t).mp hmatches)
        intro t' ht' hnamed
        have hother := hbefore t' ht'
        rw [(matchesName_iff wanted t').mpr hnamed] at hother
        cases hother
  · exact hindexed (Or.inr hkind)
  · rw [choice_simulated hkind, chooseSimulated]
    by_cases hany : terminals.any (·.cardPresent) = true
    · obtain ⟨t', hmem, hpresent⟩ := List.any_eq_true.mp hany
      rw [if_pos hany]
      cases ht : terminals[settings.index]? with
      | none => exact .short hkind hmem hpresent (List.getElem?_eq_none_iff.mp ht)
      | some t => exact .simulated hkind hmem hpresent ht
    · rw [if_neg hany]
      refine .noCard hkind ?_
      intro t ht
      rw [Bool.eq_false_iff]
      exact fun hpresent => hany (List.any_eq_true.mpr ⟨t, ht, hpresent⟩)

theorem chosen_iff (h : InTerminal settings) (terminals : List Terminal)
    (c : Except ConnectionError (Option Terminal)) :
    Chosen settings terminals c ↔ c = choice settings terminals := by
  constructor
  · exact Chosen.eq_choice
  · rintro rfl
    exact choice_chosen h

/-- Only a terminal of the list is chosen. -/
theorem Chosen.mem {t : Terminal} (h : Chosen settings terminals (.ok (some t))) : t ∈ terminals := by
  cases h with
  | named _ _ hsplit =>
    rw [hsplit]
    exact List.mem_append_right _ List.mem_cons_self
  | indexed _ ht => exact List.mem_of_getElem? ht
  | simulated _ _ _ ht => exact List.mem_of_getElem? ht

/-- There is no choice without a failure exactly if the simulator's terminals hold no card. -/
theorem chosen_none_iff :
    Chosen settings terminals (.ok none) ↔
      settings.kind = .legacySimulator ∧ ∀ t ∈ terminals, t.cardPresent = false := by
  constructor
  · intro hchosen
    cases hchosen with
    | noCard hkind hnone => exact ⟨hkind, hnone⟩
  · rintro ⟨hkind, hnone⟩
    exact .noCard hkind hnone

end Terminal

/-! ## What a source is asked -/

def OutwardCall.terminal? : OutwardCall → Option String
  | .connect terminal => some terminal
  | _ => none

namespace Journal

variable {W κ : Type}

/-- The terminals that a source was asked to connect to, in the order it was asked. -/
def asked (r : Journal W) : List String := r.calls.filterMap OutwardCall.terminal?

theorem asked_called (r : Journal W) (world : W) (c : OutwardCall) :
    (r.called world c).asked = r.asked ++ c.terminal?.toList := by
  cases h : c.terminal? <;> simp [asked, called, calls, Entry.call?, h]

theorem asked_log [Host W] (event : LogEvent) (r : Journal W) : (Host.log event r).asked = r.asked := by
  simp [asked, Host.log, calls, Entry.call?]

/-- A call that asks no source for a terminal. -/
theorem asked_same {c : OutwardCall} (h : c.terminal? = none) (r : Journal W) (world : W) :
    (r.called world c).asked = r.asked := by
  rw [asked_called, h]
  exact List.append_nil _

variable [ChannelTraits κ] [CardChannel W κ] [Network W] [Host W]

theorem asked_hides : Hides (Outside κ) (asked : Journal W → List String) where
  network := ⟨fun _ _ r => asked_same rfl r _, fun _ _ r => asked_same rfl r _, fun _ r => asked_same rfl r _,
    fun _ _ r => asked_same rfl r _, fun _ _ r => asked_same rfl r _, fun _ r => asked_same rfl r _⟩
  channels := by
    refine ⟨?_, fun _ r => asked_same rfl r _⟩
    intro request k r
    cases request with
    | number => rfl
    | isWrapped => rfl
    | card request =>
      cases request with
      | basicNumber => rfl
      | _ => exact asked_same rfl r _
    | _ => exact asked_same rfl r _
  log := asked_log

end Journal

/-- What a source was asked and what came of that, if this was the choice. -/
def Journal.AskedFor {W : Type} (choice : Except ConnectionError (Option Terminal)) (r r' : Journal W)
    (result : Except ConnectionError Bool) : Prop :=
  match choice with
  | .error e => r'.asked = r.asked ∧ result = .error e
  | .ok none => r'.asked = r.asked ∧ result = .ok false
  | .ok (some t) => r'.asked = r.asked ++ [t.name] ∧ (result = .ok true ∨ ∃ e, result = .error (.card e))

namespace Journal.AskedFor

variable {W : Type} {choice : Except ConnectionError (Option Terminal)} {r r' : Journal W}
  {result : Except ConnectionError Bool}

theorem none_iff (h : AskedFor choice r r' result) : result = .ok false ↔ choice = .ok none := by
  rcases choice with e | _ | t
  · obtain ⟨-, rfl⟩ := h
    simp
  · obtain ⟨-, rfl⟩ := h
    simp
  · obtain ⟨-, rfl | ⟨e, rfl⟩⟩ := h <;> simp

/-- What a choice fails with is not what a channel fails with. -/
theorem unasked (h : AskedFor choice r r' result) (htrue : result ≠ .ok true)
    (hcard : ∀ e, result ≠ .error (.card e)) : r'.asked = r.asked := by
  rcases choice with e | _ | t
  · exact h.1
  · exact h.1
  · obtain ⟨-, hmade | ⟨e, herror⟩⟩ := h
    · exact absurd hmade htrue
    · exact absurd herror (hcard e)

end Journal.AskedFor

namespace Manager

variable {W κ ς : Type}

/-- The source that lists the terminals for a kind of card. -/
def sourceFor (kind : CardKind) (m : Manager W κ ς) : Option (TerminalSource W κ) :=
  match kind with
  | .physical | .physicalDirect => m.terminals
  | .legacySimulator => m.legacyTerminals
  | _ => none

variable {settings : Settings}

theorem inTerminal_of_sourceFor {m : Manager W κ ς} {source : TerminalSource W κ}
    (h : m.sourceFor settings.kind = some source) : Terminal.InTerminal settings := by
  cases hkind : settings.kind with
  | physical => exact Or.inl hkind
  | physicalDirect => exact Or.inr (Or.inl hkind)
  | legacySimulator => exact Or.inr (Or.inr hkind)
  | localSimulator | remoteSimulator | remote | virtualCard =>
    rw [hkind] at h
    cases h

variable [ChannelTraits κ] [CardChannel W κ] [Network W] [Host W]

/-- A channel that was opened is held for good, or what fails is a channel. -/
theorem adoptAndSelect_answer (k : Backend κ) (doSelect : Bool) (m : Manager W κ ς) (w : W) :
    (m.adoptAndSelect k doSelect w).1 = .ok true ∨ ∃ e, (m.adoptAndSelect k doSelect w).1 = .error (.card e) := by
  cases hk : ChannelTraits.isWrapped k with
  | true =>
    rw [adoptAndSelect_wrapped hk]
    exact Or.inr ⟨.doubleWrap, rfl⟩
  | false =>
    rw [adoptAndSelect_unwrapped hk]
    cases doSelect with
    | false => exact Or.inl rfl
    | true =>
      cases haid : (m.holding k).aid with
      | none =>
        rw [selectIfConfigured_none haid]
        exact Or.inl rfl
      | some aid =>
        simp only [if_true, Managed.map, selectIfConfigured_some haid]
        rw [send_some rfl]
        rcases CardChannel.transmit (.selectAid aid) _ (m.releaseHeld w) with ⟨e | response, n', w'⟩
        · exact Or.inr ⟨e, rfl⟩
        · exact Or.inl rfl

/-- Lists the terminals of the source and asks for the one that is chosen. -/
def openTerminal (source : TerminalSource W κ) (settings : Settings) (m : Manager W κ ς) (w : W) :
    Managed W κ ς Bool :=
  match source.terminals w with
  | (.error e, w) => (.error (.card e), m, w)
  | (.ok terminals, w) =>
    match Terminal.choice settings terminals with
    | .error e => (.error e, m, w)
    | .ok none => (.ok false, { m with channel := none }, m.releaseHeld w)
    | .ok (some t) =>
      match source.connect t.name w with
      | (.error e, w) => (.error (.card e), m, w)
      | (.ok k, w) => m.adoptAndSelect (.inr k) (m.doSelect && settings.doSelect) w

variable {m : Manager W κ ς} {source : TerminalSource W κ}

/-- The kinds of reader differ in whether the name may decide. -/
theorem openTerminal_reader (byName : Bool)
    (hchoice : ∀ terminals, Terminal.choice settings terminals = (Terminal.choose settings byName terminals).map some)
    (hsource : m.terminals = some source) (w : W) :
    m.openTerminal source settings w =
      match connectTerminal m.terminals settings byName w with
      | (.error e, w) => (.error e, m, w)
      | (.ok k, w) => m.adoptAndSelect (.inr k) (m.doSelect && settings.doSelect) w := by
  rw [openTerminal, hsource, connectTerminal]
  rcases source.terminals w with ⟨e | terminals, w₁⟩
  · rfl
  · simp only [hchoice]
    rcases Terminal.choose settings byName terminals with e | t
    · rfl
    · simp only [Except.map]
      rcases hconnect : source.connect t.name w₁ with ⟨e | k, w₂⟩ <;> simp only [hconnect] <;> rfl

theorem openTerminal_simulated (hkind : settings.kind = .legacySimulator) (hsource : m.legacyTerminals = some source)
    (w : W) :
    m.openTerminal source settings w =
      match connectLegacy m.legacyTerminals settings w with
      | (.error e, w) => (.error e, m, w)
      | (.ok none, w) => (.ok false, { m with channel := none }, m.releaseHeld w)
      | (.ok (some k), w) => m.adoptAndSelect (.inr k) (m.doSelect && settings.doSelect) w := by
  rw [openTerminal, hsource, connectLegacy]
  rcases source.terminals w with ⟨e | terminals, w₁⟩
  · rfl
  · simp only [Terminal.choice_simulated hkind]
    rcases Terminal.chooseSimulated settings terminals with e | _ | t
    · rfl
    · rfl
    · simp only
      rcases hconnect : source.connect t.name w₁ with ⟨e | k, w₂⟩ <;> simp only [hconnect] <;> rfl

variable [CardSimulator W ς κ]

theorem openCard_inTerminal (hsource : m.sourceFor settings.kind = some source) (w : W) :
    m.openCard settings w = m.openTerminal source settings w := by
  cases hkind : settings.kind with
  | physical =>
    rw [hkind] at hsource
    simp only [openCard, hkind]
    exact (openTerminal_reader true (by simp [Terminal.choice, hkind]) hsource w).symm
  | physicalDirect =>
    rw [hkind] at hsource
    simp only [openCard, hkind]
    exact (openTerminal_reader false (by simp [Terminal.choice, hkind]) hsource w).symm
  | legacySimulator =>
    rw [hkind] at hsource
    simp only [openCard, hkind]
    exact (openTerminal_simulated hkind hsource w).symm
  | localSimulator | remoteSimulator | remote | virtualCard =>
    rw [hkind] at hsource
    cases hsource

end Manager

/-! ## Asking for the chosen terminal -/

namespace Manager

open Journal (AskedFor)

variable {W κ ς : Type} [ChannelTraits κ] [CardChannel W κ] [Network W] [Host W] {settings : Settings}
  {source : TerminalSource W κ} {terminals : List Terminal} {r : Journal W}
  {m : Manager (Journal W) (Outside κ) (Outside ς)}

theorem openTerminal_asks (settings : Settings) (hlist : (source.terminals r.world).1 = .ok terminals) :
    AskedFor (Terminal.choice settings terminals) r (m.openTerminal source.outside settings r).2.2
      (m.openTerminal source.outside settings r).1 := by
  have hlisted : source.outside.terminals r = (.ok terminals, r.called (source.terminals r.world).2 .terminals) := by
    rw [← hlist]
    rfl
  have hasked : (r.called (source.terminals r.world).2 .terminals).asked = r.asked := r.asked_same rfl _
  unfold openTerminal
  rw [hlisted]
  simp only
  rcases Terminal.choice settings terminals with e | _ | t
  · exact ⟨hasked, rfl⟩
  · exact ⟨(Journal.asked_hides.releaseHeld m _).trans hasked, rfl⟩
  · -- the source is asked first, and from then on the channel that it gave is used unseen
    have hconnect : ∀ r₁ : Journal W, (source.outside.connect t.name r₁).2.asked = r₁.asked ++ [t.name] :=
      fun r₁ => r₁.asked_called _ _
    have hnamed := hconnect (r.called (source.terminals r.world).2 .terminals)
    rw [hasked] at hnamed
    rcases heq : source.outside.connect t.name (r.called (source.terminals r.world).2 .terminals) with ⟨e | k, r₂⟩
    · rw [heq] at hnamed
      simp only [heq]
      exact ⟨hnamed, Or.inr ⟨e, rfl⟩⟩
    · rw [heq] at hnamed
      simp only [heq]
      exact ⟨(Journal.asked_hides.adoptAndSelect _ _ m r₂).trans hnamed, adoptAndSelect_answer _ _ m r₂⟩

variable [CardSimulator W ς κ]

/-- Connecting to a card in a terminal asks the source for the terminal that the rule of the kind chooses. -/
theorem connect_asks (hsource : m.sourceFor settings.kind = some source.outside)
    (hlist : (source.terminals (m.prepare settings r).2.world).1 = .ok terminals) :
    AskedFor (Terminal.choice settings terminals) r (m.connect settings r).2.2 (m.connect settings r).1 := by
  have hbefore := Journal.asked_hides.prepare settings m r
  have hprepared : (m.prepare settings r).1.sourceFor settings.kind = some source.outside := by
    rw [prepare_eq]
    exact hsource
  have hasks := openTerminal_asks (m := (m.prepare settings r).1) settings hlist
  rw [← openCard_inTerminal hprepared, Journal.AskedFor.eq_def, hbefore] at hasks
  unfold connect
  rcases hprepare : m.prepare settings r with ⟨m₁, r₁⟩
  rw [hprepare] at hasks
  rcases hopen : m₁.openCard settings r₁ with ⟨e | found, m₂, r₂⟩
  · rw [hopen] at hasks
    simp only [hopen]
    exact hasks
  · rw [hopen] at hasks
    simp only [hopen]
    exact hasks

/-- The source that lists the terminals for the kind of card is asked for the terminal that the rule of that kind
chooses, which is listed, once and for no other. If no terminal is chosen then it is not asked, and the manager has
failed. -/
theorem connect_asks_for_chosen_terminal (hsource : m.sourceFor settings.kind = some source.outside)
    (hlist : (source.terminals (m.prepare settings r).2.world).1 = .ok terminals) :
    let (result, m', r') := m.connect settings r
    (∃ choice, (∀ c, Terminal.Chosen settings terminals c ↔ c = choice) ∧ AskedFor choice r r' result ∧
      ∀ t, choice = .ok (some t) → t ∈ terminals) ∧
    (result = .ok false ↔ settings.kind = .legacySimulator ∧ ∀ t ∈ terminals, t.cardPresent = false) ∧
    (result = .ok false ∨ (∃ wanted, result = .error (.readerNotFound wanted)) ∨
        (∃ index, result = .error (.noTerminal index)) →
      r'.asked = r.asked ∧ m'.state = .failed) := by
  have hchosen := Terminal.chosen_iff (inTerminal_of_sourceFor hsource) terminals
  have hasks := connect_asks hsource hlist
  have hstate := connect_outcome settings m r
  rcases hconnect : m.connect settings r with ⟨result, m', r'⟩
  rw [hconnect] at hasks hstate
  refine ⟨⟨_, hchosen, hasks, ?_⟩, ?_, ?_⟩
  · intro t ht
    exact ((hchosen _).mpr ht.symm).mem
  · rw [hasks.none_iff, eq_comm, ← hchosen, Terminal.chosen_none_iff]
  · intro hnone
    have hfailed : result ≠ .ok true ∧ (∀ e, result ≠ .error (.card e)) ∧ m'.state = .failed := by
      rcases hnone with rfl | ⟨wanted, rfl⟩ | ⟨index, rfl⟩
      · exact ⟨by simp, by simp, hstate.2⟩
      · exact ⟨by simp, by simp, hstate⟩
      · exact ⟨by simp, by simp, hstate⟩
    obtain ⟨htrue, hcard, hstate⟩ := hfailed
    exact ⟨hasks.unasked htrue hcard, hstate⟩

end Manager

/-! ## Three slots -/

namespace Scripted

/-- The first slot is empty, and two have the same name but for its case. -/
def slots : List Terminal := [⟨"Slot A", false⟩, ⟨"Slot B", true⟩, ⟨"SLOT B", true⟩]

def slotSource : TerminalSource World AnyChannel :=
  terminalSource (.ok slots) none fun w => (.inr (.inl { replies := [.raw [0x90, 0x00]] }), w)

def slotManager : Manager (Journal World) (Outside AnyChannel) (Outside AnySimulator) :=
  { terminals := some slotSource.outside, aid := some [0xA0, 0x00] }

def slotByName : Settings := { kind := .physical, readerName := some "sLOT b", index := 2 }

def slotByIndex : Settings := { kind := .physicalDirect, readerName := some "slot b" }

/-- By name the first of the two is taken, and by index there is no card in the slot. -/
theorem connect_asks_for_chosen_terminal_slots :
    slotManager.sourceFor slotByName.kind = some slotSource.outside ∧
      (slotManager.connect slotByName ⟨{}, []⟩).2.2.asked = ["Slot B"] ∧
      (slotManager.connect slotByIndex ⟨{}, []⟩).1 = .error (.noTerminal 0) ∧
      (slotManager.connect slotByIndex ⟨{}, []⟩).2.2.asked = [] ∧
      (slotManager.connect slotByIndex ⟨{}, []⟩).2.1.state = .failed := by
  have hnamedSource : slotManager.sourceFor slotByName.kind = some slotSource.outside := rfl
  have hindexedSource : slotManager.sourceFor slotByIndex.kind = some slotSource.outside := rfl
  have hlist : ∀ settings, (slotSource.terminals (slotManager.prepare settings ⟨{}, []⟩).2.world).1 = .ok slots :=
    fun _ => rfl
  obtain ⟨⟨named, hnamed, hnamedAsked, -⟩, -, -⟩ :=
    Manager.connect_asks_for_chosen_terminal hnamedSource (hlist slotByName)
  obtain ⟨⟨indexed, hindexed, hindexedAsked, -⟩, -, hfailed⟩ :=
    Manager.connect_asks_for_chosen_terminal hindexedSource (hlist slotByIndex)
  have hslot : Terminal.Chosen slotByName slots (.ok (some ⟨"Slot B", true⟩)) := by
    have hsplit : slots = [⟨"Slot A", false⟩] ++ ⟨"Slot B", true⟩ :: [⟨"SLOT B", true⟩] := rfl
    refine .named rfl rfl hsplit ?_ ((Terminal.matchesName_iff _ _).mp rfl)
    intro t ht hnamed
    rw [List.mem_singleton.mp ht, ← Terminal.matchesName_iff] at hnamed
    cases hnamed
  have hempty : Terminal.Chosen slotByIndex slots (.error (.noTerminal 0)) := by
    refine .empty (Or.inr rfl) ?_
    intro t ht
    cases ht
    rfl
  obtain rfl := (hnamed _).mp hslot
  obtain rfl := (hindexed _).mp hempty
  obtain ⟨hasked, hresult⟩ := hindexedAsked
  obtain ⟨-, hstate⟩ := hfailed (Or.inr (Or.inr ⟨0, hresult⟩))
  exact ⟨hnamedSource, hnamedAsked.1, hresult, hasked, hstate⟩

end Scripted
end CardLink
