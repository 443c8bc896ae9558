import CardLink.Proofs.Connection.AppletCalls
import CardLink.Scripted.Applet

/-!
# The lives of applets

An applet on a simulated card is installed once and then has turns, from a selection to the deselection after
it, in which it gets the commands. At most one installed applet has a turn at a time, and it is the selected
one. Being replaced ends the life of an applet without a deselection, and so does the end of the run.
-/

namespace CardLink

open Scripted (AppletCall)

/-! ## Lives -/

/-- What an applet sees from its selection on. -/
def turn (commands : List Command) : List AppletCall := .select :: commands.map .process

/-- What an applet sees of its life: the turns that are over, and one that goes on. -/
def life (data : Bytes) (turns : List (List Command)) (current : Option (List Command)) : List AppletCall :=
  .install data :: turns.flatMap (fun commands => turn commands ++ [.deselect]) ++ (current.map turn).getD []

/-- Whether the last selection is not followed by a deselection. -/
def inTurn (calls : List AppletCall) : Bool :=
  calls.foldl (fun on call =>
    match call with
    | .select => true
    | .deselect => false
    | _ => on) false

def Lives (calls : List AppletCall) (on : Bool) : Prop :=
  ∃ data turns current, calls = life data turns current ∧ current.isSome = on

namespace Lives

variable {calls : List AppletCall} {on : Bool}

theorem installed (data : Bytes) : Lives [.install data] false := ⟨data, [], none, rfl, rfl⟩

theorem select (h : Lives calls false) : Lives (calls ++ [.select]) true := by
  obtain ⟨data, turns, current, rfl, hcurrent⟩ := h
  obtain rfl : current = none := Option.isSome_eq_false_iff.mp hcurrent |> Option.isNone_iff_eq_none.mp
  exact ⟨data, turns, some [], by simp [life, turn], rfl⟩

theorem process (h : Lives calls true) (c : Command) : Lives (calls ++ [.process c]) true := by
  obtain ⟨data, turns, current, rfl, hcurrent⟩ := h
  obtain ⟨commands, rfl⟩ := Option.isSome_iff_exists.mp hcurrent
  exact ⟨data, turns, some (commands ++ [c]), by simp [life, turn], rfl⟩

theorem deselect (h : Lives calls true) : Lives (calls ++ [.deselect]) false := by
  obtain ⟨data, turns, current, rfl, hcurrent⟩ := h
  obtain ⟨commands, rfl⟩ := Option.isSome_iff_exists.mp hcurrent
  exact ⟨data, turns ++ [commands], none, by simp [life], rfl⟩

theorem ne_nil (h : Lives calls on) : calls ≠ [] := by
  obtain ⟨data, turns, current, rfl, -⟩ := h
  simp [life]

theorem inTurn_eq (h : Lives calls on) : inTurn calls = on := by
  have hprocess : ∀ (b : Bool) (commands : List Command),
      (commands.map AppletCall.process).foldl (fun on call =>
        match call with
        | .select => true
        | .deselect => false
        | _ => on) b = b := by
    intro b commands
    induction commands with
    | nil => rfl
    | cons c commands ih => exact ih
  obtain ⟨data, turns, current, rfl, rfl⟩ := h
  have hturns : inTurn (.install data :: turns.flatMap fun commands => turn commands ++ [.deselect]) = false := by
    unfold inTurn
    rw [List.foldl_cons]
    induction turns with
    | nil => rfl
    | cons commands turns ih => simpa [List.foldl_append, turn, hprocess] using ih
  unfold life
  rw [inTurn, List.foldl_append]
  rw [inTurn] at hturns
  rw [hturns]
  cases current with
  | none => rfl
  | some commands => simp [turn, hprocess]

end Lives

/-! ## What every call keeps -/

section

variable {W α : Type}

/-- A host and its record between two calls, when the numbers below `next` were given. Some applets entered
the card at an earlier time and may be gone. -/
structure Orderly (entered : Nat → Prop) (next : Nat) (h : AppletHost (Numbered α)) (v : Watched W) : Prop where
  distinct : ∀ (i j : Nat) p q, h.applets[i]? = some p → h.applets[j]? = some q → p.1 = q.1 → i = j
  sized : ∀ (i : Nat) p, h.applets[i]? = some p → 1 ≤ p.1.length ∧ p.1.length ≤ 16
  inRange : ∀ i, h.selected = some i → ∃ p, h.applets[i]? = some p
  own : ∀ (i j : Nat) p q, h.applets[i]? = some p → h.applets[j]? = some q → p.2.number = q.2.number → i = j
  lives : ∀ (i : Nat) p, h.applets[i]? = some p → Lives (v.seenBy p.2.number) (h.selected == some i)
  offered : ∀ a, h.pending = some a → v.seenBy a.number = [] ∧ a.number < next
  unused : ∀ n, next ≤ n → v.seenBy n = []
  past : ∀ n, entered n → ∃ on, Lives (v.seenBy n) on

namespace Orderly

variable {entered : Nat → Prop} {next : Nat} {h : AppletHost (Numbered α)} {v : Watched W} {index : Nat}
  {installed : Bytes × Numbered α}

theorem mono {next' : Nat} (ho : Orderly entered next h v) (hle : next ≤ next') : Orderly entered next' h v := by
  refine { ho with offered := ?_, unused := ?_ }
  · intro a ha
    obtain ⟨hempty, hlt⟩ := ho.offered a ha
    exact ⟨hempty, by omega⟩
  · intro n hn
    exact ho.unused n (by omega)

theorem past_saw (ho : Orderly entered next h v) {n : Nat} {call : AppletCall} {on : Bool} (world : W)
    (hlives : Lives (v.seenBy n ++ [call]) on) (m : Nat) (hm : entered m) :
    ∃ on, Lives ((v.saw world n call).seenBy m) on := by
  by_cases hnm : n = m
  · subst hnm
    rw [Watched.seenBy_saw_self]
    exact ⟨on, hlives⟩
  · rw [Watched.seenBy_saw_other v world hnm]
    exact ho.past m hm

/-- One installed applet gets a call, and it is selected afterwards or none is. -/
theorem touch (ho : Orderly entered next h v) (ha : h.applets[index]? = some installed) {a : Numbered α}
    (hnumber : a.number = installed.2.number) {selected : Option Nat}
    (hafter : selected = none ∨ selected = some index)
    (hbefore : h.selected = none ∨ h.selected = some index) {call : AppletCall} (world : W)
    (hlives : Lives (v.seenBy installed.2.number ++ [call]) (selected == some index)) :
    Orderly entered next ({ h with selected }.putApplet index a) (v.saw world installed.2.number call) := by
  have hseen := (ho.lives index installed ha).ne_nil
  have hput : ∀ (i : Nat) p, ({ h with selected }.putApplet index a).applets[i]? = some p →
      ∃ q, h.applets[i]? = some q ∧ p.1 = q.1 ∧ p.2.number = q.2.number := by
    intro i p hp
    rw [AppletHost.getElem?_putApplet] at hp
    obtain ⟨q, hq, rfl⟩ := Option.map_eq_some_iff.mp hp
    by_cases hi : index = i
    · subst hi
      obtain rfl : installed = q := Option.some.inj (ha.symm.trans hq)
      exact ⟨installed, hq, by simp, by simpa using hnumber⟩
    · exact ⟨q, hq, by simp [hi], by simp [hi]⟩
  constructor
  · intro i j p q hp hq hpq
    obtain ⟨p', hp', haid, -⟩ := hput i p hp
    obtain ⟨q', hq', haid', -⟩ := hput j q hq
    exact ho.distinct i j p' q' hp' hq' (by rw [← haid, ← haid', hpq])
  · intro i p hp
    obtain ⟨p', hp', haid, -⟩ := hput i p hp
    rw [haid]
    exact ho.sized i p' hp'
  · intro i hi
    rcases hafter with rfl | rfl
    · cases hi
    · cases hi
      refine ⟨(installed.1, a), ?_⟩
      rw [AppletHost.getElem?_putApplet]
      simp [ha]
  · intro i j p q hp hq hpq
    obtain ⟨p', hp', -, hown⟩ := hput i p hp
    obtain ⟨q', hq', -, hown'⟩ := hput j q hq
    exact ho.own i j p' q' hp' hq' (by rw [← hown, ← hown', hpq])
  · intro i p hp
    obtain ⟨p', hp', -, hown⟩ := hput i p hp
    have hselected : ({ h with selected }.putApplet index a).selected = selected := rfl
    rw [hselected, hown]
    by_cases hi : index = i
    · subst hi
      obtain rfl : installed = p' := Option.some.inj (ha.symm.trans hp')
      rw [Watched.seenBy_saw_self]
      exact hlives
    · -- another applet is selected neither before nor after, and sees nothing
      have hother : installed.2.number ≠ p'.2.number := fun heq => hi (ho.own index i installed p' ha hp' heq)
      rw [Watched.seenBy_saw_other v world hother]
      have hsame : (selected == some i) = (h.selected == some i) := by
        rcases hafter with rfl | rfl <;> rcases hbefore with hs | hs <;> simp [hs, hi]
      rw [hsame]
      exact ho.lives i p' hp'
  · intro b hb
    obtain ⟨hempty, hlt⟩ := ho.offered b hb
    have hother : installed.2.number ≠ b.number := by
      intro heq
      exact hseen (heq ▸ hempty)
    rw [Watched.seenBy_saw_other v world hother]
    exact ⟨hempty, hlt⟩
  · intro n hn
    have hempty := ho.unused n hn
    have hother : installed.2.number ≠ n := by
      intro heq
      exact hseen (heq ▸ hempty)
    rw [Watched.seenBy_saw_other v world hother]
    exact hempty
  · exact ho.past_saw world hlives

/-- A number that was not seen yet sees an install. -/
theorem saw_install (ho : Orderly entered next h v) {n : Nat} (hempty : v.seenBy n = []) (hlt : n < next)
    (hpending : ∀ b, h.pending = some b → b.number ≠ n) (data : Bytes) (world : W) :
    Orderly entered next h (v.saw world n (.install data)) := by
  have hlives : Lives (v.seenBy n ++ [.install data]) false := by
    rw [hempty]
    exact .installed data
  refine { ho with lives := ?_, offered := ?_, unused := ?_, past := ho.past_saw world hlives }
  · intro i p hp
    have hother : n ≠ p.2.number := by
      rintro rfl
      exact (ho.lives i p hp).ne_nil hempty
    rw [Watched.seenBy_saw_other v world hother]
    exact ho.lives i p hp
  · intro b hb
    rw [Watched.seenBy_saw_other v world (Ne.symm (hpending b hb))]
    exact ho.offered b hb
  · intro m hm
    have hother : n ≠ m := by omega
    rw [Watched.seenBy_saw_other v world hother]
    exact ho.unused m hm

/-- An applet that saw nothing but its install is put in its place. -/
theorem put (ho : Orderly entered next h v) {aid data : Bytes} {a : Numbered α} {place : Nat}
    {h' : AppletHost (Numbered α)} (hput : AppletHost.Installed aid a place h h')
    (hlength : 1 ≤ aid.length ∧ aid.length ≤ 16) (hseen : v.seenBy a.number = [.install data])
    (hnew : ∀ (i : Nat) p, h.applets[i]? = some p → p.2.number ≠ a.number) : Orderly entered next h' v := by
  have hcases : ∀ (i : Nat) p, h'.applets[i]? = some p →
      (i = place ∧ p = (aid, a)) ∨ (i ≠ place ∧ h.applets[i]? = some p) := by
    intro i p hp
    rw [hput.applets] at hp
    by_cases hi : i = place
    · rw [if_pos hi] at hp
      exact Or.inl ⟨hi, (Option.some.inj hp).symm⟩
    · rw [if_neg hi] at hp
      exact Or.inr ⟨hi, hp⟩
  refine { ho with distinct := ?_, sized := ?_, inRange := ?_, own := ?_, lives := ?_, offered := ?_ }
  · intro i j p q hp hq hpq
    rcases hcases i p hp with ⟨rfl, rfl⟩ | ⟨hi, hp'⟩
    · rcases hcases j q hq with ⟨rfl, -⟩ | ⟨hj, hq'⟩
      · rfl
      · exact absurd hpq.symm (hput.elsewhere j q hj hq')
    · rcases hcases j q hq with ⟨-, rfl⟩ | ⟨-, hq'⟩
      · exact absurd hpq (hput.elsewhere i p hi hp')
      · exact ho.distinct i j p q hp' hq' hpq
  · intro i p hp
    rcases hcases i p hp with ⟨-, rfl⟩ | ⟨-, hp'⟩
    · exact hlength
    · exact ho.sized i p hp'
  · intro i hi
    obtain ⟨hne, hs⟩ := (hput.selected i).mp hi
    obtain ⟨p, hp⟩ := ho.inRange i hs
    exact ⟨p, by rw [hput.applets, if_neg hne, hp]⟩
  · intro i j p q hp hq hpq
    rcases hcases i p hp with ⟨rfl, rfl⟩ | ⟨-, hp'⟩
    · rcases hcases j q hq with ⟨rfl, -⟩ | ⟨-, hq'⟩
      · rfl
      · exact absurd hpq.symm (hnew j q hq')
    · rcases hcases j q hq with ⟨-, rfl⟩ | ⟨-, hq'⟩
      · exact absurd hpq (hnew i p hp')
      · exact ho.own i j p q hp' hq' hpq
  · intro i p hp
    rcases hcases i p hp with ⟨rfl, rfl⟩ | ⟨hi, hp'⟩
    · have hidle : (h'.selected == some i) = false := by
        rw [beq_eq_false_iff_ne]
        intro hs
        exact ((hput.selected i).mp hs).1 rfl
      rw [hidle, hseen]
      exact .installed data
    · have hsame : (h'.selected == some i) = (h.selected == some i) := by
        rw [Bool.eq_iff_iff, beq_iff_eq, beq_iff_eq, hput.selected]
        simp [hi]
      rw [hsame]
      exact ho.lives i p hp'
  · intro b hb
    exact ho.offered b (hput.pending ▸ hb)

theorem of_installed (ho : Orderly entered next h v) :
    Orderly (fun n => ∃ p ∈ h.applets, p.2.number = n) next h v := by
  refine { ho with past := ?_ }
  rintro n ⟨p, hp, rfl⟩
  obtain ⟨i, hi⟩ := List.getElem?_of_mem hp
  exact ⟨_, ho.lives i p hi⟩

theorem nodup (ho : Orderly entered next h v) : (h.applets.map Prod.fst).Nodup := by
  rw [List.nodup_iff_pairwise_ne, List.pairwise_map, List.pairwise_iff_getElem]
  intro i j hi hj hlt heq
  have hsame := ho.distinct i j _ _ (List.getElem?_eq_getElem hi) (List.getElem?_eq_getElem hj) heq
  omega

/-- The applet whose identifier is told as the selected one is the one at the selected place. -/
theorem selectedAid_iff (ho : Orderly entered next h v) (ha : h.applets[index]? = some installed) :
    h.selectedAid = some installed.1 ↔ h.selected = some index := by
  constructor
  · intro hs
    obtain ⟨i, hi, haid⟩ := Option.bind_eq_some_iff.mp hs
    obtain ⟨p, hp, hfst⟩ := Option.map_eq_some_iff.mp haid
    rw [hi, ho.distinct i index p installed hp ha hfst]
  · intro hs
    simp [AppletHost.selectedAid, hs, ha]

theorem inTurn_iff (ho : Orderly entered next h v) (ha : h.applets[index]? = some installed) :
    inTurn (v.seenBy installed.2.number) = true ↔ h.selectedAid = some installed.1 := by
  rw [(ho.lives index installed ha).inTurn_eq, ho.selectedAid_iff ha, beq_iff_eq]

variable [Applet W α]

theorem deselect (ho : Orderly entered next h v) : Orderly entered next (h.deselect v).1 (h.deselect v).2 := by
  cases hs : h.selected with
  | none =>
    rw [AppletHost.deselect_none hs]
    exact ho
  | some index =>
    obtain ⟨installed, ha⟩ := ho.inRange index hs
    have hlives := ho.lives index installed ha
    rw [hs, beq_self_eq_true] at hlives
    have hnumber : (Applet.deselect installed.2 v).1.number = installed.2.number := rfl
    rw [AppletHost.deselect_some hs ha]
    exact ho.touch ha hnumber (Or.inl rfl) (Or.inr hs) _ hlives.deselect

theorem selectAid (ho : Orderly entered next h v) (aid : Bytes) :
    Orderly entered next (h.selectAid aid v).2.1 (h.selectAid aid v).2.2 := by
  cases hp : h.position aid with
  | none =>
    rw [AppletHost.selectAid_unknown hp]
    exact ho
  | some index =>
    have ho' := ho.deselect
    have hnone := AppletHost.deselect_selected h v
    obtain ⟨installed, ha⟩ : ∃ installed, (h.deselect v).1.applets[index]? = some installed := by
      obtain ⟨a, ha⟩ := AppletHost.position_some hp
      have haids := AppletHost.deselect_aids h v index
      rw [ha] at haids
      obtain ⟨installed, hinstalled, -⟩ := Option.map_eq_some_iff.mp haids
      exact ⟨installed, hinstalled⟩
    have hlives := ho'.lives index installed ha
    rw [hnone] at hlives
    have hselect : Lives ((h.deselect v).2.seenBy installed.2.number ++ [.select])
        (some index == some index) := by
      rw [beq_self_eq_true]
      exact hlives.select
    have hnumber : (Applet.select installed.2 (h.deselect v).2).2.1.number = installed.2.number := rfl
    rw [AppletHost.selectAid_known hp v ha]
    exact ho'.touch ha hnumber (Or.inr rfl) (Or.inl hnone) _ hselect

theorem dispatch (ho : Orderly entered next h v) (command : Command) :
    Orderly entered next (h.dispatch command v).2.1 (h.dispatch command v).2.2 := by
  by_cases hc : command.isSelectByAid = true
  · have hselect : h.dispatch command v = h.selectAid command.payload v := if_pos hc
    rw [hselect]
    exact ho.selectAid command.payload
  · have hother : command.isSelectByAid = false := Bool.eq_false_iff.mpr hc
    cases hs : h.selected with
    | none =>
      rw [AppletHost.dispatch_other hother hs]
      exact ho
    | some index =>
      obtain ⟨installed, ha⟩ := ho.inRange index hs
      have hlives := ho.lives index installed ha
      rw [hs, beq_self_eq_true] at hlives
      have hprocess : Lives (v.seenBy installed.2.number ++ [.process command]) (h.selected == some index) := by
        rw [hs, beq_self_eq_true]
        exact hlives.process command
      have hnumber : (Applet.process command installed.2 v).2.1.number = installed.2.number := rfl
      rw [AppletHost.dispatch_selected hother hs ha]
      exact ho.touch ha hnumber (Or.inr hs) (Or.inr hs) _ hprocess

theorem installApplet (ho : Orderly entered next h v) (aid : Bytes) {a : Numbered α} (data : Bytes)
    (hempty : v.seenBy a.number = []) (hlt : a.number < next)
    (hpending : ∀ b, h.pending = some b → b.number ≠ a.number) :
    Orderly entered next (h.installApplet aid a data v).2.1 (h.installApplet aid a data v).2.2 := by
  by_cases hlength : 1 ≤ aid.length ∧ aid.length ≤ 16
  · have hsaw := ho.saw_install hempty hlt hpending data (Applet.install data a.applet v.world).2.2
    cases hinstall : (Applet.install data a v).1 with
    | error e =>
      rw [AppletHost.installApplet_failed hlength hinstall]
      exact hsaw
    | ok _ =>
      obtain ⟨place, h', hresult, hput⟩ :=
        AppletHost.installApplet_ok hlength ho.distinct ho.inRange hinstall
      have hnew : ∀ (i : Nat) p, h.applets[i]? = some p → p.2.number ≠ a.number := by
        intro i p hp heq
        exact (ho.lives i p hp).ne_nil (heq ▸ hempty)
      have hseen : (v.saw (Applet.install data a.applet v.world).2.2 a.number (.install data)).seenBy a.number =
          [.install data] := by
        rw [Watched.seenBy_saw_self, hempty, List.nil_append]
      rw [hresult]
      exact hsaw.put hput hlength hseen hnew
  · rw [AppletHost.installApplet_refused (by omega)]
    exact ho

theorem install (ho : Orderly entered next h v) (aid data : Bytes) :
    Orderly entered next (h.install aid data v).2.1 (h.install aid data v).2.2 := by
  unfold AppletHost.install
  cases hp : h.pending with
  | none => exact ho
  | some a =>
    obtain ⟨hempty, hlt⟩ := ho.offered a hp
    have hused : Orderly entered next { h with pending := none } v := { ho with offered := by simp }
    exact hused.installApplet aid data hempty hlt (by simp)

theorem disconnect (ho : Orderly entered next h v) (reset : Bool) :
    Orderly entered next (h.disconnect reset v).1 (h.disconnect reset v).2 := by
  cases reset with
  | false => exact { ho with }
  | true => exact { ho.deselect with }

theorem transmit (ho : Orderly entered next h v) (command : Command) :
    Orderly entered next (CardChannel.transmit command h v).2.1 (CardChannel.transmit command h v).2.2 := by
  simp only [CardChannel.transmit]
  split
  · exact ho
  · exact ho.dispatch command

theorem request (ho : Orderly entered next h v) (r : ChannelRequest) :
    Orderly entered next (r.perform h v).2.1 (r.perform h v).2.2 := by
  cases r with
  | transmit c | exchange c => exact ho.transmit c
  | disconnect reset => exact ho.disconnect reset
  | close => exact ho.disconnect false
  | card r =>
    cases r with
    | basicTransmit c | logicalTransmit c => exact ho.transmit c
    | disconnect reset => exact ho.disconnect reset
    | _ => exact ho
  | _ => exact ho

theorem perform (ho : Orderly entered next h v) (call : HostCall α) :
    Orderly entered (next + 1) ((call.numbered next).perform h v).2.1 ((call.numbered next).perform h v).2.2 := by
  have hmore := ho.mono (Nat.le_succ next)
  cases call with
  | installApplet aid applet data =>
    refine hmore.installApplet aid data (ho.unused next (Nat.le_refl next)) (Nat.lt_succ_self next) ?_
    intro b hb
    exact Nat.ne_of_lt (ho.offered b hb).2
  | offer applet =>
    refine { hmore with offered := ?_ }
    intro b hb
    cases hb
    exact ⟨ho.unused next (Nat.le_refl next), Nat.lt_succ_self next⟩
  | install aid data => exact hmore.install aid data
  | select aid => exact hmore.selectAid aid
  | request r => exact hmore.request r

theorem run (ho : Orderly entered next h v) (calls : List (HostCall α)) :
    Orderly entered (next + calls.length) (HostCall.run (HostCall.numberedFrom next calls) h v).2.1
      (HostCall.run (HostCall.numberedFrom next calls) h v).2.2 := by
  induction calls generalizing next h v with
  | nil => exact ho
  | cons call calls ih =>
    have hrest := ih (ho.perform call)
    rw [List.length_cons, Nat.add_comm calls.length 1, ← Nat.add_assoc]
    exact hrest

end Orderly

/-! ## Runs on a new card -/

variable [Applet W α]

/-- The run of the calls on a new card, with every applet numbered and watched. -/
def AppletHost.watched (atr : Atr) (w : W) (calls : List (HostCall α)) :
    List (Except ConnectionError Answer) × AppletHost (Numbered α) × Watched W :=
  HostCall.run (HostCall.numberedFrom 0 calls) { atr } ⟨w, []⟩

/-- Where a command goes. -/
structure Routes (h : AppletHost (Numbered α)) (v : Watched W) : Prop where
  closed : h.closed = true → ∀ c, CardChannel.transmit c h v = (.error .closed, h, v)
  unknown : h.closed = false → ∀ c : Command, c.isSelectByAid = true →
    (∀ p ∈ h.applets, p.1 ≠ c.payload) → CardChannel.transmit c h v = (.ok (.statusOnly .fileNotFound), h, v)
  unselected : h.closed = false → ∀ c : Command, c.isSelectByAid = false → h.selected = none →
    CardChannel.transmit c h v = (.ok (.statusOnly .conditionsNotSatisfied), h, v)
  selected : h.closed = false → ∀ c : Command, c.isSelectByAid = false → ∀ i p, h.selected = some i →
    h.applets[i]? = some p →
      let (response, applet, world) := Applet.process c p.2.applet v.world
      CardChannel.transmit c h v =
        (.ok response, h.putApplet i { p.2 with applet }, v.saw world p.2.number (.process c))

theorem routes (h : AppletHost (Numbered α)) (v : Watched W) : Routes h v := by
  have hopen : h.closed = false → ∀ c,
      CardChannel.transmit c h v = (.ok (h.dispatch c v).1, (h.dispatch c v).2) := by
    intro hclosed c
    simp [CardChannel.transmit, hclosed]
  constructor
  · intro hclosed c
    simp [CardChannel.transmit, hclosed]
  · intro hclosed c hc habsent
    have hp : h.position c.payload = none := by
      rw [AppletHost.position, List.findIdx?_eq_none_iff]
      intro p hp
      simpa using habsent p hp
    have hdispatch : h.dispatch c v = h.selectAid c.payload v := if_pos hc
    rw [hopen hclosed, hdispatch, AppletHost.selectAid_unknown hp]
  · intro hclosed c hc hs
    rw [hopen hclosed, AppletHost.dispatch_other hc hs]
  · intro hclosed c hc i p hs hp
    rw [hopen hclosed, AppletHost.dispatch_selected hc hs hp]
    rfl

theorem installApplet_unchanged {h : AppletHost α} {aid data : Bytes} {a : α} {w : W} {e : ConnectionError}
    (hfailed : (h.installApplet aid a data w).1 = .error e) : (h.installApplet aid a data w).2.1 = h := by
  unfold AppletHost.installApplet at hfailed ⊢
  split at hfailed
  · rw [if_pos (by assumption)]
  · rw [if_neg (by assumption)]
    split at hfailed
    · rfl
    · split at hfailed <;> cases hfailed

theorem install_unchanged {h : AppletHost α} {aid data : Bytes} {w : W} {e : ConnectionError}
    (hfailed : (h.install aid data w).1 = .error e) :
    (h.install aid data w).2.1 = { h with pending := none } := by
  unfold AppletHost.install at hfailed ⊢
  cases hp : h.pending with
  | none => simp only [← hp]
  | some a =>
    rw [hp] at hfailed
    exact installApplet_unchanged hfailed

theorem watched_orderly (atr : Atr) (w : W) (before after : List (HostCall α)) :
    Orderly (fun n => ∃ p ∈ (AppletHost.watched atr w before).2.1.applets, p.2.number = n)
      (before.length + after.length) (AppletHost.watched atr w (before ++ after)).2.1
      (AppletHost.watched atr w (before ++ after)).2.2 := by
  have hnew : Orderly (fun _ => False) 0 ({ atr } : AppletHost (Numbered α)) (⟨w, []⟩ : Watched W) := by
    constructor <;> simp [Watched.seenBy]
  have hbefore := (hnew.run before).of_installed
  have hafter := hbefore.run after
  have hnumbered : HostCall.numberedFrom 0 (before ++ after) =
      HostCall.numberedFrom 0 before ++ HostCall.numberedFrom (0 + before.length) after := by
    simp [HostCall.numberedFrom, List.zipIdx_append]
  unfold AppletHost.watched
  rw [hnumbered, HostCall.run_append]
  simpa using hafter

/-- On a new card, whatever calls are made and whatever the applets do: identifiers differ and are of one to
sixteen bytes, the selected place exists, each applet that was ever installed saw an install and then turns,
a turn goes on at the selected applet and at no other, commands go there and nowhere once the card is closed,
and an install that fails leaves the card alone. -/
theorem applets_live_in_turns (atr : Atr) (w : W) (calls : List (HostCall α)) :
    let (outcomes, h, v) := AppletHost.watched atr w calls
    HostCall.run calls { atr } w = (outcomes, h.bare, v.world) ∧
    ((h.applets.map Prod.fst).Nodup ∧ (∀ p ∈ h.applets, 1 ≤ p.1.length ∧ p.1.length ≤ 16) ∧
      ∀ i, h.selected = some i → i < h.applets.length) ∧
    (∀ before after, calls = before ++ after → ∀ p ∈ (AppletHost.watched atr w before).2.1.applets,
      ∃ data turns current, v.seenBy p.2.number = life data turns current) ∧
    ((∀ p ∈ h.applets, inTurn (v.seenBy p.2.number) = true ↔ h.selectedAid = some p.1) ∧
      ∀ p ∈ h.applets, ∀ q ∈ h.applets, inTurn (v.seenBy p.2.number) = true →
        inTurn (v.seenBy q.2.number) = true → p = q) ∧
    (h.closed = calls.any HostCall.ends ∧ Routes h v) ∧
    ((∀ aid a data e, (h.installApplet aid a data v).1 = .error e → (h.installApplet aid a data v).2.1 = h) ∧
      ∀ aid data e, (h.install aid data v).1 = .error e →
        (h.install aid data v).2.1 = { h with pending := none }) := by
  rcases hrun : AppletHost.watched atr w calls with ⟨outcomes, h, v⟩
  have hbare := HostCall.run_bare (HostCall.numberedFrom 0 calls) { atr } ⟨w, []⟩
  have ho := watched_orderly atr w [] calls
  have hplain : HostCall.run (HostCall.numberedFrom 0 calls) { atr } ⟨w, []⟩ = (outcomes, h, v) := hrun
  rw [HostCall.numberedFrom_bare, hplain] at hbare
  rw [List.nil_append, hrun] at ho
  refine ⟨hbare, ⟨ho.nodup, ?_, ?_⟩, ?_, ⟨?_, ?_⟩, ⟨?_, routes h v⟩, ⟨?_, ?_⟩⟩
  · intro p hp
    obtain ⟨i, hi⟩ := List.getElem?_of_mem hp
    exact ho.sized i p hi
  · intro i hi
    obtain ⟨p, hp⟩ := ho.inRange i hi
    exact (List.getElem?_eq_some_iff.mp hp).1
  · rintro before after rfl p hp
    have hsplit := watched_orderly atr w before after
    rw [hrun] at hsplit
    obtain ⟨-, data, turns, current, hlife, -⟩ := hsplit.past _ ⟨p, hp, rfl⟩
    exact ⟨data, turns, current, hlife⟩
  · intro p hp
    obtain ⟨i, hi⟩ := List.getElem?_of_mem hp
    exact ho.inTurn_iff hi
  · intro p hp q hq hpturn hqturn
    obtain ⟨i, hi⟩ := List.getElem?_of_mem hp
    obtain ⟨j, hj⟩ := List.getElem?_of_mem hq
    have haid : p.1 = q.1 := by
      have hsp := (ho.inTurn_iff hi).mp hpturn
      rw [(ho.inTurn_iff hj).mp hqturn] at hsp
      exact (Option.some.inj hsp).symm
    obtain rfl := ho.distinct i j p q hi hj haid
    exact Option.some.inj (hi.symm.trans hj)
  · have hclosed := HostCall.run_closed calls { atr } w
    have hrunbare : HostCall.run calls { atr } w = (outcomes, h.bare, v.world) := hbare
    rw [hrunbare] at hclosed
    exact hclosed
  · intro aid a data e hfailed
    exact installApplet_unchanged hfailed
  · intro aid data e hfailed
    exact install_unchanged hfailed

end

open Scripted (World)

def firstAid : Bytes := [0xF0, 0x00, 0x00, 0x00, 0x01]

def countUp : Command := ⟨0x80, 0x01, 0x00, 0x00, none, none⟩

/-- An applet is selected twice, then another one takes its place and is selected and deselected. -/
def replacingCalls : List (HostCall Scripted.Applet) :=
  [.installApplet firstAid (.counting { name := "a" }) [0x01], .request (.transmit (.selectAid firstAid)),
    .request (.transmit countUp), .select firstAid, .offer (.counting { name := "b" }), .install firstAid [0x02],
    .request (.card (.basicTransmit (.selectAid firstAid))), .request (.disconnect true)]

theorem applets_live_in_turns_replaced :
    let (_, h, v) := AppletHost.watched ⟨[0x3B, 0x00]⟩ ({} : World) replacingCalls
    (h.applets.map Prod.fst).Nodup ∧ h.closed = true ∧
      v.seenBy 0 = life [0x01] [[countUp]] (some []) ∧ v.seenBy 4 = life [0x02] [[]] none ∧
      CardChannel.transmit countUp h v = (.error .closed, h, v) := by
  obtain ⟨-, ⟨hnodup, -⟩, -, -, ⟨hclosed, hroutes⟩, -⟩ :=
    applets_live_in_turns ⟨[0x3B, 0x00]⟩ ({} : World) replacingCalls
  exact ⟨hnodup, hclosed, rfl, rfl, hroutes.closed hclosed countUp⟩

end CardLink
