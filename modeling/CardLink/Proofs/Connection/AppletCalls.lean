import CardLink.Connection.Simulator
import CardLink.Proofs.VirtualCard.SessionTraffic
import CardLink.Scripted.Event

/-!
# Calls on a simulated card

An applet host is used by its own calls and by those of any channel, in any order. To say what each applet
saw, every applet gets a number and the world a record of the calls that reached applets. Neither has an
influence on what is done, so what is proved of the recorded run holds of the plain one.
-/

namespace CardLink

open Scripted (AppletCall)

inductive HostCall (α : Type) where
  | installApplet (aid : Bytes) (applet : α) (data : Bytes)
  /-- Puts an applet up for the next plain install. -/
  | offer (applet : α)
  | install (aid data : Bytes)
  | select (aid : Bytes)
  | request (r : ChannelRequest)

namespace HostCall

variable {W α : Type}

def perform [Applet W α] (call : HostCall α) (h : AppletHost α) (w : W) :
    Except ConnectionError Answer × AppletHost α × W :=
  match call with
  | .installApplet aid applet data =>
    let (result, h, w) := h.installApplet aid applet data w
    (result.map fun _ => .done, h, w)
  | .offer applet => (.ok .done, { h with pending := some applet }, w)
  | .install aid data =>
    let (result, h, w) := h.install aid data w
    (result.map fun _ => .done, h, w)
  | .select aid =>
    let (response, h, w) := h.selectAid aid w
    (.ok (.response response), h, w)
  | .request r =>
    let (result, h, w) := r.perform h w
    (result.mapError .card, h, w)

def run [Applet W α] : List (HostCall α) → AppletHost α → W →
    List (Except ConnectionError Answer) × AppletHost α × W
  | [], h, w => ([], h, w)
  | call :: calls, h, w =>
    let (outcome, h, w) := call.perform h w
    let (outcomes, h, w) := run calls h w
    (outcome :: outcomes, h, w)

def ends : HostCall α → Bool
  | .request r => r.ends
  | _ => false

theorem run_cons [Applet W α] (call : HostCall α) (calls : List (HostCall α)) (h : AppletHost α) (w : W) :
    run (call :: calls) h w =
      ((call.perform h w).1 :: (run calls (call.perform h w).2.1 (call.perform h w).2.2).1,
        (run calls (call.perform h w).2.1 (call.perform h w).2.2).2) := rfl

theorem run_append [Applet W α] (calls calls' : List (HostCall α)) (h : AppletHost α) (w : W) :
    run (calls ++ calls') h w =
      ((run calls h w).1 ++ (run calls' (run calls h w).2.1 (run calls h w).2.2).1,
        (run calls' (run calls h w).2.1 (run calls h w).2.2).2) := by
  induction calls generalizing h w with
  | nil => rfl
  | cons call calls ih => simp only [List.cons_append, run_cons, ih]

end HostCall

/-- An applet with a number that tells it from the others. -/
structure Numbered (α : Type) where
  number : Nat
  applet : α

/-- A world beside the calls that reached applets, in order. -/
structure Watched (W : Type) where
  world : W
  calls : List (Nat × AppletCall) := []

namespace Watched

variable {W : Type}

/-- The world that an applet made of this one when it got the call. -/
def saw (v : Watched W) (world : W) (number : Nat) (call : AppletCall) : Watched W :=
  ⟨world, v.calls ++ [(number, call)]⟩

/-- The calls that reached one applet. -/
def seenBy (v : Watched W) (number : Nat) : List AppletCall :=
  (v.calls.filter fun entry => entry.1 == number).map Prod.snd

@[simp] theorem seenBy_saw_self (v : Watched W) (world : W) (number : Nat) (call : AppletCall) :
    (v.saw world number call).seenBy number = v.seenBy number ++ [call] := by
  simp [seenBy, saw]

theorem seenBy_saw_other (v : Watched W) (world : W) {number other : Nat} (h : number ≠ other)
    (call : AppletCall) : (v.saw world number call).seenBy other = v.seenBy other := by
  simp [seenBy, saw, h]

end Watched

section

variable {W α : Type} [Applet W α]

instance : Applet (Watched W) (Numbered α) where
  install data a v :=
    let (result, applet, world) := Applet.install data a.applet v.world
    (result, { a with applet }, v.saw world a.number (.install data))
  select a v :=
    let (response, applet, world) := Applet.select a.applet v.world
    (response, { a with applet }, v.saw world a.number .select)
  deselect a v :=
    let (applet, world) := Applet.deselect a.applet v.world
    ({ a with applet }, v.saw world a.number .deselect)
  process command a v :=
    let (response, applet, world) := Applet.process command a.applet v.world
    (response, { a with applet }, v.saw world a.number (.process command))

end

/-! ## The steps of a host -/

namespace AppletHost

variable {W α : Type} {h : AppletHost α} {index : Nat} {installed : Bytes × α}

theorem getElem?_putApplet (index : Nat) (a : α) (h : AppletHost α) (i : Nat) :
    (h.putApplet index a).applets[i]? =
      h.applets[i]?.map fun installed => if index = i then (installed.1, a) else installed := by
  simp [putApplet, List.getElem?_modify]

theorem ext_applets {h h' : AppletHost α} (hatr : h.atr = h'.atr) (hpending : h.pending = h'.pending)
    (hselected : h.selected = h'.selected) (hclosed : h.closed = h'.closed)
    (happlets : ∀ i : Nat, h.applets[i]? = h'.applets[i]?) : h = h' := by
  cases h
  cases h'
  simp_all [List.ext_getElem?_iff]

theorem position_some {aid : Bytes} (hp : h.position aid = some index) :
    ∃ a, h.applets[index]? = some (aid, a) := by
  obtain ⟨hlt, heq, -⟩ := List.findIdx?_eq_some_iff_getElem.mp hp
  refine ⟨h.applets[index].2, ?_⟩
  rw [List.getElem?_eq_getElem hlt]
  have haid : h.applets[index].1 = aid := by simpa using heq
  rw [← haid]

variable [Applet W α]

theorem deselect_none (hs : h.selected = none) (w : W) : h.deselect w = (h, w) := by
  unfold deselect
  rw [hs]

theorem deselect_missing (hs : h.selected = some index) (ha : h.applets[index]? = none) (w : W) :
    h.deselect w = ({ h with selected := none }, w) := by
  simp only [deselect, hs, ha]

theorem deselect_some (hs : h.selected = some index) (ha : h.applets[index]? = some installed) (w : W) :
    h.deselect w =
      ({ h with selected := none }.putApplet index (Applet.deselect installed.2 w).1,
        (Applet.deselect installed.2 w).2) := by
  simp only [deselect, hs, ha]

theorem deselect_selected (h : AppletHost α) (w : W) : (h.deselect w).1.selected = none := by
  cases hs : h.selected with
  | none => rw [deselect_none hs, hs]
  | some index =>
    cases ha : h.applets[index]? with
    | none => rw [deselect_missing hs ha]
    | some installed => rw [deselect_some hs ha, putApplet]

theorem deselect_aids (h : AppletHost α) (w : W) (i : Nat) :
    (h.deselect w).1.applets[i]?.map Prod.fst = h.applets[i]?.map Prod.fst := by
  cases hs : h.selected with
  | none => rw [deselect_none hs]
  | some index =>
    cases ha : h.applets[index]? with
    | none => rw [deselect_missing hs ha]
    | some installed =>
      rw [deselect_some hs ha, getElem?_putApplet, Option.map_map]
      cases h.applets[i]? with
      | none => rfl
      | some p => by_cases hi : index = i <;> simp [hi]

theorem selectAid_unknown {aid : Bytes} (hp : h.position aid = none) (w : W) :
    h.selectAid aid w = (.statusOnly .fileNotFound, h, w) := by
  simp only [selectAid, hp]

/-- The applet is the one that is there after the one before it was deselected, which may be itself. -/
theorem selectAid_known {aid : Bytes} (hp : h.position aid = some index) (w : W)
    (ha : (h.deselect w).1.applets[index]? = some installed) :
    h.selectAid aid w =
      ((Applet.select installed.2 (h.deselect w).2).1,
        { (h.deselect w).1 with selected := some index }.putApplet index
          (Applet.select installed.2 (h.deselect w).2).2.1,
        (Applet.select installed.2 (h.deselect w).2).2.2) := by
  simp only [selectAid, hp, ha]

theorem dispatch_other {command : Command} (hc : command.isSelectByAid = false) (hs : h.selected = none) (w : W) :
    h.dispatch command w = (.statusOnly .conditionsNotSatisfied, h, w) := by
  simp [dispatch, hc, hs]

theorem dispatch_selected {command : Command} (hc : command.isSelectByAid = false)
    (hs : h.selected = some index) (ha : h.applets[index]? = some installed) (w : W) :
    h.dispatch command w =
      ((Applet.process command installed.2 w).1,
        h.putApplet index (Applet.process command installed.2 w).2.1,
        (Applet.process command installed.2 w).2.2) := by
  simp [dispatch, hc, hs, ha]

/-- The applet stands at that place, alone under its identifier, and is not selected. -/
structure Installed (aid : Bytes) (a : α) (place : Nat) (h h' : AppletHost α) : Prop where
  applets : ∀ i : Nat, h'.applets[i]? = if i = place then some (aid, a) else h.applets[i]?
  elsewhere : ∀ (i : Nat) p, i ≠ place → h.applets[i]? = some p → p.1 ≠ aid
  selected : ∀ i, h'.selected = some i ↔ i ≠ place ∧ h.selected = some i
  pending : h'.pending = h.pending

variable {aid data : Bytes} {a : α}

theorem installApplet_refused (hlength : aid.length = 0 ∨ 16 < aid.length) (w : W) :
    h.installApplet aid a data w = (.error (.simulator (.aidLength aid.length)), h, w) := by
  unfold installApplet
  rw [if_pos hlength]

theorem installApplet_failed (hlength : 1 ≤ aid.length ∧ aid.length ≤ 16) {w : W} {e : ConnectionError}
    (hinstall : (Applet.install data a w).1 = .error e) :
    h.installApplet aid a data w = (.error e, h, (Applet.install data a w).2.2) := by
  have hfits : ¬ (aid.length = 0 ∨ 16 < aid.length) := by omega
  unfold installApplet
  rw [if_neg hfits]
  rcases hresult : Applet.install data a w with ⟨e' | ⟨⟩, a', w'⟩
  · rw [hresult] at hinstall
    cases hinstall
    rfl
  · rw [hresult] at hinstall
    cases hinstall

theorem installApplet_ok (hlength : 1 ≤ aid.length ∧ aid.length ≤ 16) {w : W}
    (hdistinct : ∀ (i j : Nat) p q, h.applets[i]? = some p → h.applets[j]? = some q → p.1 = q.1 → i = j)
    (hrange : ∀ i, h.selected = some i → ∃ p, h.applets[i]? = some p)
    (hinstall : (Applet.install data a w).1 = .ok ()) :
    ∃ place h', h.installApplet aid a data w = (.ok (), h', (Applet.install data a w).2.2) ∧
      Installed aid (Applet.install data a w).2.1 place h h' := by
  have hfits : ¬ (aid.length = 0 ∨ 16 < aid.length) := by omega
  unfold installApplet
  rw [if_neg hfits]
  rcases hresult : Applet.install data a w with ⟨e | ⟨⟩, a', w'⟩
  · rw [hresult] at hinstall
    cases hinstall
  · cases hp : h.position aid with
    | none =>
      refine ⟨h.applets.length, { h with applets := h.applets ++ [(aid, a')] }, rfl, ?_, ?_, ?_, rfl⟩
      · intro i
        by_cases hi : i = h.applets.length
        · subst hi
          simp
        · rw [if_neg hi]
          by_cases hlt : i < h.applets.length
          · exact List.getElem?_append_left hlt
          · have hbeyond : (h.applets ++ [(aid, a')]).length ≤ i := by
              rw [List.length_append, List.length_singleton]
              omega
            exact (List.getElem?_eq_none hbeyond).trans (List.getElem?_eq_none (by omega)).symm
      · intro i p _ hi heq
        have habsent := List.findIdx?_eq_none_iff.mp hp p (List.mem_of_getElem? hi)
        simp [heq] at habsent
      · intro i
        refine ⟨fun hi => ⟨?_, hi⟩, And.right⟩
        obtain ⟨p, hp⟩ := hrange i hi
        have hlt := (List.getElem?_eq_some_iff.mp hp).1
        omega
    | some place =>
      obtain ⟨old, hold⟩ := position_some hp
      refine ⟨place, _, rfl, ?_, ?_, ?_, rfl⟩
      · intro i
        rw [getElem?_putApplet]
        by_cases hi : i = place
        · subst hi
          simp [hold]
        · have hne : ¬ place = i := fun heq => hi heq.symm
          simp [hi, hne]
      · intro i p hi hip heq
        exact hi (hdistinct i place p (aid, old) hip hold heq)
      · intro i
        by_cases hs : h.selected = some place
        · simp only [putApplet, if_pos hs]
          constructor
          · intro hi
            cases hi
          · rintro ⟨hi, hsi⟩
            rw [hs] at hsi
            cases hsi
            exact absurd rfl hi
        · simp only [putApplet, if_neg hs]
          refine ⟨fun hi => ⟨?_, hi⟩, And.right⟩
          rintro rfl
          exact hs hi

/-! ## Closing -/

theorem deselect_closed (h : AppletHost α) (w : W) : (h.deselect w).1.closed = h.closed := by
  cases hs : h.selected with
  | none => rw [deselect_none hs]
  | some index =>
    cases ha : h.applets[index]? with
    | none => rw [deselect_missing hs ha]
    | some installed =>
      rw [deselect_some hs ha]
      rfl

theorem selectAid_closed (aid : Bytes) (h : AppletHost α) (w : W) :
    (h.selectAid aid w).2.1.closed = h.closed := by
  have hdeselect := deselect_closed h w
  unfold selectAid
  split
  · rfl
  · simp only
    split <;> exact hdeselect

theorem installApplet_closed (aid : Bytes) (a : α) (data : Bytes) (h : AppletHost α) (w : W) :
    (h.installApplet aid a data w).2.1.closed = h.closed := by
  unfold installApplet
  split
  · rfl
  · split
    · rfl
    · split <;> rfl

theorem install_closed (aid data : Bytes) (h : AppletHost α) (w : W) :
    (h.install aid data w).2.1.closed = h.closed := by
  unfold install
  split
  · rfl
  · exact installApplet_closed _ _ _ _ w

theorem transmit_closed (command : Command) (h : AppletHost α) (w : W) :
    (CardChannel.transmit command h w).2.1.closed = h.closed := by
  simp only [CardChannel.transmit]
  split
  · rfl
  · simp only [dispatch]
    split
    · exact selectAid_closed command.payload h w
    · split <;> rfl

end AppletHost

namespace HostCall

variable {W α : Type} [Applet W α]

theorem request_closed (r : ChannelRequest) (h : AppletHost α) (w : W) :
    (r.perform h w).2.1.closed = (h.closed || r.ends) := by
  cases r with
  | transmit c | exchange c => exact (AppletHost.transmit_closed c h w).trans (Bool.or_false _).symm
  | disconnect reset => exact (Bool.or_true _).symm
  | close => exact (Bool.or_true _).symm
  | card r =>
    cases r with
    | basicTransmit c | logicalTransmit c =>
      exact (AppletHost.transmit_closed c h w).trans (Bool.or_false _).symm
    | disconnect reset => exact (Bool.or_true _).symm
    | _ => exact (Bool.or_false _).symm
  | _ => exact (Bool.or_false _).symm

theorem perform_closed (call : HostCall α) (h : AppletHost α) (w : W) :
    (call.perform h w).2.1.closed = (h.closed || call.ends) := by
  cases call with
  | installApplet aid applet data =>
    exact (AppletHost.installApplet_closed aid applet data h w).trans (Bool.or_false _).symm
  | offer applet => exact (Bool.or_false _).symm
  | install aid data => exact (AppletHost.install_closed aid data h w).trans (Bool.or_false _).symm
  | select aid => exact (AppletHost.selectAid_closed aid h w).trans (Bool.or_false _).symm
  | request r => exact request_closed r h w

/-- Nothing opens a host again. -/
theorem run_closed (calls : List (HostCall α)) (h : AppletHost α) (w : W) :
    (run calls h w).2.1.closed = (h.closed || calls.any ends) := by
  induction calls generalizing h w with
  | nil => exact (Bool.or_false _).symm
  | cons call calls ih =>
    rw [run_cons, ih, perform_closed, List.any_cons, Bool.or_assoc]

end HostCall

/-! ## The record does not interfere -/

namespace AppletHost

variable {W α : Type}

def bare (h : AppletHost (Numbered α)) : AppletHost α where
  atr := h.atr
  applets := h.applets.map fun installed => (installed.1, installed.2.applet)
  pending := h.pending.map Numbered.applet
  selected := h.selected
  closed := h.closed

theorem position_bare (aid : Bytes) (h : AppletHost (Numbered α)) : h.bare.position aid = h.position aid := by
  simp [position, bare, List.findIdx?_map, Function.comp_def]

theorem getElem?_bare (h : AppletHost (Numbered α)) (index : Nat) :
    h.bare.applets[index]? = h.applets[index]?.map fun installed => (installed.1, installed.2.applet) :=
  List.getElem?_map

theorem putApplet_bare (index : Nat) (a : Numbered α) (h : AppletHost (Numbered α)) :
    (h.putApplet index a).bare = h.bare.putApplet index a.applet := by
  refine ext_applets rfl rfl rfl rfl ?_
  intro i
  rw [getElem?_bare, getElem?_putApplet, getElem?_putApplet, getElem?_bare]
  cases h.applets[i]? with
  | none => rfl
  | some installed => by_cases hi : index = i <;> simp [hi]

variable [Applet W α]

theorem deselect_bare (h : AppletHost (Numbered α)) (v : Watched W) :
    h.bare.deselect v.world = ((h.deselect v).1.bare, (h.deselect v).2.world) := by
  cases hs : h.selected with
  | none =>
    rw [deselect_none hs, deselect_none (h := h.bare) hs]
  | some index =>
    have hbare := getElem?_bare h index
    cases ha : h.applets[index]? with
    | none =>
      rw [ha] at hbare
      rw [deselect_missing hs ha, deselect_missing (h := h.bare) hs hbare]
      rfl
    | some installed =>
      rw [ha] at hbare
      rw [deselect_some hs ha, deselect_some (h := h.bare) hs hbare, putApplet_bare]
      rfl

theorem selectAid_bare (aid : Bytes) (h : AppletHost (Numbered α)) (v : Watched W) :
    h.bare.selectAid aid v.world =
      ((h.selectAid aid v).1, (h.selectAid aid v).2.1.bare, (h.selectAid aid v).2.2.world) := by
  have hposition := position_bare aid h
  have hdeselect := deselect_bare h v
  cases hp : h.position aid with
  | none =>
    rw [hp] at hposition
    rw [selectAid_unknown hp, selectAid_unknown hposition]
  | some index =>
    rw [hp] at hposition
    have hbare := getElem?_bare (h.deselect v).1 index
    cases ha : (h.deselect v).1.applets[index]? with
    | none =>
      rw [ha] at hbare
      simp only [selectAid, hp, hposition, hdeselect, ha, hbare, Option.map_none]
      rfl
    | some installed =>
      rw [ha] at hbare
      rw [selectAid_known hp v ha, selectAid_known hposition v.world (by rw [hdeselect]; exact hbare), hdeselect,
        putApplet_bare]
      rfl

theorem dispatch_bare (command : Command) (h : AppletHost (Numbered α)) (v : Watched W) :
    h.bare.dispatch command v.world =
      ((h.dispatch command v).1, (h.dispatch command v).2.1.bare, (h.dispatch command v).2.2.world) := by
  unfold dispatch
  by_cases hc : command.isSelectByAid = true
  · rw [if_pos hc, if_pos hc]
    exact selectAid_bare command.payload h v
  · rw [if_neg hc, if_neg hc]
    have hfound : (h.bare.selected.bind fun index =>
        h.bare.applets[index]?.map fun installed => (index, installed.2)) =
          (h.selected.bind fun index => h.applets[index]?.map fun installed => (index, installed.2)).map
            fun found => (found.1, found.2.applet) := by
      have hs : h.bare.selected = h.selected := rfl
      rw [hs]
      cases h.selected with
      | none => rfl
      | some index => simp [getElem?_bare, Function.comp_def]
    rw [hfound]
    cases h.selected.bind fun index => h.applets[index]?.map fun installed => (index, installed.2) with
    | none => rfl
    | some found =>
      simp only [Option.map_some, putApplet_bare]
      rfl

theorem installApplet_bare (aid : Bytes) (a : Numbered α) (data : Bytes) (h : AppletHost (Numbered α))
    (v : Watched W) :
    h.bare.installApplet aid a.applet data v.world =
      ((h.installApplet aid a data v).1, (h.installApplet aid a data v).2.1.bare,
        (h.installApplet aid a data v).2.2.world) := by
  unfold installApplet
  by_cases hlength : aid.length = 0 ∨ 16 < aid.length
  · rw [if_pos hlength, if_pos hlength]
  · rw [if_neg hlength, if_neg hlength, position_bare]
    simp only [Applet.install]
    rcases Applet.install data a.applet v.world with ⟨e | ⟨⟩, applet, world⟩
    · rfl
    · cases hp : h.position aid with
      | none => simp [bare, Watched.saw]
      | some index =>
        simp only [putApplet_bare]
        rfl

theorem install_bare (aid data : Bytes) (h : AppletHost (Numbered α)) (v : Watched W) :
    h.bare.install aid data v.world =
      ((h.install aid data v).1, (h.install aid data v).2.1.bare, (h.install aid data v).2.2.world) := by
  have hpending : h.bare.pending = h.pending.map Numbered.applet := rfl
  unfold install
  rw [hpending]
  cases h.pending with
  | none => rfl
  | some a => exact installApplet_bare aid a data { h with pending := none } v

theorem disconnect_bare (reset : Bool) (h : AppletHost (Numbered α)) (v : Watched W) :
    h.bare.disconnect reset v.world = ((h.disconnect reset v).1.bare, (h.disconnect reset v).2.world) := by
  cases reset with
  | false => rfl
  | true =>
    simp only [disconnect, if_true, deselect_bare]
    rfl

theorem transmit_bare (command : Command) (h : AppletHost (Numbered α)) (v : Watched W) :
    CardChannel.transmit command h.bare v.world =
      ((CardChannel.transmit command h v).1, (CardChannel.transmit command h v).2.1.bare,
        (CardChannel.transmit command h v).2.2.world) := by
  have hclosed : h.bare.closed = h.closed := rfl
  simp only [CardChannel.transmit, hclosed, dispatch_bare]
  cases h.closed <;> rfl

end AppletHost

namespace HostCall

variable {W α : Type}

def bare : HostCall (Numbered α) → HostCall α
  | .installApplet aid a data => .installApplet aid a.applet data
  | .offer a => .offer a.applet
  | .install aid data => .install aid data
  | .select aid => .select aid
  | .request r => .request r

def numbered (number : Nat) : HostCall α → HostCall (Numbered α)
  | .installApplet aid applet data => .installApplet aid ⟨number, applet⟩ data
  | .offer applet => .offer ⟨number, applet⟩
  | .install aid data => .install aid data
  | .select aid => .select aid
  | .request r => .request r

/-- An applet gets the number of the call that brings it, counted from `first`. -/
def numberedFrom (first : Nat) (calls : List (HostCall α)) : List (HostCall (Numbered α)) :=
  (calls.zipIdx first).map fun p => p.1.numbered p.2

theorem numberedFrom_bare (first : Nat) (calls : List (HostCall α)) :
    (numberedFrom first calls).map bare = calls := by
  have hbare : ∀ (call : HostCall α) (n : Nat), (call.numbered n).bare = call := by
    intro call n
    cases call <;> rfl
  simp [numberedFrom, Function.comp_def, hbare]

variable [Applet W α]

theorem request_bare (r : ChannelRequest) (h : AppletHost (Numbered α)) (v : Watched W) :
    r.perform h.bare v.world =
      ((r.perform h v).1, (r.perform h v).2.1.bare, (r.perform h v).2.2.world) := by
  have htransmit := fun c => AppletHost.transmit_bare c h v
  have hdisconnect := fun reset => AppletHost.disconnect_bare reset h v
  cases r with
  | transmit c | exchange c =>
    simp only [ChannelRequest.perform, htransmit]
    rfl
  | disconnect reset =>
    simp only [ChannelRequest.perform, CardChannel.disconnect, hdisconnect]
    rfl
  | card r =>
    cases r with
    | basicTransmit c | logicalTransmit c =>
      simp only [ChannelRequest.perform, CardRequest.perform, htransmit]
      rfl
    | disconnect reset =>
      simp only [ChannelRequest.perform, CardRequest.perform, CardChannel.disconnect, hdisconnect]
      rfl
    | _ => rfl
  | _ => rfl

theorem perform_bare (call : HostCall (Numbered α)) (h : AppletHost (Numbered α)) (v : Watched W) :
    call.bare.perform h.bare v.world =
      ((call.perform h v).1, (call.perform h v).2.1.bare, (call.perform h v).2.2.world) := by
  cases call with
  | installApplet aid a data => simp only [bare, perform, AppletHost.installApplet_bare]
  | offer a => rfl
  | install aid data => simp only [bare, perform, AppletHost.install_bare]
  | select aid => simp only [bare, perform, AppletHost.selectAid_bare]
  | request r => simp only [bare, perform, request_bare]

theorem run_bare (calls : List (HostCall (Numbered α))) (h : AppletHost (Numbered α)) (v : Watched W) :
    run (calls.map bare) h.bare v.world =
      ((run calls h v).1, (run calls h v).2.1.bare, (run calls h v).2.2.world) := by
  induction calls generalizing h v with
  | nil => rfl
  | cons call calls ih => simp only [List.map_cons, run_cons, perform_bare, ih]

end HostCall
end CardLink
