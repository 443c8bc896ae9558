import CardLink.Connection.Error

/-!
# Errors in context

Messages can be put around an error, one around the other. Whether a channel is lost is told by the error inside
all of them. Whether trying again is pointless is told by the outermost one alone: an error of configuration counts
as one only while there is no message around it, to a channel and to a connection alike.
-/

namespace CardLink

namespace ChannelError

/-- The error inside all messages. -/
def root : ChannelError → ChannelError
  | .context _ source => source.root
  | e => e

/-- The messages around the root, the first one innermost. -/
def notes : ChannelError → List String
  | .context note source => source.notes ++ [note]
  | _ => []

theorem root_withContext (e : ChannelError) (messages : List String) : (e.withContext messages).root = e.root := by
  induction messages generalizing e with
  | nil => rfl
  | cons message messages ih => exact ih (.context message e)

theorem notes_withContext (e : ChannelError) (messages : List String) :
    (e.withContext messages).notes = e.notes ++ messages := by
  induction messages generalizing e with
  | nil => exact (List.append_nil _).symm
  | cons message messages ih =>
    have hcons : (e.withContext (message :: messages)).notes = (e.notes ++ [message]) ++ messages :=
      ih (.context message e)
    rw [hcons, List.append_assoc]
    rfl

theorem isTerminal_root (e : ChannelError) : e.root.isTerminal = e.isTerminal := by
  induction e with
  | context note source ih => exact ih
  | _ => rfl

/-- A message around an error of configuration hides it. -/
theorem isConfig_iff (e : ChannelError) : e.isConfig = true ↔ e.root.isConfig = true ∧ e.notes = [] := by
  cases e with
  | context note source =>
    constructor
    · intro h
      cases h
    · rintro ⟨-, hnotes⟩
      simp [notes] at hnotes
  | _ => simp [root, notes]

theorem isConfig_withContext (e : ChannelError) (messages : List String) :
    (e.withContext messages).isConfig = true ↔ e.isConfig = true ∧ messages = [] := by
  rw [isConfig_iff, isConfig_iff e, root_withContext, notes_withContext, List.append_eq_nil_iff, and_assoc]

/-- Puts messages around the error of a result, one step after the other. -/
def contextualize {α : Type} (result : Except ChannelError α) (messages : List String) : Except ChannelError α :=
  messages.foldl (fun result message => result.mapError (.context message)) result

theorem contextualize_ok {α : Type} (value : α) (messages : List String) :
    contextualize (.ok value) messages = .ok value := by
  induction messages with
  | nil => rfl
  | cons message messages ih => exact ih

theorem contextualize_error {α : Type} (e : ChannelError) (messages : List String) :
    contextualize (.error e : Except ChannelError α) messages = .error (e.withContext messages) := by
  induction messages generalizing e with
  | nil => rfl
  | cons message messages ih => exact ih (.context message e)

/-- Messages leave it as it is whether a channel is lost. They leave it as it is whether an error is one of
configuration just when it is none, or there are no messages; a connection says the same as its channel. -/
theorem context_keeps_class_iff (e : ChannelError) (messages : List String) :
    (e.withContext messages).isTerminal = e.isTerminal ∧
    ((e.withContext messages).isConfig = e.isConfig ↔ e.isConfig = false ∨ messages = []) ∧
    (ConnectionError.card (e.withContext messages)).isConfig = (e.withContext messages).isConfig ∧
    ((e.withContext messages).isConfig = true ↔ e.isConfig = true ∧ messages = []) ∧
    ∀ (α : Type) (result : Except ChannelError α),
      contextualize result messages = result.mapError (·.withContext messages) := by
  refine ⟨?_, ?_, rfl, isConfig_withContext e messages, ?_⟩
  · rw [← isTerminal_root, root_withContext, isTerminal_root]
  · have hconfig := isConfig_withContext e messages
    by_cases hnone : messages = []
    · simp [hnone, withContext]
    · have hhidden : (e.withContext messages).isConfig = false := by
        rw [Bool.eq_false_iff]
        intro h
        exact hnone (hconfig.mp h).2
      rw [hhidden]
      constructor
      · intro hsame
        exact Or.inl hsame.symm
      · rintro (hother | hnil)
        · exact hother.symm
        · exact absurd hnil hnone
  · intro α result
    cases result with
    | error e' => exact contextualize_error e' messages
    | ok value => exact contextualize_ok value messages

/-- One message around a channel that is wrapped already. -/
theorem context_hides_config :
    let e := ChannelError.doubleWrap
    let wrapped := e.withContext ["opening reader"]
    e.isConfig = true ∧ wrapped.isConfig = false ∧
      (ConnectionError.card e).isConfig = true ∧ (ConnectionError.card wrapped).isConfig = false ∧
      ¬ ∀ (e : ChannelError) (messages : List String), (e.withContext messages).isConfig = e.isConfig := by
  refine ⟨rfl, rfl, rfl, rfl, ?_⟩
  intro h
  have hsame := h .doubleWrap ["opening reader"]
  cases hsame

end ChannelError
end CardLink
