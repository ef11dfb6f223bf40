import Mathlib.Data.List.Induction
import Lockstep.Command

/-!
# What commands say about who has joined

A join and a leave settle whether a client has joined, and the last one of several commands that
does so counts (`SequencedCommand.standingOf?`).
-/

set_option autoImplicit false

namespace Lockstep

/-- Whether a client has joined when its action has taken effect, if the action settles that. -/
def CommandAction.standing? : CommandAction → Option Bool
  | .join _ => some true
  | .leave => some false
  | _ => none

namespace SequencedCommand

/-- Whether a client has joined when the command has taken effect, if it is a join or a leave of
that client. -/
def standing? (command : SequencedCommand) (client : ClientId) : Option Bool :=
  if command.client = client then command.action.standing? else none

/-- Whether a client has joined when some commands have taken
effect, if one of them settles that. -/
def standingOf? (commands : List SequencedCommand) (client : ClientId) : Option Bool :=
  (commands.filterMap (·.standing? client)).getLast?

/-- What later commands settle counts. -/
theorem standingOf?_append (commands later : List SequencedCommand) (client : ClientId) :
    standingOf? (commands ++ later) client =
      (standingOf? later client).or (standingOf? commands client) := by
  rw [standingOf?, List.filterMap_append, List.getLast?_append]
  rfl

theorem standingOf?_concat (commands : List SequencedCommand) (last : SequencedCommand)
    (client : ClientId) :
    standingOf? (commands ++ [last]) client =
      (last.standing? client).or (standingOf? commands client) := by
  rw [standingOf?_append]
  congr 1
  rw [standingOf?, List.filterMap_cons, List.filterMap_nil]
  cases last.standing? client <;> rfl

/-- Commands of others settle nothing. -/
theorem standingOf?_of_others {commands : List SequencedCommand} {client : ClientId}
    (others : ∀ command ∈ commands, command.client ≠ client) :
    standingOf? commands client = none := by
  have none : commands.filterMap (·.standing? client) = [] :=
    List.filterMap_eq_nil_iff.mpr fun command member => if_neg (others command member)
  rw [standingOf?, none]
  rfl

end SequencedCommand

/-- The last value of those that there are is that of the last one that has a value. -/
theorem getLast?_filterMap {α β : Type} (value? : α → Option β) (list : List α) :
    (list.filterMap value?).getLast? =
      (list.filter fun member => (value? member).isSome).getLast?.bind value? := by
  induction list using List.reverseRecOn with
  | nil => rfl
  | append_singleton list last inductionHypothesis =>
    rw [List.filterMap_append, List.filter_append, List.getLast?_append, List.getLast?_append,
      inductionHypothesis]
    cases found : value? last with
    | none => simp [found]
    | some value => simp [found]

end Lockstep
