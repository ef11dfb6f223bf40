import Mathlib.Algebra.GroupWithZero.Nat
import Lockstep.Command

/-!
# Commands in order

Commands are put in the order of their sequence numbers before they are applied. Commands that are
in order stay as they are, so it does not matter whether this is done once or twice.

Sequence numbers and ticks are counted in sixty-four bits, and go up as long as these have room
(`toNat_next`).
-/

set_option autoImplicit false

namespace Lockstep

/-- A counter that has room goes up by one. -/
theorem toNat_next {count : UInt64} (room : count.toNat + 1 < 2 ^ 64) :
    (count + 1).toNat = count.toNat + 1 := by
  rw [UInt64.toNat_add]
  exact Nat.mod_eq_of_lt room

namespace SequencedCommand

/-- Commands that are in order stay as they are when they are put in order. -/
theorem sort_of_ordered {commands : List SequencedCommand}
    (ordered : commands.Pairwise fun first second => first.seq ≤ second.seq) :
    sort commands = commands :=
  List.mergeSort_of_pairwise (ordered.imp fun before => decide_eq_true before)

theorem sort_ordered (commands : List SequencedCommand) :
    (sort commands).Pairwise fun first second => first.seq ≤ second.seq := by
  refine List.Pairwise.imp of_decide_eq_true (List.pairwise_mergeSort ?_ ?_ commands)
  · intro first second third firstSecond secondThird
    exact decide_eq_true
      (UInt64.le_trans (of_decide_eq_true firstSecond) (of_decide_eq_true secondThird))
  · intro first second
    rw [Bool.or_eq_true, decide_eq_true_eq, decide_eq_true_eq]
    exact UInt64.le_total first.seq second.seq

theorem sort_sort (commands : List SequencedCommand) : sort (sort commands) = sort commands :=
  sort_of_ordered (sort_ordered commands)

/-- A sum over some commands does not depend on their order. -/
theorem sum_map_sort (count : SequencedCommand → Nat) (commands : List SequencedCommand) :
    ((sort commands).map count).sum = (commands.map count).sum :=
  ((List.mergeSort_perm commands _).map count).sum_nat

end SequencedCommand
end Lockstep
