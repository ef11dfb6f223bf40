import Mathlib.Data.List.Chain

/-!
# Paths

A path goes from one thing to another by single steps, and lists all the things that it comes to on
the way. Any two of them that follow one another are one step apart (`Path.isChain`), and what every
step keeps holds all along the path (`Path.forall_mem`).
-/

set_option autoImplicit false

namespace Lockstep

/-- From one thing to another one, step by step, through some things. If there are any, the other
one is the last of them. -/
inductive Path {α : Type} (step : α → α → Prop) : α → List α → α → Prop where
  | here (point : α) : Path step point [] point
  | next {first middle last : α} {passed : List α} :
      step first middle → Path step middle passed last → Path step first (middle :: passed) last

namespace Path

variable {α : Type} {step other : α → α → Prop} {first middle last : α}
  {passed earlier later : List α}

theorem one (taken : step first last) : Path step first [last] last := .next taken (.here last)

theorem trans (start : Path step first earlier middle) (rest : Path step middle later last) :
    Path step first (earlier ++ later) last := by
  induction start with
  | here => exact rest
  | next taken _ inductionHypothesis => exact .next taken (inductionHypothesis rest)

theorem mono (weaker : ∀ before after, step before after → other before after)
    (path : Path step first passed last) : Path other first passed last := by
  induction path with
  | here point => exact .here point
  | next taken _ inductionHypothesis => exact .next (weaker _ _ taken) inductionHypothesis

/-- The things on a path are a chain of steps. -/
theorem isChain (path : Path step first passed last) : (first :: passed).IsChain step := by
  induction path with
  | here point => exact .singleton point
  | next taken _ inductionHypothesis => exact .cons_cons taken inductionHypothesis

/-- **What every step keeps holds all along a path.** -/
theorem forall_mem {kept : α → Prop} (path : Path step first passed last) (start : kept first)
    (keep : ∀ before after, step before after → kept before → kept after) :
    ∀ point ∈ first :: passed, kept point :=
  List.forall_mem_cons.mpr ⟨start, path.isChain.cons_induction kept passed keep start⟩

/-- So it holds at the end. -/
theorem keep {kept : α → Prop} (path : Path step first passed last) (start : kept first)
    (keep : ∀ before after, step before after → kept before → kept after) : kept last := by
  induction path with
  | here point => exact start
  | next taken _ inductionHypothesis => exact inductionHypothesis (keep _ _ taken start)

end Path
end Lockstep
