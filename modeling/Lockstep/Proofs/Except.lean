/-!
# Steps that may fail

A chain of steps gives a value when every step gives one and hands it to the next.
-/

set_option autoImplicit false

namespace Lockstep

variable {ε α β : Type}

instance decidableEqExcept [DecidableEq ε] [DecidableEq α] : DecidableEq (Except ε α)
  | .ok first, .ok second => decidable_of_iff (first = second) (by simp)
  | .error first, .error second => decidable_of_iff (first = second) (by simp)
  | .ok _, .error _ => isFalse nofun
  | .error _, .ok _ => isFalse nofun

theorem bind_eq_ok_iff {result : Except ε α} {next : α → Except ε β} {value : β} :
    result >>= next = .ok value ↔ ∃ given, result = .ok given ∧ next given = .ok value := by
  cases result with
  | error cause => simp [bind, Except.bind]
  | ok given => simp [bind, Except.bind]

/-- What stands behind a check is reached only when the check does not fail. -/
theorem guard_eq_ok_iff {refused : Prop} [Decidable refused] {cause : ε}
    {after : β → Except ε α} {next : Except ε α} {value : α} :
    (if refused then throw cause >>= after else next) = .ok value ↔
      ¬ refused ∧ next = .ok value := by
  by_cases fails : refused
  · simp [fails, throw, throwThe, MonadExceptOf.throw, bind, Except.bind]
  · simp [fails]

/-- What steps give one by one is what each of them gives. -/
theorem exists_of_mem_mapM {step : α → Except ε β} {items : List α} {results : List β}
    (done : items.mapM step = .ok results) {result : β} (member : result ∈ results) :
    ∃ item ∈ items, step item = .ok result := by
  induction items generalizing results with
  | nil =>
    obtain rfl := Except.ok.inj done
    exact absurd member List.not_mem_nil
  | cons first rest inductionHypothesis =>
    rw [List.mapM_cons, bind_eq_ok_iff] at done
    obtain ⟨here, made, done⟩ := done
    obtain ⟨others, later, done⟩ := bind_eq_ok_iff.mp done
    obtain rfl := Except.ok.inj done
    rcases List.mem_cons.mp member with rfl | member
    · exact ⟨first, List.mem_cons_self, made⟩
    · obtain ⟨item, listed, made⟩ := inductionHypothesis later member
      exact ⟨item, List.mem_cons_of_mem _ listed, made⟩

theorem forM_eq_ok_iff {step : α → Except ε Unit} {items : List α} :
    items.forM step = .ok () ↔ ∀ item ∈ items, step item = .ok () := by
  induction items with
  | nil => simp [List.forM, pure, Except.pure]
  | cons first rest inductionHypothesis =>
    rw [List.forM, bind_eq_ok_iff, List.forall_mem_cons, ← inductionHypothesis]
    exact ⟨fun ⟨_, here, others⟩ => ⟨here, others⟩, fun ⟨here, others⟩ => ⟨(), here, others⟩⟩

end Lockstep
