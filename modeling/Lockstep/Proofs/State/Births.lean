import Lockstep.Proofs.State.Passage

/-!
# Who comes on a route

The entities that come while a machine passes through some states are its `births`, and the threads
that are started are its `starts`. As long as there are fewer of them than numbers, a route from the
empty state has them in its ledgers (`State.Route.entityLedger`, `State.Route.threadLedger`).
Whoever is alive or referred to on the way has come by then (`State.Route.living`,
`State.Route.referred`), and stays who came (`State.Route.lasts`).

The births are also all the entities that were made (`State.Route.edits`). So what edits keep while
there are fewer than `2 ^ 32` entities made holds on every route with fewer births.
-/

set_option autoImplicit false

namespace Lockstep

/-- The entities that come while a machine goes on from a state through some others. -/
def State.arrivals (first : State) (passed : List State) : List (EntityId × Entity) :=
  Table.arrivals first.entities.entities (passed.map fun state => state.entities.entities)

/-- A ledger of all who have come to the entities of a state. -/
def State.Ledger (state : State) (log : List (EntityId × Entity)) : Prop :=
  entityNumbering.Ledger log state.entities.entities state.entities.nextId.toNat

/-- The entities that come while a machine passes through some
states, each as it is when it comes. -/
def births (passed : List State) : List (EntityId × Entity) :=
  Table.arrivals Table.empty (passed.map fun state => state.entities.entities)

/-- The threads that are started while a machine passes through some states. -/
def starts (passed : List State) : List (ThreadId × Thread) :=
  Table.arrivals Table.empty (passed.map State.threads)

theorem State.arrivals_mono (first : State) {earlier passed : List State}
    (upTo : earlier <+: passed) : first.arrivals earlier <+: first.arrivals passed :=
  Table.arrivals_mono _ (upTo.map _)

/-- Those who have come stay the first ones. -/
theorem births_mono {earlier passed : List State} (upTo : earlier <+: passed) :
    births earlier <+: births passed :=
  State.empty.arrivals_mono upTo

/-- A state on the way is the last one up to there. -/
theorem upTo_initial (earlier later : List State) (state : State) :
    earlier ++ [state] <+: earlier ++ state :: later :=
  ⟨later, (List.append_cons earlier state later).symm⟩

theorem mem_births_of_upTo {earlier later : List State} {state : State}
    {entry : EntityId × Entity} (member : entry ∈ births (earlier ++ [state])) :
    entry ∈ births (earlier ++ state :: later) :=
  (births_mono (upTo_initial earlier later state)).mem member

theorem length_births_upTo_lt {earlier later : List State} {state : State}
    (few : (births (earlier ++ state :: later)).length < 2 ^ 32) :
    (births (earlier ++ [state])).length < 2 ^ 32 :=
  Nat.lt_of_le_of_lt (births_mono (upTo_initial earlier later state)).length_le few

theorem length_starts_upTo_lt {earlier later : List State} {state : State}
    (few : (starts (earlier ++ state :: later)).length < 2 ^ 64) :
    (starts (earlier ++ [state])).length < 2 ^ 64 := by
  have upTo := Table.arrivals_mono Table.empty
    ((upTo_initial earlier later state).map State.threads)
  exact Nat.lt_of_le_of_lt upTo.length_le few

namespace State

variable {passed earlier later : List State} {state last : State}

namespace Route

theorem entityLedger (route : Route State.empty passed last)
    (few : (births passed).length < 2 ^ 32) :
    entityNumbering.Ledger (births passed) last.entities.entities last.entities.nextId.toNat :=
  route.ledger entityNumbering (fun state => state.entities.entities)
    (fun state => state.entities.nextId.toNat) (fun _ _ passes => passes.entities) .empty few

theorem threadLedger (route : Route State.empty passed last)
    (few : (starts passed).length < 2 ^ 64) :
    threadNumbering.Ledger (starts passed) last.threads last.nextThreadSeq.toNat :=
  route.ledger threadNumbering State.threads (fun state => state.nextThreadSeq.toNat)
    (fun _ _ passes => passes.threads) .empty few

/-- Whoever is alive in a state on the way has come by then. -/
theorem living (route : Route State.empty (earlier ++ state :: later) last)
    (few : (births (earlier ++ state :: later)).length < 2 ^ 32) {id : EntityId} {entity : Entity}
    (found : state.entities.get? id = some entity) :
    ∃ original, (id, original) ∈ births (earlier ++ [state]) ∧ original.Lasts entity :=
  (route.upTo.entityLedger (length_births_upTo_lt few)).known id entity found

/-- The next number is not that of a thread that is there. -/
theorem thread_ne_next (route : Route State.empty passed last)
    (few : (starts passed).length < 2 ^ 64) (passing : state ∈ State.empty :: passed)
    {id : ThreadId} (present : state.threads.contains id = true) :
    id.seq ≠ state.nextThreadSeq + 1 := by
  obtain rfl | later := List.mem_cons.mp passing
  · cases present
  · obtain ⟨earlier, later, rfl⟩ := List.append_of_mem later
    intro same
    have number : threadNumbering.number id = (state.nextThreadSeq.toNat + 1) % 2 ^ 64 :=
      (congrArg UInt64.toNat same).trans (UInt64.toNat_add _ _)
    have few := length_starts_upTo_lt few
    exact (route.upTo.threadLedger few).fresh few number present

/-- The next identity is not that of an entity that is alive. -/
theorem entity_fresh (route : Route State.empty passed last)
    (few : (births passed).length < 2 ^ 32) (passing : state ∈ passed) :
    ¬ state.entities.contains ⟨state.entities.nextId + 1⟩ = true := by
  obtain ⟨earlier, later, rfl⟩ := List.append_of_mem passing
  have few := length_births_upTo_lt few
  exact (route.upTo.entityLedger few).fresh few (UInt32.toNat_add _ _)

/-- Whoever is referred to in the end has come. -/
theorem referred (route : Route State.empty passed last)
    (few : (births passed).length < 2 ^ 32) {id : EntityId} (refers : last.Refers id) :
    ∃ original, (id, original) ∈ births passed := by
  refine route.known (fun id => ∃ original, (id, original) ∈ births passed) ?_ ?_ id refers
  · rintro id (⟨owner, thread, found, _⟩ | ⟨client, bound⟩)
    · exact nomatch found
    · exact nomatch bound
  · intro state member id present
    obtain rfl | passing := List.mem_cons.mp member
    · exact nomatch present
    · obtain ⟨earlier, later, rfl⟩ := List.append_of_mem passing
      obtain ⟨entity, found⟩ := Table.contains_iff.mp present
      obtain ⟨original, come, _⟩ := route.living few found
      exact ⟨original, mem_births_of_upTo come⟩

/-- Nobody else is ever found under the identity of one who has come. -/
theorem lasts (route : Route State.empty passed last) (few : (births passed).length < 2 ^ 32)
    {id : EntityId} {original entity : Entity} (come : (id, original) ∈ births passed)
    (passing : state ∈ passed) (found : state.entities.get? id = some entity) :
    original.Lasts entity := by
  obtain ⟨earlier, later, rfl⟩ := List.append_of_mem passing
  obtain ⟨other, member, lasts⟩ := route.living few found
  rw [(route.entityLedger few).unique come (mem_births_of_upTo member)]
  exact lasts

end Route

/-! ## Births and edits -/

theorem arrivals_cons (first next : State) (rest : List State) :
    first.arrivals (next :: rest) = first.arrivals [next] ++ next.arrivals rest := by
  rw [arrivals, arrivals, List.map_cons, Table.arrivals, List.map_singleton, Table.arrivals,
    Table.arrivals, List.append_nil]
  rfl

/-- Nobody comes where nothing happens. -/
theorem arrivals_self (state : State) (rest : List State) :
    state.arrivals (state :: rest) = state.arrivals rest := by
  rw [arrivals, List.map_cons, Table.arrivals, Table.newcomers_eq_nil fun _ => id]
  rfl

/-- Who comes later comes after the last of those before. -/
theorem Route.arrivals_append {first : State} (route : Route first passed last)
    (later : List State) :
    first.arrivals (passed ++ later) = first.arrivals passed ++ last.arrivals later := by
  induction route with
  | here => rfl
  | next _ _ inductionHypothesis =>
    rw [List.cons_append, arrivals_cons, inductionHypothesis, ← List.append_assoc, ← arrivals_cons]

theorem Ledger.next {before after : State} {log : List (EntityId × Entity)}
    (ledger : before.Ledger log) (follow : before.EntitiesFollow after)
    (room : (log ++ before.arrivals [after]).length < 2 ^ 32) :
    after.Ledger (log ++ before.arrivals [after]) := by
  have one : before.arrivals [after] =
      Table.newcomers before.entities.entities after.entities.entities := List.append_nil _
  rw [one] at room ⊢
  exact Numbering.Ledger.follow ledger follow room

/-- What makes at most one entity makes no more entities than come. -/
theorem Changed.counted {before after : State} {threads : Nat} {events : List SoundEvent}
    (changed : before.Changed 1 threads events after) (follow : before.EntitiesFollow after)
    {log : List (EntityId × Entity)} (ledger : before.Ledger log)
    (room : (log ++ before.arrivals [after]).length < 2 ^ 32) :
    before.Changed (before.arrivals [after]).length threads events after := by
  have counted := Numbering.Ledger.count_eq (ledger.next follow room)
  obtain ⟨deeds, edits, heard, made, rest⟩ := changed
  refine ⟨deeds, edits, heard, ?_, rest⟩
  obtain nobody | somebody := Nat.eq_zero_or_pos (before.arrivals [after]).length
  · -- The counter stands where it stood, which it does not when an entity was made.
    rw [List.length_append, nobody, Nat.add_zero, ← Numbering.Ledger.count_eq ledger] at counted
    have moved := edits.nextId
    rw [UInt32.toNat_inj.mp counted] at moved
    obtain zero | one : (entitiesMade deeds).length = 0 ∨ (entitiesMade deeds).length = 1 := by
      omega
    · exact Nat.le_of_eq (zero.trans nobody.symm)
    · rw [one] at moved
      have wrapped := congrArg UInt32.toNat moved
      rw [UInt32.toNat_add] at wrapped
      have bound := before.entities.nextId.toNat_lt
      exact absurd wrapped (by simp only [UInt32.reduceOfNat, UInt32.reduceToNat]; omega)
  · exact made.trans somebody

namespace Route

/-- A route makes no more entities than come. -/
theorem edits_arrivals {first : State} (route : Route first passed last)
    {log : List (EntityId × Entity)} (ledger : first.Ledger log)
    (room : (log ++ first.arrivals passed).length < 2 ^ 32) :
    ∃ deeds, Edits first deeds last ∧
      (entitiesMade deeds).length ≤ (first.arrivals passed).length := by
  induction route generalizing log with
  | here => exact ⟨[], .none _, Nat.zero_le _⟩
  | next passes _ inductionHypothesis =>
    rw [arrivals_cons] at room ⊢
    rw [← List.append_assoc] at room
    have enough := Nat.lt_of_le_of_lt (List.prefix_append _ _).length_le room
    obtain ⟨threads, events, changed⟩ := passes.changed
    obtain ⟨deeds, edits, made⟩ := (changed.counted passes.entities ledger enough).edits
    obtain ⟨later, rest, more⟩ := inductionHypothesis (ledger.next passes.entities enough) room
    refine ⟨deeds ++ later, edits.trans rest, ?_⟩
    rw [entitiesMade_append, List.length_append, List.length_append]
    exact Nat.add_le_add made more

theorem reached (route : Route State.empty passed last) (few : (births passed).length < 2 ^ 32) :
    last.Reached (births passed).length :=
  route.edits_arrivals .empty few

/-- **Only edits lead to the end of a route, and they make fewer than `2 ^ 32` entities**, if fewer
come. -/
theorem edits (route : Route State.empty passed last) (few : (births passed).length < 2 ^ 32) :
    ∃ deeds, Edits State.empty deeds last ∧ (entitiesMade deeds).length < 2 ^ 32 := by
  obtain ⟨deeds, edits, made⟩ := route.reached few
  exact ⟨deeds, edits, Nat.lt_of_le_of_lt made few⟩

/-- So they do to each state on the way. -/
theorem edits_of_mem (route : Route State.empty passed last)
    (few : (births passed).length < 2 ^ 32) (passing : state ∈ passed) :
    ∃ deeds, Edits State.empty deeds state ∧ (entitiesMade deeds).length < 2 ^ 32 := by
  obtain ⟨earlier, later, rfl⟩ := List.append_of_mem passing
  exact route.upTo.edits (length_births_upTo_lt few)

end Route
end State
end Lockstep
