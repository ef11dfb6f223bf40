import Lockstep.Proofs.Avatar.Departure
import Lockstep.Proofs.Machine.Chronicle
import Lockstep.Proofs.Machine.Churn
import Lockstep.Proofs.State.Births

/-!
# Avatars in histories

Whatever is done with a machine that starts empty, clients and their avatars are tied one to one,
also after every command and every single instruction of a tick, and whoever removes an avatar
unties exactly its client (`Machine.history_avatars`).
-/

set_option autoImplicit false

namespace Lockstep

/-- What is written down of clients and their avatars. -/
structure State.AvatarsAgree (state : State) : Prop where
  /-- An entity is the avatar of a client when it is alive and has that client. -/
  tied : ∀ client id, state.avatarOf? client = some id ↔
    ∃ entity, state.entities.get? id = some entity ∧ entity.client = some client
  kind : ∀ id entity client, state.entities.get? id = some entity →
    entity.client = some client → entity.kind = .avatar
  /-- No client has two avatars. -/
  oneAvatar : ∀ first second client,
    (∃ entity, state.entities.get? first = some entity ∧ entity.client = some client) →
      (∃ entity, state.entities.get? second = some entity ∧ entity.client = some client) →
        first = second
  /-- No avatar has two clients. -/
  oneClient : ∀ first second id, state.avatarOf? first = some id →
    state.avatarOf? second = some id → first = second

namespace State

theorem clientOf?_eq_some_iff {state : State} {id : EntityId} {client : ClientId} :
    state.clientOf? id = some client ↔
      ∃ entity, state.entities.get? id = some entity ∧ entity.client = some client :=
  Option.bind_eq_some_iff

theorem AvatarsAgree.clientsKnown {state : State} (agree : state.AvatarsAgree) :
    state.ClientsKnown := by
  intro id client owned
  exact (agree.tied client id).mpr (clientOf?_eq_some_iff.mp owned)

theorem AvatarsAgree.avatarsAlive {state : State} (agree : state.AvatarsAgree) :
    state.AvatarsAlive := by
  intro client id bound
  exact clientOf?_eq_some_iff.mpr ((agree.tied client id).mp bound)

/-- What edits lead to from the empty state is written down in agreement. -/
theorem Edits.avatarsAgree {state : State} {deeds : List Deed}
    (edits : Edits State.empty deeds state) (few : (entitiesMade deeds).length < 2 ^ 32) :
    state.AvatarsAgree := by
  have known : state.ClientsKnown := edits.clientsKnown
  have alive : state.AvatarsAlive := edits.avatarsAlive few
  constructor
  case tied =>
    intro client id
    rw [← clientOf?_eq_some_iff]
    exact ⟨alive client id, known id client⟩
  case kind =>
    intro id entity client found owned
    exact edits.kind_of_client id entity found owned
  case oneAvatar =>
    intro first second client firstOwned secondOwned
    have one := known first client (clientOf?_eq_some_iff.mpr firstOwned)
    have other := known second client (clientOf?_eq_some_iff.mpr secondOwned)
    exact Option.some.inj (one.symm.trans other)
  case oneClient =>
    intro first second id firstBound secondBound
    have one := alive first id firstBound
    have other := alive second id secondBound
    exact Option.some.inj (one.symm.trans other)

end State

namespace Machine

variable {library : Library} {settings : Settings}

/-- **Clients and avatars are tied one to one** after every history and at every moment of each of
its ticks, unless `2 ^ 32` entities have come. A host, a client that leaves, and a behavior
that removes an entity all untie the client of that entity, if it has one, and no other. -/
theorem history_avatars (operations : List Operation)
    (few : (births (passed library settings operations)).length < 2 ^ 32) :
    let state := (history library settings operations).machine.state
    state.AvatarsAgree ∧
      (∀ id, state.entities.contains id = true →
        state.Departs id (history library settings (operations ++ [.despawn id])).machine.state) ∧
      ∀ earlier commands seed later, operations = earlier ++ .tick commands seed :: later →
        ∀ moment ∈ (history library settings earlier).machine.moments commands seed,
          moment.state.AvatarsAgree ∧
          (∀ seq tick client id, moment.state.avatarOf? client = some id →
            moment.state.Departs id
              (moment.applyCommand library settings ⟨seq, tick, client, .leave⟩).state) ∧
          ∀ id thread entity, moment.state.threads.get? id = some thread →
            thread.Removes library moment.state id entity →
              moment.state.Departs entity (Underway.step library id thread moment).2.state := by
  intro state
  have route := @history_route library settings operations
  have agree : state.AvatarsAgree := by
    obtain ⟨deeds, edits, made⟩ := route.edits few
    exact edits.avatarsAgree made
  refine ⟨agree, fun id present => ?_, ?_⟩
  · rw [history_concat]
    exact History.extend_departs agree.clientsKnown agree.avatarsAlive present
  · rintro earlier commands seed later rfl moment during
    obtain ⟨deeds, edits, made⟩ := route.edits_of_mem few (mem_passed_of_moment during)
    have agree := edits.avatarsAgree made
    refine ⟨agree, fun seq tick client id bound => ?_, fun id thread entity _ removes => ?_⟩
    · exact Underway.leave_departs agree.clientsKnown agree.avatarsAlive bound
    · exact Underway.step_departs agree.clientsKnown agree.avatarsAlive removes

/-- A library with one behavior, which waits for two ticks and then removes its owner. -/
def fleetingLibrary : Library where
  behaviors := Table.empty.insert 300 ⟨300, "fade", 0, 0,
    [.ofOperand (.primitive (.sleep 2)) 1 targetFalse,
      .ofOperand (.primitive (.removeObject .empty)) targetTrue targetFalse]⟩

/-- Two clients join. In the third tick one of them leaves, and the avatar of the other one wakes up
and removes itself. -/
theorem history_avatars_guests :
    let settings : Settings := ⟨10, ⟨some 300, [], ⟨0, 0⟩⟩⟩
    let joins : List Operation :=
      [.tick [⟨1, 1, ⟨1⟩, .join "ada"⟩] 7, .tick [⟨2, 2, ⟨2⟩, .join "bob"⟩] 8]
    let leave : SequencedCommand := ⟨3, 3, ⟨2⟩, .leave⟩
    let operations := joins ++ [.tick [leave] 9]
    let moments := (history fleetingLibrary settings joins).machine.moments [leave] 9
    (births (passed fleetingLibrary settings operations)).length < 2 ^ 32 ∧
      moments.map (fun moment => (moment.state.avatarOf? ⟨1⟩, moment.state.avatarOf? ⟨2⟩)) =
        [(some ⟨1⟩, some ⟨2⟩), (some ⟨1⟩, none), (some ⟨1⟩, none), (none, none), (none, none)] ∧
      ∀ moment ∈ moments, moment.state.AvatarsAgree := by
  intro settings joins leave operations moments
  have few : (births (passed fleetingLibrary settings operations)).length < 2 ^ 32 := by
    decide +kernel
  obtain ⟨_, _, ticks⟩ := @history_avatars fleetingLibrary settings operations few
  exact ⟨few, by decide +kernel, fun moment passed =>
    (ticks joins [leave] 9 [] rfl moment passed).1⟩

/-- When the counter of identities has run over, a rock takes the place of the avatar of a client, which
still has it for its avatar. -/
theorem history_avatars_lap :
    let joins : List Operation := [.tick [⟨1, 1, ⟨1⟩, .join "ada"⟩] 7]
    let operations := joins ++ lap 1 ++ [.spawn .object "rock" .empty]
    let state := (history fleetingLibrary default operations).machine.state
    state.avatarOf? ⟨1⟩ = some ⟨1⟩ ∧ state.clientOf? ⟨1⟩ = none ∧ ¬ state.AvatarsAgree := by
  intro joins operations state
  have same : state = _ := congrArg Machine.state (@history_lap_spawn fleetingLibrary default joins 1
    (by decide +kernel) (by decide +kernel) "rock").1
  have bound : state.avatarOf? ⟨1⟩ = some ⟨1⟩ := by
    rw [same]
    decide +kernel
  have free : state.clientOf? ⟨1⟩ = none := by
    rw [same]
    decide +kernel
  refine ⟨bound, free, fun agree => ?_⟩
  exact absurd (free.symm.trans (agree.avatarsAlive ⟨1⟩ ⟨1⟩ bound)) (Option.some_ne_none _).symm

end Machine
end Lockstep
