import Lockstep.Table

/-!
# Identities

Entities, clients, sound channels and threads are known by number. Each kind of number is a type
of its own, and each is ordered, so that it can be the key of a `Table`. Threads sort by the
entity they belong to and then by age, which is the order in which they run.
-/

set_option autoImplicit false

namespace Lockstep

/-- An entity of the simulation, written `#3`. -/
structure EntityId where
  number : UInt32
  deriving DecidableEq, Inhabited

/-- A connected client, written `client7`. -/
structure ClientId where
  number : UInt32
  deriving DecidableEq, Inhabited

/-- A playback channel. -/
structure ChannelId where
  number : UInt32
  deriving DecidableEq, Inhabited

/-- A thread: the entity it belongs to and its number in order of creation, written `#3/t12`. -/
structure ThreadId where
  owner : EntityId
  seq : UInt64
  deriving DecidableEq, Inhabited

/-! ## Text -/

/-- The text of an entity's identity. -/
def EntityId.text (id : EntityId) : String := "#" ++ toString id.number.toNat

/-- The text of a client's identity. -/
def ClientId.text (id : ClientId) : String := "client" ++ toString id.number.toNat

/-- The text of a thread's identity. -/
def ThreadId.text (id : ThreadId) : String := id.owner.text ++ "/t" ++ toString id.seq.toNat

/-! ## Order -/

instance : Ord EntityId := ⟨compareOn EntityId.number⟩

instance : Ord ClientId := ⟨compareOn ClientId.number⟩

instance : Ord ChannelId := ⟨compareOn ChannelId.number⟩

instance : Ord ThreadId := ⟨compareLex (compareOn ThreadId.owner) (compareOn ThreadId.seq)⟩

instance : Std.TransOrd EntityId := inferInstanceAs (Std.TransCmp (compareOn EntityId.number))

instance : Std.TransOrd ClientId := inferInstanceAs (Std.TransCmp (compareOn ClientId.number))

instance : Std.TransOrd ChannelId := inferInstanceAs (Std.TransCmp (compareOn ChannelId.number))

instance : Std.TransOrd ThreadId :=
  inferInstanceAs (Std.TransCmp (compareLex (compareOn ThreadId.owner) (compareOn ThreadId.seq)))

instance : Std.LawfulEqOrd EntityId where
  eq_of_compare {first second} same := by
    cases first
    cases second
    exact congrArg EntityId.mk (Std.LawfulEqOrd.eq_of_compare same)

instance : Std.LawfulEqOrd ClientId where
  eq_of_compare {first second} same := by
    cases first
    cases second
    exact congrArg ClientId.mk (Std.LawfulEqOrd.eq_of_compare same)

instance : Std.LawfulEqOrd ChannelId where
  eq_of_compare {first second} same := by
    cases first
    cases second
    exact congrArg ChannelId.mk (Std.LawfulEqOrd.eq_of_compare same)

instance : Std.LawfulEqOrd ThreadId where
  eq_of_compare {first second} same := by
    obtain ⟨owner, seq⟩ := first
    obtain ⟨owner', seq'⟩ := second
    have parts : compare owner owner' = .eq ∧ compare seq seq' = .eq :=
      Ordering.then_eq_eq.mp same
    obtain rfl := Std.LawfulEqOrd.eq_of_compare parts.1
    obtain rfl := Std.LawfulEqOrd.eq_of_compare parts.2
    rfl

end Lockstep
