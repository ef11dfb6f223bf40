import Lockstep.Message
import Lockstep.Proofs.Datum.Variant
import Lockstep.Proofs.Packed.Shallow
import Lockstep.Proofs.State.Snapshot

/-!
# Messages read back from their data

Every type that messages are made of is read back as it was written, in whatever form its data come.
Variants are told by their tags, and a field that was left out is read as one without a value.

The fields of a variant are set aside before they are read, and so have to be readable. They are,
because each type is written in data of a known depth (`ShallowWritten`). That depth is also what
bounds the data of a whole message for MessagePack.

As for states, each record is found again field by field, by the lemmas about fields that are tagged
for `simp`, without its implicit-equality proofs.
-/

set_option autoImplicit false

namespace Lockstep

/-! ## Shallow types -/

/-- Every value is written with no more than so many containers inside one another. -/
class ShallowWritten (α : Type) [Written α] (levels : outParam Nat) : Prop where
  shallow : ∀ value : α, (Written.write value).Shallow levels

/-- What is written in few levels is also written in no more than some more. -/
theorem shallow_write {α : Type} [Written α] {own levels : Nat} [ShallowWritten α own]
    (value : α) (deeper : own ≤ levels) : (Written.write value).Shallow levels :=
  (ShallowWritten.shallow value).mono deeper

instance {α : Type} [Written α] [Plain α] : ShallowWritten α 0 where
  shallow value := (Plain.spellable 0 value).shallow

instance : ShallowWritten String 0 where
  shallow value := .text value

instance : ShallowWritten Position 1 where
  shallow position := (spellable_position 0 position).shallow

instance {α : Type} {levels : Nat} [Written α] [ShallowWritten α levels] :
    ShallowWritten (List α) (levels + 1) where
  shallow values := by
    refine .list fun item member => ?_
    obtain ⟨value, _, rfl⟩ := List.mem_map.mp member
    exact ShallowWritten.shallow value

instance {α : Type} {levels count : Nat} [Written α] [ShallowWritten α levels] :
    ShallowWritten (Vector α count) (levels + 1) where
  shallow values := ShallowWritten.shallow values.toList

theorem shallow_record {levels : Nat} {fields : List (String × Datum)}
    (each : ∀ field ∈ fields, field.2.Shallow levels) :
    (Datum.record fields).Shallow (levels + 1) := by
  refine .map (fun entry member => ?_) fun entry member => ?_
  · obtain ⟨field, _, rfl⟩ := List.mem_map.mp member
    exact .text field.1
  · obtain ⟨field, present, rfl⟩ := List.mem_map.mp member
    exact each field present

theorem shallow_variant {levels : Nat} {tag name : String} {fields : List (String × Datum)}
    (each : ∀ field ∈ fields, field.2.Shallow levels) :
    (Datum.variant tag name fields).Shallow (levels + 1) :=
  shallow_record (List.forall_mem_cons.mpr ⟨.text name, each⟩)

/-- What is said of a field that may be left out is said of its value, if it has one. -/
theorem forall_mem_optionalField {α : Type} {name : String} {write : α → Datum} {value : Option α}
    {holds : String × Datum → Prop} :
    (∀ field ∈ Datum.optionalField name write value, holds field) ↔
      ∀ held, value = some held → holds (name, write held) := by
  cases value with
  | none => simp [Datum.optionalField]
  | some value => simp [Datum.optionalField]

@[simp]
theorem isReadable_record {fields : List (String × Datum)} :
    (Datum.record fields).isReadable = true ↔ ∀ field ∈ fields, field.2.isReadable = true := by
  rw [Datum.record, Datum.isReadable, Datum.areEntriesReadable_iff, List.forall_mem_map]
  exact forall₂_congr fun _ _ => and_iff_right rfl

@[simp]
theorem isReadable_write {α : Type} {levels : Nat} [Written α] [ShallowWritten α levels] (value : α) :
    (Written.write value).isReadable = true :=
  (ShallowWritten.shallow value).isReadable

/-! ## Commands -/

instance : ShallowWritten CommandAction 2 where
  shallow action := by
    cases action with
    | join name => exact shallow_variant (by simp [shallow_write])
    | leave => exact shallow_variant (by simp)
    | interact target behavior args => exact shallow_variant (by simp [shallow_write])
    | move position => exact shallow_variant (by simp [shallow_write])
    | chat text => exact shallow_variant (by simp [shallow_write])

instance : LawfulWritten CommandAction where
  read_write encoding action := by
    cases action with
    | join name =>
      show Option.bind (Datum.variant? encoding _ _ (Datum.variant _ _ _)) _ = _
      simp -implicitDefEqProofs
    | leave => rfl
    | interact target behavior args =>
      show Option.bind (Datum.variant? encoding _ _ (Datum.variant _ _ _)) _ = _
      simp -implicitDefEqProofs
    | move position =>
      show Option.bind (Datum.variant? encoding _ _ (Datum.variant _ _ _)) _ = _
      simp -implicitDefEqProofs
    | chat text =>
      show Option.bind (Datum.variant? encoding _ _ (Datum.variant _ _ _)) _ = _
      simp -implicitDefEqProofs

instance : ShallowWritten Command 3 where
  shallow command := shallow_record (by simp [shallow_write])

instance : LawfulWritten Command where
  read_write encoding command := by
    show Option.bind (Datum.fields? encoding _ (Datum.record _)) _ = _
    simp -implicitDefEqProofs

instance : ShallowWritten SequencedCommand 3 where
  shallow command := shallow_record (by simp [shallow_write])

instance : LawfulWritten SequencedCommand where
  read_write encoding command := by
    show Option.bind (Datum.fields? encoding _ (Datum.record _)) _ = _
    simp -implicitDefEqProofs

/-! ## What happens to entities -/

/-- The names of the fields of a summary, of which two may be left out. -/
theorem EntitySummary.names_fields (summary : EntitySummary) :
    (summary.fields.map Prod.fst).Sublist
      ["position", "attributes", "carrying", "animation", "sounds", "threads"] := by
  rw [fields, List.map_append, List.map_append, List.map_append]
  have carrying := Datum.map_fst_optionalField_sublist "carrying" Written.write summary.carrying
  have animation := Datum.map_fst_optionalField_sublist "animation" Written.write summary.animation
  exact (((List.Sublist.refl _).append carrying).append animation).append (List.Sublist.refl _)

theorem EntitySummary.ofFields?_fields (summary : EntitySummary) :
    EntitySummary.ofFields? (.record summary.fields) = some summary := by
  rw [ofFields?, Datum.fields?_of_sublist _ summary.names_fields (by simp), Option.bind_eq_bind,
    Option.bind_some]
  simp -implicitDefEqProofs [fields]

theorem EntitySummary.shallow_fields (summary : EntitySummary) :
    ∀ field ∈ summary.fields, field.2.Shallow 1 := by
  simp only [fields, List.forall_mem_append, forall_mem_optionalField]
  simp [shallow_write]

instance : ShallowWritten EntityChange 2 where
  shallow change := by
    cases change with
    | spawned kind name => exact shallow_variant (by simp [shallow_write])
    | updated summary => exact shallow_variant summary.shallow_fields
    | despawned => exact shallow_variant (by simp)

instance : LawfulWritten EntityChange where
  read_write encoding change := by
    cases change with
    | spawned kind name =>
      show Option.bind (Datum.variant? encoding _ _ (Datum.variant _ _ _)) _ = _
      simp -implicitDefEqProofs
    | updated summary =>
      have apart : "change" ∉ summary.fields.map Prod.fst :=
        fun written => absurd (summary.names_fields.subset written) (by simp)
      have readable := (shallow_record summary.shallow_fields).isReadable
      show Option.bind (Datum.variant? encoding _ _ (Datum.variant _ _ _)) _ = _
      rw [Datum.variant?_variant encoding (by simp) apart readable]
      simp -implicitDefEqProofs [EntitySummary.ofFields?_fields]
    | despawned => rfl

instance : ShallowWritten EntityDelta 3 where
  shallow delta := shallow_record (by simp [shallow_write])

instance : LawfulWritten EntityDelta where
  read_write encoding delta := by
    show Option.bind (Datum.fields? encoding _ (Datum.record _)) _ = _
    simp -implicitDefEqProofs

instance : ShallowWritten AvatarSnapshot 2 where
  shallow snapshot := by
    refine shallow_record ?_
    simp only [List.forall_mem_append, forall_mem_optionalField]
    simp [shallow_write]

instance : LawfulWritten AvatarSnapshot where
  read_write encoding snapshot := by
    have client := Datum.map_fst_optionalField_sublist "client" Written.write snapshot.client
    have carrying := Datum.map_fst_optionalField_sublist "carrying" Written.write snapshot.carrying
    have animation :=
      Datum.map_fst_optionalField_sublist "animation" Written.write snapshot.animation
    show Option.bind (Datum.fields? encoding _ (Datum.record _)) _ = _
    rw [Datum.fields?_of_sublist encoding ?_ (by simp), Option.bind_some]
    · simp -implicitDefEqProofs
    · simp only [List.map_append]
      exact (((((List.Sublist.refl _).append client).append (List.Sublist.refl _)).append
        carrying).append animation).append (List.Sublist.refl _)

/-! ## Ticks, and what concerns one client -/

instance : ShallowWritten TickStatus 1 where
  shallow status := by
    cases status with
    | ok => exact shallow_variant (by simp)
    | threadErrors count => exact shallow_variant (by simp [shallow_write])

instance : LawfulWritten TickStatus where
  read_write encoding status := by
    cases status with
    | ok => rfl
    | threadErrors count =>
      show Option.bind (Datum.variant? encoding _ _ (Datum.variant _ _ _)) _ = _
      simp -implicitDefEqProofs

instance : ShallowWritten BroadcastTick 5 where
  shallow tick := shallow_record (by simp [shallow_write, Datum.Shallow.bytes])

instance : LawfulWritten BroadcastTick where
  read_write encoding tick := by
    show Option.bind (Datum.fields? encoding _ (Datum.record _)) _ = _
    simp -implicitDefEqProofs [Fields.find?_here, Datum.blob?]

instance : LawfulWritten Notice where
  read_write encoding notice := by
    show Option.bind (Datum.fields? encoding _ (Datum.record _)) _ = _
    simp -implicitDefEqProofs

theorem Welcome.ofFields?_fields (welcome : Welcome) :
    Welcome.ofFields? (.record welcome.fields) = some welcome := by
  simp -implicitDefEqProofs [ofFields?, fields, Fields.find?_here, Datum.blob?]

theorem Welcome.shallow_fields (welcome : Welcome) :
    ∀ field ∈ welcome.fields, field.2.Shallow 0 := by
  simp [fields, shallow_write, Datum.Shallow.bytes]

instance : ShallowWritten Direct 1 where
  shallow direct := by
    cases direct with
    | welcome welcome => exact shallow_variant welcome.shallow_fields
    | commandRejected clientSeq reason => exact shallow_variant (by simp [shallow_write])
    | notice notice => exact shallow_variant (by simp [shallow_write])

instance : LawfulWritten Direct where
  read_write encoding direct := by
    cases direct with
    | welcome welcome =>
      have readable := (shallow_record welcome.shallow_fields).isReadable
      show Option.bind (Datum.variant? encoding _ _ (Datum.variant _ _ _)) _ = _
      rw [Datum.variant?_variant encoding (by simp) (by simp [Welcome.fields]) readable]
      simp -implicitDefEqProofs [Welcome.ofFields?_fields]
    | commandRejected clientSeq reason =>
      show Option.bind (Datum.variant? encoding _ _ (Datum.variant _ _ _)) _ = _
      simp -implicitDefEqProofs
    | notice notice =>
      have read : Written.read .buffered (.record [("entity", Written.write notice.entity),
          ("message", Written.write notice.message)]) = some notice :=
        LawfulWritten.read_write .buffered notice
      show Option.bind (Datum.variant? encoding _ _ (Datum.variant _ _ _)) _ = _
      simp -implicitDefEqProofs [read]

instance : ShallowWritten AvatarData 3 where
  shallow data := shallow_record (by simp [shallow_write])

instance : LawfulWritten AvatarData where
  read_write encoding data := by
    show Option.bind (Datum.fields? encoding _ (Datum.record _)) _ = _
    simp -implicitDefEqProofs

end Lockstep
