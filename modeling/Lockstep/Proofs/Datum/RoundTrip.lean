import Lockstep.State

/-!
# Values read back from their data

Reading gives back what was written, for every type that a state is made of, up to `State` itself
(`read_write` of its `LawfulWritten` instance). Nothing here depends on how data are spelled.

A record is read by name, so that what its fields hold is found again in any order
(`Datum.fields?_record`). An option is read from null or from the value, which needs that no value
is written as null (`NeverNull`). A table is written with numbers as keys (`Numeric`) and is made
again from its entries, and since they were in order, it is the same table (`Table.ofList_entries`).
-/

set_option autoImplicit false

namespace Lockstep

/-! ## Shapes of data -/

/-- Every value is written as a whole number. -/
class Numeric (α : Type) [Written α] : Prop where
  exists_int : ∀ value : α, ∃ number : Int, Written.write value = .int number

/-- No value is written as null. -/
class NeverNull (α : Type) [Written α] : Prop where
  write_ne_null : ∀ value : α, Written.write value ≠ .null

instance {α : Type} [Written α] [Numeric α] : NeverNull α where
  write_ne_null value null := by
    obtain ⟨number, same⟩ := Numeric.exists_int value
    rw [same] at null
    cases null

/-! ## Numbers and other plain values -/

theorem Datum.intWithin?_natCast {value bound : Nat} (below : value < bound) :
    (Datum.int value).intWithin? 0 bound = some (value : Int) := by
  have within : (0 : Int) ≤ value ∧ (value : Int) < bound := by omega
  rw [intWithin?, if_pos within]

theorem Datum.intWithin?_int {low high value : Int} (above : low ≤ value) (below : value < high) :
    (Datum.int value).intWithin? low high = some value := by
  rw [intWithin?, if_pos ⟨above, below⟩]

instance : LawfulWritten UInt8 where
  read_write _ value := by
    show ((Datum.int value.toNat).intWithin? 0 (0x100 : Nat)).map _ = some value
    rw [Datum.intWithin?_natCast value.toNat_lt, Option.map_some, Int.toNat_natCast,
      UInt8.ofNat_toNat]

instance : LawfulWritten UInt16 where
  read_write _ value := by
    show ((Datum.int value.toNat).intWithin? 0 (0x10000 : Nat)).map _ = some value
    rw [Datum.intWithin?_natCast value.toNat_lt, Option.map_some, Int.toNat_natCast,
      UInt16.ofNat_toNat]

instance : LawfulWritten UInt32 where
  read_write _ value := by
    show ((Datum.int value.toNat).intWithin? 0 (0x100000000 : Nat)).map _ = some value
    rw [Datum.intWithin?_natCast value.toNat_lt, Option.map_some, Int.toNat_natCast,
      UInt32.ofNat_toNat]

instance : LawfulWritten UInt64 where
  read_write _ value := by
    show ((Datum.int value.toNat).intWithin? 0 (0x10000000000000000 : Nat)).map _ = some value
    rw [Datum.intWithin?_natCast value.toNat_lt, Option.map_some, Int.toNat_natCast,
      UInt64.ofNat_toNat]

instance : LawfulWritten Int16 where
  read_write _ value := by
    show ((Datum.int value.toInt).intWithin? (-0x8000) 0x8000).map _ = some value
    have above : -0x8000 ≤ value.toInt := value.le_toInt
    have below : value.toInt < 0x8000 := value.toInt_lt
    rw [Datum.intWithin?_int above below, Option.map_some, Int16.ofInt_toInt]

instance : LawfulWritten Int32 where
  read_write _ value := by
    show ((Datum.int value.toInt).intWithin? (-0x80000000) 0x80000000).map _ = some value
    have above : -0x80000000 ≤ value.toInt := value.le_toInt
    have below : value.toInt < 0x80000000 := value.toInt_lt
    rw [Datum.intWithin?_int above below, Option.map_some, Int32.ofInt_toInt]

instance : LawfulWritten Bool where
  read_write _ _ := rfl

instance : LawfulWritten String where
  read_write _ _ := rfl

instance : LawfulWritten EntityId where
  read_write encoding id := by
    show (Written.read encoding (Written.write id.number)).map EntityId.mk = some id
    rw [LawfulWritten.read_write, Option.map_some]

instance : LawfulWritten ClientId where
  read_write encoding id := by
    show (Written.read encoding (Written.write id.number)).map ClientId.mk = some id
    rw [LawfulWritten.read_write, Option.map_some]

instance : LawfulWritten ChannelId where
  read_write encoding id := by
    show (Written.read encoding (Written.write id.number)).map ChannelId.mk = some id
    rw [LawfulWritten.read_write, Option.map_some]

instance : LawfulWritten EntityKind where
  read_write encoding kind := by cases encoding <;> cases kind <;> rfl

instance : Numeric UInt16 := ⟨fun _ => ⟨_, rfl⟩⟩

instance : Numeric EntityId := ⟨fun _ => ⟨_, rfl⟩⟩

instance : Numeric ClientId := ⟨fun _ => ⟨_, rfl⟩⟩

/-! ## Options and lists -/

instance {α : Type} [Written α] [LawfulWritten α] [NeverNull α] : LawfulWritten (Option α) where
  read_write encoding value := by
    cases value with
    | none => rfl
    | some value =>
      show Written.read encoding (Written.write value) = some (some value)
      have present := NeverNull.write_ne_null value
      have read : Written.read encoding (Written.write value) = some value :=
        LawfulWritten.read_write encoding value
      show (match Written.write value with
        | .null => some none
        | datum => (Written.read encoding datum).map some) = some (some value)
      split
      · exact absurd ‹_› present
      · rw [read, Option.map_some]

theorem mapM_read_write {α : Type} [Written α] [LawfulWritten α] (encoding : Encoding)
    (values : List α) : (values.map Written.write).mapM (Written.read encoding) = some values := by
  induction values with
  | nil => rfl
  | cons value values inductionHypothesis =>
    rw [List.map_cons, List.mapM_cons, LawfulWritten.read_write, inductionHypothesis]
    rfl

instance {α : Type} [Written α] [LawfulWritten α] : LawfulWritten (List α) where
  read_write encoding values := by
    show (values.map Written.write).mapM (Written.read encoding) = some values
    exact mapM_read_write encoding values

instance {α : Type} {count : Nat} [Written α] [LawfulWritten α] :
    LawfulWritten (Vector α count) where
  read_write encoding values := by
    have items : (Datum.list (values.toList.map Written.write)).itemsUpTo? encoding count =
        some (values.toList.map Written.write) := by
      simp [Datum.itemsUpTo?]
    show Option.bind (Datum.itemsUpTo? encoding count (.list (values.toList.map Written.write))) _ =
      some values
    rw [items, Option.bind_some, mapM_read_write]
    simp only [Option.bind_eq_bind, Option.bind_some, Vector.length_toList, dite_true]
    rfl

instance : LawfulWritten Position where
  read_write encoding position := by
    show (do
      let x ← Written.read encoding (Written.write position.x)
      let y ← Written.read encoding (Written.write position.y)
      some (Position.mk x y)) = some position
    rw [LawfulWritten.read_write, LawfulWritten.read_write]
    rfl

/-! ## Tables -/

namespace Table

variable {κ ν : Type} [Ord κ] [Std.TransOrd κ] [Std.LawfulEqOrd κ] [DecidableEq κ]

theorem get?_foldl_insert (entries : List (κ × ν)) (table : Table κ ν) (key : κ)
    (ordered : entries.Pairwise fun first second => compare first.1 second.1 = .lt) :
    (entries.foldl (fun table entry => table.insert entry.1 entry.2) table).get? key =
      (lookup key entries).or (table.get? key) := by
  induction entries generalizing table with
  | nil => rfl
  | cons entry entries inductionHypothesis =>
    obtain ⟨other, value⟩ := entry
    rw [List.pairwise_cons] at ordered
    rw [List.foldl_cons, inductionHypothesis _ ordered.2, get?_insert, lookup]
    by_cases same : key = other
    · subst same
      have absent : lookup key entries = none := by
        cases found : lookup key entries with
        | none => rfl
        | some value =>
          have after := ordered.1 _ (mem_of_lookup found)
          simp [Std.ReflCmp.compare_self] at after
      simp [absent]
    · simp [same]

/-- A table is made again from its entries. -/
theorem ofList_entries (table : Table κ ν) : ofList table.entries = table := by
  apply ext_get?
  intro key
  rw [ofList, get?_foldl_insert _ _ _ table.ordered, get?_empty, Option.or_none]
  rfl

end Table

instance {κ ν : Type} [Ord κ] [Std.TransOrd κ] [Std.LawfulEqOrd κ] [DecidableEq κ] [Written κ]
    [Numeric κ] [LawfulWritten κ] [Written ν] [LawfulWritten ν] : LawfulWritten (Table κ ν) where
  read_write encoding table := by
    have keyed (key : κ) : (Written.write key).key? encoding = some (Written.write key) := by
      obtain ⟨number, same⟩ := Numeric.exists_int key
      rw [same]
      rfl
    have pairs : ∀ entries : List (κ × ν),
        (entries.map fun entry => (Written.write entry.1, Written.write entry.2)).mapM
          (fun entry => do
            let key ← Written.read encoding (← entry.1.key? encoding)
            let value ← Written.read encoding entry.2
            some (key, value)) = some entries := by
      intro entries
      induction entries with
      | nil => rfl
      | cons entry entries inductionHypothesis =>
        rw [List.map_cons, List.mapM_cons, inductionHypothesis]
        simp only [keyed, Option.bind_eq_bind, Option.bind_some, LawfulWritten.read_write]
        rfl
    show Option.bind (List.mapM _ (table.entries.map _)) _ = some table
    rw [pairs, Option.bind_some, Table.ofList_entries]

instance : LawfulWritten (KeySet ChannelId) where
  read_write encoding channels := by
    have entries : channels.keys.map (fun channel => (channel, ())) = channels.entries := by
      simp [Table.keys, Function.comp_def]
    show (Written.read encoding (Written.write channels.keys)).map _ = some channels
    rw [LawfulWritten.read_write, Option.map_some, entries, Table.ofList_entries]

/-! ## Records -/

namespace Datum

/-- A name is found among the names that it is one of. -/
theorem find?_listed {name : String} {names : List String} (listed : name ∈ names) :
    names.find? (· == name) = some name := by
  have present : (names.find? (· == name)).isSome := by
    rw [List.find?_isSome]
    exact ⟨name, listed, beq_self_eq_true name⟩
  obtain ⟨other, first⟩ := Option.isSome_iff_exists.mp present
  have same : other = name := by simpa using List.find?_some first
  rw [first, same]

theorem collectFields?_map (encoding : Encoding) (names : List String)
    (fields found : List (String × Datum)) (listed : ∀ field ∈ fields, field.1 ∈ names)
    (distinct : (fields.map Prod.fst).Nodup)
    (fresh : ∀ field ∈ fields, ∀ other ∈ found, other.1 ≠ field.1) :
    collectFields? encoding names (fields.map fun field => (.text field.1, field.2)) found =
      some (fields.reverse ++ found) := by
  induction fields generalizing found with
  | nil => rfl
  | cons field fields inductionHypothesis =>
    have named := find?_listed (listed field (.head fields))
    have new : found.any (·.1 == field.1) = false := by
      simpa using fresh field (.head fields)
    rw [List.map_cons, List.nodup_cons] at distinct
    have later := inductionHypothesis (field :: found)
      (fun other member => listed other (.tail field member)) distinct.2 (by
        intro other member earlier present
        rcases List.mem_cons.mp present with rfl | present
        · exact fun same => distinct.1 (same ▸ List.mem_map_of_mem member)
        · exact fresh other (.tail field member) earlier present)
    simp only [List.map_cons, collectFields?, fieldName?, named, new]
    simpa using later

/-- The fields of a record that is read by the names it was written with. -/
theorem fields?_record (encoding : Encoding) {names : List String} {fields : List (String × Datum)}
    (same : names = fields.map Prod.fst) (distinct : names.Nodup) :
    (record fields).fields? encoding names = some ⟨encoding, false, fields.reverse⟩ := by
  subst same
  have collected := collectFields?_map encoding (fields.map Prod.fst) fields []
    (fun field member => List.mem_map_of_mem member) distinct (by simp)
  rw [record, fields?, collected, List.append_nil, Option.map_some]

end Datum

namespace Fields

variable {encoding : Encoding} {positional : Bool} {rest : List (String × Datum)} {datum : Datum}
  {other name : String}

/-- The last field that was read is found by its name. -/
theorem find?_here (name : String) :
    Fields.find? ⟨encoding, positional, (name, datum) :: rest⟩ name = some datum := by
  rw [find?, List.find?_cons, beq_self_eq_true]
  rfl

/-- A field with another name is passed over. -/
theorem find?_there (apart : other ≠ name) :
    Fields.find? ⟨encoding, positional, (other, datum) :: rest⟩ name =
      Fields.find? ⟨encoding, positional, rest⟩ name := by
  rw [find?, List.find?_cons, beq_eq_false_iff_ne.mpr apart]
  rfl

variable {α : Type} [Written α]

theorem required_here [LawfulWritten α] (value : α) :
    Fields.required ⟨encoding, positional, (name, Written.write value) :: rest⟩ name =
      some value := by
  rw [required, find?_here]
  exact LawfulWritten.read_write encoding value

theorem required_there (apart : other ≠ name) :
    (Fields.required ⟨encoding, positional, (other, datum) :: rest⟩ name : Option α) =
      Fields.required ⟨encoding, positional, rest⟩ name := by
  rw [required, find?_there apart]
  rfl

theorem optional_here [LawfulWritten (Option α)] (value : Option α) :
    Fields.optional ⟨encoding, positional, (name, Written.write value) :: rest⟩ name =
      some value := by
  rw [optional, find?_here]
  exact LawfulWritten.read_write encoding value

theorem optional_there (apart : other ≠ name) :
    (Fields.optional ⟨encoding, positional, (other, datum) :: rest⟩ name : Option (Option α)) =
      Fields.optional ⟨encoding, positional, rest⟩ name := by
  rw [optional, find?_there apart]
  rfl

end Fields

/-! ## What a state is made of

Each record is found again field by field, the last field first. Once all fields are found, what
was read is made of them by computation. The implicit-equality proofs of `simp` are switched off
because the kernel would check them by computing with the bounds of numbers. -/

instance : LawfulWritten SoundChannel where
  read_write encoding sound := by
    show Option.bind (Datum.fields? encoding _ (Datum.record _)) _ = _
    rw [Datum.fields?_record encoding (by rfl) (by simp)]
    simp -implicitDefEqProofs only [List.reverse_cons, List.reverse_nil, List.nil_append,
      List.cons_append, Option.bind_some, Fields.required_here, Fields.required_there, ne_eq,
      String.reduceEq, not_false_eq_true]
    rfl

instance : LawfulWritten AnimationState where
  read_write encoding state := by
    show Option.bind (Datum.fields? encoding _ (Datum.record _)) _ = _
    rw [Datum.fields?_record encoding (by rfl) (by simp)]
    simp -implicitDefEqProofs only [List.reverse_cons, List.reverse_nil, List.nil_append,
      List.cons_append, Option.bind_some, Fields.required_here, Fields.required_there, ne_eq,
      String.reduceEq, not_false_eq_true]
    rfl

instance : NeverNull AnimationState where
  write_ne_null _ null := by cases null

instance : LawfulWritten ThreadId where
  read_write encoding id := by
    show Option.bind (Datum.fields? encoding _ (Datum.record _)) _ = _
    rw [Datum.fields?_record encoding (by rfl) (by simp)]
    simp -implicitDefEqProofs only [List.reverse_cons, List.reverse_nil, List.nil_append,
      List.cons_append, Option.bind_some, Fields.required_here, Fields.required_there, ne_eq,
      String.reduceEq, not_false_eq_true]
    rfl

instance : LawfulWritten Entity where
  read_write encoding entity := by
    show Option.bind (Datum.fields? encoding _ (Datum.record _)) _ = _
    rw [Datum.fields?_record encoding (by rfl) (by simp)]
    simp -implicitDefEqProofs only [List.reverse_cons, List.reverse_nil, List.nil_append,
      List.cons_append, Option.bind_some, Fields.required_here, Fields.required_there,
      Fields.optional_here, Fields.optional_there, ne_eq, String.reduceEq, not_false_eq_true]
    rfl

instance : LawfulWritten EntityTable where
  read_write encoding table := by
    show Option.bind (Datum.fields? encoding _ (Datum.record _)) _ = _
    rw [Datum.fields?_record encoding (by rfl) (by simp)]
    simp -implicitDefEqProofs only [List.reverse_cons, List.reverse_nil, List.nil_append,
      List.cons_append, Option.bind_some, Fields.required_here, Fields.required_there, ne_eq,
      String.reduceEq, not_false_eq_true]
    rfl

instance : LawfulWritten SoundIndex where
  read_write encoding index := by
    show Option.bind (Datum.fields? encoding _ (Datum.record _)) _ = _
    rw [Datum.fields?_record encoding (by rfl) (by simp)]
    simp -implicitDefEqProofs only [List.reverse_cons, List.reverse_nil, List.nil_append,
      List.cons_append, Option.bind_some, Fields.required_here, Fields.required_there, ne_eq,
      String.reduceEq, not_false_eq_true]
    rfl

theorem readPending_writePending (encoding : Encoding) (progress : UInt32) :
    readPending encoding (writePending progress) = some progress := by
  rw [readPending, writePending, Datum.fields?_record encoding (by rfl) (by simp)]
  simp -implicitDefEqProofs only [List.reverse_singleton, Option.bind_eq_bind, Option.bind_some,
    Fields.required_here]

instance : LawfulWritten StackFrame where
  read_write encoding frame := by
    show Option.bind (Datum.fields? encoding _ (Datum.record _)) _ = _
    rw [Datum.fields?_record encoding (by rfl) (by simp)]
    simp -implicitDefEqProofs only [List.reverse_cons, List.reverse_nil, List.nil_append,
      List.cons_append, Option.bind_some, Fields.required_here, Fields.required_there,
      Fields.optional_here, Fields.optional_there, Fields.find?_here, Fields.find?_there, ne_eq,
      String.reduceEq, not_false_eq_true]
    obtain ⟨behavior, pc, locals, params, stackObject, caller, pending, catchErrors⟩ := frame
    cases pending with
    | none => rfl
    | some progress =>
      have read := readPending_writePending encoding progress
      simp only [writePending, Datum.record] at read
      simp -implicitDefEqProofs only [Option.map_some, Option.getD_some, writePending, Datum.record,
        read]
      rfl

instance : LawfulWritten Thread where
  read_write encoding thread := by
    show Option.bind (Datum.fields? encoding _ (Datum.record _)) _ = _
    rw [Datum.fields?_record encoding (by rfl) (by simp)]
    simp -implicitDefEqProofs only [List.reverse_cons, List.reverse_nil, List.nil_append,
      List.cons_append, Option.bind_eq_bind, Option.bind_some, Fields.required_here,
      Fields.required_there, ne_eq, String.reduceEq, not_false_eq_true, List.reverse_reverse]

/-- Threads are written without their keys, and are read back if those are their identities. -/
theorem readThreads_writeThreads (encoding : Encoding) {threads : ThreadTable}
    (keyed : threads.Keyed) : readThreads encoding (writeThreads threads) = some threads := by
  have own : threads.values.map (fun thread => (thread.id, thread)) = threads.entries := by
    rw [Table.values, List.map_map]
    refine (List.map_congr_left fun entry member => ?_).trans (List.map_id _)
    exact Prod.ext (keyed entry.1 entry.2 (Table.mem_entries_iff.mp member)) rfl
  rw [readThreads, writeThreads, LawfulWritten.read_write]
  exact congrArg some ((congrArg Table.ofList own).trans (Table.ofList_entries threads))

theorem State.read_write (encoding : Encoding) {state : State} (keyed : state.threads.Keyed) :
    Written.read encoding (Written.write state) = some state := by
  show Option.bind (Datum.fields? encoding _ (Datum.record _)) _ = _
  rw [Datum.fields?_record encoding (by rfl) (by simp)]
  simp -implicitDefEqProofs only [List.reverse_cons, List.reverse_nil, List.nil_append,
    List.cons_append, Option.bind_some, Fields.required_here, Fields.required_there,
    Fields.find?_here, Fields.find?_there, ne_eq, String.reduceEq, not_false_eq_true,
    readThreads_writeThreads _ keyed]
  rfl

end Lockstep
