import Lockstep.Operand.Layout

/-!
# Operands and their layouts

Decoding and encoding are inverse: a buffer is decoded as an operand when it begins with the bytes
of that operand, and never otherwise (`Operand.decode_exact`). What else can come of it follows from
the opcode, the length of the buffer and the bytes that stand where words should be:
`Operand.decode_outcome` lists the outcomes, and everything said here is read off from it.

A layout names those of its bytes that hold words in the order in which they are looked at. The
first that holds no word is the one that the error names.
-/

set_option autoImplicit false

namespace Lockstep

open Bytes (littleEndian ofLittleEndian)

/-! ## Numbers of words -/

/-- An enumeration whose members are all listed, each with a number of its own. -/
class LawfulEnumeration (α : Type) [Enumeration α] : Prop where
  ofCode?_code : ∀ member : α, Enumeration.ofCode? (Enumeration.code member) = some member

instance : LawfulEnumeration VariableScope := ⟨fun member => by cases member <;> rfl⟩
instance : LawfulEnumeration ExpressionOp := ⟨fun member => by cases member <;> rfl⟩
instance : LawfulEnumeration RelationshipOp := ⟨fun member => by cases member <;> rfl⟩
instance : LawfulEnumeration CarryMode := ⟨fun member => by cases member <;> rfl⟩

/-- A number stands for the member that has it. -/
theorem ofCode?_eq_some_iff {α : Type} [Enumeration α] [LawfulEnumeration α] {code : UInt8}
    {member : α} : Enumeration.ofCode? code = some member ↔ Enumeration.code member = code := by
  constructor
  · intro found
    have same := List.find?_some found
    exact beq_iff_eq.mp same
  · rintro rfl
    exact LawfulEnumeration.ofCode?_code member

/-! ## Numbers in bytes -/

theorem unsignedLayout_eq_iff {value : UInt16} {low high : UInt8} :
    unsignedLayout value = [low, high] ↔ unsignedWord low high = value := by
  constructor
  · intro laid
    have read : ofLittleEndian (unsignedLayout value) = value.toNat % 2 ^ 16 :=
      Bytes.ofLittleEndian_littleEndian 2 value.toNat
    rw [laid, Nat.mod_eq_of_lt value.toNat_lt] at read
    rw [unsignedWord, read, UInt16.ofNat_toNat]
  · rintro rfl
    have fits : ofLittleEndian [low, high] < 2 ^ 16 := Bytes.ofLittleEndian_lt [low, high]
    rw [unsignedLayout, unsignedWord, UInt16.toNat_ofNat_of_lt' fits]
    exact Bytes.littleEndian_ofLittleEndian [low, high]

theorem signedLayout_eq_iff {value : Int16} {low high : UInt8} :
    signedLayout value = [low, high] ↔ signedWord low high = value := by
  refine unsignedLayout_eq_iff.trans ⟨fun same => ?_, ?_⟩
  · rw [signedWord, same]
    rfl
  · rintro rfl
    rfl

theorem longLayout_eq_iff {value : UInt32} {first second third fourth : UInt8} :
    longLayout value = [first, second, third, fourth] ↔
      UInt32.ofNat (ofLittleEndian [first, second, third, fourth]) = value := by
  constructor
  · intro laid
    have read : ofLittleEndian (longLayout value) = value.toNat % 2 ^ 32 :=
      Bytes.ofLittleEndian_littleEndian 4 value.toNat
    rw [laid, Nat.mod_eq_of_lt value.toNat_lt] at read
    rw [read, UInt32.ofNat_toNat]
  · rintro rfl
    have fits : ofLittleEndian [first, second, third, fourth] < 2 ^ 32 :=
      Bytes.ofLittleEndian_lt [first, second, third, fourth]
    rw [longLayout, UInt32.toNat_ofNat_of_lt' fits]
    exact Bytes.littleEndian_ofLittleEndian [first, second, third, fourth]

theorem exists_unsignedLayout (value : UInt16) :
    ∃ low high, unsignedLayout value = [low, high] := ⟨_, _, rfl⟩

theorem exists_signedLayout (value : Int16) : ∃ low high, signedLayout value = [low, high] :=
  ⟨_, _, rfl⟩

theorem exists_longLayout (value : UInt32) :
    ∃ first second third fourth, longLayout value = [first, second, third, fourth] :=
  ⟨_, _, _, _, rfl⟩

/-! ## Fields -/

section

variable {kind : PrimitiveKind} {name : String}

theorem decodeField_eq_ok_iff {α : Type} [Enumeration α] [LawfulEnumeration α] {code : UInt8}
    {member : α} : decodeField kind name code = .ok member ↔ Enumeration.code member = code := by
  rw [← ofCode?_eq_some_iff, decodeField]
  cases (Enumeration.ofCode? code : Option α) <;> simp

theorem decodeVarRef_eq_ok_iff {scope low high : UInt8} {reference : VarRef} :
    decodeVarRef kind name scope low high = .ok reference ↔
      reference.layout = [scope, low, high] := by
  obtain ⟨word, data⟩ := reference
  have field := @decodeField_eq_ok_iff kind name VariableScope _ _ scope word
  rw [VarRef.layout, List.cons.injEq, signedLayout_eq_iff, ← field, decodeVarRef]
  cases (decodeField kind name scope : Except OperandError VariableScope) <;> simp

end

/-- A byte of a layout that holds a word: the name of the field, the place of the byte, and which
bytes are words there. -/
structure WordField where
  name : String
  place : Nat
  known : UInt8 → Bool

namespace WordField

/-- The field that holds a member of an enumeration. -/
def holding (α : Type) [Enumeration α] (name : String) (place : Nat) : WordField :=
  ⟨name, place, fun code => (Enumeration.ofCode? code : Option α).isSome⟩

/-- Whether there is a word where a field should be. -/
def isIn (field : WordField) (buffer : Bytes) : Bool := buffer[field.place]?.any field.known

end WordField

/-- The words in the layout of a kind, in the order in which they are looked at. -/
def PrimitiveKind.wordFields : PrimitiveKind → List WordField
  | .expression => [.holding ExpressionOp "op" 4, .holding VariableScope "lhs_scope" 5,
      .holding VariableScope "rhs_scope" 6]
  | .randomNumber => [.holding VariableScope "dest_scope" 0,
      .holding VariableScope "range_scope" 3]
  | .relationship => [.holding RelationshipOp "op" 0, .holding VariableScope "scope" 1]
  | .carry => [.holding CarryMode "mode" 0]
  | .setStackObject => [.holding VariableScope "scope" 0]
  | _ => []

/-! ## Primitives -/

namespace Primitive

theorem length_encode (action : Primitive) : action.encode.length = action.kind.layoutLength := by
  cases action <;> rfl

/-- What was encoded is decoded again, whatever bytes follow. -/
theorem decode_encode (action : Primitive) (rest : Bytes) :
    decode action.kind (action.encode ++ rest) = .ok action := by
  cases action with
  | sleep ticks =>
    obtain ⟨low, high, laid⟩ := exists_unsignedLayout ticks
    simp [encode, decode, kind, laid, unsignedLayout_eq_iff.mp laid]
  | expression lhs rhs op =>
    obtain ⟨lhsLow, lhsHigh, lhsLaid⟩ := exists_signedLayout lhs.data
    obtain ⟨rhsLow, rhsHigh, rhsLaid⟩ := exists_signedLayout rhs.data
    have lhsWhole : lhs.layout = [Enumeration.code lhs.scope, lhsLow, lhsHigh] :=
      congrArg _ lhsLaid
    have rhsWhole : rhs.layout = [Enumeration.code rhs.scope, rhsLow, rhsHigh] :=
      congrArg _ rhsLaid
    simp [encode, decode, kind, lhsLaid, rhsLaid, decodeField_eq_ok_iff.mpr rfl,
      decodeVarRef_eq_ok_iff.mpr lhsWhole, decodeVarRef_eq_ok_iff.mpr rhsWhole, bind, Except.bind]
  | randomNumber dest range =>
    obtain ⟨destLow, destHigh, destLaid⟩ := exists_signedLayout dest.data
    obtain ⟨rangeLow, rangeHigh, rangeLaid⟩ := exists_signedLayout range.data
    have destWhole : dest.layout = [Enumeration.code dest.scope, destLow, destHigh] :=
      congrArg _ destLaid
    have rangeWhole : range.layout = [Enumeration.code range.scope, rangeLow, rangeHigh] :=
      congrArg _ rangeLaid
    simp [encode, decode, kind, destWhole, rangeWhole, decodeVarRef_eq_ok_iff.mpr destWhole,
      decodeVarRef_eq_ok_iff.mpr rangeWhole, bind, Except.bind]
  | playSound sound volume flags =>
    obtain ⟨first, second, third, fourth, laid⟩ := exists_longLayout sound
    simp [encode, decode, kind, laid, longLayout_eq_iff.mp laid]
  | stopAllSounds flags => rfl
  | animate animation duration flags =>
    obtain ⟨animationLow, animationHigh, animationLaid⟩ := exists_unsignedLayout animation
    obtain ⟨durationLow, durationHigh, durationLaid⟩ := exists_unsignedLayout duration
    simp [encode, decode, kind, animationLaid, durationLaid,
      unsignedLayout_eq_iff.mp animationLaid, unsignedLayout_eq_iff.mp durationLaid]
  | relationship op value =>
    obtain ⟨low, high, laid⟩ := exists_signedLayout value.data
    have whole : value.layout = [Enumeration.code value.scope, low, high] := congrArg _ laid
    simp [encode, decode, kind, whole, decodeField_eq_ok_iff.mpr rfl,
      decodeVarRef_eq_ok_iff.mpr whole, bind, Except.bind]
  | carry mode => simp [encode, decode, kind, decodeField_eq_ok_iff.mpr rfl, bind, Except.bind]
  | setStackObject source =>
    obtain ⟨low, high, laid⟩ := exists_signedLayout source.data
    have whole : source.layout = [Enumeration.code source.scope, low, high] := congrArg _ laid
    simp [encode, decode, kind, whole, decodeVarRef_eq_ok_iff.mpr whole, bind, Except.bind]
  | removeObject flags => rfl
  | notify message =>
    obtain ⟨low, high, laid⟩ := exists_unsignedLayout message
    simp [encode, decode, kind, laid, unsignedLayout_eq_iff.mp laid]

/-- What can come of a buffer that is long enough, of which
these words are still to be looked at. -/
inductive Decoded (kind : PrimitiveKind) (buffer : Bytes) (fields : List WordField) :
    Except OperandError Primitive → Prop where
  | ok {action : Primitive} (same : action.kind = kind) (laid : action.encode <+: buffer) :
      Decoded kind buffer fields (.ok action)
  | invalid {bad : WordField} {value : UInt8}
      (first : fields.find? (fun field => !field.isIn buffer) = some bad)
      (read : buffer[bad.place]? = some value) :
      Decoded kind buffer fields (.error (.invalidField kind.name bad.name value))

section

variable {kind : PrimitiveKind} {buffer : Bytes} {fields : List WordField} {name : String}
  {place : Nat}

theorem Decoded.past {field : WordField} {outcome : Except OperandError Primitive}
    (decoded : Decoded kind buffer fields outcome) (word : field.isIn buffer = true) :
    Decoded kind buffer (field :: fields) outcome := by
  cases decoded with
  | ok same laid => exact .ok same laid
  | invalid first read =>
    refine .invalid ?_ read
    rw [List.find?_cons_of_neg (by simp [word])]
    exact first

/-- A word is looked at before those that come after it. -/
theorem decoded_field {α : Type} [Enumeration α] [LawfulEnumeration α] {code : UInt8}
    {next : α → Except OperandError Primitive} (read : buffer[place]? = some code)
    (each : ∀ member, Enumeration.code member = code →
      Decoded kind buffer fields (next member)) :
    Decoded kind buffer (.holding α name place :: fields) (decodeField kind name code >>= next) := by
  have word : (WordField.holding α name place).isIn buffer =
      (Enumeration.ofCode? code : Option α).isSome := by
    rw [WordField.isIn, WordField.holding, read, Option.any_some]
  rw [decodeField]
  cases found : (Enumeration.ofCode? code : Option α) with
  | none =>
    rw [found] at word
    have first : (WordField.holding α name place :: fields).find?
        (fun field => !field.isIn buffer) = some (.holding α name place) :=
      List.find?_cons_of_pos (congrArg not word)
    exact .invalid first read
  | some member =>
    rw [found] at word
    exact (each member (ofCode?_eq_some_iff.mp found)).past word

theorem decoded_varRef {scope low high : UInt8} {next : VarRef → Except OperandError Primitive}
    (read : buffer[place]? = some scope)
    (each : ∀ reference, VarRef.layout reference = [scope, low, high] →
      Decoded kind buffer fields (next reference)) :
    Decoded kind buffer (.holding VariableScope name place :: fields)
      (decodeVarRef kind name scope low high >>= next) := by
  have split : decodeVarRef kind name scope low high >>= next =
      decodeField kind name scope >>= fun word => next ⟨word, signedWord low high⟩ := by
    rw [decodeVarRef]
    cases (decodeField kind name scope : Except OperandError VariableScope) <;> rfl
  rw [split]
  refine decoded_field read fun word same => each _ ?_
  rw [VarRef.layout, same, signedLayout_eq_iff.mpr rfl]

end

theorem decode_short {kind : PrimitiveKind} {buffer : Bytes}
    (short : buffer.length < kind.layoutLength) :
    decode kind buffer = .error (.truncated kind.name kind.layoutLength buffer.length) := by
  fun_cases decode kind buffer with
  | case12 => rfl
  | _ => exact absurd short (by simp [PrimitiveKind.layoutLength])

/-- A whole layout is decoded as the primitive that has these bytes, unless one of its words is
none. -/
theorem decode_whole {kind : PrimitiveKind} {laid : Bytes}
    (whole : laid.length = kind.layoutLength) (rest : Bytes) :
    Decoded kind (laid ++ rest) kind.wordFields (decode kind (laid ++ rest)) := by
  have unsigned (low high : UInt8) : unsignedLayout (unsignedWord low high) = [low, high] :=
    unsignedLayout_eq_iff.mpr rfl
  cases kind with
  | sleep =>
    match laid, whole with
    | [low, high], _ =>
      refine .ok rfl ⟨rest, ?_⟩
      rw [encode, unsigned]
  | expression =>
    match laid, whole with
    | [lhsLow, lhsHigh, rhsLow, rhsHigh, op, lhsScope, rhsScope], _ =>
      refine decoded_field rfl fun op opLaid => ?_
      refine decoded_varRef rfl fun lhs lhsLaid => decoded_varRef rfl fun rhs rhsLaid => ?_
      obtain ⟨lhsWord, lhsData⟩ := List.cons.inj lhsLaid
      obtain ⟨rhsWord, rhsData⟩ := List.cons.inj rhsLaid
      refine .ok rfl ⟨rest, ?_⟩
      rw [encode, lhsData, rhsData, opLaid, lhsWord, rhsWord]
      rfl
  | randomNumber =>
    match laid, whole with
    | [destScope, destLow, destHigh, rangeScope, rangeLow, rangeHigh], _ =>
      refine decoded_varRef rfl fun dest destLaid => decoded_varRef rfl fun range rangeLaid => ?_
      refine .ok rfl ⟨rest, ?_⟩
      rw [encode, destLaid, rangeLaid]
      rfl
  | playSound =>
    match laid, whole with
    | [first, second, third, fourth, volume, flags], _ =>
      refine .ok rfl ⟨rest, ?_⟩
      rw [encode, longLayout_eq_iff.mpr rfl]
      rfl
  | stopAllSounds =>
    match laid, whole with
    | [flags], _ => exact .ok rfl ⟨rest, rfl⟩
  | animate =>
    match laid, whole with
    | [animationLow, animationHigh, durationLow, durationHigh, flags], _ =>
      refine .ok rfl ⟨rest, ?_⟩
      rw [encode, unsigned, unsigned]
      rfl
  | relationship =>
    match laid, whole with
    | [op, scope, low, high], _ =>
      refine decoded_field rfl fun op opLaid => decoded_varRef rfl fun value valueLaid => ?_
      refine .ok rfl ⟨rest, ?_⟩
      rw [encode, opLaid, valueLaid]
  | carry =>
    match laid, whole with
    | [mode], _ =>
      refine decoded_field rfl fun mode modeLaid => .ok rfl ⟨rest, ?_⟩
      rw [encode, modeLaid]
  | setStackObject =>
    match laid, whole with
    | [scope, low, high], _ =>
      refine decoded_varRef rfl fun source sourceLaid => .ok rfl ⟨rest, ?_⟩
      rw [encode, sourceLaid]
  | removeObject =>
    match laid, whole with
    | [flags], _ => exact .ok rfl ⟨rest, rfl⟩
  | notify =>
    match laid, whole with
    | [low, high], _ =>
      refine .ok rfl ⟨rest, ?_⟩
      rw [encode, unsigned]

end Primitive

/-! ## Calls -/

namespace Call

theorem length_encode (request : Call) : request.encode.length = callLength := by
  obtain ⟨behavior, ⟨⟨args⟩, four⟩, flags⟩ := request
  match args, four with
  | [first, second, third, fourth], _ => rfl

/-- What was encoded is decoded again, whatever bytes follow. -/
theorem decode_encode (request : Call) (rest : Bytes) :
    decode request.behavior (request.encode ++ rest) = .ok request := by
  obtain ⟨behavior, ⟨⟨args⟩, four⟩, flags⟩ := request
  match args, four with
  | [a, b, c, d], _ =>
    obtain ⟨aLow, aHigh, aLaid⟩ := exists_signedLayout a
    obtain ⟨bLow, bHigh, bLaid⟩ := exists_signedLayout b
    obtain ⟨cLow, cHigh, cLaid⟩ := exists_signedLayout c
    obtain ⟨dLow, dHigh, dLaid⟩ := exists_signedLayout d
    simp [encode, decode, aLaid, bLaid, cLaid, dLaid, signedLayout_eq_iff.mp aLaid,
      signedLayout_eq_iff.mp bLaid, signedLayout_eq_iff.mp cLaid, signedLayout_eq_iff.mp dLaid]

theorem decode_short {buffer : Bytes} (behavior : UInt16) (short : buffer.length < callLength) :
    decode behavior buffer = .error (.truncated "call" callLength buffer.length) := by
  fun_cases decode behavior buffer with
  | case2 => rfl
  | case1 => exact absurd short (by simp [callLength])

/-- A whole layout is decoded as the call that has these bytes. -/
theorem decode_whole {laid : Bytes} (behavior : UInt16) (whole : laid.length = callLength)
    (rest : Bytes) : ∃ request, decode behavior (laid ++ rest) = .ok request ∧
      request.behavior = behavior ∧ request.encode = laid := by
  have signed (low high : UInt8) : signedLayout (signedWord low high) = [low, high] :=
    signedLayout_eq_iff.mpr rfl
  match laid, whole with
  | [a, a', b, b', c, c', d, d', flags], _ =>
    refine ⟨_, rfl, rfl, ?_⟩
    simp [encode, signed]

end Call

/-! ## Operands -/

/-- The kind with an opcode is the kind whose opcode it is. -/
theorem PrimitiveKind.ofOpcode?_eq_some_iff {opcode : UInt16} {kind : PrimitiveKind} :
    ofOpcode? opcode = some kind ↔ kind.opcode = opcode := by
  constructor
  · intro found
    have same := List.find?_some found
    exact beq_iff_eq.mp same
  · rintro rfl
    cases kind <;> rfl

theorem PrimitiveKind.opcode_lt (kind : PrimitiveKind) : kind.opcode < callBase := by
  cases kind <;> decide

namespace Operand

/-- An operand whose opcode tells what it is: a call must be of a behavior in the call range. -/
def Callable : Operand → Prop
  | .primitive _ => True
  | .call request => callBase ≤ request.behavior

/-- What an opcode says of the bytes of its operand: the name that errors have for it, its length,
and its words. -/
inductive Layout (opcode : UInt16) : String → Nat → List WordField → Prop where
  | primitive (kind : PrimitiveKind) (same : kind.opcode = opcode) :
      Layout opcode kind.name kind.layoutLength kind.wordFields
  | call (above : callBase ≤ opcode) : Layout opcode "call" callLength []

theorem decode_primitive (kind : PrimitiveKind) (buffer : Bytes) :
    decode kind.opcode buffer = (Primitive.decode kind buffer).map .primitive := by
  rw [decode, if_neg (UInt16.not_le.mpr kind.opcode_lt),
    PrimitiveKind.ofOpcode?_eq_some_iff.mpr rfl]

theorem decode_call {opcode : UInt16} (above : callBase ≤ opcode) (buffer : Bytes) :
    decode opcode buffer = (Call.decode opcode buffer).map .call := by
  rw [decode, if_pos above]

theorem decode_unknown {opcode : UInt16} (below : opcode < callBase)
    (unregistered : ∀ kind : PrimitiveKind, kind.opcode ≠ opcode) (buffer : Bytes) :
    decode opcode buffer = .error (.unknownPrimitive opcode) := by
  have none : PrimitiveKind.ofOpcode? opcode = none := by
    refine Option.eq_none_iff_forall_ne_some.mpr fun kind found => ?_
    exact unregistered kind (PrimitiveKind.ofOpcode?_eq_some_iff.mp found)
  rw [decode, if_neg (UInt16.not_le.mpr below), none]

/-- **What was encoded is decoded again**, whatever bytes follow. -/
theorem decode_encode {operand : Operand} (callable : operand.Callable) (rest : Bytes) :
    decode operand.opcode (operand.encode ++ rest) = .ok operand := by
  cases operand with
  | primitive action =>
    refine (decode_primitive action.kind _).trans ?_
    rw [encode, action.decode_encode]
    rfl
  | call request =>
    refine (decode_call callable _).trans ?_
    rw [encode, request.decode_encode]
    rfl

/-- What can come of a buffer when the opcode has a layout. -/
inductive Outcome (opcode : UInt16) (buffer : Bytes) (name : String) (length : Nat)
    (fields : List WordField) : Except OperandError Operand → Prop where
  | short (short : buffer.length < length) :
      Outcome opcode buffer name length fields (.error (.truncated name length buffer.length))
  | ok {operand : Operand} (long : length ≤ buffer.length) (same : operand.opcode = opcode)
      (callable : operand.Callable) (laid : operand.encode = buffer.take length) :
      Outcome opcode buffer name length fields (.ok operand)
  | invalid {bad : WordField} {value : UInt8} (long : length ≤ buffer.length)
      (first : fields.find? (fun field => !field.isIn buffer) = some bad)
      (read : buffer[bad.place]? = some value) :
      Outcome opcode buffer name length fields (.error (.invalidField name bad.name value))

/-- **A buffer that is too short is refused as such, one that holds no word in some place is refused
for the first such place, and any other is decoded.** -/
theorem decode_outcome {opcode : UInt16} {name : String} {length : Nat} {fields : List WordField}
    (layout : Layout opcode name length fields) (buffer : Bytes) :
    Outcome opcode buffer name length fields (decode opcode buffer) := by
  rcases Nat.lt_or_ge buffer.length length with short | long
  · cases layout with
    | primitive kind same =>
      subst same
      rw [decode_primitive, Primitive.decode_short short]
      exact .short short
    | call above =>
      rw [decode_call above, Call.decode_short opcode short]
      exact .short short
  · have split := List.take_append_drop length buffer
    have whole : (buffer.take length).length = length := List.length_take_of_le long
    cases layout with
    | primitive kind same =>
      subst same
      have decoded := Primitive.decode_whole whole (buffer.drop kind.layoutLength)
      rw [split] at decoded
      rw [decode_primitive]
      generalize Primitive.decode kind buffer = outcome at decoded ⊢
      cases decoded with
      | @ok action same laid =>
        subst same
        refine .ok long rfl trivial ?_
        rw [← action.length_encode]
        exact List.prefix_iff_eq_take.mp laid
      | invalid first read => exact .invalid long first read
    | call above =>
      obtain ⟨request, decoded, rfl, laid⟩ :=
        Call.decode_whole opcode whole (buffer.drop callLength)
      rw [split] at decoded
      rw [decode_call above, decoded]
      exact .ok long rfl above laid

/-- An opcode has a layout, or it is below the call range and no primitive has it. -/
theorem layout_or_unknown (opcode : UInt16) :
    (∃ name length fields, Layout opcode name length fields) ∨
      opcode < callBase ∧ ∀ kind : PrimitiveKind, kind.opcode ≠ opcode := by
  by_cases above : callBase ≤ opcode
  · exact .inl ⟨_, _, _, .call above⟩
  · by_cases registered : ∃ kind : PrimitiveKind, kind.opcode = opcode
    · obtain ⟨kind, same⟩ := registered
      exact .inl ⟨_, _, _, .primitive kind same⟩
    · exact .inr ⟨UInt16.not_le.mp above, fun kind same => registered ⟨kind, same⟩⟩

/-- What is decoded is an operand with the opcode, whose bytes the buffer begins with. -/
theorem decode_eq_ok_iff {opcode : UInt16} {buffer : Bytes} {operand : Operand} :
    decode opcode buffer = .ok operand ↔
      operand.opcode = opcode ∧ operand.encode <+: buffer ∧ operand.Callable := by
  constructor
  · intro decoded
    rcases layout_or_unknown opcode with ⟨name, length, fields, layout⟩ | ⟨below, unregistered⟩
    · have outcome := decode_outcome layout buffer
      rw [decoded] at outcome
      cases outcome with
      | ok long same callable laid =>
        exact ⟨same, laid ▸ List.take_prefix length buffer, callable⟩
    · rw [decode_unknown below unregistered] at decoded
      cases decoded
  · rintro ⟨rfl, ⟨rest, rfl⟩, callable⟩
    exact decode_encode callable rest

/-- What there is to say of the outcome of decoding, given the layout of the opcode. -/
structure Decodes (opcode : UInt16) (buffer : Bytes) (name : String) (length : Nat)
    (fields : List WordField) : Prop where
  /-- An operand that was decoded has the bytes of the layout, with all bits of its flags. -/
  laid : ∀ operand, decode opcode buffer = .ok operand → operand.encode = buffer.take length
  truncated : decode opcode buffer = .error (.truncated name length buffer.length) ↔
    buffer.length < length
  /-- What is long enough and no operand has an invalid field. -/
  invalid : (∃ field value, decode opcode buffer = .error (.invalidField name field value)) ↔
    length ≤ buffer.length ∧ ¬ ∃ operand, decode opcode buffer = .ok operand
  /-- The error names the first field that holds no word, and tells what it holds. -/
  blamed : ∀ field value, decode opcode buffer = .error (.invalidField name field value) →
    ∃ bad, fields.find? (fun field => !field.isIn buffer) = some bad ∧ bad.name = field ∧
      buffer[bad.place]? = some value

theorem decodes_of_layout {opcode : UInt16} {name : String} {length : Nat}
    {fields : List WordField} (layout : Layout opcode name length fields) (buffer : Bytes) :
    Decodes opcode buffer name length fields := by
  have outcome := decode_outcome layout buffer
  generalize result : decode opcode buffer = outcome at outcome
  constructor
  case laid =>
    rintro operand decoded
    obtain rfl := result.symm.trans decoded
    cases outcome with
    | ok long same callable laid => exact laid
  case truncated =>
    rw [result]
    cases outcome with
    | short short => exact iff_of_true rfl short
    | ok long same callable laid => exact iff_of_false (by simp) (Nat.not_lt.mpr long)
    | invalid long first read => exact iff_of_false (by simp) (Nat.not_lt.mpr long)
  case invalid =>
    rw [result]
    cases outcome with
    | short short => exact iff_of_false (by simp) fun both => Nat.not_le.mpr short both.1
    | ok long same callable laid => exact iff_of_false (by simp) fun both => both.2 ⟨_, rfl⟩
    | invalid long first read => exact iff_of_true ⟨_, _, rfl⟩ ⟨long, by simp⟩
  case blamed =>
    rintro field value refused
    obtain rfl := result.symm.trans refused
    cases outcome with
    | invalid long first read => exact ⟨_, first, rfl, read⟩

/-- **Decoding and encoding are inverse.** A buffer is decoded as an operand when it begins with the
bytes of the operand, whose opcode must tell what it is. Otherwise the opcode is unknown, or the
buffer is too short, or one of its words is none. -/
theorem decode_exact (opcode : UInt16) (buffer : Bytes) :
    (∀ operand, decode opcode buffer = .ok operand ↔
      operand.opcode = opcode ∧ operand.encode <+: buffer ∧ operand.Callable) ∧
    (∀ operand rest, operand.Callable →
      decode operand.opcode (operand.encode ++ rest) = .ok operand) ∧
    (decode opcode buffer = .error (.unknownPrimitive opcode) ↔
      opcode < callBase ∧ ∀ kind : PrimitiveKind, kind.opcode ≠ opcode) ∧
    ∀ name length fields, Layout opcode name length fields →
      Decodes opcode buffer name length fields := by
  refine ⟨fun operand => decode_eq_ok_iff, fun operand rest callable => decode_encode callable rest,
    ?_, fun name length fields layout => decodes_of_layout layout buffer⟩
  refine ⟨fun unknown => ?_, fun ⟨below, unregistered⟩ => decode_unknown below unregistered buffer⟩
  rcases layout_or_unknown opcode with ⟨name, length, fields, layout⟩ | unregistered
  · have outcome := decode_outcome layout buffer
    rw [unknown] at outcome
    cases outcome
  · exact unregistered

/-- A call with flags that have no names and with a byte after it, and an expression that has no
words in two places, of which the first is blamed. -/
theorem decode_exact_spare :
    let request : Operand := .call ⟨0x0100, #v[1, -1, 300, -0x8000], ⟨0x81⟩⟩
    let called : Bytes := [1, 0, 0xFF, 0xFF, 0x2C, 1, 0, 0x80, 0x81, 0xAB]
    let computed : Bytes := [0xFE, 0xFF, 0, 0x80, 13, 9, 8]
    request.Callable ∧ decode 0x0100 called = .ok request ∧
      Layout 0x0100 "call" callLength [] ∧ request.encode = called.take callLength ∧
      Layout 2 "expression" 7 PrimitiveKind.expression.wordFields ∧
      decode 2 computed = .error (.invalidField "expression" "lhs_scope" 9) ∧
      (PrimitiveKind.expression.wordFields.find? fun field => !field.isIn computed).map
        WordField.name = some "lhs_scope" := by
  intro request called computed
  have callable : request.Callable := UInt16.le_refl _
  have call : Layout 0x0100 "call" callLength [] := .call (UInt16.le_refl _)
  have expression : Layout 2 "expression" 7 PrimitiveKind.expression.wordFields :=
    .primitive .expression rfl
  have decoded : decode 0x0100 called = .ok request :=
    (decode_exact 0x0100 called).2.1 request [0xAB] callable
  have refused : decode 2 computed = .error (.invalidField "expression" "lhs_scope" 9) := rfl
  obtain ⟨bad, first, name, _⟩ :=
    ((decode_exact 2 computed).2.2.2 _ _ _ expression).blamed _ _ refused
  refine ⟨callable, decoded, call, ?_, expression, refused, ?_⟩
  · exact ((decode_exact 0x0100 called).2.2.2 _ _ _ call).laid request decoded
  · rw [first, Option.map_some, name]

end Operand
end Lockstep
