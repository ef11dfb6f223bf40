import Lockstep.Proofs.Except
import Lockstep.Proofs.Message.Stream

/-!
# Frame boundaries

Not every stream is one of whole frames. A stream may end inside a header, or inside the payload
that a header announces (`CutFrame`), and a header may announce more than is allowed. These are all
the ways in which a stream can begin (`begins`), and for each of them there is one law of what is
read and what is left.

Reading goes on after a recoverable error because the stream then stands at the beginning of a
frame. So it does if the frame is whole. The one exception is a frame of an unknown kind that the
end of the stream cuts off: its payload is passed over as far as it goes, and the error is the one
that a whole frame gives. A cut frame of a known kind is told from a whole one
(`readMessage_aligned`).
-/

set_option autoImplicit false

namespace Lockstep

open Bytes (bigEndian readBig ofLittleEndian takeExactly capacity)

/-! ## Frames that are cut off -/

/-- What there is of a frame whose payload is shorter than its header says. -/
structure CutFrame where
  code : UInt8
  /-- The length that the header announces. -/
  length : Nat
  payload : Bytes
  short : length ≤ maxPayloadLength
  cut : payload.length < length

namespace CutFrame

/-- The bytes of a frame up to the end of the stream. -/
def bytes (frame : CutFrame) : Bytes := frame.code :: (bigEndian 4 frame.length ++ frame.payload)

/-- The kind of a frame, if its code is that of a kind. -/
def kind? (frame : CutFrame) : Option MessageKind := Enumeration.ofCode? frame.code

/-- What a cut frame is reported as: only if its kind is known, as the end of the stream. -/
def error (frame : CutFrame) : FrameError :=
  match frame.kind? with
  | some _ => .endOfStream
  | none => .unknownMessageKind frame.code frame.length

theorem length_lt (frame : CutFrame) : frame.length < capacity 4 :=
  Nat.lt_of_le_of_lt frame.short (by decide)

theorem isRecoverable_error (frame : CutFrame) :
    frame.error.isRecoverable = true ↔ frame.kind? = none := by
  rw [error]
  cases frame.kind? <;> simp [FrameError.isRecoverable]

end CutFrame

/-! ## How streams begin -/

/-- All the ways in which a stream can begin. -/
inductive Begins : Bytes → Prop where
  /-- With a whole frame. -/
  | whole (frame : RawFrame) (rest : Bytes) : Begins (frame.bytes ++ rest)
  /-- With a frame inside whose payload it ends. -/
  | cut (frame : CutFrame) : Begins frame.bytes
  /-- With a header that announces more than is allowed. -/
  | excessive (code : UInt8) (length : Nat) (rest : Bytes) :
      maxPayloadLength < length → length < capacity 4 →
        Begins (code :: (bigEndian 4 length ++ rest))
  /-- With a header inside which it ends. -/
  | broken (stream : Bytes) : stream.length < headerLength → Begins stream

/-- Four bytes, most significant first, spell a number. -/
theorem exists_bigEndian {word : Bytes} (four : word.length = 4) :
    ∃ length, length < capacity 4 ∧ word = bigEndian 4 length := by
  refine ⟨ofLittleEndian word.reverse, ?_, ?_⟩
  · rw [← four, ← List.length_reverse]
    exact Bytes.ofLittleEndian_lt word.reverse
  · rw [bigEndian, ← four, ← List.length_reverse, Bytes.littleEndian_ofLittleEndian,
      List.reverse_reverse]

theorem begins (stream : Bytes) : Begins stream := by
  cases taken : takeExactly headerLength stream with
  | none => exact .broken stream (Bytes.takeExactly_eq_none_iff.mp taken)
  | some parts =>
    obtain ⟨header, after⟩ := parts
    obtain ⟨rfl, five⟩ := Bytes.eq_append_of_takeExactly taken
    obtain _ | ⟨code, word⟩ := header
    · exact absurd five (by decide)
    obtain ⟨length, fits, rfl⟩ := exists_bigEndian (Nat.succ.inj five)
    rw [List.cons_append]
    rcases Nat.lt_or_ge maxPayloadLength length with long | short
    · exact .excessive code length after long fits
    rcases Nat.lt_or_ge after.length length with lacking | enough
    · exact .cut ⟨code, length, after, short, lacking⟩
    · obtain ⟨payload, rest, rfl, rfl⟩ :
          ∃ payload rest, payload ++ rest = after ∧ payload.length = length :=
        ⟨_, _, List.take_append_drop length after, List.length_take_of_le enough⟩
      have whole := Begins.whole ⟨code, payload, short⟩ rest
      rwa [RawFrame.bytes, List.append_assoc] at whole

/-! ## What is read -/

theorem decode_announced (code : UInt8) {length : Nat} (fits : length < capacity 4)
    (rest : Bytes) :
    MessageHeader.decode (code :: (bigEndian 4 length ++ rest)) =
      if maxPayloadLength < length then .error (.payloadTooLarge length)
      else
        match Enumeration.ofCode? code with
        | some kind => .ok ⟨kind, UInt32.ofNat length⟩
        | none => .error (.unknownMessageKind code length) := by
  have read := Bytes.readBig_bigEndian 4 length rest fits
  cases kind : (Enumeration.ofCode? code : Option MessageKind) <;>
    simp only [MessageHeader.decode, read, kind]

theorem takeExactly_header (code : UInt8) (length : Nat) (rest : Bytes) :
    takeExactly headerLength (code :: (bigEndian 4 length ++ rest)) =
      some (code :: (bigEndian 4 length ++ []), rest) := by
  have taken := Bytes.takeExactly_append (code :: bigEndian 4 length) rest
  rw [List.length_cons, Bytes.length_bigEndian] at taken
  rw [List.append_nil]
  exact taken

/-- A stream that ends inside a frame is used up. -/
theorem readFrame_cut (frame : CutFrame) : readFrame frame.bytes = (.error frame.error, []) := by
  have lacking : frame.payload.drop frame.length = [] :=
    List.drop_eq_nil_iff.mpr (Nat.le_of_lt frame.cut)
  have announced : (UInt32.ofNat frame.length).toNat = frame.length :=
    UInt32.toNat_ofNat_of_lt' frame.length_lt
  have missing : takeExactly frame.length frame.payload = none :=
    Bytes.takeExactly_eq_none_iff.mpr frame.cut
  rw [CutFrame.bytes, readFrame, takeExactly_header, CutFrame.error, CutFrame.kind?]
  simp only [decode_announced _ frame.length_lt, if_neg (Nat.not_lt.mpr frame.short)]
  cases (Enumeration.ofCode? frame.code : Option MessageKind) with
  | none => simp only [lacking]
  | some kind => simp only [announced, missing]

theorem readFrame_excessive (code : UInt8) {length : Nat} (rest : Bytes)
    (long : maxPayloadLength < length) (fits : length < capacity 4) :
    readFrame (code :: (bigEndian 4 length ++ rest)) =
      (.error (.payloadTooLarge length), rest) := by
  rw [readFrame, takeExactly_header]
  simp only [decode_announced code fits, if_pos long]

theorem readFrame_broken {stream : Bytes} (short : stream.length < headerLength) :
    readFrame stream = (.error .endOfStream, []) := by
  rw [readFrame, Bytes.takeExactly_eq_none_iff.mpr short]

section

variable {α : Type} (decode : MessageHeader → Bytes → Except FrameError α)

theorem readMessage_whole (frame : RawFrame) (rest : Bytes) :
    readMessage decode (frame.bytes ++ rest) =
      (frame.parts.bind fun (header, payload) => decode header payload, rest) := by
  rw [readMessage, frame.readFrame_bytes_append]
  cases frame.parts <;> rfl

theorem readMessage_cut (frame : CutFrame) :
    readMessage decode frame.bytes = (.error frame.error, []) := by
  rw [readMessage, readFrame_cut]

theorem readMessage_excessive (code : UInt8) {length : Nat} (rest : Bytes)
    (long : maxPayloadLength < length) (fits : length < capacity 4) :
    readMessage decode (code :: (bigEndian 4 length ++ rest)) =
      (.error (.payloadTooLarge length), rest) := by
  rw [readMessage, readFrame_excessive code rest long fits]

theorem readMessage_broken {stream : Bytes} (short : stream.length < headerLength) :
    readMessage decode stream = (.error .endOfStream, []) := by
  rw [readMessage, readFrame_broken short]

end

/-! ## Where a reader stands -/

/-- After a result reading goes on, unless it is an error that is not recoverable. -/
def GoesOn {α : Type} (result : Except FrameError α) : Prop :=
  ∀ error, result = .error error → error.isRecoverable = true

theorem goesOn_ok {α : Type} (message : α) : GoesOn (.ok message) := by
  intro _ failed
  cases failed

theorem not_goesOn {α : Type} {error : FrameError} (final : error.isRecoverable = false) :
    ¬ GoesOn (.error error : Except FrameError α) := fun goesOn =>
  Bool.false_ne_true (final.symm.trans (goesOn error rfl))

theorem goesOn_cut {α : Type} {frame : CutFrame} :
    GoesOn (.error frame.error : Except FrameError α) ↔ frame.kind? = none := by
  rw [← frame.isRecoverable_error]
  exact ⟨fun goesOn => goesOn _ rfl, fun recoverable _ same => Except.error.inj same ▸ recoverable⟩

/-- A stream does not begin with a whole frame and end inside that frame. -/
theorem bytes_append_ne_cut (frame : RawFrame) (rest : Bytes) (cut : CutFrame) :
    frame.bytes ++ rest ≠ cut.bytes := by
  intro same
  -- Both frames announce the same length, for which one has the bytes and the other has not.
  have heads := congrArg (takeExactly headerLength) same
  rw [RawFrame.bytes, RawFrame.header, List.cons_append, List.cons_append, List.append_assoc,
    takeExactly_header, CutFrame.bytes, takeExactly_header] at heads
  obtain ⟨headers, payloads⟩ := Prod.mk.inj (Option.some.inj heads)
  rw [List.append_nil, List.append_nil] at headers
  have words := (List.cons.inj headers).2
  have lengths := congrArg (fun word => Bytes.readBig 4 (word ++ [])) words
  simp only [Bytes.readBig_bigEndian _ _ _ frame.length_lt,
    Bytes.readBig_bigEndian _ _ _ cut.length_lt] at lengths
  have announced := (Prod.mk.inj (Option.some.inj lengths)).1
  have lacking := cut.cut
  rw [← payloads, List.length_append] at lacking
  omega

section

variable {α : Type} (decode : MessageHeader → Bytes → Except FrameError α)

/-- **One frame**: where reading goes on, the frame was whole or of an unknown kind. -/
theorem readMessage_goesOn {stream : Bytes} (goesOn : GoesOn (readMessage decode stream).1) :
    (∃ frame : RawFrame, stream = frame.bytes ++ (readMessage decode stream).2) ∨
      ∃ frame : CutFrame, frame.kind? = none ∧ stream = frame.bytes := by
  cases begins stream with
  | whole frame rest => exact .inl ⟨frame, by rw [readMessage_whole]⟩
  | cut frame =>
    rw [readMessage_cut] at goesOn
    exact .inr ⟨frame, goesOn_cut.mp goesOn, rfl⟩
  | excessive code length rest long fits =>
    rw [readMessage_excessive decode code rest long fits] at goesOn
    exact absurd goesOn (not_goesOn rfl)
  | broken _ short =>
    rw [readMessage_broken decode short] at goesOn
    exact absurd goesOn (not_goesOn rfl)

theorem mem_readMessagesWithin_succ {bound : Nat} {stream rest : Bytes}
    {result : Except FrameError α}
    (read : (result, rest) ∈ readMessagesWithin decode (bound + 1) stream) :
    (result, rest) = readMessage decode stream ∨
      GoesOn (readMessage decode stream).1 ∧
        (result, rest) ∈ readMessagesWithin decode bound (readMessage decode stream).2 := by
  cases outcome : readMessage decode stream with
  | mk first after =>
    rw [readMessagesWithin, outcome] at read
    obtain here | later := List.mem_cons.mp read
    · exact .inl here
    cases first with
    | ok message => exact .inr ⟨goesOn_ok message, later⟩
    | error error =>
      cases recoverable : error.isRecoverable with
      | true =>
        refine .inr ⟨fun _ same => Except.error.inj same ▸ recoverable, ?_⟩
        simpa only [recoverable, if_true] using later
      | false => simp [recoverable] at later

/-- At the end of a stream nothing is read any more. -/
theorem not_goesOn_of_nil {bound : Nat} {rest : Bytes} {result : Except FrameError α}
    (read : (result, rest) ∈ readMessagesWithin decode bound []) : ¬ GoesOn result := by
  cases bound with
  | zero => exact absurd read List.not_mem_nil
  | succ bound =>
    have ended : readMessage decode [] = (.error .endOfStream, []) :=
      readMessage_broken decode (by decide)
    obtain here | ⟨goesOn, _⟩ := mem_readMessagesWithin_succ decode read
    · rw [(Prod.mk.inj (here.trans ended)).1]
      exact not_goesOn rfl
    · rw [ended] at goesOn
      exact absurd goesOn (not_goesOn rfl)

/-- **All frames**: wherever reading goes on, the stream up to there is one of whole frames, or it
is used up and its last frame was cut off and of an unknown kind. -/
theorem readMessagesWithin_goesOn {bound : Nat} {stream rest : Bytes}
    {result : Except FrameError α} (read : (result, rest) ∈ readMessagesWithin decode bound stream)
    (goesOn : GoesOn result) :
    ∃ frames : List RawFrame, stream = RawFrame.stream frames ++ rest ∨
      rest = [] ∧ ∃ frame : CutFrame, frame.kind? = none ∧
        stream = RawFrame.stream frames ++ frame.bytes := by
  induction bound generalizing stream with
  | zero => exact absurd read List.not_mem_nil
  | succ bound inductionHypothesis =>
    obtain here | ⟨first, later⟩ := mem_readMessagesWithin_succ decode read
    · rw [(Prod.mk.inj here).1] at goesOn
      have left : rest = (readMessage decode stream).2 := (Prod.mk.inj here).2
      obtain ⟨frame, whole⟩ | ⟨frame, unknown, rfl⟩ := readMessage_goesOn decode goesOn
      · refine ⟨[frame], .inl ?_⟩
        rw [left, RawFrame.stream, List.flatMap_singleton]
        exact whole
      · rw [readMessage_cut] at left
        exact ⟨[], .inr ⟨left, frame, unknown, rfl⟩⟩
    · obtain ⟨frame, whole⟩ | ⟨frame, unknown, rfl⟩ := readMessage_goesOn decode first
      · have extend (rest : Bytes) (frames : List RawFrame) :
            RawFrame.stream (frame :: frames) ++ rest =
              frame.bytes ++ (RawFrame.stream frames ++ rest) := List.append_assoc _ _ _
        obtain ⟨frames, aligned | ⟨ended, cut, unknown, aligned⟩⟩ := inductionHypothesis later
        · exact ⟨frame :: frames, .inl (by rw [extend, ← aligned, ← whole])⟩
        · refine ⟨frame :: frames, .inr ⟨ended, cut, unknown, ?_⟩⟩
          rw [extend, ← aligned, ← whole]
      · rw [readMessage_cut] at later
        exact absurd goesOn (not_goesOn_of_nil decode later)

end

/-- **After a recoverable error the stream stands at the beginning of a frame**, unless it ends
inside the frame that was read. Then the header and the announced payload were taken, no more and no
less. A stream that ends inside a frame gives an error that is not recoverable if it ends inside the
header or the kind is known; if the kind is not known, the error is recoverable and the stream used
up. So wherever a reader goes on, the frames before it were whole, or the last one was such a
frame. -/
theorem readMessage_aligned {α : Type} (decode : MessageHeader → Bytes → Except FrameError α)
    (stream : Bytes) :
    let (result, rest) := readMessage decode stream
    (∀ error, result = .error error → error.isRecoverable = true →
      ((∃ frame : RawFrame, stream = frame.bytes ++ rest) ↔
        ¬ ∃ frame : CutFrame, stream = frame.bytes)) ∧
    (stream.length < headerLength → result = .error .endOfStream) ∧
    (∀ frame : CutFrame, stream = frame.bytes →
      result = .error frame.error ∧ rest = [] ∧
        (frame.error.isRecoverable = true ↔ frame.kind? = none)) ∧
    ∀ later left, (later, left) ∈ readMessages decode stream → GoesOn later →
      ∃ frames : List RawFrame, stream = RawFrame.stream frames ++ left ∨
        left = [] ∧ ∃ frame : CutFrame, frame.kind? = none ∧
          stream = RawFrame.stream frames ++ frame.bytes := by
  dsimp only
  refine ⟨?recoverable, ?broken, ?cut, fun _ _ => readMessagesWithin_goesOn decode⟩
  case recoverable =>
    intro error failed recoverable
    have goesOn : GoesOn (readMessage decode stream).1 := by
      rw [failed]
      exact fun _ same => Except.error.inj same ▸ recoverable
    constructor
    · rintro ⟨frame, whole⟩ ⟨cut, ended⟩
      exact bytes_append_ne_cut frame _ cut (whole.symm.trans ended)
    · intro notCut
      obtain whole | ⟨frame, _, ended⟩ := readMessage_goesOn decode goesOn
      · exact whole
      · exact absurd ⟨frame, ended⟩ notCut
  case broken =>
    intro short
    rw [readMessage_broken decode short]
  case cut =>
    rintro frame rfl
    rw [readMessage_cut]
    exact ⟨rfl, rfl, frame.isRecoverable_error⟩

/-- A client is sent a command, then a frame of an unknown kind, and then a notice of which only the
first byte arrives. -/
theorem readMessage_aligned_notice :
    let notice : Bytes := [1, 0, 0, 0, 3, 7]
    let stream : Bytes := [128, 0, 0, 0, 0] ++ ([9, 0, 0, 0, 2, 1, 2] ++ notice)
    (readMessages ServerMessage.decode stream).map Prod.fst =
        [.error (.wrongDirection .command .serverToClient), .error (.unknownMessageKind 9 2),
          .error .endOfStream] ∧
      (FrameError.wrongDirection .command .serverToClient).isRecoverable = true ∧
      (∃ frame : RawFrame, stream = frame.bytes ++ (readMessage ServerMessage.decode stream).2) ∧
      readMessage ServerMessage.decode notice = (.error .endOfStream, []) ∧
      ∃ frames : List RawFrame, stream = RawFrame.stream frames ++ notice := by
  intro notice stream
  obtain ⟨recovers, _, _, _⟩ := readMessage_aligned ServerMessage.decode stream
  obtain ⟨_, _, cut, _⟩ := readMessage_aligned ServerMessage.decode notice
  have failed : (readMessage ServerMessage.decode stream).1 =
      .error (.wrongDirection .command .serverToClient) := by decide +kernel
  let command : RawFrame := ⟨128, [], by decide⟩
  let unknown : RawFrame := ⟨9, [1, 2], by decide⟩
  have begun : stream = command.bytes ++ ([9, 0, 0, 0, 2, 1, 2] ++ notice) := by decide
  have notCut : ¬ ∃ frame : CutFrame, stream = frame.bytes := fun ⟨frame, ended⟩ =>
    bytes_append_ne_cut command _ frame (begun.symm.trans ended)
  obtain ⟨ended, used, _⟩ := cut ⟨1, 3, [7], by decide, by decide⟩ rfl
  exact ⟨by decide +kernel, rfl, (recovers _ failed rfl).mpr notCut, Prod.ext ended used,
    [command, unknown], by decide⟩

/-- A frame of an unknown kind is cut off after two of five bytes, and the error is recoverable. -/
theorem readFrame_recovers_cut :
    let stream : Bytes := [9, 0, 0, 0, 5, 1, 2]
    readFrame stream = (.error (.unknownMessageKind 9 5), []) ∧
      (FrameError.unknownMessageKind 9 5).isRecoverable = true ∧
      stream.length < headerLength + 5 ∧
      ¬ ∃ frame : RawFrame, stream = frame.bytes ++ [] := by
  intro stream
  let cut : CutFrame := ⟨9, 5, [1, 2], by decide, by decide⟩
  have ended : stream = cut.bytes := by decide
  refine ⟨by decide +kernel, rfl, by decide, ?_⟩
  rintro ⟨frame, whole⟩
  exact bytes_append_ne_cut frame [] cut (whole.symm.trans ended)

end Lockstep
