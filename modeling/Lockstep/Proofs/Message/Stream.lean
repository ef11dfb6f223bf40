import Lockstep.Proofs.Message.Frame

/-!
# Streams of frames

A stream of frames is read to its end, whatever the frames hold. Each gives one result, which
depends on nothing but the frame (`RawFrame.result`), and leaves the stream at the beginning of the
next one. So a frame that cannot be read never costs another one (`readMessages_frames`).
-/

set_option autoImplicit false

namespace Lockstep

namespace RawFrame

variable {α : Type}

/-- What a frame gives a reader that expects messages of one direction. -/
def result (expected : Direction) (read : MessageKind → Datum → Option α) (frame : RawFrame) :
    Except FrameError α :=
  match Enumeration.ofCode? frame.code with
  | none => .error (.unknownMessageKind frame.code frame.payload.length)
  | some kind =>
    if kind.direction ≠ expected then .error (.wrongDirection kind expected)
    else
      match (Packed.read frame.payload).bind fun (datum, _) => read kind datum with
      | some message => .ok message
      | none => .error .payloadDecode

variable (expected : Direction) (read : MessageKind → Datum → Option α)

/-- Reading may go on after each frame. -/
theorem isRecoverable_of_result {frame : RawFrame} {error : FrameError}
    (failed : frame.result expected read = .error error) : error.isRecoverable = true := by
  rw [result] at failed
  split at failed
  · obtain rfl := Except.error.inj failed
    rfl
  · split at failed
    · obtain rfl := Except.error.inj failed
      rfl
    · split at failed
      · cases failed
      · obtain rfl := Except.error.inj failed
        rfl

/-- **One step**: the next frame of a stream gives its own result, and is all that is taken. -/
theorem readMessage_bytes_append (frame : RawFrame) (rest : Bytes) :
    readMessage (decodePayload expected read) (frame.bytes ++ rest) =
      (frame.result expected read, rest) := by
  rw [readMessage, frame.readFrame_bytes_append, parts, result]
  cases (Enumeration.ofCode? frame.code : Option MessageKind) <;> rfl

/-- The bytes of some frames, one after the other. -/
def stream (frames : List RawFrame) : Bytes := frames.flatMap bytes

/-- What reading a stream of frames gives: the result of each frame together with the frames that
follow it, and at the end that there are no more. -/
def results : List RawFrame → List (Except FrameError α × Bytes)
  | [] => [(.error .endOfStream, [])]
  | frame :: rest => (frame.result expected read, stream rest) :: results rest

theorem readMessagesWithin_stream (frames : List RawFrame) {bound : Nat}
    (enough : frames.length < bound) :
    readMessagesWithin (decodePayload expected read) bound (stream frames) =
      results expected read frames := by
  induction frames generalizing bound with
  | nil =>
    obtain ⟨bound, rfl⟩ := Nat.exists_eq_add_one_of_ne_zero (Nat.ne_zero_of_lt enough)
    rfl
  | cons frame rest inductionHypothesis =>
    obtain ⟨bound, rfl⟩ := Nat.exists_eq_add_one_of_ne_zero (Nat.ne_zero_of_lt enough)
    have later := inductionHypothesis (Nat.lt_of_succ_lt_succ enough)
    rw [stream, List.flatMap_cons, readMessagesWithin, readMessage_bytes_append, results, ← later]
    refine congrArg (List.cons (frame.result expected read, stream rest)) ?_
    cases outcome : frame.result expected read with
    | ok message => rfl
    | error error => exact if_pos (isRecoverable_of_result expected read outcome)

/-- Every frame takes at least its header. -/
theorem length_stream (frames : List RawFrame) :
    headerLength * frames.length ≤ (stream frames).length := by
  induction frames with
  | nil => exact Nat.le_refl _
  | cons frame rest inductionHypothesis =>
    have length : (stream (frame :: rest)).length =
        frame.header.length + frame.payload.length + (stream rest).length := by
      rw [stream, List.flatMap_cons, List.length_append, bytes, List.length_append]
      rfl
    rw [length_header] at length
    rw [List.length_cons, Nat.mul_succ]
    omega

theorem readMessages_stream (frames : List RawFrame) :
    readMessages (decodePayload expected read) (stream frames) = results expected read frames := by
  refine readMessagesWithin_stream expected read frames (Nat.lt_succ_of_le ?_)
  exact (Nat.le_div_iff_mul_le (by decide)).mpr (Nat.mul_comm _ _ ▸ length_stream frames)

theorem map_fst_results (frames : List RawFrame) :
    (results expected read frames).map Prod.fst =
      frames.map (result expected read) ++ [.error .endOfStream] := by
  induction frames with
  | nil => rfl
  | cons frame rest inductionHypothesis =>
    rw [results, List.map_cons, inductionHypothesis]
    rfl

theorem map_snd_results (frames : List RawFrame) :
    (results expected read frames).map Prod.snd = frames.tails.tail.map stream ++ [[]] := by
  induction frames with
  | nil => rfl
  | cons frame rest inductionHypothesis =>
    have tails : rest.tails = rest :: rest.tails.tail := by cases rest <;> rfl
    rw [results, List.map_cons, inductionHypothesis, List.tails, List.tail_cons, tails]
    rfl

end RawFrame

/-- A reader takes a stream of frames frame by frame. -/
structure ReadsInOrder {α : Type} (decode : MessageHeader → Bytes → Except FrameError α)
    (result : RawFrame → Except FrameError α) (frames : List RawFrame) : Prop where
  /-- There is one result for each frame, and then the stream has ended. -/
  results : (readMessages decode (RawFrame.stream frames)).map Prod.fst =
    frames.map result ++ [.error .endOfStream]
  /-- After each frame the stream still holds those that follow, whole. -/
  remainders : (readMessages decode (RawFrame.stream frames)).map Prod.snd =
    frames.tails.tail.map RawFrame.stream ++ [[]]

/-- **A frame that cannot be read never costs another one**, on either side: whatever the frames of
a stream hold, each gives the result that it gives alone. -/
theorem readMessages_frames (frames : List RawFrame) :
    ReadsInOrder ServerMessage.decode
        (RawFrame.result .serverToClient (ServerMessage.ofPayload? .packed)) frames ∧
      ReadsInOrder ClientMessage.decode
        (RawFrame.result .clientToServer (ClientMessage.ofPayload? .packed)) frames := by
  have inOrder {α : Type} (expected : Direction) (read : MessageKind → Datum → Option α) :
      ReadsInOrder (decodePayload expected read) (RawFrame.result expected read) frames := by
    constructor
    case results => rw [RawFrame.readMessages_stream, RawFrame.map_fst_results]
    case remainders => rw [RawFrame.readMessages_stream, RawFrame.map_snd_results]
  exact ⟨inOrder .serverToClient _, inOrder .clientToServer _⟩

/-- A frame of an unknown kind, one of the wrong direction and one that is no message are passed
over on the way to one that is. -/
example :
    let notice : ServerMessage := .direct (.notice ⟨⟨1⟩, 3⟩)
    let frames : List RawFrame := [⟨9, [1, 2], by decide⟩, ⟨128, [], by decide⟩,
      ⟨0, [0xC0], by decide⟩, ⟨1, Packed.write notice.payload, by decide +kernel⟩]
    (readMessages ServerMessage.decode (RawFrame.stream frames)).map Prod.fst =
      [.error (.unknownMessageKind 9 2), .error (.wrongDirection .command .serverToClient),
        .error .payloadDecode, .ok notice, .error .endOfStream] := by
  decide +kernel

end Lockstep
