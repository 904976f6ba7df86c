import OutlineNav.Rpc.Message
import OutlineNav.Text.Blank
import OutlineNav.Text.Unsigned

/-!
# Framing

Messages travel over a stream of bytes in frames. A frame is a list of header lines, closed by a
blank one, and a body whose length in bytes one of the headers gives. `frame` writes a body,
`readMessage` reads the next message off a stream: it returns the message or what was wrong, and the
bytes that it has not consumed.
-/

namespace OutlineNav.Rpc

inductive FrameError where
  /-- The stream ended in front of or inside the headers. -/
  | closed
  /-- The stream ended inside the body. -/
  | cutShort
  | headerEncoding (error : Text.Utf8Error)
  | badLength (error : Text.UnsignedError)
  | noLength
  | bodyEncoding (error : Text.Utf8Error)
  | badMessage (error : MessageError)
  deriving DecidableEq, Repr

namespace FrameError

def isEnd : FrameError → Bool
  | .closed | .cutShort => true
  | _ => false

def message : FrameError → String
  | .closed => "Server closed connection"
  | .cutShort => "early eof"
  | .headerEncoding e | .bodyEncoding e => e.message
  | .badLength e => e.message
  | .noLength => "Missing Content-Length"
  | .badMessage e => e.message

end FrameError

/-! ## Writing -/

def lengthHeader : List Char := "Content-Length:".toList

def frame (body : List UInt8) : List UInt8 :=
  Text.encodeUtf8 (lengthHeader ++ ' ' :: (toString body.length).toList ++ ['\r', '\n', '\r', '\n'])
    ++ body

def Message.body (m : Message) : List UInt8 := Text.encodeUtf8 m.toJson.compact.toList

/-- The bytes that a message travels as. -/
def Message.wire (m : Message) : List UInt8 := frame m.body

/-! ## Reading -/

def lineFeed : UInt8 := 0x0A

/-- The first line of a stream, with the line feed that ends it, and the bytes behind it. -/
def splitLine : List UInt8 → List UInt8 × List UInt8
  | [] => ([], [])
  | b :: bytes =>
    if b = lineFeed then ([b], bytes)
    else
      let (line, rest) := splitLine bytes
      (b :: line, rest)

theorem splitLine_append (bytes : List UInt8) :
    (splitLine bytes).1 ++ (splitLine bytes).2 = bytes := by
  induction bytes with
  | nil => rfl
  | cons b bytes ih =>
    simp only [splitLine]
    split
    · rfl
    · simpa using ih

theorem length_splitLine_lt (b : UInt8) (bytes : List UInt8) :
    (splitLine (b :: bytes)).2.length < (b :: bytes).length := by
  have h := congrArg List.length (splitLine_append bytes)
  simp only [List.length_append] at h
  simp only [splitLine, List.length_cons]
  split
  · simp
  · show (splitLine bytes).2.length < _
    omega

/-- What a header line says about the length of the body: nothing, or what its text is worth. -/
def headerLength? (header : List Char) : Option (Except Text.UnsignedError Nat) :=
  if lengthHeader.isPrefixOf header then
    let value := Text.trimEndChars (Text.trimStartChars (header.drop lengthHeader.length))
    some (Text.unsigned UInt64.size value)
  else none

/-- Reads header lines up to the blank one, where `length?` is the length given so far. A later
length replaces an earlier one. -/
def readHeaders (length? : Option Nat) (bytes : List UInt8) : Except FrameError Nat × List UInt8 :=
  match bytes with
  | [] => (.error .closed, [])
  | b :: bytes =>
    let rest := (splitLine (b :: bytes)).2
    match Text.decodeUtf8 (splitLine (b :: bytes)).1 with
    | .error e => (.error (.headerEncoding e), rest)
    | .ok line =>
      let header := Text.trimEndChars (Text.trimStartChars line)
      if header = [] then
        match length? with
        | some n => (.ok n, rest)
        | none => (.error .noLength, rest)
      else
        match headerLength? header with
        | none => readHeaders length? rest
        | some (.ok n) => readHeaders (some n) rest
        | some (.error e) => (.error (.badLength e), rest)
termination_by bytes.length
decreasing_by all_goals exact length_splitLine_lt _ _

def readBody (body : List UInt8) : Except FrameError Message :=
  match Text.decodeUtf8 body with
  | .error e => .error (.bodyEncoding e)
  | .ok text => (Message.parse text).mapError .badMessage

/-- The next message of a stream, and the bytes behind what was consumed. -/
def readMessage (bytes : List UInt8) : Except FrameError Message × List UInt8 :=
  match readHeaders none bytes with
  | (.error e, rest) => (.error e, rest)
  | (.ok n, rest) =>
    if rest.length < n then (.error .cutShort, []) else (readBody (rest.take n), rest.drop n)

/-- Reads messages until the stream has ended, `limit` at most. -/
def readAll : (limit : Nat) → List UInt8 → List (Except FrameError Message)
  | 0, _ => []
  | limit + 1, bytes =>
    match readMessage bytes with
    | (.error e, rest) => .error e :: if e.isEnd then [] else readAll limit rest
    | (.ok m, rest) => .ok m :: readAll limit rest

end OutlineNav.Rpc
