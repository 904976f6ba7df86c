import OutlineNav.Rpc.Frame

/-!
# Messages that have arrived

A stream arrives in pieces, and a piece may end inside a message. `arrived` gives the messages of
which everything is there and leaves the bytes of a message that is under way. What is wrong with a
message is found as soon as the lines in which it shows are complete. A stream that has ended is
read to its end.
-/

namespace OutlineNav.Rpc

/-- The complete lines of a text, and the bytes of the line that has begun. -/
def splitLastLine (bytes : List UInt8) : List UInt8 × List UInt8 :=
  let begun := (bytes.reverse.takeWhile (· ≠ lineFeed)).reverse
  (bytes.take (bytes.length - begun.length), begun)

/-- The next message of a stream that may go on, if it has arrived. -/
def nextMessage? (bytes : List UInt8) : Option (Except FrameError Message × List UInt8) :=
  let (lines, begun) := splitLastLine bytes
  match readHeaders none lines with
  | (.error .closed, _) => none
  | (.error e, rest) => some (.error e, rest ++ begun)
  | (.ok n, rest) =>
    let rest := rest ++ begun
    if rest.length < n then none else some (readBody (rest.take n), rest.drop n)

/-- The messages that have arrived, up to the first failure and `limit` at most, and the bytes that
are left. -/
def arrivedWithin : (limit : Nat) → (ended : Bool) → (bytes : List UInt8) →
    List (Except FrameError Message) × List UInt8
  | 0, _, bytes => ([], bytes)
  | limit + 1, ended, bytes =>
    match if ended then some (readMessage bytes) else nextMessage? bytes with
    | none => ([], bytes)
    | some (.error e, rest) => ([.error e], rest)
    | some (.ok m, rest) =>
      let (later, rest) := arrivedWithin limit ended rest
      (.ok m :: later, rest)

/-- The messages that have arrived, up to the first failure, and the bytes that are left. Every
message takes a byte at least, so the number of bytes is a limit that no message exceeds. -/
def arrived (ended : Bool) (bytes : List UInt8) : List (Except FrameError Message) × List UInt8 :=
  arrivedWithin (bytes.length + 1) ended bytes

end OutlineNav.Rpc
