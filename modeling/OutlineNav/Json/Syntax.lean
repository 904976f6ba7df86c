import OutlineNav.Text.Utf8

/-!
# Syntax errors of JSON texts

A syntax error has a cause and a place. The place is kept as the number of bytes that were still
unread, and turned into a line and a column of the whole text on demand; a column counts bytes.
-/

namespace OutlineNav.Json

inductive SyntaxCause where
  | unfinishedList
  | unfinishedObject
  | unfinishedString
  | unfinishedValue
  | expectedColon
  | expectedListCommaOrEnd
  | expectedObjectCommaOrEnd
  | expectedIdent
  | expectedValue
  | invalidEscape
  | invalidNumber
  | numberOutOfRange
  | controlCharacter
  | keyMustBeString
  | loneSurrogate
  | trailingComma
  | trailingCharacters
  | unexpectedEndOfHexEscape
  | tooDeep
  deriving DecidableEq, Repr

namespace SyntaxCause

def message : SyntaxCause → String
  | .unfinishedList => "EOF while parsing a list"
  | .unfinishedObject => "EOF while parsing an object"
  | .unfinishedString => "EOF while parsing a string"
  | .unfinishedValue => "EOF while parsing a value"
  | .expectedColon => "expected `:`"
  | .expectedListCommaOrEnd => "expected `,` or `]`"
  | .expectedObjectCommaOrEnd => "expected `,` or `\x7d`"
  | .expectedIdent => "expected ident"
  | .expectedValue => "expected value"
  | .invalidEscape => "invalid escape"
  | .invalidNumber => "invalid number"
  | .numberOutOfRange => "number out of range"
  | .controlCharacter => "control character (\\u0000-\\u001F) found while parsing a string"
  | .keyMustBeString => "key must be a string"
  | .loneSurrogate => "lone leading surrogate in hex escape"
  | .trailingComma => "trailing comma"
  | .trailingCharacters => "trailing characters"
  | .unexpectedEndOfHexEscape => "unexpected end of hex escape"
  | .tooDeep => "recursion limit exceeded"

/-- The text ended too early, as opposed to going wrong. -/
def isEnd : SyntaxCause → Bool
  | .unfinishedList | .unfinishedObject | .unfinishedString | .unfinishedValue => true
  | _ => false

end SyntaxCause

structure SyntaxError where
  cause : SyntaxCause
  /-- The bytes of the text behind the place of the error. -/
  unread : Nat
  deriving DecidableEq, Repr

/-! ## Places -/

/-- The line and column of byte `offset`, for a text of which `pos` bytes came before and whose
current line began at byte `start`. -/
def placeFrom (offset line start pos : Nat) : List Char → Nat × Nat
  | [] => (line, offset - start)
  | c :: rest =>
    if pos + c.utf8Size ≤ offset then
      if c = '\n' then placeFrom offset (line + 1) (pos + 1) (pos + 1) rest
      else placeFrom offset line start (pos + c.utf8Size) rest
    else (line, offset - start)

/-- Line and column of the place with `unread` bytes of the text behind it. -/
def place (text : List Char) (unread : Nat) : Nat × Nat :=
  placeFrom (Text.utf8Length text - unread) 1 0 0 text

/-- How a message about a place of the text ends. -/
def placeSuffix (text : List Char) (unread : Nat) : String :=
  let (line, column) := place text unread
  s!" at line {line} column {column}"

def SyntaxError.message (text : List Char) (e : SyntaxError) : String :=
  e.cause.message ++ placeSuffix text e.unread

end OutlineNav.Json
