/-
What can be wrong with the text of a document, where it is, and how it is told.
-/
import MockBank.Json.Basic

namespace MockBank

/-- how far a byte sequence has been read: its line from one, and the bytes read since the last line end -/
structure Json.Position where
  line : Nat
  column : Nat
  deriving DecidableEq

/-- what is wrong with a text that is no document -/
inductive Json.Cause where
  | endOfValue
  | endOfList
  | endOfObject
  | endOfString
  | expectedValue
  | expectedIdent
  | expectedColon
  | expectedListEnd
  | expectedObjectEnd
  | keyNotString
  | trailingComma
  | trailingCharacters
  | invalidNumber
  | numberOutOfRange
  | invalidEscape
  | controlCharacter
  | endOfEscape
  | loneSurrogate
  | invalidCodePoint
  | nestedTooDeep
  deriving DecidableEq

/-- why and where reading a document stopped; the path leads to the innermost value that was being read, and `atName`
says whether that value is an object whose next member has no name yet -/
structure Json.ReadError where
  cause : Json.Cause
  path : List Json.Segment
  atName : Bool
  position : Json.Position
  deriving DecidableEq

namespace Json

def Position.first : Position :=
  ⟨1, 0⟩

/-- the position once one more byte is read -/
def Position.after (p : Position) (b : UInt8) : Position :=
  if b = 0x0A then ⟨p.line + 1, 0⟩ else ⟨p.line, p.column + 1⟩

def Cause.message : Cause → String
  | .endOfValue => "EOF while parsing a value"
  | .endOfList => "EOF while parsing a list"
  | .endOfObject => "EOF while parsing an object"
  | .endOfString => "EOF while parsing a string"
  | .expectedValue => "expected value"
  | .expectedIdent => "expected ident"
  | .expectedColon => "expected `:`"
  | .expectedListEnd => "expected `,` or `]`"
  | .expectedObjectEnd => "expected `,` or `\x7d`"
  | .keyNotString => "key must be a string"
  | .trailingComma => "trailing comma"
  | .trailingCharacters => "trailing characters"
  | .invalidNumber => "invalid number"
  | .numberOutOfRange => "number out of range"
  | .invalidEscape => "invalid escape"
  | .controlCharacter => "control character (\\u0000-\\u001F) found while parsing a string"
  | .endOfEscape => "unexpected end of hex escape"
  | .loneSurrogate => "lone leading surrogate in hex escape"
  | .invalidCodePoint => "invalid unicode code point"
  | .nestedTooDeep => "recursion limit exceeded"

/-- the path unless it is the root; a member without a name is one more step, written `?` -/
def ReadError.placeText (e : ReadError) : String :=
  if e.path.isEmpty then "" else pathText e.path ++ (if e.atName then ".?" else "") ++ ": "

/-- the place, the cause, the line and the column -/
def ReadError.message (e : ReadError) : String :=
  e.placeText ++ e.cause.message ++
    " at line " ++ toString e.position.line ++ " column " ++ toString e.position.column

end Json

end MockBank
