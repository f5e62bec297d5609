import EndpointHooks.Text.Found
import EndpointHooks.Text.Position

/-! What can be wrong with a JSON text, and where. A reader works on what remains of the text, so it
tells the place of a fault by the number of bytes that remain there. Throughout, a reader of an `α`
is a function `List Char → Except Fault (α × List Char)`, whose result holds what remains. -/

namespace EndpointHooks.Json

open Text

inductive Cause where
  | endInValue
  | endInString
  | endInArray
  | endInObject
  | expectedValue
  | expectedKeyword
  | expectedColon
  | expectedArrayEnd
  | expectedObjectEnd
  | keyNotString
  | trailingComma
  | trailingCharacters
  | controlCharacter
  | invalidEscape
  | loneSurrogate
  | unfinishedSurrogatePair
  | invalidNumber
  | numberOutOfRange
  | tooDeep
  | mismatch (found : Found) (expected : String)
  | repeatedField (name : String)
  deriving DecidableEq

def Cause.message : Cause → String
  | endInValue => "EOF while parsing a value"
  | endInString => "EOF while parsing a string"
  | endInArray => "EOF while parsing a list"
  | endInObject => "EOF while parsing an object"
  | expectedValue => "expected value"
  | expectedKeyword => "expected ident"
  | expectedColon => "expected `:`"
  | expectedArrayEnd => "expected `,` or `]`"
  | expectedObjectEnd => "expected `,` or `\x7d`"
  | keyNotString => "key must be a string"
  | trailingComma => "trailing comma"
  | trailingCharacters => "trailing characters"
  | controlCharacter => "control character (\\u0000-\\u001F) found while parsing a string"
  | invalidEscape => "invalid escape"
  | loneSurrogate => "lone leading surrogate in hex escape"
  | unfinishedSurrogatePair => "unexpected end of hex escape"
  | invalidNumber => "invalid number"
  | numberOutOfRange => "number out of range"
  | tooDeep => "recursion limit exceeded"
  | mismatch found expected => found.mismatch expected
  | repeatedField name => "duplicate field `" ++ name ++ "`"

/-- A cause with the number of bytes that remain at its place. -/
structure Fault where
  cause : Cause
  remaining : Nat
  deriving DecidableEq

/-- A fault before what remains of the text. -/
def Fault.before (rest : List Char) (cause : Cause) : Fault := ⟨cause, byteCount rest⟩

/-- A fault one byte into what remains of the text, or at its end. -/
def Fault.inside (rest : List Char) (cause : Cause) : Fault := ⟨cause, byteCount rest - 1⟩

def Fault.position (fault : Fault) (s : List Char) : Position :=
  Position.ofIndex s (byteCount s - fault.remaining)

/-- A cause with its place, as a message tells it. -/
def Cause.messageAt (cause : Cause) (place : Position) : String :=
  cause.message ++ " at line " ++ toString place.line ++ " column " ++ toString place.column

end EndpointHooks.Json
