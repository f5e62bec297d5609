import EndpointHooks.Text.Position
import EndpointHooks.Toml.Tree

/-! The smallest parts of a TOML text: blanks, line ends, comments, and what may end a line. A
reader of an `α` is a function `List Char → Option (α × List Char)` that takes it from the front of
a text; a reader of nothing only gives what remains. -/

namespace EndpointHooks.Toml

def isBlank (c : Char) : Bool := c == ' ' || c == '\t'

def skipBlanks (s : List Char) : List Char := s.dropWhile isBlank

def lineEnd? : List Char → Option (List Char)
  | '\n' :: s => some s
  | '\r' :: '\n' :: s => some s
  | _ => none

def isCommentChar (c : Char) : Bool := c == '\t' || (0x20 ≤ c.toNat && c != '\x7f')

def skipComment : List Char → List Char
  | '#' :: s => s.dropWhile isCommentChar
  | s => s

/-- What follows a finished line: blanks, a comment, and the end of the line or of the text. -/
def finishLine? (s : List Char) : Option (List Char) :=
  match skipComment (skipBlanks s) with
  | [] => some []
  | s => lineEnd? s

def Span.between (start stop : List Char) : Span := ⟨Text.byteCount start, Text.byteCount stop⟩

def expect? (c : Char) : List Char → Option (List Char)
  | [] => none
  | d :: s => if d = c then some s else none

def expectAll? : List Char → List Char → Option (List Char)
  | [], s => some s
  | c :: cs, s => (expect? c s).bind (expectAll? cs)

/-- What follows the blanks, comments and line ends between the items of an array. Every step takes
a character, so the length of the text is fuel enough. -/
def skipLayoutFrom : Nat → List Char → Option (List Char)
  | 0, s => some s
  | fuel + 1, s =>
    match skipBlanks s with
    | [] => some []
    | c :: r =>
      if c = '#' then (lineEnd? (skipComment (c :: r))).bind (skipLayoutFrom fuel)
      else if c = '\n' ∨ c = '\r' then (lineEnd? (c :: r)).bind (skipLayoutFrom fuel)
      else some (c :: r)

def skipLayout (s : List Char) : Option (List Char) := skipLayoutFrom (s.length + 1) s

end EndpointHooks.Toml
