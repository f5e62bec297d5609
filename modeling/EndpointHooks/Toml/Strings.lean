import EndpointHooks.Text.Digits
import EndpointHooks.Toml.Lexical

/-! TOML strings. Basic strings stand between double quotes and have escapes, literal strings stand
between single quotes and have none. Three quotes open a string of several lines: a line end right
after them does not count, every line end inside counts as a line feed, and in a basic string a
backslash at the end of a line drops the blanks and line ends that follow. -/

namespace EndpointHooks.Toml

def basicQuote : Char := '"'

def literalQuote : Char := '\''

def isQuote (c : Char) : Bool := c == basicQuote || c == literalQuote

def shortEscape? (c : Char) : Option Char :=
  if c = 'b' then some '\x08'
  else if c = 't' then some '\t'
  else if c = 'n' then some '\n'
  else if c = 'f' then some '\x0c'
  else if c = 'r' then some '\r'
  else if c = '"' then some '"'
  else if c = '\\' then some '\\'
  else none

def codeEscape? (digits : Nat) (s : List Char) : Option (Char × List Char) :=
  if s.length < digits then none
  else
    match Text.hexNumber? (s.take digits) with
    | some code => if code.isValidChar then some (Char.ofNat code, s.drop digits) else none
    | none => none

/-- The character of an escape, after its backslash. -/
def escape? : List Char → Option (Char × List Char)
  | [] => none
  | c :: s =>
    match shortEscape? c with
    | some d => some (d, s)
    | none => if c = 'u' then codeEscape? 4 s else if c = 'U' then codeEscape? 8 s else none

theorem codeEscape?_length {digits : Nat} {s rest : List Char} {c : Char}
    (h : codeEscape? digits s = some (c, rest)) : rest.length ≤ s.length := by
  unfold codeEscape? at h
  split at h
  · simp at h
  · split at h
    · split at h
      · simp only [Option.some.injEq, Prod.mk.injEq] at h
        simp [← h.2]
      · simp at h
    · simp at h

theorem escape?_length {s rest : List Char} {c : Char} (h : escape? s = some (c, rest)) :
    rest.length < s.length := by
  unfold escape? at h
  split at h
  · simp at h
  · split at h
    · simp only [Option.some.injEq, Prod.mk.injEq] at h
      simp [h.2]
    · split at h
      · have := codeEscape?_length h
        simp only [List.length_cons]
        omega
      · split at h
        · have := codeEscape?_length h
          simp only [List.length_cons]
          omega
        · simp at h

def isPlain (c : Char) : Bool := c == '\t' || (0x20 ≤ c.toNat && c != '\x7f')

def prepend (c : Char) (taken : Option (List Char × List Char)) : Option (List Char × List Char) :=
  taken.map fun p => (c :: p.1, p.2)

def lineString (quote : Char) (s : List Char) : Option (List Char × List Char) :=
  match s with
  | [] => none
  | c :: r =>
    if c = quote then some ([], r)
    else if c = '\\' ∧ quote = basicQuote then
      match _h : escape? r with
      | some (d, rest) => prepend d (lineString quote rest)
      | none => none
    else if isPlain c then prepend c (lineString quote r)
    else none
termination_by s.length
decreasing_by
  · have := escape?_length _h
    simp only [List.length_cons]
    omega
  · simp

/-- The end of a string of several lines, from its first quote on: up to two quotes before the
closing three belong to the string. -/
def closing? (quote : Char) (s : List Char) : Option (List Char × List Char) :=
  let quotes := s.takeWhile (· == quote)
  if quotes.length < 3 then none
  else
    let content := min (quotes.length - 3) 2
    some (s.take content, s.drop (content + 3))

/-- Whether a backslash before a text ends its line. -/
def endsLine (s : List Char) : Bool := (lineEnd? (skipBlanks s)).isSome

/-- The characters of a string of several lines, after its opening quotes. While `dropping`, blanks
and line ends are left out. -/
def linesString (quote : Char) (dropping : Bool) (s : List Char) :
    Option (List Char × List Char) :=
  match s with
  | [] => none
  | '\r' :: '\n' :: r => linesString quote dropping ('\n' :: r)
  | c :: r =>
    if dropping && (isBlank c || c == '\n') then linesString quote true r
    else if c = quote then
      match closing? quote (c :: r) with
      | some taken => some taken
      | none => prepend c (linesString quote false r)
    else if c = '\\' ∧ quote = basicQuote then
      if endsLine r then linesString quote true r
      else
        match _h : escape? r with
        | some (d, rest) => prepend d (linesString quote false rest)
        | none => none
    else if c = '\n' ∨ isPlain c then prepend c (linesString quote false r)
    else none
termination_by s.length
decreasing_by
  all_goals first
    | exact Nat.lt_succ_of_lt (escape?_length _h)
    | simp

def oneLineString? : List Char → Option (List Char × List Char)
  | [] => none
  | c :: s => if isQuote c then lineString c s else none

def dropLineEnd (s : List Char) : List Char := (lineEnd? s).getD s

def string? (s : List Char) : Option (List Char × List Char) :=
  match s with
  | a :: b :: c :: r =>
    if isQuote a ∧ b = a ∧ c = a then linesString a false (dropLineEnd r) else oneLineString? s
  | s => oneLineString? s

end EndpointHooks.Toml
