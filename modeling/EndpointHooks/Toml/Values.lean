import EndpointHooks.Toml.Moments
import EndpointHooks.Toml.Numbers
import EndpointHooks.Toml.Strings
import EndpointHooks.Toml.Tables

/-! TOML keys and values. A key is a chain of names joined by dots. Arrays may stretch over several
lines, tables in braces may not. `value? depth` opens at most `depth` brackets inside one
another. -/

namespace EndpointHooks.Toml

/-- The number of nested values, and of names in one key, that is too many. -/
def nestingLimit : Nat := 80

def isBareChar (c : Char) : Bool := c.isAlphanum || c == '_' || c == '-'

def nameChars? (s : List Char) : Option (List Char × List Char) :=
  match s with
  | [] => none
  | c :: _ =>
    if isQuote c then oneLineString? s
    else
      let name := s.takeWhile isBareChar
      if name.isEmpty then none else some (name, s.dropWhile isBareChar)

def name? (s : List Char) : Option (Key × List Char) := do
  let (name, rest) ← nameChars? s
  some (⟨String.ofList name, .between s rest⟩, rest)

/-- The names of a key from one of them on, with blanks around each. Every name takes a character,
so the length of the text is fuel enough. -/
def namesFrom? : Nat → List Char → Option (List Key × List Char)
  | 0, _ => none
  | fuel + 1, s => do
    let (key, s) ← name? (skipBlanks s)
    match skipBlanks s with
    | '.' :: r =>
      let (keys, rest) ← namesFrom? fuel r
      some (key :: keys, rest)
    | rest => some ([key], rest)

def key? (s : List Char) : Option (List Key × Key × List Char) := do
  let (keys, rest) ← namesFrom? (s.length + 1) s
  let last ← keys.getLast?
  if keys.length < nestingLimit then some (keys.dropLast, last, rest) else none

def numeral? (s : List Char) : Option (Scalar × List Char) :=
  match skipMoment? s with
  | some rest => some (.moment, rest)
  | none =>
    match float? s with
    | some (x, rest) => some (.float x, rest)
    | none => (integer? s).map fun p => (.int p.1, p.2)

def scalar? (s : List Char) : Option (Scalar × List Char) :=
  match s with
  | [] => none
  | c :: _ =>
    if isQuote c then (string? s).map fun p => (.str (String.ofList p.1), p.2)
    else if c = '+' ∨ c = '-' ∨ c.isDigit then numeral? s
    else if c = 't' then (expectAll? ['t', 'r', 'u', 'e'] s).map fun rest => (.bool true, rest)
    else if c = 'f' then
      (expectAll? ['f', 'a', 'l', 's', 'e'] s).map fun rest => (.bool false, rest)
    else (specialFloat? s).map fun p => (.float p.1, p.2)

/-- The items of an array from one of them on, and what follows its bracket. Every item takes a
character, so the length of the text is fuel enough. -/
def itemsFrom? (item : List Char → Option (Node × List Char)) :
    Nat → List Char → Option (List Node × List Char)
  | 0, _ => none
  | fuel + 1, s => do
    match ← skipLayout s with
    | ']' :: r => some ([], r)
    | s =>
      let (node, s) ← item s
      match ← skipLayout s with
      | ',' :: r =>
        let (nodes, rest) ← itemsFrom? item fuel r
        some (node :: nodes, rest)
      | ']' :: r => some ([node], r)
      | _ => none

/-- The entries of a table in braces from one of them on, added to those before, and what follows
the brace. Every entry takes a character, so the length of the text is fuel enough. -/
def entriesFrom? (item : List Char → Option (Node × List Char)) :
    Nat → Entries → List Char → Option (Entries × List Char)
  | 0, _, _ => none
  | fuel + 1, entries, s => do
    let (path, key, s) ← key? s
    let (node, s) ← item (skipBlanks (← expect? '=' s))
    let entries ← addLine .dottedInBraces path key node .braces entries
    match skipBlanks s with
    | ',' :: r => entriesFrom? item fuel entries r
    | '\x7d' :: r => some (entries, r)
    | _ => none

def entries? (item : List Char → Option (Node × List Char)) (s : List Char) :
    Option (Entries × List Char) :=
  match skipBlanks s with
  | '\x7d' :: r => some ([], r)
  | _ => entriesFrom? item (s.length + 1) [] s

/-- A value whose brackets nest at most to a depth. -/
def value? (depth : Nat) (s : List Char) : Option (Node × List Char) :=
  match s with
  | [] => none
  | c :: r =>
    if c = '[' ∨ c = '\x7b' then
      match depth with
      | 0 => none
      | depth + 1 =>
        if c = '[' then
          (itemsFrom? (value? depth) (r.length + 1) r).map fun p =>
            (.array (.between s p.2) p.1, p.2)
        else
          (entries? (value? depth) r).map fun p =>
            (.table .braces (some (.between s p.2)) p.1, p.2)
    else (scalar? s).map fun p => (.scalar (.between s p.2) p.1, p.2)

end EndpointHooks.Toml
