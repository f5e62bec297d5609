import EndpointHooks.Toml.Values

/-! TOML documents: lines that give a key a value, and headers that open a table for the lines below
them. The lines of a table are gathered until the next header and then put in their place. -/

namespace EndpointHooks.Toml

/-- A header: the path to its table, the name of the table, and whether it is one of a list. -/
structure Header where
  path : List Key
  key : Key
  listed : Bool

/-- What was read so far: the tables in their places, the header of the table that is open, if any,
the place of that table, and its entries. -/
structure Progress where
  root : Entries
  header : Option Header
  span : Option Span
  entries : Entries

namespace Progress

def start : Progress := ⟨[], none, none, []⟩

def close (p : Progress) : Option Entries :=
  match p.header with
  | none => some p.entries
  | some header =>
    let node := Node.table .header p.span p.entries
    if header.listed then addToTables header.path header.key node p.root
    else addTable header.path header.key node p.root

def open? (p : Progress) (header : Header) (span : Span) : Option Progress := do
  let root ← p.close
  if header.listed then do
    let root ← openTables header.path header.key root
    some ⟨root, some header, some span, []⟩
  else do
    let (root, entries) ← takeParent header.path header.key root
    some ⟨root, some header, some span, entries⟩

/-- Adds a line to the open table, whose place then reaches to the end of the value. -/
def addLine (p : Progress) (path : List Key) (key : Key) (node : Node) : Option Progress := do
  let entries ← Toml.addLine .dotted path key node .header p.entries
  let span := p.span.map fun span =>
    match node.span? with
    | some last => ⟨span.fromStart, last.fromEnd⟩
    | none => span
  some { p with entries, span }

end Progress

def header? (s : List Char) : Option (Header × Span × List Char) :=
  match s with
  | '[' :: '[' :: r => do
    let (path, key, r) ← key? r
    let rest ← expect? ']' (← expect? ']' r)
    some (⟨path, key, true⟩, .between s rest, ← finishLine? rest)
  | '[' :: r => do
    let (path, key, r) ← key? r
    let rest ← expect? ']' r
    some (⟨path, key, false⟩, .between s rest, ← finishLine? rest)
  | _ => none

def line? (s : List Char) : Option (List Key × Key × Node × List Char) := do
  let (path, key, s) ← key? s
  let (node, s) ← value? (nestingLimit - 1) (skipBlanks (← expect? '=' s))
  some (path, key, node, ← finishLine? s)

/-- Reads the lines of a document. Every line takes a character, so the length of the text is fuel
enough. -/
def linesFrom? : Nat → Progress → List Char → Option Progress
  | 0, _, _ => none
  | fuel + 1, p, s =>
    match skipBlanks s with
    | [] => some p
    | c :: r =>
      if c = '#' ∨ c = '\n' ∨ c = '\r' then (finishLine? (c :: r)).bind (linesFrom? fuel p)
      else if c = '[' then do
        let (header, span, rest) ← header? (c :: r)
        linesFrom? fuel (← p.open? header span) rest
      else do
        let (path, key, node, rest) ← line? (c :: r)
        linesFrom? fuel (← p.addLine path key node) rest

def dropMark : List Char → List Char
  | '\ufeff' :: s => s
  | s => s

def document? (s : List Char) : Option Entries := do
  let p ← linesFrom? (s.length + 1) .start (dropMark s)
  p.close

end EndpointHooks.Toml
