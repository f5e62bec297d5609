/-! TOML documents as trees. Every value written in the document knows its place, and every table
knows how it came to be, on which depends what may still be added to it. -/

namespace EndpointHooks.Toml

/-- A stretch of a text: the number of bytes from its start to the end of the text, and from its
own end to the end of the text. -/
structure Span where
  fromStart : Nat
  fromEnd : Nat
  deriving DecidableEq

structure Key where
  name : String
  span : Span
  deriving DecidableEq

/-- A value without parts. The parts of a date or time do not matter here. -/
inductive Scalar where
  | str (s : String)
  | int (i : Int)
  | float (x : Float)
  | bool (b : Bool)
  | moment

/-- How a table came to be: by its own header, by the header of a table inside it, by a dotted key,
by braces, or by a dotted key inside braces. -/
inductive TableForm where
  | header
  | parent
  | dotted
  | braces
  | dottedInBraces
  deriving DecidableEq

namespace TableForm

def isDotted : TableForm → Bool
  | dotted | dottedInBraces => true
  | _ => false

def isInline : TableForm → Bool
  | braces | dottedInBraces => true
  | _ => false

/-- Whether a table was never defined by itself. -/
def isImplicit : TableForm → Bool
  | parent | dotted | dottedInBraces => true
  | header | braces => false

end TableForm

/-- A value or a table. The last constructor is the list of tables with one double-bracket
header. -/
inductive Node where
  | scalar (span : Span) (value : Scalar)
  | array (span : Span) (items : List Node)
  | table (form : TableForm) (span : Option Span) (entries : List (Key × Node))
  | tables (items : List Node)

instance : Inhabited Node := ⟨.tables []⟩

abbrev Entries := List (Key × Node)

def Entries.find? (entries : Entries) (name : String) : Option Node :=
  (List.find? (·.1.name == name) entries).map Prod.snd

/-- The entries with another node under a name that they hold. -/
def Entries.replace (entries : Entries) (name : String) (node : Node) : Entries :=
  entries.map fun e => if e.1.name = name then (e.1, node) else e

def Entries.erase (entries : Entries) (name : String) : Entries :=
  entries.filter (·.1.name != name)

/-- The place of a node, if it is written in one place. -/
def Node.span? : Node → Option Span
  | scalar span _ => some span
  | array span _ => some span
  | table _ span _ => span
  | tables items =>
    match items.head?, items.getLast? with
    | some (table _ (some first) _), some (table _ (some last) _) =>
      some ⟨first.fromStart, last.fromEnd⟩
    | _, _ => none

end EndpointHooks.Toml
