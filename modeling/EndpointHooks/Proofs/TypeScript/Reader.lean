import EndpointHooks.Text.Digits
import EndpointHooks.TypeScript.Identifier
import EndpointHooks.TypeScript.Tree
import Mathlib.Data.List.Basic

/-! A reader of printed modules. Every reader takes its value off the front of a text and gives back
what follows it, and no reader looks at how far a line is indented. Readers of trees have a bound,
and read the trees whose size is below it. -/

namespace EndpointHooks.TypeScript

/-- A function that takes a value off the front of a text. -/
abbrev Reader (α : Type) := List Char → Option (α × List Char)

namespace Reader

variable {α : Type}

/-- What follows a fixed mark. -/
def after (mark : String) (s : List Char) : Option (List Char) := s.dropPrefix? mark.toList

def skipBlanks (s : List Char) : List Char := s.dropWhile (· == ' ')

def run (p : Char → Bool) : Reader String := fun s =>
  some (String.ofList (s.takeWhile p), s.dropWhile p)

/-- Items up to a closing mark, with a mark between neighbours. -/
def separated (item : Reader α) (next close : List Char → Option (List Char)) :
    Nat → Reader (List α)
  | 0, _ => none
  | n + 1, s => do
    let (a, s) ← item s
    match close s with
    | some s => some ([a], s)
    | none =>
      let (as, s) ← separated item next close n (← next s)
      some (a :: as, s)

/-- Items up to a closing mark, with a comma and a blank between neighbours. -/
def commaSeparated (item : Reader α) (close : String) (n : Nat) : Reader (List α) :=
  separated item (after ", ") (after close) n

def enclosed (item : Reader α) (close : String) (n : Nat) : Reader (List α) := fun s =>
  match after close s with
  | some s => some ([], s)
  | none => commaSeparated item close n s

/-- Items between an angle bracket and a closing mark, or none without the bracket. -/
def bracketed (item : Reader α) (close : String) (n : Nat) : Reader (List α) := fun s =>
  match after "<" s with
  | some s => commaSeparated item close n s
  | none => some ([], s)

/-- Items on lines of their own, up to a closing brace. -/
def lines (item : Reader α) : Nat → Reader (List α)
  | 0, _ => none
  | n + 1, s =>
    match after "\x7d" (skipBlanks s) with
    | some s => some ([], s)
    | none => do
      let (a, s) ← item (skipBlanks s)
      let (as, s) ← lines item n (← after "\n" s)
      some (a :: as, s)

/-! ### Literals -/

/-- The character of an escape that is a single letter or mark. -/
def shortEscape? (c : Char) : Option Char :=
  if c = 'b' then some '\x08'
  else if c = 't' then some '\t'
  else if c = 'n' then some '\n'
  else if c = 'v' then some '\x0b'
  else if c = 'f' then some '\x0c'
  else if c = 'r' then some '\r'
  else if c = '"' ∨ c = '\'' ∨ c = '\\' then some c
  else none

/-- The character given by four hexadecimal digits. -/
def codeEscape? (digits : List Char) : Option Char :=
  match Text.hexNumber? digits with
  | some code => if code.isValidChar then some (Char.ofNat code) else none
  | none => none

def isLineEnd (c : Char) : Bool := c == '\n' || c == '\r' || c == '\u2028' || c == '\u2029'

/-- A literal after its opening quote. No line end may stand inside. -/
def literalRest : Reader (List Char)
  | [] => none
  | '"' :: s => some ([], s)
  | '\\' :: 'u' :: a :: b :: c :: d :: s => do
    let char ← codeEscape? [a, b, c, d]
    let (value, s) ← literalRest s
    some (char :: value, s)
  | '\\' :: c :: s => do
    let char ← shortEscape? c
    let (value, s) ← literalRest s
    some (char :: value, s)
  | c :: s =>
    if c == '\\' || isLineEnd c then none
    else do
      let (value, s) ← literalRest s
      some (c :: value, s)

/-! ### Types -/

def isTypeNamePart (c : Char) : Bool := isIdentifierPart c || c == '.'

def typeRef : Nat → Reader TypeRef
  | 0, _ => none
  | n + 1, s => do
    let (name, s) ← run isTypeNamePart s
    let (args, s) ← bracketed (typeRef n) ">" n s
    some (.mk name args, s)

def typeParam (n : Nat) : Reader TypeParam := fun s => do
  let (name, s) ← run isIdentifierPart s
  match after " = " s with
  | some s =>
    let (type, s) ← typeRef n s
    some (⟨name, some type⟩, s)
  | none => some (⟨name, none⟩, s)

def bindingsEnd (s : List Char) : Option (List Char) := do
  after "\x7d: " (skipBlanks (← after "\n" s))

def param (n : Nat) : Reader Param := fun s => do
  match after "\x7b\x7d: " s with
  | some s =>
    let (type, s) ← typeRef n s
    some (⟨[], type⟩, s)
  | none =>
    let (names, s) ← separated (fun s => run isIdentifierPart (skipBlanks s)) (after ",\n")
      bindingsEnd n (← after "\x7b\n" s)
    let (type, s) ← typeRef n s
    some (⟨names, type⟩, s)

/-! ### Expressions and statements -/

/-- The members and calls that follow an expression. -/
def suffixes (arg : Reader Expr) (bound : Nat) : Nat → Expr → Reader Expr
  | 0, _, _ => none
  | n + 1, e, s =>
    match after "." s with
    | some s => do
      let (property, s) ← run isIdentifierPart s
      suffixes arg bound n (.member e property) s
    | none =>
      if s.head? = some '<' ∨ s.head? = some '(' then do
        let (typeArgs, s) ← bracketed (typeRef bound) ">" bound s
        let (args, s) ← enclosed arg ")" bound (← after "(" s)
        suffixes arg bound n (.call e typeArgs args) s
      else some (e, s)

def members : Nat → Expr → Reader Expr
  | 0, _, _ => none
  | n + 1, e, s =>
    match after "." s with
    | some s => do
      let (property, s) ← run isIdentifierPart s
      members n (.member e property) s
    | none => some (e, s)

def dottedName (n : Nat) : Reader Expr := fun s => do
  let (name, s) ← run isIdentifierPart s
  members n (.ident name) s

/-- What is constructed and its arguments, after `new`. -/
def construction (arg : Reader Expr) (n : Nat) : Reader Expr := fun s => do
  let (callee, s) ← dottedName n (← after " " s)
  let (args, s) ← enclosed arg ")" n (← after "(" s)
  some (.construct callee args, s)

def block (stmt : Reader Stmt) (n : Nat) : Reader (List Stmt) := fun s =>
  match after "\x7b\x7d" s with
  | some s => some ([], s)
  | none => do lines stmt n (← after "\x7b\n" s)

def arrow (stmt : Reader Stmt) (n : Nat) : Reader Expr := fun s => do
  let (typeParams, s) ← bracketed (typeParam n) ",>" n s
  let (params, s) ← enclosed (param n) ") => " n (← after "(" s)
  let (body, s) ← block stmt n s
  some (.arrow typeParams params body, s)

mutual

/-- An expression. The first character tells its kind, but for names, of which `new` is none. -/
def expr : Nat → Reader Expr
  | 0, _ => none
  | n + 1, s =>
    if s.head? = some '"' then do
      let (value, s) ← literalRest s.tail
      suffixes (expr n) n n (.str (String.ofList value)) s
    else if s.head? = some '[' then do
      let (items, s) ← enclosed (expr n) "]" n s.tail
      suffixes (expr n) n n (.array items) s
    else if s.head? = some '!' then do
      let (arg, s) ← expr n s.tail
      some (.not arg, s)
    else if s.head? = some '<' ∨ s.head? = some '(' then arrow (stmt n) n s
    else do
      let (name, s) ← run isIdentifierPart s
      if name = "new" then do
        let (e, s) ← construction (expr n) n s
        suffixes (expr n) n n e s
      else suffixes (expr n) n n (.ident name) s

/-- A statement, without the blanks before it and the line end after it. -/
def stmt : Nat → Reader Stmt
  | 0, _ => none
  | n + 1, s => do
    match after "return " s with
    | some s =>
      let (value, s) ← expr n s
      some (.ret value, ← after ";" s)
    | none =>
      match after "throw " s with
      | some s =>
        let (value, s) ← expr n s
        some (.throw value, ← after ";" s)
      | none =>
        let (cond, s) ← expr n (← after "if (" s)
        let (consequent, s) ← stmt n (← after ") " s)
        some (.when cond consequent, s)

end

/-! ### Declarations -/

def propertyName : Reader String := fun s => do
  match after "\"" s with
  | some s =>
    let (value, s) ← literalRest s
    some (String.ofList value, s)
  | none => run isIdentifierPart s

def property (n : Nat) : Reader Property := fun s => do
  let (name, s) ← propertyName s
  let (optional, s) := match after "?" s with | some s => (true, s) | none => (false, s)
  let (type, s) ← typeRef n (← after ": " s)
  some (⟨name, type, optional⟩, ← after ";" s)

/-- The types that an interface extends, and the opening of its braces. -/
def heritage (n : Nat) : Reader (List TypeRef) := fun s => do
  match after " extends " s with
  | some s => commaSeparated (typeRef n) " \x7b\n" n s
  | none => some ([], ← after " \x7b\n" s)

def interface (n : Nat) : Reader Interface := fun s => do
  let (name, s) ← run isIdentifierPart s
  let (typeParams, s) ← bracketed (typeParam n) ">" n s
  let (parents, s) ← heritage n s
  let (properties, s) ← lines (property n) n s
  some (⟨name, typeParams, parents, properties⟩, s)

def constant (n : Nat) : Reader Constant := fun s => do
  let (name, s) ← run isIdentifierPart s
  let (value, s) ← expr n (← after " = " s)
  some (⟨name, value⟩, ← after ";" s)

def decl (n : Nat) : Reader Decl := fun s => do
  match after "interface " s with
  | some s =>
    let (d, s) ← interface n s
    some (.interface d, s)
  | none =>
    let (d, s) ← constant n (← after "const " s)
    some (.constant d, s)

def item (n : Nat) : Reader Item := fun s => do
  let (exported, s) := match after "export " s with | some s => (true, s) | none => (false, s)
  let (d, s) ← decl n s
  some (⟨exported, d⟩, ← after "\n" s)

/-- The declarations of a module, up to the end of the text. -/
def items (bound : Nat) : Nat → List Char → Option (List Item)
  | 0, _ => none
  | _, [] => some []
  | n + 1, s => do
    let (a, s) ← item bound (skipBlanks s)
    let as ← items bound n s
    some (a :: as)

end Reader

/-- The module, of a size within the bound, that a text is the printed form of. -/
def Module.read? (bound : Nat) (s : List Char) : Option Module :=
  (Reader.items bound bound s).map Module.mk

end EndpointHooks.TypeScript
