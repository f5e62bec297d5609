import EndpointHooks.TypeScript.Layout
import EndpointHooks.TypeScript.Literal
import EndpointHooks.TypeScript.Tree

/-! The printed form of a syntax tree. Every node becomes a layout at the nesting depth of the line
it stands on; braces with something in them put it on lines of its own, one level deeper, and the
closing brace returns to the depth of the line that opened it. -/

namespace EndpointHooks.TypeScript

open Layout

/-- The number of blanks per level where none is asked for. -/
def defaultIndent : Nat := 4

mutual

def TypeRef.layout : TypeRef → Layout
  | .mk name args =>
    ofText name ++
      if args.isEmpty then []
      else ofText "<" ++ commaSeparated (TypeRef.layouts args) ++ ofText ">"

def TypeRef.layouts : List TypeRef → List Layout
  | [] => []
  | t :: ts => t.layout :: TypeRef.layouts ts

end

/-- Type arguments in angle brackets, or nothing if there are none. -/
def typeArguments (args : List TypeRef) : Layout :=
  if args.isEmpty then []
  else ofText "<" ++ commaSeparated (TypeRef.layouts args) ++ ofText ">"

def TypeParam.layout (param : TypeParam) : Layout :=
  match param.fallback with
  | some type => ofText param.name ++ ofText " = " ++ type.layout
  | none => ofText param.name

def Property.layout (prop : Property) : Layout :=
  ofText (propertyKey prop.name) ++ ofText (if prop.optional then "?" else "") ++ ofText ": " ++
    prop.type.layout

/-- The names bound by a parameter, one on each line. -/
def bindingLines (depth : Nat) (names : List String) : Layout :=
  List.intercalate (ofText ",\n") (names.map fun name => [.pad (depth + 1), .text name])

def Param.layout (depth : Nat) (param : Param) : Layout :=
  if param.bindings.isEmpty then ofText "\x7b\x7d: " ++ param.type.layout
  else
    ofText "\x7b\n" ++ bindingLines depth param.bindings ++
      [.text "\n", .pad depth, .text "\x7d: "] ++ param.type.layout

/-- The type parameters of an arrow function. The comma after the last keeps the list from being
read as a tag. -/
def arrowTypeParams (params : List TypeParam) : Layout :=
  if params.isEmpty then []
  else ofText "<" ++ commaSeparated (params.map TypeParam.layout) ++ ofText ",>"

mutual

/-- An expression on a line of a given depth. -/
def Expr.layout (depth : Nat) : Expr → Layout
  | .ident name => ofText name
  | .str value => ofText (literal value)
  | .array items => ofText "[" ++ commaSeparated (Expr.layouts depth items) ++ ofText "]"
  | .member object property => object.layout depth ++ ofText "." ++ ofText property
  | .call callee typeArgs args =>
    callee.layout depth ++ typeArguments typeArgs ++ ofText "(" ++
      commaSeparated (Expr.layouts depth args) ++ ofText ")"
  | .construct callee args =>
    ofText "new " ++ callee.layout depth ++ ofText "(" ++
      commaSeparated (Expr.layouts depth args) ++ ofText ")"
  | .not arg => ofText "!" ++ arg.layout depth
  | .arrow typeParams params body =>
    arrowTypeParams typeParams ++ ofText "(" ++
      commaSeparated (params.map (Param.layout depth)) ++ ofText ") => " ++
      if body.isEmpty then ofText "\x7b\x7d"
      else ofText "\x7b\n" ++ Stmt.lines (depth + 1) body ++ [.pad depth, .text "\x7d"]

def Expr.layouts (depth : Nat) : List Expr → List Layout
  | [] => []
  | e :: es => e.layout depth :: Expr.layouts depth es

/-- A statement without the blanks before it and the line end after it. -/
def Stmt.layout (depth : Nat) : Stmt → Layout
  | .ret value => ofText "return " ++ value.layout depth ++ ofText ";"
  | .throw value => ofText "throw " ++ value.layout depth ++ ofText ";"
  | .when cond consequent =>
    ofText "if (" ++ cond.layout depth ++ ofText ") " ++ consequent.layout depth

/-- Statements as whole lines of a given depth. -/
def Stmt.lines (depth : Nat) : List Stmt → Layout
  | [] => []
  | s :: ss => .pad depth :: s.layout depth ++ ofText "\n" ++ Stmt.lines depth ss

end

def Stmt.line (depth : Nat) (s : Stmt) : Layout := .pad depth :: s.layout depth ++ ofText "\n"

def Property.line (depth : Nat) (prop : Property) : Layout :=
  .pad depth :: prop.layout ++ ofText ";\n"

def interfaceTypeParams (params : List TypeParam) : Layout :=
  if params.isEmpty then []
  else ofText "<" ++ commaSeparated (params.map TypeParam.layout) ++ ofText ">"

def heritage (parents : List TypeRef) : Layout :=
  if parents.isEmpty then [] else ofText " extends " ++ commaSeparated (TypeRef.layouts parents)

/-- An interface; its braces are never on one line. -/
def Interface.layout (depth : Nat) (decl : Interface) : Layout :=
  ofText "interface " ++ ofText decl.name ++ interfaceTypeParams decl.typeParams ++
    heritage decl.parents ++ ofText " \x7b\n" ++
    decl.properties.flatMap (Property.line (depth + 1)) ++ [.pad depth, .text "\x7d"]

def Constant.layout (depth : Nat) (decl : Constant) : Layout :=
  ofText "const " ++ ofText decl.name ++ ofText " = " ++ decl.value.layout depth ++ ofText ";"

def Decl.layout (depth : Nat) : Decl → Layout
  | .interface decl => decl.layout depth
  | .constant decl => decl.layout depth

def Item.layout (depth : Nat) (item : Item) : Layout :=
  .pad depth :: ofText (if item.exported then "export " else "") ++ item.decl.layout depth ++
    ofText "\n"

/-- A module as the lines of its declarations. -/
def Module.layout (depth : Nat) (m : Module) : Layout := m.items.flatMap (Item.layout depth)

/-- The text of a module at an indent width, or nothing if its padding is too long. -/
def Module.render? (m : Module) (width : Nat) : Option String := (m.layout 0).render? width

theorem Stmt.lines_eq (depth : Nat) (ss : List Stmt) :
    Stmt.lines depth ss = ss.flatMap (Stmt.line depth) := by
  induction ss with
  | nil => simp [Stmt.lines]
  | cons s ss ih => simp [Stmt.lines, Stmt.line, ih]

theorem Expr.layouts_eq (depth : Nat) (es : List Expr) :
    Expr.layouts depth es = es.map (Expr.layout depth) := by
  induction es with
  | nil => simp [Expr.layouts]
  | cons e es ih => simp [Expr.layouts, ih]

theorem TypeRef.layouts_eq (ts : List TypeRef) : TypeRef.layouts ts = ts.map TypeRef.layout := by
  induction ts with
  | nil => simp [TypeRef.layouts]
  | cons t ts ih => simp [TypeRef.layouts, ih]

end EndpointHooks.TypeScript
