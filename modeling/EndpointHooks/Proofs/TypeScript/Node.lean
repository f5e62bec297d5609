import EndpointHooks.TypeScript.Printer

/-! The nodes of a syntax tree, of any kind: their text, and the names in them. A name is what
stands in the place of an identifier or of a type name; the values of literals and the names of
properties are none. -/

namespace EndpointHooks.TypeScript

open Layout

mutual

def TypeRef.names : TypeRef → List String
  | .mk name args => name :: TypeRef.namesOfAll args

def TypeRef.namesOfAll : List TypeRef → List String
  | [] => []
  | t :: ts => t.names ++ TypeRef.namesOfAll ts

end

def TypeParam.names (param : TypeParam) : List String :=
  param.name :: param.fallback.elim [] TypeRef.names

def Param.names (param : Param) : List String := param.bindings ++ param.type.names

mutual

def Expr.names : Expr → List String
  | .ident name => [name]
  | .str _ => []
  | .array items => Expr.namesOfAll items
  | .member object property => object.names ++ [property]
  | .call callee typeArgs args =>
    callee.names ++ typeArgs.flatMap TypeRef.names ++ Expr.namesOfAll args
  | .construct callee args => callee.names ++ Expr.namesOfAll args
  | .not arg => arg.names
  | .arrow typeParams params body =>
    typeParams.flatMap TypeParam.names ++ params.flatMap Param.names ++ Stmt.namesOfAll body

def Expr.namesOfAll : List Expr → List String
  | [] => []
  | e :: es => e.names ++ Expr.namesOfAll es

def Stmt.names : Stmt → List String
  | .ret value => value.names
  | .throw value => value.names
  | .when cond consequent => cond.names ++ consequent.names

def Stmt.namesOfAll : List Stmt → List String
  | [] => []
  | s :: ss => s.names ++ Stmt.namesOfAll ss

end

/-- The names in an interface, the names of its properties apart. -/
def Interface.names (decl : Interface) : List String :=
  decl.name :: decl.typeParams.flatMap TypeParam.names ++ decl.parents.flatMap TypeRef.names ++
    decl.properties.flatMap (·.type.names)

def Constant.names (decl : Constant) : List String := decl.name :: decl.value.names

def Decl.names : Decl → List String
  | .interface decl => decl.names
  | .constant decl => decl.names

def Module.names (m : Module) : List String := m.items.flatMap (·.decl.names)

theorem TypeRef.namesOfAll_eq (ts : List TypeRef) :
    TypeRef.namesOfAll ts = ts.flatMap TypeRef.names := by
  induction ts with
  | nil => rfl
  | cons t ts ih => rw [TypeRef.namesOfAll, ih, List.flatMap_cons]

theorem Expr.namesOfAll_eq (es : List Expr) : Expr.namesOfAll es = es.flatMap Expr.names := by
  induction es with
  | nil => rfl
  | cons e es ih => rw [Expr.namesOfAll, ih, List.flatMap_cons]

theorem Stmt.namesOfAll_eq (ss : List Stmt) : Stmt.namesOfAll ss = ss.flatMap Stmt.names := by
  induction ss with
  | nil => rfl
  | cons s ss ih => rw [Stmt.namesOfAll, ih, List.flatMap_cons]

/-- A node of a syntax tree, of any kind. -/
inductive Node where
  | typeRef (t : TypeRef)
  | typeParam (param : TypeParam)
  | property (prop : Property)
  | param (param : Param)
  | expr (e : Expr)
  | stmt (s : Stmt)
  | interface (decl : Interface)
  | constant (decl : Constant)
  | decl (decl : Decl)
  | item (item : Item)
  | module (m : Module)

/-- The printed form of a node. Statements and items are whole lines. -/
def Node.layout (depth : Nat) : Node → Layout
  | .typeRef t => t.layout
  | .typeParam p => p.layout
  | .property prop => prop.layout
  | .param p => p.layout depth
  | .expr e => e.layout depth
  | .stmt s => s.line depth
  | .interface d => d.layout depth
  | .constant d => d.layout depth
  | .decl d => d.layout depth
  | .item i => i.layout depth
  | .module m => m.layout depth

/-- The text of a node, or nothing if some padding in it is too long. -/
def Node.render? (node : Node) (width depth : Nat) : Option String :=
  (node.layout depth).render? width

def Node.names : Node → List String
  | .typeRef t => t.names
  | .typeParam p => p.names
  | .property prop => prop.type.names
  | .param p => p.names
  | .expr e => e.names
  | .stmt s => s.names
  | .interface d => d.names
  | .constant d => d.names
  | .decl d => d.names
  | .item i => i.decl.names
  | .module m => m.names

end EndpointHooks.TypeScript
