import EndpointHooks.Proofs.DeclaredNames

/-! What the types of accepted endpoints mean in the modules built from them. A type of an endpoint
is a name from outside, but it is placed among the type parameter of the module and the interfaces
of all modules, and a name that starts like one of these is bound by it. -/

namespace EndpointHooks

open TypeScript

namespace TypeScript

/-- A place where a tree names a type, with the type parameters in scope there. -/
structure TypeUse where
  name : String
  scope : List String
  deriving DecidableEq

mutual

/-- The types named by a type reference, arguments included. -/
def TypeRef.uses (scope : List String) : TypeRef → List TypeUse
  | .mk name args => ⟨name, scope⟩ :: TypeRef.allUses scope args

def TypeRef.allUses (scope : List String) : List TypeRef → List TypeUse
  | [] => []
  | t :: ts => t.uses scope ++ TypeRef.allUses scope ts

end

def TypeParam.uses (scope : List String) (param : TypeParam) : List TypeUse :=
  TypeRef.allUses scope param.fallback.toList

mutual

/-- The types named in an expression. The type parameters of a function are in scope in all of it,
their fallbacks included. -/
def Expr.typeUses (scope : List String) : Expr → List TypeUse
  | .ident _ | .str _ => []
  | .array items => Expr.allTypeUses scope items
  | .member object _ => object.typeUses scope
  | .call callee typeArgs args =>
    callee.typeUses scope ++ TypeRef.allUses scope typeArgs ++ Expr.allTypeUses scope args
  | .construct callee args => callee.typeUses scope ++ Expr.allTypeUses scope args
  | .not arg => arg.typeUses scope
  | .arrow typeParams params body =>
    typeParams.flatMap (TypeParam.uses (typeParams.map (·.name) ++ scope)) ++
      TypeRef.allUses (typeParams.map (·.name) ++ scope) (params.map (·.type)) ++
      Stmt.allTypeUses (typeParams.map (·.name) ++ scope) body

def Expr.allTypeUses (scope : List String) : List Expr → List TypeUse
  | [] => []
  | e :: es => e.typeUses scope ++ Expr.allTypeUses scope es

def Stmt.typeUses (scope : List String) : Stmt → List TypeUse
  | .ret value => value.typeUses scope
  | .throw value => value.typeUses scope
  | .when cond consequent => cond.typeUses scope ++ consequent.typeUses scope

def Stmt.allTypeUses (scope : List String) : List Stmt → List TypeUse
  | [] => []
  | s :: ss => s.typeUses scope ++ Stmt.allTypeUses scope ss

end

/-- The types named in a declaration. The type parameters of an interface are in scope in all of
it. -/
def Decl.typeUses : Decl → List TypeUse
  | .interface decl =>
    decl.typeParams.flatMap (TypeParam.uses (decl.typeParams.map (·.name))) ++
      TypeRef.allUses (decl.typeParams.map (·.name)) decl.parents ++
      TypeRef.allUses (decl.typeParams.map (·.name)) (decl.properties.map (·.type))
  | .constant decl => decl.value.typeUses []

def Module.typeUses (m : Module) : List TypeUse := m.items.flatMap (·.decl.typeUses)

variable {interfaces : List String} {use : TypeUse}

end TypeScript

variable {e f : Endpoint} {es : List Endpoint} {hs : List Hook} {config : Config}

/-! ### Types of one module -/

end EndpointHooks
