/-! Syntax trees for the part of TypeScript that a hook module needs: type references, interfaces,
constants, arrow functions with destructured parameters, and the few expressions and statements of
their bodies. Equality of trees is structural and decidable. -/

namespace EndpointHooks.TypeScript

/-- A named type with its type arguments: `Foo`, `ns.Foo<A, B>`. -/
inductive TypeRef where
  | mk (name : String) (args : List TypeRef)

def TypeRef.name : TypeRef → String
  | mk name _ => name

def TypeRef.args : TypeRef → List TypeRef
  | mk _ args => args

def TypeRef.named (name : String) : TypeRef := .mk name []

mutual

/-- Equality of type references, decided part by part. -/
def TypeRef.decEq : (a b : TypeRef) → Decidable (a = b)
  | .mk n as, .mk m bs =>
    if hn : n = m then
      match TypeRef.decEqList as bs with
      | isTrue h => isTrue (by rw [hn, h])
      | isFalse h => isFalse fun e => h (by injection e)
    else
      isFalse fun e => hn (by injection e)

def TypeRef.decEqList : (as bs : List TypeRef) → Decidable (as = bs)
  | [], [] => isTrue rfl
  | [], _ :: _ => isFalse (by simp)
  | _ :: _, [] => isFalse (by simp)
  | a :: as, b :: bs =>
    match TypeRef.decEq a b with
    | isTrue h =>
      match TypeRef.decEqList as bs with
      | isTrue hs => isTrue (by rw [h, hs])
      | isFalse hs => isFalse fun e => hs (by injection e)
    | isFalse h => isFalse fun e => h (by injection e)

end

instance : DecidableEq TypeRef := TypeRef.decEq

structure TypeParam where
  name : String
  fallback : Option TypeRef
  deriving DecidableEq

structure Property where
  name : String
  type : TypeRef
  optional : Bool
  deriving DecidableEq

/-- A parameter that takes an object apart into the named properties. -/
structure Param where
  bindings : List String
  type : TypeRef
  deriving DecidableEq

mutual

/-- An expression. The body of an arrow function is always a block. -/
inductive Expr where
  | ident (name : String)
  | str (value : String)
  | array (items : List Expr)
  | member (object : Expr) (property : String)
  | call (callee : Expr) (typeArgs : List TypeRef) (args : List Expr)
  | construct (callee : Expr) (args : List Expr)
  | not (arg : Expr)
  | arrow (typeParams : List TypeParam) (params : List Param) (body : List Stmt)

/-- A statement of a function body. A conditional has one branch, on the line of its condition. -/
inductive Stmt where
  | ret (value : Expr)
  | throw (value : Expr)
  | when (cond : Expr) (consequent : Stmt)

end

mutual

/-- Equality of expressions, decided part by part. -/
def Expr.decEq (a b : Expr) : Decidable (a = b) :=
  match a, b with
  | .ident n, .ident m => decidable_of_iff (n = m) (by simp)
  | .str v, .str w => decidable_of_iff (v = w) (by simp)
  | .array xs, .array ys =>
    match Expr.decEqList xs ys with
    | isTrue h => isTrue (by rw [h])
    | isFalse h => isFalse (by simp [h])
  | .member o p, .member o' p' =>
    match Expr.decEq o o' with
    | isTrue h => decidable_of_iff (p = p') (by simp [h])
    | isFalse h => isFalse (by simp [h])
  | .call c ts xs, .call c' ts' xs' =>
    match Expr.decEq c c', Expr.decEqList xs xs' with
    | isTrue h, isTrue h' => decidable_of_iff (ts = ts') (by simp [h, h'])
    | isFalse h, _ => isFalse (by simp [h])
    | _, isFalse h => isFalse (by simp [h])
  | .construct c xs, .construct c' xs' =>
    match Expr.decEq c c', Expr.decEqList xs xs' with
    | isTrue h, isTrue h' => isTrue (by rw [h, h'])
    | isFalse h, _ => isFalse (by simp [h])
    | _, isFalse h => isFalse (by simp [h])
  | .not x, .not y =>
    match Expr.decEq x y with
    | isTrue h => isTrue (by rw [h])
    | isFalse h => isFalse (by simp [h])
  | .arrow ts ps ss, .arrow ts' ps' ss' =>
    match Stmt.decEqList ss ss' with
    | isTrue h => decidable_of_iff (ts = ts' ∧ ps = ps') (by simp [h])
    | isFalse h => isFalse (by simp [h])
  | .ident _, .str _ | .ident _, .array _ | .ident _, .member .. | .ident _, .call ..
  | .ident _, .construct .. | .ident _, .not _ | .ident _, .arrow ..
  | .str _, .ident _ | .str _, .array _ | .str _, .member .. | .str _, .call ..
  | .str _, .construct .. | .str _, .not _ | .str _, .arrow ..
  | .array _, .ident _ | .array _, .str _ | .array _, .member .. | .array _, .call ..
  | .array _, .construct .. | .array _, .not _ | .array _, .arrow ..
  | .member .., .ident _ | .member .., .str _ | .member .., .array _ | .member .., .call ..
  | .member .., .construct .. | .member .., .not _ | .member .., .arrow ..
  | .call .., .ident _ | .call .., .str _ | .call .., .array _ | .call .., .member ..
  | .call .., .construct .. | .call .., .not _ | .call .., .arrow ..
  | .construct .., .ident _ | .construct .., .str _ | .construct .., .array _
  | .construct .., .member .. | .construct .., .call .. | .construct .., .not _
  | .construct .., .arrow ..
  | .not _, .ident _ | .not _, .str _ | .not _, .array _ | .not _, .member .. | .not _, .call ..
  | .not _, .construct .. | .not _, .arrow ..
  | .arrow .., .ident _ | .arrow .., .str _ | .arrow .., .array _ | .arrow .., .member ..
  | .arrow .., .call .. | .arrow .., .construct .. | .arrow .., .not _ => isFalse (by simp)

def Expr.decEqList : (as bs : List Expr) → Decidable (as = bs)
  | [], [] => isTrue rfl
  | [], _ :: _ => isFalse (by simp)
  | _ :: _, [] => isFalse (by simp)
  | a :: as, b :: bs =>
    match Expr.decEq a b, Expr.decEqList as bs with
    | isTrue h, isTrue h' => isTrue (by rw [h, h'])
    | isFalse h, _ => isFalse (by simp [h])
    | _, isFalse h => isFalse (by simp [h])

def Stmt.decEq (a b : Stmt) : Decidable (a = b) :=
  match a, b with
  | .ret x, .ret y =>
    match Expr.decEq x y with
    | isTrue h => isTrue (by rw [h])
    | isFalse h => isFalse (by simp [h])
  | .throw x, .throw y =>
    match Expr.decEq x y with
    | isTrue h => isTrue (by rw [h])
    | isFalse h => isFalse (by simp [h])
  | .when c s, .when c' s' =>
    match Expr.decEq c c', Stmt.decEq s s' with
    | isTrue h, isTrue h' => isTrue (by rw [h, h'])
    | isFalse h, _ => isFalse (by simp [h])
    | _, isFalse h => isFalse (by simp [h])
  | .ret _, .throw _ | .ret _, .when .. | .throw _, .ret _ | .throw _, .when ..
  | .when .., .ret _ | .when .., .throw _ => isFalse (by simp)

def Stmt.decEqList : (as bs : List Stmt) → Decidable (as = bs)
  | [], [] => isTrue rfl
  | [], _ :: _ => isFalse (by simp)
  | _ :: _, [] => isFalse (by simp)
  | a :: as, b :: bs =>
    match Stmt.decEq a b, Stmt.decEqList as bs with
    | isTrue h, isTrue h' => isTrue (by rw [h, h'])
    | isFalse h, _ => isFalse (by simp [h])
    | _, isFalse h => isFalse (by simp [h])

end

instance : DecidableEq Expr := Expr.decEq

instance : DecidableEq Stmt := Stmt.decEq

structure Interface where
  name : String
  typeParams : List TypeParam
  parents : List TypeRef
  properties : List Property
  deriving DecidableEq

structure Constant where
  name : String
  value : Expr
  deriving DecidableEq

inductive Decl where
  | interface (decl : Interface)
  | constant (decl : Constant)
  deriving DecidableEq

def Decl.name : Decl → String
  | interface decl => decl.name
  | constant decl => decl.name

structure Item where
  exported : Bool
  decl : Decl
  deriving DecidableEq

structure Module where
  items : List Item
  deriving DecidableEq

end EndpointHooks.TypeScript
