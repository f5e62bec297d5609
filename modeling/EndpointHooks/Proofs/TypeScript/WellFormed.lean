import EndpointHooks.TypeScript.Identifier
import EndpointHooks.TypeScript.Tree

/-! Induction on syntax trees, and two conditions on them. A tree is well named when identifiers
stand in all its identifier places and type names in all its type places; the names of properties
and the values of literals are free. A tree is bare when its text needs no parentheses: what a dot
or arguments follow is no negation and no arrow function, what `new` builds is a dotted name, and
no arrow function is negated. -/

namespace EndpointHooks.TypeScript

/-- Induction on type references, with the hypothesis for every argument. -/
theorem TypeRef.induct {P : TypeRef → Prop}
    (mk : ∀ name args, (∀ t ∈ args, P t) → P (.mk name args)) (t : TypeRef) : P t :=
  @TypeRef.rec P (fun ts => ∀ t ∈ ts, P t) mk (by simp)
    (fun _ _ ht hts => List.forall_mem_cons.mpr ⟨ht, hts⟩) t

/-- Induction on expressions and statements at once, with the hypothesis for every expression of a
list and every statement of a body. -/
theorem Expr.induct {P : Expr → Prop} {Q : Stmt → Prop}
    (ident : ∀ name, P (.ident name))
    (str : ∀ value, P (.str value))
    (array : ∀ items, (∀ e ∈ items, P e) → P (.array items))
    (member : ∀ object property, P object → P (.member object property))
    (call : ∀ callee typeArgs args, P callee → (∀ e ∈ args, P e) → P (.call callee typeArgs args))
    (construct : ∀ callee args, P callee → (∀ e ∈ args, P e) → P (.construct callee args))
    (not : ∀ arg, P arg → P (.not arg))
    (arrow : ∀ typeParams params body, (∀ s ∈ body, Q s) → P (.arrow typeParams params body))
    (ret : ∀ value, P value → Q (.ret value))
    (throw : ∀ value, P value → Q (.throw value))
    (when : ∀ cond consequent, P cond → Q consequent → Q (.when cond consequent)) :
    (∀ e, P e) ∧ ∀ s, Q s :=
  have nil {α : Type} {R : α → Prop} : ∀ a ∈ ([] : List α), R a := by simp
  have cons {α : Type} {R : α → Prop} (a : α) (as : List α) (ha : R a) (has : ∀ b ∈ as, R b) :
      ∀ b ∈ a :: as, R b := List.forall_mem_cons.mpr ⟨ha, has⟩
  ⟨@Expr.rec P Q (fun es => ∀ e ∈ es, P e) (fun ss => ∀ s ∈ ss, Q s) ident str array member call
      construct not arrow ret throw when nil cons nil cons,
    @Stmt.rec P Q (fun es => ∀ e ∈ es, P e) (fun ss => ∀ s ∈ ss, Q s) ident str array member call
      construct not arrow ret throw when nil cons nil cons⟩

/-! ### Well-named trees -/

mutual

/-- Whether the names in a type reference are type names. -/
def TypeRef.wellNamed : TypeRef → Bool
  | .mk name args => isTypeName name.toList && TypeRef.allWellNamed args

def TypeRef.allWellNamed : List TypeRef → Bool
  | [] => true
  | t :: ts => t.wellNamed && TypeRef.allWellNamed ts

end

def TypeParam.wellNamed (param : TypeParam) : Bool :=
  isIdentifier param.name.toList && param.fallback.all TypeRef.wellNamed

def Param.wellNamed (param : Param) : Bool :=
  param.bindings.all (fun name => isIdentifier name.toList) && param.type.wellNamed

mutual

/-- Whether the names in an expression are identifiers and type names. -/
def Expr.wellNamed : Expr → Bool
  | .ident name => isIdentifier name.toList
  | .str _ => true
  | .array items => Expr.allWellNamed items
  | .member object property => object.wellNamed && isIdentifier property.toList
  | .call callee typeArgs args =>
    callee.wellNamed && typeArgs.all TypeRef.wellNamed && Expr.allWellNamed args
  | .construct callee args => callee.wellNamed && Expr.allWellNamed args
  | .not arg => arg.wellNamed
  | .arrow typeParams params body =>
    typeParams.all TypeParam.wellNamed && params.all Param.wellNamed && Stmt.allWellNamed body

def Expr.allWellNamed : List Expr → Bool
  | [] => true
  | e :: es => e.wellNamed && Expr.allWellNamed es

def Stmt.wellNamed : Stmt → Bool
  | .ret value => value.wellNamed
  | .throw value => value.wellNamed
  | .when cond consequent => cond.wellNamed && consequent.wellNamed

def Stmt.allWellNamed : List Stmt → Bool
  | [] => true
  | s :: ss => s.wellNamed && Stmt.allWellNamed ss

end

/-- Whether an interface and its type parameters are identifiers and its types have type names. The
names of its properties are free. -/
def Interface.wellNamed (decl : Interface) : Bool :=
  isIdentifier decl.name.toList && decl.typeParams.all TypeParam.wellNamed &&
    decl.parents.all TypeRef.wellNamed && decl.properties.all fun prop => prop.type.wellNamed

def Decl.wellNamed : Decl → Bool
  | .interface decl => decl.wellNamed
  | .constant decl => isIdentifier decl.name.toList && decl.value.wellNamed

/-- Whether the names in a module are identifiers and type names. -/
def Module.wellNamed (m : Module) : Bool := m.items.all fun item => item.decl.wellNamed

theorem TypeRef.allWellNamed_iff {ts : List TypeRef} :
    TypeRef.allWellNamed ts = true ↔ ∀ t ∈ ts, t.wellNamed = true := by
  induction ts with
  | nil => simp [TypeRef.allWellNamed]
  | cons t ts ih => simp [TypeRef.allWellNamed, ih]

theorem Expr.allWellNamed_iff {es : List Expr} :
    Expr.allWellNamed es = true ↔ ∀ e ∈ es, e.wellNamed = true := by
  induction es with
  | nil => simp [Expr.allWellNamed]
  | cons e es ih => simp [Expr.allWellNamed, ih]

theorem Stmt.allWellNamed_iff {ss : List Stmt} :
    Stmt.allWellNamed ss = true ↔ ∀ s ∈ ss, s.wellNamed = true := by
  induction ss with
  | nil => simp [Stmt.allWellNamed]
  | cons s ss ih => simp [Stmt.allWellNamed, ih]

/-! ### Bare trees -/

/-- Whether a dot or arguments may follow an expression without parentheses around it. -/
def Expr.isOperand : Expr → Bool
  | .not _ | .arrow .. => false
  | _ => true

/-- Whether an expression is an identifier or a chain of members that starts at one. -/
def Expr.isDottedName : Expr → Bool
  | .ident _ => true
  | .member object _ => object.isDottedName
  | _ => false

def Expr.isNegatable : Expr → Bool
  | .arrow .. => false
  | _ => true

mutual

/-- Whether an expression needs no parentheses. -/
def Expr.isBare : Expr → Bool
  | .ident _ | .str _ => true
  | .array items => Expr.allBare items
  | .member object _ => object.isOperand && object.isBare
  | .call callee _ args => callee.isOperand && callee.isBare && Expr.allBare args
  | .construct callee args => callee.isDottedName && Expr.allBare args
  | .not arg => arg.isNegatable && arg.isBare
  | .arrow _ _ body => Stmt.allBare body

def Expr.allBare : List Expr → Bool
  | [] => true
  | e :: es => e.isBare && Expr.allBare es

def Stmt.isBare : Stmt → Bool
  | .ret value => value.isBare
  | .throw value => value.isBare
  | .when cond consequent => cond.isBare && consequent.isBare

def Stmt.allBare : List Stmt → Bool
  | [] => true
  | s :: ss => s.isBare && Stmt.allBare ss

end

def Decl.isBare : Decl → Bool
  | .interface _ => true
  | .constant decl => decl.value.isBare

/-- Whether a module needs no parentheses. -/
def Module.isBare (m : Module) : Bool := m.items.all fun item => item.decl.isBare

theorem Expr.allBare_iff {es : List Expr} :
    Expr.allBare es = true ↔ ∀ e ∈ es, e.isBare = true := by
  induction es with
  | nil => simp [Expr.allBare]
  | cons e es ih => simp [Expr.allBare, ih]

theorem Stmt.allBare_iff {ss : List Stmt} :
    Stmt.allBare ss = true ↔ ∀ s ∈ ss, s.isBare = true := by
  induction ss with
  | nil => simp [Stmt.allBare]
  | cons s ss ih => simp [Stmt.allBare, ih]

end EndpointHooks.TypeScript
