import EndpointHooks.Proofs.TypeScript.WellFormed
import EndpointHooks.TypeScript.Printer

/-! How far a printed tree is indented. The levels of a tree are counted on the tree itself: the
body of a function, the names a parameter binds and the properties of an interface go one level
deeper, unless there are none. The deepest padding of a printed module stands that many levels deep,
so the levels decide at which widths the module can be written. -/

namespace EndpointHooks.TypeScript

open Layout

/-- The greatest of some numbers, or zero if there are none. -/
def greatest (ns : List Nat) : Nat := ns.foldr max 0

@[simp] theorem greatest_nil : greatest [] = 0 := rfl

@[simp] theorem greatest_cons (n : Nat) (ns : List Nat) :
    greatest (n :: ns) = max n (greatest ns) := rfl

@[simp] theorem greatest_append (ms ns : List Nat) :
    greatest (ms ++ ns) = max (greatest ms) (greatest ns) := by
  induction ms with
  | nil => simp
  | cons m ms ih => simp [ih, Nat.max_assoc]

/-- Equal numbers are no greater together. -/
theorem greatest_map_eq {α : Type} {f : α → Nat} {as : List α} {n : Nat} (hne : as ≠ [])
    (h : ∀ a ∈ as, f a = n) : greatest (as.map f) = n := by
  induction as with
  | nil => exact absurd rfl hne
  | cons a as ih =>
    obtain ⟨ha, has⟩ := List.forall_mem_cons.mp h
    by_cases hrest : as = []
    · simp [hrest, ha]
    · rw [List.map_cons, greatest_cons, ha, ih hrest has, Nat.max_self]

/-! ### The levels of a tree -/

/-- The bindings of a parameter stand one level deeper, if it has any. -/
def Param.levels (param : Param) : Nat := if param.bindings.isEmpty then 0 else 1

mutual

/-- The number of levels that an expression goes deeper than the line it starts on. -/
def Expr.levels : Expr → Nat
  | .ident _ | .str _ => 0
  | .array items => Expr.mostLevels items
  | .member object _ => object.levels
  | .call callee _ args => max callee.levels (Expr.mostLevels args)
  | .construct callee args => max callee.levels (Expr.mostLevels args)
  | .not arg => arg.levels
  | .arrow _ params body =>
    max (greatest (params.map Param.levels)) (if body.isEmpty then 0 else Stmt.mostLevels body + 1)

def Expr.mostLevels : List Expr → Nat
  | [] => 0
  | e :: es => max e.levels (Expr.mostLevels es)

/-- The number of levels that a statement goes deeper than its line. The branch of a conditional
stands on that line too. -/
def Stmt.levels : Stmt → Nat
  | .ret value => value.levels
  | .throw value => value.levels
  | .when cond consequent => max cond.levels consequent.levels

def Stmt.mostLevels : List Stmt → Nat
  | [] => 0
  | s :: ss => max s.levels (Stmt.mostLevels ss)

end

def Decl.levels : Decl → Nat
  | .interface decl => if decl.properties.isEmpty then 0 else 1
  | .constant decl => decl.value.levels

/-- The number of levels of a module: those of its declaration with the most. -/
def Module.levels (m : Module) : Nat := greatest (m.items.map (·.decl.levels))

/-! ### The deepest padding of a layout -/

def Piece.depth : Piece → Nat
  | .text _ => 0
  | .pad depth => depth

/-- The depth of the deepest padding of a layout, or zero if it has none. -/
def Layout.deepest (l : Layout) : Nat := greatest (l.map Piece.depth)

namespace Layout

variable {width : Nat}

@[simp] theorem deepest_nil : deepest [] = 0 := rfl

@[simp] theorem deepest_ofText (s : String) : deepest (ofText s) = 0 := rfl

@[simp] theorem deepest_text_cons (s : String) (l : Layout) :
    deepest (.text s :: l) = deepest l := by
  simp [deepest, Piece.depth]

@[simp] theorem deepest_pad_cons (depth : Nat) (l : Layout) :
    deepest (.pad depth :: l) = max depth (deepest l) := rfl

@[simp] theorem deepest_append (l m : Layout) :
    deepest (l ++ m) = max (deepest l) (deepest m) := by
  simp [deepest]

theorem deepest_flatMap {α : Type} (f : α → Layout) (as : List α) :
    deepest (as.flatMap f) = greatest (as.map fun a => deepest (f a)) := by
  induction as with
  | nil => rfl
  | cons a as ih => simp [ih]

/-- Texts between layouts do not go deeper. -/
theorem deepest_intercalate {α : Type} (s : String) (f : α → Layout) (as : List α) :
    deepest (List.intercalate (ofText s) (as.map f)) =
      greatest (as.map fun a => deepest (f a)) := by
  induction as with
  | nil => rfl
  | cons a as ih =>
    cases as with
    | nil => simp [List.intercalate]
    | cons b bs =>
      rw [List.map_cons, List.map_cons, List.intercalate_cons_cons, ← List.map_cons, deepest_append,
        deepest_append, ih, deepest_ofText, Nat.max_zero]
      rfl

theorem deepest_commaSeparated {α : Type} (f : α → Layout) (as : List α) :
    deepest (commaSeparated (as.map f)) = greatest (as.map fun a => deepest (f a)) :=
  deepest_intercalate ", " f as

theorem deepest_commaSeparated_eq_zero {α : Type} {f : α → Layout} {as : List α}
    (h : ∀ a ∈ as, deepest (f a) = 0) : deepest (commaSeparated (as.map f)) = 0 := by
  by_cases hne : as = []
  · rw [hne]
    rfl
  · rw [deepest_commaSeparated]
    exact greatest_map_eq hne h

/-- A layout fits a width if its deepest padding does. -/
theorem fits_iff_deepest (l : Layout) : fits width l = true ↔ width * deepest l < textLimit := by
  induction l with
  | nil => simp [textLimit]
  | cons p l ih =>
    cases p with
    | text s => simp [Piece.fits, ih]
    | pad depth =>
      rw [fits_cons, Bool.and_eq_true, ih, deepest_pad_cons, ← Nat.mul_max_mul_left, Nat.max_lt]
      simp [Piece.fits]

end Layout

/-! ### The deepest padding of a tree -/

/-- The depth that a tree with a number of levels reaches from a line of some depth. A tree without
levels writes no padding at all. -/
def reach (depth levels : Nat) : Nat := if levels = 0 then 0 else depth + levels

@[simp] theorem reach_zero (depth : Nat) : reach depth 0 = 0 := rfl

@[simp] theorem reach_succ (depth levels : Nat) : reach depth (levels + 1) = depth + levels + 1 :=
  rfl

theorem max_reach (depth j k : Nat) :
    max (reach depth j) (reach depth k) = reach depth (max j k) := by
  unfold reach
  split <;> split <;> split <;> omega

theorem max_depth_reach (depth levels : Nat) : max depth (reach depth levels) = depth + levels := by
  unfold reach
  split <;> omega

theorem greatest_reach (depth : Nat) (ns : List Nat) :
    greatest (ns.map (reach depth)) = reach depth (greatest ns) := by
  induction ns with
  | nil => rfl
  | cons n ns ih => rw [List.map_cons, greatest_cons, ih, max_reach, greatest_cons]

theorem Expr.mostLevels_eq (es : List Expr) :
    Expr.mostLevels es = greatest (es.map Expr.levels) := by
  induction es with
  | nil => rfl
  | cons e es ih => rw [Expr.mostLevels, ih]; rfl

/-- Types are written on the line they start on. -/
@[simp] theorem TypeRef.deepest_layout (t : TypeRef) : deepest t.layout = 0 := by
  induction t using TypeRef.induct with
  | mk name args ih =>
    rw [TypeRef.layout]
    split
    · rfl
    · simp [TypeRef.layouts_eq, deepest_commaSeparated_eq_zero ih]

@[simp] theorem deepest_typeArguments (args : List TypeRef) : deepest (typeArguments args) = 0 := by
  rw [typeArguments]
  split
  · rfl
  · simp [TypeRef.layouts_eq, deepest_commaSeparated_eq_zero]

@[simp] theorem TypeParam.deepest_layout (param : TypeParam) : deepest param.layout = 0 := by
  rw [TypeParam.layout]
  split <;> simp

@[simp] theorem deepest_arrowTypeParams (params : List TypeParam) :
    deepest (arrowTypeParams params) = 0 := by
  rw [arrowTypeParams]
  split
  · rfl
  · simp [deepest_commaSeparated_eq_zero]

@[simp] theorem deepest_interfaceTypeParams (params : List TypeParam) :
    deepest (interfaceTypeParams params) = 0 := by
  rw [interfaceTypeParams]
  split
  · rfl
  · simp [deepest_commaSeparated_eq_zero]

@[simp] theorem deepest_heritage (parents : List TypeRef) : deepest (heritage parents) = 0 := by
  rw [heritage]
  split
  · rfl
  · simp [TypeRef.layouts_eq, deepest_commaSeparated_eq_zero]

@[simp] theorem Property.deepest_layout (prop : Property) : deepest prop.layout = 0 := by
  simp [Property.layout]

theorem Param.deepest_layout (depth : Nat) (param : Param) :
    deepest (param.layout depth) = reach depth param.levels := by
  obtain ⟨bindings, type⟩ := param
  rw [Param.layout, Param.levels]
  by_cases h : bindings = []
  · simp [h]
  · have hempty : bindings.isEmpty = false := by simpa using h
    have hlines : deepest (bindingLines depth bindings) = depth + 1 := by
      rw [bindingLines, deepest_intercalate]
      exact greatest_map_eq h fun _ _ => by simp
    simp [hempty, hlines, reach]

/-- The statements of a body reach as deep as the one with the most levels. -/
theorem Stmt.deepest_lines {depth : Nat} {body : List Stmt} (hbody : body ≠ [])
    (h : ∀ s ∈ body, deepest (s.layout depth) = reach depth s.levels) :
    deepest (Stmt.lines depth body) = depth + Stmt.mostLevels body := by
  induction body with
  | nil => exact absurd rfl hbody
  | cons s ss ih =>
    obtain ⟨hs, hss⟩ := List.forall_mem_cons.mp h
    have hline : max depth (reach depth s.levels) = depth + s.levels := max_depth_reach depth _
    cases ss with
    | nil => simpa [Stmt.lines, Stmt.mostLevels, hs] using hline
    | cons t ts =>
      have ih := ih (by simp) hss
      simp only [Stmt.lines, Stmt.mostLevels, List.cons_append, deepest_pad_cons, deepest_append,
        deepest_ofText, hs] at ih ⊢
      omega

theorem Expr.deepest_layouts {depth : Nat} {es : List Expr}
    (h : ∀ e ∈ es, deepest (e.layout depth) = reach depth e.levels) :
    deepest (commaSeparated (Expr.layouts depth es)) = reach depth (Expr.mostLevels es) := by
  rw [Expr.layouts_eq, deepest_commaSeparated, Expr.mostLevels_eq, ← greatest_reach, List.map_map]
  exact congrArg greatest (List.map_congr_left h)

/-- An expression or statement reaches as deep as its levels, wherever it starts. -/
theorem deepest_layout_all :
    (∀ (e : Expr) (depth : Nat), deepest (e.layout depth) = reach depth e.levels) ∧
      ∀ (s : Stmt) (depth : Nat), deepest (s.layout depth) = reach depth s.levels := by
  apply Expr.induct
  case ident => intro name depth; simp [Expr.layout, Expr.levels]
  case str => intro value depth; simp [Expr.layout, Expr.levels]
  case array =>
    intro items ih depth
    simp [Expr.layout, Expr.levels, Expr.deepest_layouts fun e he => ih e he depth]
  case member =>
    intro object property ih depth
    simp [Expr.layout, Expr.levels, ih]
  case call =>
    intro callee typeArgs args ih ihargs depth
    simp [Expr.layout, Expr.levels, ih, Expr.deepest_layouts fun e he => ihargs e he depth,
      max_reach]
  case construct =>
    intro callee args ih ihargs depth
    simp [Expr.layout, Expr.levels, ih, Expr.deepest_layouts fun e he => ihargs e he depth,
      max_reach]
  case not =>
    intro arg ih depth
    simp [Expr.layout, Expr.levels, ih]
  case arrow =>
    intro typeParams params body ih depth
    have hparams : deepest (commaSeparated (params.map (Param.layout depth))) =
        reach depth (greatest (params.map Param.levels)) := by
      rw [deepest_commaSeparated, ← greatest_reach, List.map_map]
      exact congrArg greatest (List.map_congr_left fun p _ => p.deepest_layout depth)
    rw [Expr.layout, Expr.levels, ← max_reach, ← hparams]
    by_cases hbody : body = []
    · simp [hbody]
    · -- The closing brace stands above the statements, so that they decide.
      have hempty : body.isEmpty = false := by simpa using hbody
      have hlines := Stmt.deepest_lines hbody fun s hs => ih s hs (depth + 1)
      simp only [hempty, Bool.false_eq_true, if_false, deepest_append, deepest_ofText, hlines,
        deepest_arrowTypeParams, deepest_pad_cons, deepest_text_cons, deepest_nil, reach_succ]
      omega
  case ret =>
    intro value ih depth
    simp [Stmt.layout, Stmt.levels, ih]
  case throw =>
    intro value ih depth
    simp [Stmt.layout, Stmt.levels, ih]
  case when =>
    intro cond consequent ih ihs depth
    simp [Stmt.layout, Stmt.levels, ih, ihs, max_reach]

theorem Item.deepest_layout (item : Item) (depth : Nat) :
    deepest (item.layout depth) = depth + item.decl.levels := by
  obtain ⟨exported, decl⟩ := item
  cases decl with
  | interface decl =>
    simp only [Item.layout, Decl.layout, Interface.layout, Decl.levels]
    by_cases h : decl.properties = []
    · simp [h]
    · have hempty : decl.properties.isEmpty = false := by simpa using h
      have hlines : deepest (decl.properties.flatMap (Property.line (depth + 1))) = depth + 1 := by
        rw [deepest_flatMap]
        exact greatest_map_eq h fun _ _ => by simp [Property.line]
      simp [hlines, hempty]
  | constant decl =>
    simp [Item.layout, Decl.layout, Constant.layout, Decl.levels, deepest_layout_all.1,
      max_depth_reach]

/-- The deepest padding of a module stands at its number of levels. -/
theorem Module.deepest_layout (m : Module) : deepest (m.layout 0) = m.levels := by
  simp [Module.layout, Module.levels, deepest_flatMap, Item.deepest_layout]

/-- A module cannot be written at a width exactly if all its levels together are too wide. -/
theorem Module.render?_eq_none_iff_levels (m : Module) (width : Nat) :
    m.render? width = none ↔ textLimit ≤ width * m.levels := by
  rw [Module.render?, render?_eq_none_iff, ← Bool.not_eq_true, fits_iff_deepest,
    Module.deepest_layout, Nat.not_lt]

end EndpointHooks.TypeScript
