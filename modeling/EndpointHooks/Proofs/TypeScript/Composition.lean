import EndpointHooks.Proofs.Text.Braces
import EndpointHooks.Proofs.TypeScript.Node
import EndpointHooks.Proofs.TypeScript.ReaderLemmas

/-! How the text of a tree is put together. What holds of the marks, the names and the literals of a
tree, and goes over from parts of lines to lines and from lines to blocks, holds of the whole tree.
The induction on trees is done once here, for any two such properties, one of parts of lines and one
of whole lines. -/

namespace EndpointHooks.TypeScript

open Layout Text

namespace Layout

/-- Two properties of layouts at a depth, one of parts of lines and one of whole lines, that go over
from the parts of a tree to the tree if its names are as they should be. -/
structure Composition (named : String → Prop) (part lines : Nat → Layout → Prop) : Prop where
  nil (d : Nat) : part d []
  append {d : Nat} {l m : Layout} : part d l → part d m → part d (l ++ m)
  mark {d : Nat} (s : String) : s.toList.all isPlain = true → part d (ofText s)
  name {d : Nat} {s : String} : named s → part d (ofText s)
  literal (d : Nat) (value : String) : part d (ofText (literal value))
  emptyBlock {d : Nat} {s : String} (after : List Char) : after.all isPlain = true →
    s.toList = '\x7b' :: '\x7d' :: after → part d (ofText s)
  enclosed {d : Nat} {l : Layout} {s t : String} (before after : List Char) : lines (d + 1) l →
    before.all isPlain = true → after.all isPlain = true →
    s.toList = before ++ ['\x7b', '\n'] → t.toList = '\x7d' :: after →
    part d (ofText s ++ l ++ [.pad d, .text t])
  lines_nil (d : Nat) : lines d []
  lines_append {d : Nat} {l m : Layout} : lines d l → lines d m → lines d (l ++ m)
  nameLine {d : Nat} {name s : String} (mark : List Char) : named name →
    mark.all isPlain = true → s.toList = mark ++ ['\n'] →
    lines d (.pad d :: ofText name ++ ofText s)
  stmtLine {d : Nat} {s : Stmt} : part d (s.layout d) → lines d (s.line d)
  propertyLine {d : Nat} {prop : Property} : part d prop.layout → lines d (prop.line d)
  itemLine {d : Nat} {item : Item} :
    part d (ofText (if item.exported then "export " else "") ++ item.decl.layout d) →
    lines d (item.layout d)

end Layout

variable {named : String → Prop} {part lines : Nat → Layout → Prop} {depth : Nat}

theorem isPlain_of_isTypeNamePart {c : Char} (h : Reader.isTypeNamePart c = true) :
    isPlain c = true := by
  have hall : ['"', '\n', '\x7b', '\x7d'].all isSign = true := by decide
  have hne : ∀ d ∈ ['"', '\n', '\x7b', '\x7d'], c ≠ d := by
    rintro d hd rfl
    have hdot : c ≠ '.' := fun hdot => absurd (hdot ▸ hd) (by decide)
    rw [Reader.isTypeNamePart_of_isSign (List.all_eq_true.mp hall c hd) hdot] at h
    cases h
  simpa [isPlain, and_assoc] using hne

namespace Layout.Composition

/-! ### Lists and lines -/

theorem commaSeparated (h : Composition named part lines) {ls : List Layout}
    (hls : ∀ l ∈ ls, part depth l) : part depth (commaSeparated ls) := by
  induction ls with
  | nil => exact h.nil depth
  | cons l ls ih =>
    obtain ⟨hl, hls⟩ := List.forall_mem_cons.mp hls
    cases ls with
    | nil => simpa [Layout.commaSeparated] using hl
    | cons m ls =>
      rw [Layout.commaSeparated, List.intercalate_cons_cons]
      exact h.append (h.append hl (h.mark ", " (by decide))) (ih hls)

/-- A list in brackets, or nothing in place of an empty one. -/
theorem bracketed (h : Composition named part lines) {α : Type} {layout : α → Layout} {as : List α}
    {front back : String} (hfront : front.toList.all isPlain = true)
    (hback : back.toList.all isPlain = true) (has : ∀ a ∈ as, part depth (layout a)) :
    part depth (if as.isEmpty then []
      else ofText front ++ Layout.commaSeparated (as.map layout) ++ ofText back) := by
  split
  · exact h.nil depth
  · have hlist : part depth (Layout.commaSeparated (as.map layout)) :=
      h.commaSeparated (List.forall_mem_map.mpr has)
    exact h.append (h.append (h.mark front hfront) hlist) (h.mark back hback)

theorem flatMap (h : Composition named part lines) {α : Type} {f : α → Layout} {as : List α}
    (has : ∀ a ∈ as, lines depth (f a)) : lines depth (as.flatMap f) := by
  induction as with
  | nil => exact h.lines_nil depth
  | cons a as ih =>
    obtain ⟨ha, has⟩ := List.forall_mem_cons.mp has
    exact h.lines_append ha (ih has)

/-! ### Types and parameters -/

theorem typeRef (h : Composition named part lines) (t : TypeRef)
    (hnames : ∀ name ∈ t.names, named name) : part depth t.layout := by
  induction t using TypeRef.induct with
  | mk name args ih =>
    simp only [TypeRef.names, TypeRef.namesOfAll_eq, List.forall_mem_cons,
      List.forall_mem_flatMap] at hnames
    rw [TypeRef.layout, TypeRef.layouts_eq]
    exact h.append (h.name hnames.1)
      (h.bracketed (by decide) (by decide) fun t ht => ih t ht (hnames.2 t ht))

theorem typeArguments (h : Composition named part lines) {args : List TypeRef}
    (hnames : ∀ t ∈ args, ∀ name ∈ t.names, named name) :
    part depth (TypeScript.typeArguments args) := by
  rw [TypeScript.typeArguments, TypeRef.layouts_eq]
  exact h.bracketed (by decide) (by decide) fun t ht => h.typeRef t (hnames t ht)

theorem typeParam (h : Composition named part lines) (param : TypeParam)
    (hnames : ∀ name ∈ param.names, named name) : part depth param.layout := by
  obtain ⟨name, fallback⟩ := param
  obtain ⟨hname, htype⟩ := List.forall_mem_cons.mp hnames
  cases fallback with
  | none => exact h.name hname
  | some type =>
    exact h.append (h.append (h.name hname) (h.mark " = " (by decide))) (h.typeRef type htype)

theorem arrowTypeParams (h : Composition named part lines) {params : List TypeParam}
    (hnames : ∀ p ∈ params, ∀ name ∈ p.names, named name) :
    part depth (TypeScript.arrowTypeParams params) :=
  h.bracketed (by decide) (by decide) fun p hp => h.typeParam p (hnames p hp)

theorem interfaceTypeParams (h : Composition named part lines) {params : List TypeParam}
    (hnames : ∀ p ∈ params, ∀ name ∈ p.names, named name) :
    part depth (TypeScript.interfaceTypeParams params) :=
  h.bracketed (by decide) (by decide) fun p hp => h.typeParam p (hnames p hp)

theorem heritage (h : Composition named part lines) {parents : List TypeRef}
    (hnames : ∀ t ∈ parents, ∀ name ∈ t.names, named name) :
    part depth (TypeScript.heritage parents) := by
  rw [TypeScript.heritage, TypeRef.layouts_eq]
  split
  · exact h.nil depth
  · have hlist : part depth (Layout.commaSeparated (parents.map TypeRef.layout)) :=
      h.commaSeparated (List.forall_mem_map.mpr fun t ht => h.typeRef t (hnames t ht))
    exact h.append (h.mark " extends " (by decide)) hlist

/-- A property name is bare only if it is an identifier. -/
theorem propertyKey (h : Composition named part lines) (name : String) :
    part depth (ofText (TypeScript.propertyKey name)) := by
  rw [TypeScript.propertyKey]
  split
  · rename_i hshaped
    refine h.mark name (List.all_eq_true.mpr fun c hc => ?_)
    exact isPlain_of_isTypeNamePart
      (by simp [Reader.isTypeNamePart, isIdentifierPart_of_mem hshaped hc])
  · exact h.literal depth name

theorem property (h : Composition named part lines) (prop : Property)
    (hnames : ∀ name ∈ prop.type.names, named name) : part depth prop.layout := by
  have hoptional : part depth (ofText (if prop.optional then "?" else "")) := by
    split
    · exact h.mark "?" (by decide)
    · exact h.mark "" (by decide)
  exact h.append (h.append (h.append (h.propertyKey prop.name) hoptional)
    (h.mark ": " (by decide))) (h.typeRef prop.type hnames)

/-- The names that a parameter binds are whole lines, with a comma at the end of each but the
last. -/
theorem bindings (h : Composition named part lines) {names : List String} (hne : names ≠ [])
    (hnames : ∀ name ∈ names, named name) :
    lines (depth + 1) (bindingLines depth names ++ ofText "\n") := by
  induction names with
  | nil => exact absurd rfl hne
  | cons name names ih =>
    obtain ⟨hname, hnames⟩ := List.forall_mem_cons.mp hnames
    cases names with
    | nil => exact h.nameLine [] hname (by decide) (s := "\n") rfl
    | cons name' names =>
      have hline := h.nameLine (d := depth + 1) [','] hname (by decide) (s := ",\n") rfl
      have hall := h.lines_append hline (ih (by simp) hnames)
      simpa [bindingLines, List.intercalate_cons_cons, ofText] using hall

theorem param (h : Composition named part lines) (param : Param)
    (hnames : ∀ name ∈ param.names, named name) : part depth (param.layout depth) := by
  obtain ⟨hbindings, htype⟩ := List.forall_mem_append.mp hnames
  rw [Param.layout]
  split
  · exact h.append (h.emptyBlock [':', ' '] (by decide) rfl) (h.typeRef param.type htype)
  · rename_i hne
    have hlines : lines (depth + 1) (bindingLines depth param.bindings ++ ofText "\n") :=
      h.bindings (by simpa using hne) hbindings
    have hblock := h.enclosed [] [':', ' '] hlines (by decide) (by decide)
      (s := "\x7b\n") (t := "\x7d: ") rfl rfl
    have hparam := h.append hblock (h.typeRef param.type htype)
    simpa [ofText] using hparam

/-! ### Expressions and statements -/

theorem expressions (h : Composition named part lines) {es : List Expr}
    (hes : ∀ e ∈ es, part depth (e.layout depth)) :
    part depth (Layout.commaSeparated (Expr.layouts depth es)) := by
  rw [Expr.layouts_eq]
  exact h.commaSeparated (List.forall_mem_map.mpr hes)

/-- An expression or statement is a part of a line of its depth. -/
theorem expr_stmt (h : Composition named part lines) :
    (∀ (e : Expr) (depth : Nat), (∀ name ∈ e.names, named name) → part depth (e.layout depth)) ∧
      ∀ (s : Stmt) (depth : Nat), (∀ name ∈ s.names, named name) →
        part depth (s.layout depth) := by
  apply Expr.induct
  case ident =>
    intro name depth hnames
    exact h.name (hnames name (by simp [Expr.names]))
  case str =>
    intro value depth _
    exact h.literal depth value
  case array =>
    intro items ih depth hnames
    rw [Expr.names, Expr.namesOfAll_eq, List.forall_mem_flatMap] at hnames
    have hitems := h.expressions fun e he => ih e he depth (hnames e he)
    exact h.append (h.append (h.mark "[" (by decide)) hitems) (h.mark "]" (by decide))
  case member =>
    intro object property ih depth hnames
    obtain ⟨hobject, hproperty⟩ := List.forall_mem_append.mp hnames
    exact h.append (h.append (ih depth hobject) (h.mark "." (by decide)))
      (h.name (hproperty property (by simp)))
  case call =>
    intro callee typeArgs args ih ihargs depth hnames
    simp only [Expr.names, Expr.namesOfAll_eq, List.forall_mem_append,
      List.forall_mem_flatMap] at hnames
    obtain ⟨⟨hcallee, htypes⟩, hargs⟩ := hnames
    have hlist := h.expressions fun e he => ihargs e he depth (hargs e he)
    exact h.append (h.append (h.append (h.append (ih depth hcallee) (h.typeArguments htypes))
      (h.mark "(" (by decide))) hlist) (h.mark ")" (by decide))
  case construct =>
    intro callee args ih ihargs depth hnames
    simp only [Expr.names, Expr.namesOfAll_eq, List.forall_mem_append,
      List.forall_mem_flatMap] at hnames
    obtain ⟨hcallee, hargs⟩ := hnames
    have hlist := h.expressions fun e he => ihargs e he depth (hargs e he)
    exact h.append (h.append (h.append (h.append (h.mark "new " (by decide)) (ih depth hcallee))
      (h.mark "(" (by decide))) hlist) (h.mark ")" (by decide))
  case not =>
    intro arg ih depth hnames
    exact h.append (h.mark "!" (by decide)) (ih depth hnames)
  case arrow =>
    intro typeParams params body ih depth hnames
    simp only [Expr.names, Stmt.namesOfAll_eq, List.forall_mem_append,
      List.forall_mem_flatMap] at hnames
    obtain ⟨⟨htypes, hparams⟩, hbody⟩ := hnames
    have hlist : part depth (Layout.commaSeparated (params.map (Param.layout depth))) :=
      h.commaSeparated (List.forall_mem_map.mpr fun p hp => h.param p (hparams p hp))
    have hhead := h.append (h.append (h.append (h.arrowTypeParams htypes)
      (h.mark "(" (by decide))) hlist) (h.mark ") => " (by decide))
    rw [Expr.layout]
    split
    · exact h.append hhead (h.emptyBlock [] (by decide) rfl)
    · -- The body stands one level deeper, between braces of its own.
      have hlines : lines (depth + 1) (Stmt.lines (depth + 1) body) := by
        rw [Stmt.lines_eq]
        exact h.flatMap fun s hs => h.stmtLine (ih s hs (depth + 1) (hbody s hs))
      have hblock := h.enclosed [] [] hlines (by decide) (by decide)
        (s := "\x7b\n") (t := "\x7d") rfl rfl
      exact h.append hhead hblock
  case ret =>
    intro value ih depth hnames
    exact h.append (h.append (h.mark "return " (by decide)) (ih depth hnames))
      (h.mark ";" (by decide))
  case throw =>
    intro value ih depth hnames
    exact h.append (h.append (h.mark "throw " (by decide)) (ih depth hnames))
      (h.mark ";" (by decide))
  case when =>
    intro cond consequent ih ihs depth hnames
    obtain ⟨hcond, hconsequent⟩ := List.forall_mem_append.mp hnames
    exact h.append (h.append (h.append (h.mark "if (" (by decide)) (ih depth hcond))
      (h.mark ") " (by decide))) (ihs depth hconsequent)

/-! ### Declarations and modules -/

theorem interface (h : Composition named part lines) (decl : Interface)
    (hnames : ∀ name ∈ decl.names, named name) : part depth (decl.layout depth) := by
  simp only [Interface.names, List.cons_append, List.forall_mem_cons, List.forall_mem_append,
    List.forall_mem_flatMap] at hnames
  obtain ⟨hname, ⟨htypes, hparents⟩, hprops⟩ := hnames
  have hlines : lines (depth + 1) (decl.properties.flatMap (Property.line (depth + 1))) :=
    h.flatMap fun prop hprop => h.propertyLine (h.property prop (hprops prop hprop))
  have hblock := h.enclosed [' '] [] hlines (by decide) (by decide)
    (s := " \x7b\n") (t := "\x7d") rfl rfl
  have hhead : part depth (ofText "interface " ++ ofText decl.name ++
      TypeScript.interfaceTypeParams decl.typeParams ++ TypeScript.heritage decl.parents) :=
    h.append (h.append (h.append (h.mark "interface " (by decide)) (h.name hname))
      (h.interfaceTypeParams htypes)) (h.heritage hparents)
  rw [Interface.layout]
  simpa [List.append_assoc] using h.append hhead hblock

theorem constant (h : Composition named part lines) (decl : Constant)
    (hnames : ∀ name ∈ decl.names, named name) : part depth (decl.layout depth) := by
  obtain ⟨hname, hvalue⟩ := List.forall_mem_cons.mp hnames
  exact h.append (h.append (h.append (h.append (h.mark "const " (by decide)) (h.name hname))
    (h.mark " = " (by decide))) (h.expr_stmt.1 _ depth hvalue)) (h.mark ";" (by decide))

theorem decl (h : Composition named part lines) (decl : Decl)
    (hnames : ∀ name ∈ decl.names, named name) : part depth (decl.layout depth) := by
  cases decl with
  | interface decl => exact h.interface decl hnames
  | constant decl => exact h.constant decl hnames

theorem item (h : Composition named part lines) (item : Item)
    (hnames : ∀ name ∈ item.decl.names, named name) : lines depth (item.layout depth) := by
  have hexport : part depth (ofText (if item.exported then "export " else "")) := by
    split
    · exact h.mark "export " (by decide)
    · exact h.mark "" (by decide)
  exact h.itemLine (h.append hexport (h.decl item.decl hnames))

theorem module (h : Composition named part lines) (m : Module)
    (hnames : ∀ name ∈ m.names, named name) : lines depth (m.layout depth) := by
  rw [Module.names, List.forall_mem_flatMap] at hnames
  exact h.flatMap fun item hitem => h.item item (hnames item hitem)

/-- What both parts of lines and whole lines have, every node has. -/
theorem node (h : Composition named part lines) {P : Layout → Prop}
    (hpart : ∀ l, part depth l → P l) (hlines : ∀ l, lines depth l → P l) (node : Node)
    (hnames : ∀ name ∈ node.names, named name) : P (node.layout depth) := by
  cases node with
  | typeRef t => exact hpart _ (h.typeRef t hnames)
  | typeParam param => exact hpart _ (h.typeParam param hnames)
  | property prop => exact hpart _ (h.property prop hnames)
  | param param => exact hpart _ (h.param param hnames)
  | expr e => exact hpart _ (h.expr_stmt.1 e depth hnames)
  | stmt s => exact hlines _ (h.stmtLine (h.expr_stmt.2 s depth hnames))
  | interface decl => exact hpart _ (h.interface decl hnames)
  | constant decl => exact hpart _ (h.constant decl hnames)
  | decl decl => exact hpart _ (h.decl decl hnames)
  | item item => exact hlines _ (h.item item hnames)
  | module m => exact hlines _ (h.module m hnames)

end Layout.Composition

end EndpointHooks.TypeScript
