import EndpointHooks.Proofs.Text.Stripped
import EndpointHooks.Proofs.TypeScript.Composition

/-! Where a printed tree has padding. Padding stands at the opening of a line and nowhere else, so
the width of a level and the depth of a tree change nothing but the blanks before its lines. This
holds of every node, with any text in the places of its names. -/

namespace EndpointHooks.TypeScript

open Layout Text

variable {width depth : Nat} {opening : Bool} {l m : Layout}

namespace Layout

/-! ### Layouts whose padding opens lines -/

/-- Whether a layout leaves off at the opening of a line. Padding has no part in this. -/
def endsOpen (opening : Bool) (l : Layout) : Bool := (chars 0 l).foldl stillOpen opening

/-- Every padding of a layout stands at the opening of a line, for a layout that starts in the
middle of a line or at the opening of one. -/
def PadsOpenings : Bool → Layout → Prop
  | _, [] => True
  | opening, .text s :: l => PadsOpenings (s.toList.foldl stillOpen opening) l
  | opening, .pad _ :: l => opening = true ∧ PadsOpenings true l

/-- A layout that can stand anywhere on a line. -/
def Inline (l : Layout) : Prop := ∀ opening, PadsOpenings opening l

/-- A layout made of whole lines. -/
structure WholeLines (l : Layout) : Prop where
  padsOpenings : PadsOpenings true l
  ended : endsOpen true l = true

@[simp] theorem chars_zero_pad (depth : Nat) : Piece.chars 0 (.pad depth) = [] := by
  simp [Piece.chars, padding]

theorem endsOpen_append (l m : Layout) :
    endsOpen opening (l ++ m) = endsOpen (endsOpen opening l) m := by
  simp [endsOpen]

theorem padsOpenings_append : PadsOpenings opening (l ++ m) ↔
    PadsOpenings opening l ∧ PadsOpenings (endsOpen opening l) m := by
  induction l generalizing opening with
  | nil => simp [PadsOpenings, endsOpen]
  | cons p l ih =>
    cases p with
    | text s => simp [PadsOpenings, ih, endsOpen, Piece.chars]
    | pad depth =>
      simp only [List.cons_append, PadsOpenings, ih, and_assoc]
      refine and_congr_right fun hopening => and_congr_right fun _ => ?_
      subst hopening
      rw [endsOpen, endsOpen, chars_cons, chars_zero_pad, List.nil_append]

/-- The width of a level has no part in a stripped layout. -/
theorem stripFrom_chars (h : PadsOpenings opening l) (width : Nat) :
    stripFrom opening (chars width l) = stripFrom opening (chars 0 l) := by
  induction l generalizing opening with
  | nil => rfl
  | cons p l ih =>
    cases p with
    | text s =>
      have hs : stripFrom (s.toList.foldl stillOpen opening) (chars width l) =
          stripFrom (s.toList.foldl stillOpen opening) (chars 0 l) := ih h
      simp only [chars_cons, Piece.chars, stripFrom_append, hs]
    | pad depth =>
      obtain ⟨rfl, h⟩ := h
      rw [chars_cons, chars_cons, chars_zero_pad, stripFrom_append, Piece.chars, padding,
        stripFrom_blanks, foldl_stillOpen_blanks, ih h, List.nil_append, List.nil_append]

/-! ### Parts of lines -/

theorem inline_nil : Inline [] := fun _ => trivial

theorem inline_ofText (s : String) : Inline (ofText s) := fun _ => trivial

theorem Inline.append (hl : Inline l) (hm : Inline m) : Inline (l ++ m) := fun _ =>
  padsOpenings_append.mpr ⟨hl _, hm _⟩

/-! ### Whole lines -/

theorem wholeLines_nil : WholeLines [] := ⟨trivial, rfl⟩

theorem WholeLines.append (hl : WholeLines l) (hm : WholeLines m) : WholeLines (l ++ m) where
  padsOpenings := padsOpenings_append.mpr ⟨hl.padsOpenings, by rw [hl.ended]; exact hm.padsOpenings⟩
  ended := by rw [endsOpen_append, hl.ended, hm.ended]

/-- A text that ends with a line end leaves off at the opening of a line. -/
theorem foldl_stillOpen_of_getLast? {s : String} (hs : s.toList.getLast? = some '\n')
    (opening : Bool) : s.toList.foldl stillOpen opening = true := by
  obtain ⟨t, ht⟩ := List.getLast?_eq_some_iff.mp hs
  rw [ht]
  exact foldl_stillOpen_newline opening t

/-- Padding with a part of a line after it and a line end make up a whole line. -/
theorem Inline.line (h : Inline l) (depth : Nat) {s : String}
    (hs : s.toList.getLast? = some '\n') : WholeLines (.pad depth :: l ++ ofText s) where
  padsOpenings := ⟨rfl, padsOpenings_append.mpr ⟨h true, inline_ofText s _⟩⟩
  ended := by
    rw [endsOpen_append]
    simpa [endsOpen] using foldl_stillOpen_of_getLast? hs _

/-- Whole lines between the ends of two other lines, the last of them padded too. -/
theorem WholeLines.enclosed (h : WholeLines l) (depth : Nat) (front : String)
    (hfront : front.toList.getLast? = some '\n') (back : String) :
    Inline (ofText front ++ l ++ [.pad depth, .text back]) := by
  intro opening
  have hopen : endsOpen opening (ofText front) = true := by
    simpa [endsOpen] using foldl_stillOpen_of_getLast? hfront opening
  rw [padsOpenings_append, padsOpenings_append, endsOpen_append, hopen, h.ended]
  exact ⟨⟨inline_ofText _ _, h.padsOpenings⟩, rfl, trivial⟩

/-- The width of a level has no part in a layout whose padding opens lines, once it is stripped. -/
theorem stripLines_chars (h : PadsOpenings true l) (width : Nat) :
    stripLines (chars width l) = stripLines (chars 0 l) := by
  rw [← stripFrom_true, ← stripFrom_true, stripFrom_chars h]

end Layout

/-- The padding of a tree opens lines, whatever stands in the places of its names. -/
theorem composition_wholeLines :
    Composition (fun _ => True) (fun _ l => Inline l) (fun _ l => WholeLines l) where
  nil _ := inline_nil
  append := Inline.append
  mark s _ := inline_ofText s
  name _ := inline_ofText _
  literal _ _ := inline_ofText _
  emptyBlock _ _ _ := inline_ofText _
  enclosed before _ h _ _ hs _ := h.enclosed _ _ (by simp [hs]) _
  lines_nil _ := wholeLines_nil
  lines_append := WholeLines.append
  nameLine _ _ _ hs := (inline_ofText _).line _ (by simp [hs])
  stmtLine h := h.line _ rfl
  propertyLine h := h.line _ (by decide)
  itemLine h := h.line _ rfl

/-! ### Trees at other depths

Without width there is no padding, and then the depth of a tree has no part in its text. -/

variable {depth' : Nat}

theorem chars_zero_commaSeparated {α : Type} {f g : α → Layout} {as : List α}
    (h : ∀ a ∈ as, chars 0 (f a) = chars 0 (g a)) :
    chars 0 (commaSeparated (as.map f)) = chars 0 (commaSeparated (as.map g)) := by
  rw [chars_commaSeparated, chars_commaSeparated, List.map_map, List.map_map]
  exact congrArg _ (List.map_congr_left h)

theorem chars_zero_flatMap {α : Type} {f g : α → Layout} {as : List α}
    (h : ∀ a ∈ as, chars 0 (f a) = chars 0 (g a)) :
    chars 0 (as.flatMap f) = chars 0 (as.flatMap g) := by
  induction as with
  | nil => rfl
  | cons a as ih =>
    obtain ⟨ha, has⟩ := List.forall_mem_cons.mp h
    rw [List.flatMap_cons, List.flatMap_cons, chars_append, chars_append, ha, ih has]

theorem Param.chars_zero_layout (param : Param) (depth depth' : Nat) :
    chars 0 (param.layout depth) = chars 0 (param.layout depth') := by
  have hlines : chars 0 (bindingLines depth param.bindings) =
      chars 0 (bindingLines depth' param.bindings) := by
    simp [bindingLines, chars_intercalate, Function.comp_def]
  rw [Param.layout, Param.layout]
  split
  · rfl
  · simp [hlines]

theorem Stmt.chars_zero_lines {body : List Stmt}
    (h : ∀ s ∈ body, chars 0 (s.layout depth) = chars 0 (s.layout depth')) :
    chars 0 (Stmt.lines depth body) = chars 0 (Stmt.lines depth' body) := by
  rw [Stmt.lines_eq, Stmt.lines_eq]
  exact chars_zero_flatMap fun s hs => by simp [Stmt.line, h s hs]

theorem Expr.chars_zero_layouts {es : List Expr}
    (h : ∀ e ∈ es, chars 0 (e.layout depth) = chars 0 (e.layout depth')) :
    chars 0 (commaSeparated (Expr.layouts depth es)) =
      chars 0 (commaSeparated (Expr.layouts depth' es)) := by
  rw [Expr.layouts_eq, Expr.layouts_eq]
  exact chars_zero_commaSeparated h

/-- Without width, an expression or statement has one text at all depths. -/
theorem chars_zero_layout_all :
    (∀ (e : Expr) (depth depth' : Nat), chars 0 (e.layout depth) = chars 0 (e.layout depth')) ∧
      ∀ (s : Stmt) (depth depth' : Nat), chars 0 (s.layout depth) = chars 0 (s.layout depth') := by
  apply Expr.induct
  case ident => intro name depth depth'; rfl
  case str => intro value depth depth'; rfl
  case array =>
    intro items ih depth depth'
    simp [Expr.layout, Expr.chars_zero_layouts fun e he => ih e he depth depth']
  case member =>
    intro object property ih depth depth'
    simp [Expr.layout, ih depth depth']
  case call =>
    intro callee typeArgs args ih ihargs depth depth'
    simp [Expr.layout, ih depth depth',
      Expr.chars_zero_layouts fun e he => ihargs e he depth depth']
  case construct =>
    intro callee args ih ihargs depth depth'
    simp [Expr.layout, ih depth depth',
      Expr.chars_zero_layouts fun e he => ihargs e he depth depth']
  case not =>
    intro arg ih depth depth'
    simp [Expr.layout, ih depth depth']
  case arrow =>
    intro typeParams params body ih depth depth'
    have hparams := chars_zero_commaSeparated fun p (_ : p ∈ params) =>
      p.chars_zero_layout depth depth'
    have hlines := Stmt.chars_zero_lines fun s hs => ih s hs (depth + 1) (depth' + 1)
    rw [Expr.layout, Expr.layout]
    split <;> simp [hparams, hlines]
  case ret =>
    intro value ih depth depth'
    simp [Stmt.layout, ih depth depth']
  case throw =>
    intro value ih depth depth'
    simp [Stmt.layout, ih depth depth']
  case when =>
    intro cond consequent ih ihs depth depth'
    simp [Stmt.layout, ih depth depth', ihs depth depth']

theorem Interface.chars_zero_layout (decl : Interface) (depth depth' : Nat) :
    chars 0 (decl.layout depth) = chars 0 (decl.layout depth') := by
  have hlines : chars 0 (decl.properties.flatMap (Property.line (depth + 1))) =
      chars 0 (decl.properties.flatMap (Property.line (depth' + 1))) :=
    chars_zero_flatMap fun prop _ => by simp [Property.line]
  simp [Interface.layout, hlines]

theorem Constant.chars_zero_layout (decl : Constant) (depth depth' : Nat) :
    chars 0 (decl.layout depth) = chars 0 (decl.layout depth') := by
  simp [Constant.layout, chars_zero_layout_all.1 decl.value depth depth']

theorem Decl.chars_zero_layout (decl : Decl) (depth depth' : Nat) :
    chars 0 (decl.layout depth) = chars 0 (decl.layout depth') := by
  cases decl with
  | interface decl => exact decl.chars_zero_layout depth depth'
  | constant decl => exact decl.chars_zero_layout depth depth'

theorem Item.chars_zero_layout (item : Item) (depth depth' : Nat) :
    chars 0 (item.layout depth) = chars 0 (item.layout depth') := by
  simp [Item.layout, item.decl.chars_zero_layout depth depth']

theorem Module.chars_zero_layout (m : Module) (depth depth' : Nat) :
    chars 0 (m.layout depth) = chars 0 (m.layout depth') :=
  chars_zero_flatMap fun item _ => item.chars_zero_layout depth depth'

end EndpointHooks.TypeScript
