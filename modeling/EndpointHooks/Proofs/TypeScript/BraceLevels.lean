import EndpointHooks.Proofs.TypeScript.Composition
import EndpointHooks.Proofs.TypeScript.UniqueReading

/-! The levels of a printed tree are its braces. Wherever a line of the text of a node starts, as
many levels of blanks stand before it as braces are open there, the braces in literals not counted.
This holds of every node whose names are identifiers, joined by dots or not; literals and the names
of properties may be any text, since a literal never ends before its last quote and never goes on to
another line. -/

namespace EndpointHooks.TypeScript

open Layout Text

variable {width depth : Nat} {l m : Layout}

/-! ### Names and literals -/

/-- Whether all of some names are identifiers, joined by dots or not. -/
def AllDotted (names : List String) : Prop := ∀ name ∈ names, isDotted name.toList = true

instance (names : List String) : Decidable (AllDotted names) :=
  inferInstanceAs (Decidable (∀ name ∈ names, isDotted name.toList = true))

/-- No character that is written for one of a literal ends the literal or its line. -/
theorem inlineBraces_escapeChar (c : Char) (count : Int) :
    InlineBraces width ⟨.literal, count⟩ (escapeChar c) := by
  constructor
  · intro after
    fun_cases escapeChar c <;> simp [KeepsIndent, Scan.step, Place.next, *]
  · fun_cases escapeChar c <;> simp [Scan.step, Place.next, *]

theorem inlineBraces_literal (value : String) :
    InlineBraces width (.inside depth) (literal value).toList := by
  rw [toList_literal]
  exact (inlineBraces_flatMap fun c _ => inlineBraces_escapeChar c depth).quoted

theorem startsLine_of_opens {s : List Char} (h : Reader.Opens s) : StartsLine s := by
  obtain ⟨c, r, rfl, hc⟩ := h
  refine ⟨c, r, rfl, ?_, ?_⟩
  · rintro rfl
    exact hc (by decide)
  · rintro rfl
    exact hc (by decide)

namespace Layout

/-! ### Parts of lines -/

/-- A layout that can stand anywhere on a line of a depth. -/
def InlineAt (width depth : Nat) (l : Layout) : Prop :=
  InlineBraces width (.inside depth) (chars width l)

/-- A layout made of whole lines of a depth. -/
def LinesAt (width depth : Nat) (l : Layout) : Prop := LinesInBraces width depth (chars width l)

theorem inlineAt_nil : InlineAt width depth [] := inlineBraces_nil

theorem InlineAt.append (hl : InlineAt width depth l) (hm : InlineAt width depth m) :
    InlineAt width depth (l ++ m) := by
  rw [InlineAt, chars_append]
  exact InlineBraces.append hl hm

theorem inlineAt_ofText {s : String} (h : InlineBraces width (.inside depth) s.toList) :
    InlineAt width depth (ofText s) := by
  rwa [InlineAt, chars_ofText]

/-- A mark without braces. -/
theorem inlineAt_mark (mark : String) (h : mark.toList.all isPlain = true) :
    InlineAt width depth (ofText mark) :=
  inlineAt_ofText (inlineBraces_of_plain h)

theorem inlineAt_name {name : String} (h : isDotted name.toList = true) :
    InlineAt width depth (ofText name) :=
  inlineAt_mark name (List.all_eq_true.mpr fun _ hc =>
    isPlain_of_isTypeNamePart (Reader.isTypeNamePart_of_mem h hc))

theorem inlineAt_emptyBlock {s : String} (after : List Char) (hafter : after.all isPlain = true)
    (hs : s.toList = '\x7b' :: '\x7d' :: after) : InlineAt width depth (ofText s) := by
  apply inlineAt_ofText
  rw [hs]
  exact inlineBraces_emptyBlock.append (inlineBraces_of_plain hafter)

/-! ### Whole lines -/

theorem linesAt_nil : LinesAt width depth [] := linesInBraces_nil

theorem LinesAt.append (hl : LinesAt width depth l) (hm : LinesAt width depth m) :
    LinesAt width depth (l ++ m) := by
  rw [LinesAt, chars_append]
  exact LinesInBraces.append hl hm

/-- Padding with a part of a line after it, a mark and a line end make up a whole line. -/
theorem InlineAt.line (h : InlineAt width depth l) (hstart : StartsLine (chars width l))
    (mark : List Char) (hmark : mark.all isPlain = true) {s : String}
    (hs : s.toList = mark ++ ['\n']) : LinesAt width depth (.pad depth :: l ++ ofText s) := by
  have hline : LinesInBraces width depth
      (List.replicate (width * depth) ' ' ++ (chars width l ++ mark) ++ ['\n']) :=
    (InlineBraces.append h (inlineBraces_of_plain hmark)).line (hstart.append mark)
  simpa [LinesAt, Piece.chars, padding, hs] using hline

/-- Whole lines of the next depth in braces, with marks before the first brace and after the
last. -/
theorem LinesAt.enclosed (h : LinesAt width (depth + 1) l) (before after : List Char)
    (hbefore : before.all isPlain = true) (hafter : after.all isPlain = true) {s t : String}
    (hs : s.toList = before ++ ['\x7b', '\n']) (ht : t.toList = '\x7d' :: after) :
    InlineAt width depth (ofText s ++ l ++ [.pad depth, .text t]) := by
  have hblock := ((inlineBraces_of_plain hbefore).append h.block).append
    (inlineBraces_of_plain hafter)
  simpa [InlineAt, Piece.chars, padding, hs, ht] using hblock

end Layout

/-! ### The braces of a tree -/

theorem Property.startsLine (prop : Property) : StartsLine (chars width prop.layout) := by
  rw [Property.layout, chars_append, chars_append, chars_append, chars_ofText]
  apply startsLine_of_opens
  exact (((propertyName_opens prop.name).append _).append _).append _

theorem Item.startsLine (item : Item) :
    StartsLine (chars width (ofText (if item.exported then "export " else "") ++
      item.decl.layout depth)) := by
  apply startsLine_of_opens
  cases item.exported with
  | true => exact Reader.opens_of_head? (c := 'e') (by simp) (by decide)
  | false =>
    rcases Decl.head width depth item.decl [] with h | h
    · exact Reader.opens_of_head? (c := 'i') (by simpa using h) (by decide)
    · exact Reader.opens_of_head? (c := 'c') (by simpa using h) (by decide)

theorem startsLine_name {name : String} (h : isDotted name.toList = true) :
    StartsLine (chars width (ofText name)) := by
  rw [chars_ofText]
  exact startsLine_of_opens (Reader.opens_of_isDotted h)

/-- A tree whose names are identifiers, dotted or not, is indented by its braces. -/
theorem composition_inlineAt (width : Nat) :
    Composition (fun name => isDotted name.toList = true) (InlineAt width) (LinesAt width) where
  nil _ := inlineAt_nil
  append := InlineAt.append
  mark := inlineAt_mark
  name := inlineAt_name
  literal _ value := inlineAt_ofText (inlineBraces_literal value)
  emptyBlock := inlineAt_emptyBlock
  enclosed before after h hbefore hafter hs ht := h.enclosed before after hbefore hafter hs ht
  lines_nil _ := linesAt_nil
  lines_append := LinesAt.append
  nameLine mark hname hmark hs :=
    (inlineAt_name hname).line (startsLine_name hname) mark hmark hs
  stmtLine h := h.line (startsLine_of_opens (Stmt.opens _)) [] rfl rfl
  propertyLine h := h.line (Property.startsLine _) [';'] (by decide) rfl
  itemLine h := h.line (Item.startsLine _) [] rfl rfl

theorem Node.indentedByBraces_layout (node : Node) (h : AllDotted node.names) :
    IndentedByBraces width depth (chars width (node.layout depth)) :=
  (composition_inlineAt width).node (P := fun l => IndentedByBraces width depth (chars width l))
    (fun _ hl => hl.indentedByBraces) (fun _ hl => hl.indentedByBraces) node h

/-- A module whose names are identifiers, dotted or not, is indented by its braces at every width it
can be written at, and so is every node at every depth, whatever its literals and the names of its
properties are. -/
theorem rendered_indentedByBraces :
    (∀ (m : Module) (width : Nat) (text : String), AllDotted m.names →
      m.render? width = some text → IndentedByBraces width 0 text.toList) ∧
    ∀ (node : Node) (width depth : Nat) (text : String), AllDotted node.names →
      node.render? width depth = some text → IndentedByBraces width depth text.toList := by
  have hnode (node : Node) (width depth : Nat) (text : String) (hnames : AllDotted node.names)
      (hrender : node.render? width depth = some text) :
      IndentedByBraces width depth text.toList := by
    obtain ⟨-, rfl⟩ := render?_eq_some_iff.mp hrender
    rw [String.toList_ofList]
    exact node.indentedByBraces_layout hnames
  refine ⟨fun m width text hnames hrender => ?_, hnode⟩
  exact hnode (.module m) width 0 text hnames hrender

/-- Quotes, braces and line ends in a literal and in the name of a property. -/
theorem rendered_indentedByBraces_quoted :
    IndentedByBraces 2 0
        "interface A \x7b\n  \"\x7d\\n \\\"\"?: b.C;\n\x7d\n".toList ∧
      IndentedByBraces 2 1
        "(\x7b\n    a\n  \x7d: T) => \x7b\n    return \"\x7b\\n\\\"\";\n  \x7d".toList :=
  ⟨rendered_indentedByBraces.1
      ⟨[⟨false, .interface ⟨"A", [], [], [⟨"\x7d\n \"", .named "b.C", true⟩]⟩⟩]⟩ 2 _
      (by decide +kernel) (by decide +kernel),
    rendered_indentedByBraces.2
      (.expr (.arrow [] [⟨["a"], .named "T"⟩] [.ret (.str "\x7b\n\"")])) 2 1 _
      (by decide +kernel) (by decide +kernel)⟩

end EndpointHooks.TypeScript
