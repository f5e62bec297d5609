import EndpointHooks.Proofs.IndentLimit
import EndpointHooks.Proofs.TypeScript.LineStarts
import EndpointHooks.Proofs.TypeScript.Node

/-! What the choice of an indent width can change. Two texts of a node, at any widths and depths,
differ in nothing but the blanks before their lines, and so do the texts that two runs generate from
one document; any error is the same for both, unless a width is too large to write a module. -/

namespace EndpointHooks

open TypeScript Text

namespace TypeScript

open Layout

theorem Node.padsOpenings_layout (node : Node) (depth : Nat) :
    PadsOpenings true (node.layout depth) :=
  composition_wholeLines.node (fun _ h => h true) (fun _ h => h.padsOpenings) node
    fun _ _ => trivial

theorem Node.chars_zero_layout (node : Node) (depth depth' : Nat) :
    chars 0 (node.layout depth) = chars 0 (node.layout depth') := by
  cases node with
  | typeRef t => rfl
  | typeParam param => rfl
  | property prop => rfl
  | param param => exact param.chars_zero_layout depth depth'
  | expr e => exact chars_zero_layout_all.1 e depth depth'
  | stmt s => simp [Node.layout, Stmt.line, chars_zero_layout_all.2 s depth depth']
  | interface decl => exact decl.chars_zero_layout depth depth'
  | constant decl => exact decl.chars_zero_layout depth depth'
  | decl decl => exact decl.chars_zero_layout depth depth'
  | item item => exact item.chars_zero_layout depth depth'
  | module m => exact m.chars_zero_layout depth depth'

/-- Neither the width nor the depth has a part in the stripped text of a node. -/
theorem Node.stripped_eq {node : Node} {width depth : Nat} {text : String}
    (h : node.render? width depth = some text) :
    stripped text = String.ofList (stripLines (chars 0 (node.layout 0))) := by
  obtain ⟨-, rfl⟩ := render?_eq_some_iff.mp h
  rw [stripped, String.toList_ofList, stripLines_chars (node.padsOpenings_layout depth),
    node.chars_zero_layout depth 0]

end TypeScript

/-! ### Texts of several modules -/

variable {width : Nat} {hs : List Hook} {texts : List String}

/-- The layout of the modules of hooks, with an empty line between neighbours. -/
def jointLayout (hs : List Hook) : Layout :=
  List.intercalate (Layout.ofText "\n") (hs.map (·.module.layout 0))

theorem wholeLines_jointLayout (hs : List Hook) : (jointLayout hs).WholeLines := by
  have hnewline : (Layout.ofText "\n").WholeLines := ⟨Layout.inline_ofText _ true, rfl⟩
  induction hs with
  | nil => exact Layout.wholeLines_nil
  | cons hook hs ih =>
    have hmodule : (hook.module.layout 0).WholeLines :=
      composition_wholeLines.module hook.module fun _ _ => trivial
    cases hs with
    | nil => simpa [jointLayout] using hmodule
    | cons hook' hs =>
      have hjoint := (hmodule.append hnewline).append ih
      simpa [jointLayout, List.intercalate_cons_cons] using hjoint

theorem render_eq_ok {hook : Hook} {text : String} (h : hook.render width = .ok text) :
    text.toList = Layout.chars width (hook.module.layout 0) := by
  rw [Hook.render] at h
  split at h
  · rename_i text' hrender
    obtain ⟨-, rfl⟩ := Layout.render?_eq_some_iff.mp hrender
    obtain rfl : _ = text := Except.ok.inj h
    exact String.toList_ofList
  · cases h

theorem renderAll_eq_ok (h : renderAll width hs = .ok texts) :
    texts.map String.toList = hs.map fun hook => Layout.chars width (hook.module.layout 0) := by
  induction hs generalizing texts with
  | nil =>
    obtain rfl : [] = texts := Except.ok.inj h
    rfl
  | cons hook hs ih =>
    rw [renderAll, List.mapM_cons] at h
    cases hrender : hook.render width with
    | error err => simp [hrender, bind, Except.bind] at h
    | ok text =>
      cases hrest : hs.mapM (·.render width) with
      | error err => simp [hrender, hrest, bind, Except.bind] at h
      | ok texts' =>
        obtain rfl : text :: texts' = texts := by
          simpa [hrender, hrest, bind, Except.bind, pure, Except.pure] using h
        rw [List.map_cons, List.map_cons, render_eq_ok hrender, ih hrest]

theorem toList_joinModules (h : renderAll width hs = .ok texts) :
    (joinModules texts).toList = Layout.chars width (jointLayout hs) := by
  rw [joinModules, String.toList_intercalate, renderAll_eq_ok h, jointLayout,
    Layout.chars_intercalate, List.map_map]
  rfl

/-- The width has no part in the stripped text of modules. -/
theorem stripped_joinModules (h : renderAll width hs = .ok texts) :
    stripped (joinModules texts) =
      String.ofList (stripLines (Layout.chars 0 (jointLayout hs))) := by
  rw [stripped, toList_joinModules h,
    Layout.stripLines_chars (wholeLines_jointLayout hs).padsOpenings]

/-! ### Runs at two widths -/

variable {config : Config} {document : String}

/-- Two results agree up to indentation: they are one error, or texts with the same lines but for
the blanks before them. -/
inductive AgreeStripped : Except Error String → Except Error String → Prop
  | error (err : Error) : AgreeStripped (.error err) (.error err)
  | text {t t' : String} (h : stripped t = stripped t') : AgreeStripped (.ok t) (.ok t')

theorem generate_of_invalid {es : List Endpoint} {err : Error}
    (hread : readEndpoints document = .ok es)
    (hvalid : (validate config.strictness es).result = .error err) :
    (generate config document).result = .error err := by
  rw [generate_result hread, hvalid]
  rfl

theorem generate_of_valid {es : List Endpoint} (hread : readEndpoints document = .ok es)
    (hvalid : (validate config.strictness es).result = .ok ()) :
    (generate config document).result =
      (renderAll config.indentWidth (hooks config es)).map joinModules := by
  rw [generate_result hread, hvalid]
  cases renderAll config.indentWidth (hooks config es) <;> rfl

/-- The modules of one list of hooks, written at two widths, unless they are too wide. -/
theorem agreeStripped_renderAll {width width' : Nat}
    (h : renderAll width hs ≠ .error .indentTooWide)
    (h' : renderAll width' hs ≠ .error .indentTooWide) :
    AgreeStripped ((renderAll width hs).map joinModules)
      ((renderAll width' hs).map joinModules) := by
  cases hrender : renderAll width hs with
  | error err =>
    obtain ⟨rfl, -⟩ := renderAll_eq_error_iff.mp hrender
    exact absurd hrender h
  | ok texts =>
    cases hrender' : renderAll width' hs with
    | error err =>
      obtain ⟨rfl, -⟩ := renderAll_eq_error_iff.mp hrender'
      exact absurd hrender' h'
    | ok texts' =>
      refine .text ?_
      rw [stripped_joinModules hrender, stripped_joinModules hrender']

/-- Runs that treat issues and exports alike agree unless one of them is too wide to write a
module. -/
theorem agreeStripped_generate {config' : Config}
    (hstrictness : config'.strictness = config.strictness)
    (hexport : config'.exportHook = config.exportHook)
    (h : (generate config document).result ≠ .error .indentTooWide)
    (h' : (generate config' document).result ≠ .error .indentTooWide) :
    AgreeStripped (generate config document).result (generate config' document).result := by
  cases hread : readEndpoints document with
  | error err =>
    rw [generate_of_unreadable hread, generate_of_unreadable hread]
    exact .error err
  | ok es =>
    have hhooks : hooks config' es = hooks config es := by
      rw [hooks_eq_map, hooks_eq_map, hexport]
    cases hvalid : (validate config.strictness es).result with
    | error err =>
      rw [generate_of_invalid hread hvalid, generate_of_invalid hread (hstrictness ▸ hvalid)]
      exact .error err
    | ok =>
      rw [generate_of_valid hread hvalid] at h ⊢
      rw [generate_of_valid hread (hstrictness ▸ hvalid), hhooks] at h' ⊢
      refine agreeStripped_renderAll (fun hwide => h ?_) (fun hwide => h' ?_)
      · rw [hwide]
        rfl
      · rw [hwide]
        rfl

theorem generate_ne_indentTooWide
    (h : WritesModule config document → config.indentWidth < 2 ^ 62) :
    (generate config document).result ≠ .error .indentTooWide := by
  rw [Ne, generate_eq_indentTooWide_iff]
  rintro ⟨hwrites, hwide⟩
  exact Nat.not_lt.mpr hwide (h hwrites)

/-- Two texts of a node, at any widths and depths that it can be written at, differ only in the
blanks before their lines. Two runs on a document whose settings differ only in the width give one
error, or texts that differ only in the blanks before their lines, unless there is a module to write
and one of the widths is too large for it. -/
theorem indentation_only :
    (∀ (node : Node) (width depth width' depth' : Nat) (text text' : String),
      node.render? width depth = some text → node.render? width' depth' = some text' →
        stripped text = stripped text') ∧
    ∀ (config : Config) (width : Nat) (document : String),
      AgreeStripped (generate config document).result
          (generate { config with indentWidth := width } document).result ∨
        WritesModule config document ∧ 2 ^ 62 ≤ max config.indentWidth width := by
  refine ⟨fun node width depth width' depth' text text' h h' => ?_,
    fun config width document => ?_⟩
  · rw [Node.stripped_eq h, Node.stripped_eq h']
  · rw [or_iff_not_imp_right, not_and, Nat.not_le]
    intro hnarrow
    refine agreeStripped_generate rfl rfl ?_ ?_
    · exact generate_ne_indentTooWide fun hwrites =>
        (Nat.le_max_left _ _).trans_lt (hnarrow hwrites)
    · exact generate_ne_indentTooWide fun hwrites =>
        (Nat.le_max_right _ _).trans_lt (hnarrow hwrites)

/-- Names with line ends and blanks of their own, in a block that is indented in two ways. -/
theorem indentation_only_block :
    stripped "(\x7b\n     a,\n   \n  b\n  \x7d: T) => \x7b\n   return  c;\n  \x7d" =
      stripped "(\x7b\n  a,\n\n  b\n\x7d: T) => \x7b\nreturn  c;\n\x7d" :=
  indentation_only.1
    (.expr (.arrow [] [⟨["  a", "\n  b"], .named "T"⟩] [.ret (.ident " c")])) 1 2 0 0 _ _
    (by decide) (by decide)

end EndpointHooks
