import EndpointHooks.Proofs.Template
import EndpointHooks.Proofs.Unicode.LetterCase

/-! What can be read off a generated text. The names and types of accepted endpoints hold no line
ends, so every module is a block of twelve lines and the empty lines of the text are those between
modules. Each module is therefore found again in the text, and in its lines the names of its
endpoint. -/

namespace EndpointHooks

open TypeScript Unicode

variable {e f : Endpoint} {es fs : List Endpoint} {config : Config} {width : Nat}
  {exportHook : Bool} {key : String}

/-! ### Names without line ends -/

theorem newline_not_mem_append {c : Char} {image s : List Char} (himage : '\n' ∈ image → c = '\n')
    (h : '\n' ∉ c :: s) : '\n' ∉ image ++ s := by
  rw [List.mem_cons, not_or] at h
  rw [List.mem_append, not_or]
  exact ⟨fun hmem => h.1 (himage hmem).symm, h.2⟩

theorem newline_not_mem_capitalize (h : '\n' ∉ key.toList) : '\n' ∉ (capitalize key).toList := by
  rw [capitalize, String.toList_ofList]
  cases hkey : key.toList with
  | nil => simp [capitalizeChars]
  | cons c s => exact newline_not_mem_append eq_newline_of_mem_upper (hkey ▸ h)

theorem newline_not_mem_uncapitalize (h : '\n' ∉ key.toList) :
    '\n' ∉ (uncapitalize key).toList := by
  rw [uncapitalize, String.toList_ofList]
  cases hkey : key.toList with
  | nil => simp [uncapitalizeChars]
  | cons c s => exact newline_not_mem_append eq_newline_of_mem_lower (hkey ▸ h)

theorem newline_not_mem_of_isIdentifierShaped {s : List Char} (h : isIdentifierShaped s = true) :
    '\n' ∉ s :=
  not_mem_of_isIdentifierShaped h (isIdentifierPart_of_isSign rfl)

theorem newline_not_mem_of_isTypeName {s : List Char} (h : isTypeName s = true) : '\n' ∉ s := by
  intro hmem
  obtain ⟨part, hpart, hmem⟩ := Text.exists_mem_pieces hmem (show '\n' ≠ '.' by decide)
  have hshaped := (isIdentifier_iff.mp (isTypeName_iff.mp h part hpart)).1
  exact newline_not_mem_of_isIdentifierShaped hshaped hmem

/-- An escaped text stays on its line, whatever it says. -/
theorem newline_not_mem_escape (s : List Char) : '\n' ∉ escape s := by
  rw [escape, List.mem_flatMap]
  rintro ⟨c, -, hmem⟩
  by_cases hc : c = '\n'
  · subst hc
    exact absurd hmem (by decide)
  · unfold escapeChar at hmem
    split_ifs at hmem <;> simp [Ne.symm hc] at hmem

/-- The names and types that stand in the module of an endpoint hold no line ends. -/
structure Endpoint.OnLine (e : Endpoint) : Prop where
  capitalized : '\n' ∉ (capitalize e.key).toList
  uncapitalized : '\n' ∉ (uncapitalize e.key).toList
  request : '\n' ∉ (typeText e.requestType).toList
  response : '\n' ∉ (typeText e.responseType).toList

theorem Endpoint.HasType.newline_not_mem {field : TypeField} (h : e.HasType field) :
    '\n' ∉ (typeText (e.field field)).toList := by
  obtain ⟨name, hname, htype⟩ := h
  rw [hname]
  exact newline_not_mem_of_isTypeName htype

theorem Endpoint.onLine_of_ownIssues (h : e.ownIssues = []) : e.OnLine := by
  obtain ⟨hkey, hrequest, hresponse⟩ := Endpoint.ownIssues_eq_nil_iff.mp h
  have hline : '\n' ∉ e.key.toList := newline_not_mem_of_isIdentifierShaped hkey
  exact ⟨newline_not_mem_capitalize hline, newline_not_mem_uncapitalize hline,
    hrequest.newline_not_mem, hresponse.newline_not_mem⟩

/-! ### The lines of a module -/

namespace Template

theorem length_lines : (lines width exportHook e).length = 12 := rfl

/-- Every line of a module has something in it, also where nothing is indented. -/
theorem empty_not_mem_lines : "" ∉ lines width exportHook e := by
  simp [lines, interfaceLines, hookLines, fetcherLines]

theorem newline_not_mem_indent (level : Nat) : '\n' ∉ (indent width level).toList := by
  simp [indent]

theorem newline_not_mem_lines (h : e.OnLine) :
    ∀ line ∈ lines width exportHook e, '\n' ∉ line.toList := by
  obtain ⟨hcapital, huncapital, hrequest, hresponse⟩ := h
  have hexport : '\n' ∉ (if exportHook then "export " else "").toList := by
    cases exportHook <;> decide
  simp [lines, interfaceLines, hookLines, fetcherLines, hcapital, huncapital, hrequest, hresponse,
    hexport, newline_not_mem_escape, newline_not_mem_indent]

theorem isBlock_lines (h : e.OnLine) : Text.IsBlock (lines width exportHook e) :=
  ⟨by simp [lines, interfaceLines], empty_not_mem_lines, newline_not_mem_lines h⟩

/-- The lines of a module give away the names that it is made from. -/
theorem hookNames_eq_of_lines (h : lines width exportHook e = lines width exportHook f) :
    e.hookNames = f.hookNames := by
  simp only [lines, interfaceLines, hookLines, fetcherLines, List.cons_append, List.nil_append,
    List.cons.injEq] at h
  obtain ⟨hinterface, hrequest, -, -, -, -, hannotation, -, -, hmethod, -⟩ := h
  have hcapital : capitalize e.key = capitalize f.key := by simpa using hannotation
  have huncapital : uncapitalize e.key = uncapitalize f.key := by simpa using hmethod
  have hresponse : typeText e.responseType = typeText f.responseType := by
    simpa [hcapital] using hinterface
  have hrequest : typeText e.requestType = typeText f.requestType := by simpa using hrequest
  simp [Endpoint.hookNames, HookNames.derive, hcapital, huncapital, hrequest, hresponse]

end Template

/-! ### Texts of several modules -/

/-- Hooks that can be rendered are rendered as the template for their endpoints. -/
theorem texts_eq_ofLines {texts : List String}
    (h : renderAll config.indentWidth (hooks config es) = .ok texts) :
    texts = (es.map (Template.lines config.indentWidth config.exportHook)).map Text.ofLines := by
  have htexts : texts = es.map (Template.text config.indentWidth config.exportHook) := by
    by_cases hwidth : config.indentWidth * 2 < textLimit
    · rw [renderAll_hooks hwidth] at h
      exact (Except.ok.inj h).symm
    · by_cases hes : es = []
      · subst hes
        exact (Except.ok.inj h).symm
      · rw [renderAll_hooks_eq_error hwidth hes] at h
        cases h
  rw [htexts, Template.map_text]

theorem isBlock_of_accepted (h : (validate .strict es).result = .ok ()) (width : Nat)
    (exportHook : Bool) : ∀ b ∈ es.map (Template.lines width exportHook), Text.IsBlock b := by
  have hown := (issues_eq_nil_iff.mp (validate_strict_ok_iff.mp h)).1
  intro b hb
  obtain ⟨e, he, rfl⟩ := List.mem_map.mp hb
  exact Template.isBlock_lines (Endpoint.onLine_of_ownIssues (hown e he))

theorem map_hookNames_eq_of_lines
    (h : es.map (Template.lines width exportHook) = fs.map (Template.lines width exportHook)) :
    es.map (·.hookNames) = fs.map (·.hookNames) := by
  induction es generalizing fs with
  | nil =>
    obtain rfl : fs = [] := by simpa using h
    rfl
  | cons e es ih =>
    cases fs with
    | nil => simp at h
    | cons f fs =>
      obtain ⟨hlines, hrest⟩ := List.cons_eq_cons.mp h
      rw [List.map_cons, List.map_cons, Template.hookNames_eq_of_lines hlines, ih hrest]

/-- The text of accepted endpoints determines their names. Unless there are no endpoints, it
consists of one block of twelve lines for each of them, with an empty line between neighbours, and
the blocks are the texts of the modules. -/
theorem hookNames_eq_of_joinModules_eq {texts texts' : List String}
    (hes : (validate .strict es).result = .ok ()) (hfs : (validate .strict fs).result = .ok ())
    (h : renderAll config.indentWidth (hooks config es) = .ok texts)
    (h' : renderAll config.indentWidth (hooks config fs) = .ok texts') :
    (joinModules texts = joinModules texts' → es.map (·.hookNames) = fs.map (·.hookNames)) ∧
    (es ≠ [] →
      (Text.blocks (joinModules texts)).length = es.length ∧
      (∀ b ∈ Text.blocks (joinModules texts), b.length = 12 ∧
        ∀ line ∈ b, line ≠ "" ∧ '\n' ∉ line.toList) ∧
      joinModules texts = Text.ofLines ([""].intercalate (Text.blocks (joinModules texts))) ∧
      (Text.blocks (joinModules texts)).map Text.ofLines = texts) := by
  have hes := isBlock_of_accepted hes config.indentWidth config.exportHook
  have hfs := isBlock_of_accepted hfs config.indentWidth config.exportHook
  rw [texts_eq_ofLines h, texts_eq_ofLines h']
  refine ⟨fun htext => ?_, fun hne => ?_⟩
  · exact map_hookNames_eq_of_lines (Text.eq_of_intercalate_eq hes hfs htext)
  · rw [joinModules, Text.blocks_intercalate (by simpa using hne) hes]
    refine ⟨List.length_map _, fun b hb => ⟨?_, fun line hline => ⟨?_, ?_⟩⟩,
      Text.intercalate_ofLines _, rfl⟩
    · obtain ⟨e, -, rfl⟩ := List.mem_map.mp hb
      exact Template.length_lines
    · exact fun hempty => (hes b hb).empty_not_mem (hempty ▸ hline)
    · exact (hes b hb).newline_not_mem line hline

/-- Keys that differ in the case of their first letters give one text and the same names, here of
two blocks without any blanks before their lines. -/
theorem hookNames_eq_of_joinModules_eq_pools :
    [Endpoint.mk "pools" (some (.str "A")) (some (.str "B")),
        Endpoint.mk "fees" (some (.str "C")) (some (.str "D"))].map (·.hookNames) =
      [Endpoint.mk "Pools" (some (.str "A")) (some (.str "B")),
        Endpoint.mk "Fees" (some (.str "C")) (some (.str "D"))].map (·.hookNames) ∧
    ∃ texts, renderAll 0 (hooks { indentWidth := 0 }
        [Endpoint.mk "pools" (some (.str "A")) (some (.str "B")),
          Endpoint.mk "fees" (some (.str "C")) (some (.str "D"))]) = .ok texts ∧
      (Text.blocks (joinModules texts)).length = 2 ∧
      (Text.blocks (joinModules texts)).map Text.ofLines = texts := by
  have hlower : (validate .strict [⟨"pools", some (.str "A"), some (.str "B")⟩,
      ⟨"fees", some (.str "C"), some (.str "D")⟩]).result = .ok () :=
    validate_strict_ok_iff.mpr (by decide)
  have hupper : (validate .strict [⟨"Pools", some (.str "A"), some (.str "B")⟩,
      ⟨"Fees", some (.str "C"), some (.str "D")⟩]).result = .ok () :=
    validate_strict_ok_iff.mpr (by decide)
  have hwidth : ({ indentWidth := 0 } : Config).indentWidth * 2 < textLimit := by decide
  have hrender (es : List Endpoint) :
      renderAll ({ indentWidth := 0 } : Config).indentWidth (hooks { indentWidth := 0 } es) =
        .ok (es.map (Template.text 0 true)) := renderAll_hooks hwidth
  have htext : joinModules ([Endpoint.mk "pools" (some (.str "A")) (some (.str "B")),
        Endpoint.mk "fees" (some (.str "C")) (some (.str "D"))].map (Template.text 0 true)) =
      joinModules ([Endpoint.mk "Pools" (some (.str "A")) (some (.str "B")),
        Endpoint.mk "Fees" (some (.str "C")) (some (.str "D"))].map (Template.text 0 true)) := by
    rw [joinModules, joinModules, Template.map_text, Template.map_text, Text.intercalate_ofLines,
      Text.intercalate_ofLines]
    exact congrArg Text.ofLines (by decide +kernel)
  obtain ⟨hnames, hblocks⟩ :=
    hookNames_eq_of_joinModules_eq hlower hupper (hrender _) (hrender _)
  obtain ⟨hcount, -, -, htexts⟩ := hblocks (by simp)
  exact ⟨hnames htext, _, hrender _, hcount, htexts⟩

end EndpointHooks
