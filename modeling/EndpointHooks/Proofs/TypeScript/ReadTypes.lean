import EndpointHooks.Proofs.TypeScript.ReaderLemmas

/-! The texts of types, type parameters and parameters are read back. Inside a tree only the text
that follows a node varies, and it has to end the node: see `Reads`. -/

namespace EndpointHooks.TypeScript

open Layout Reader

variable {width depth : Nat}

/-! ### The characters of lists -/

theorem chars_bracketed {α : Type} (layout : α → Layout) (as : List α) (close : String) :
    chars width (if as.isEmpty then []
      else ofText "<" ++ Layout.commaSeparated (as.map layout) ++ ofText close) =
    bracketedText (fun a => chars width (layout a)) close as := by
  rw [bracketedText]
  split
  · rfl
  · simp [chars_commaSeparated, Function.comp_def]

/-! ### Types -/

theorem TypeRef.chars_layout (name : String) (args : List TypeRef) :
    chars width (TypeRef.mk name args).layout =
      name.toList ++ bracketedText (fun t => chars width (TypeRef.layout t)) ">" args := by
  rw [TypeRef.layout, TypeRef.layouts_eq, chars_append, chars_ofText, chars_bracketed]

/-- A type reference is read back from its text. -/
theorem TypeRef.reads (t : TypeRef) (h : t.wellNamed = true) {n : Nat} (hn : sizeOf t ≤ n) :
    Reads (typeRef n) (chars width t.layout) t := by
  induction t using TypeRef.induct generalizing n with
  | mk name args ih =>
    intro rest hrest
    simp only [wellNamed, Bool.and_eq_true, allWellNamed_iff] at h
    simp only [mk.sizeOf_spec] at hn
    obtain ⟨n, rfl⟩ : ∃ m, n = m + 1 := ⟨n - 1, by omega⟩
    let text := fun t => chars width (TypeRef.layout t)
    have hargs : ∀ a ∈ args, sizeOf a < sizeOf args → Reads (typeRef n) (text a) a :=
      fun a ha hlt => ih a ha (h.2 a ha) (by omega)
    have hbracket : bracketed (typeRef n) ">" n (bracketedText text ">" args ++ rest) =
        some (args, rest) :=
      bracketed_reads isCloser_angle hargs (by omega) (hrest.head?_ne (by decide))
    have hname := run_typeName h.1
      ((bracketedText_head text ">" args rest).imp_left fun h => h.symm ▸ hrest)
    rw [chars_layout, List.append_assoc]
    simp only [typeRef, hname, hbracket, text, Option.bind_eq_bind, Option.bind_some]

theorem typeArgs_read {args : List TypeRef} (h : ∀ t ∈ args, t.wellNamed = true) {n : Nat}
    (hn : sizeOf args ≤ n) {rest : List Char} (hrest : rest.head? ≠ some '<') :
    bracketed (typeRef n) ">" n
      (bracketedText (fun t => chars width (TypeRef.layout t)) ">" args ++ rest) =
      some (args, rest) :=
  bracketed_reads isCloser_angle (fun t ht hlt => t.reads (h t ht) (by omega)) hn hrest

theorem TypeParam.reads (param : TypeParam) (h : param.wellNamed = true) {n : Nat}
    (hn : sizeOf param ≤ n) : Reads (typeParam n) (chars width param.layout) param := by
  obtain ⟨name, fallback⟩ := param
  intro rest hrest
  simp only [wellNamed, Bool.and_eq_true] at h
  cases fallback with
  | none =>
    have hname := run_identifier h.1 hrest.stops_identifier
    simp [typeParam, TypeParam.layout, hname, hrest.fallback]
  | some type =>
    have htype : Reads (typeRef n) (chars width type.layout) type :=
      type.reads (by simpa using h.2) (by simp at hn; omega)
    have hname (s : List Char) := run_identifier h.1 (s := " = ".toList ++ s)
      (stops_cons _ (isIdentifierPart_of_isSign rfl))
    simp only [TypeParam.layout, chars_append, chars_ofText, List.append_assoc, typeParam, hname,
      after_append, htype rest hrest, Option.bind_eq_bind, Option.bind_some]

theorem typeParams_read {close : String} (hclose : IsCloser close) {params : List TypeParam}
    (h : ∀ t ∈ params, t.wellNamed = true) {n : Nat} (hn : sizeOf params ≤ n) {rest : List Char}
    (hrest : rest.head? ≠ some '<') :
    bracketed (typeParam n) close n
      (bracketedText (fun t => chars width (TypeParam.layout t)) close params ++ rest) =
      some (params, rest) :=
  bracketed_reads hclose (fun t ht hlt => t.reads (h t ht) (by omega)) hn hrest

/-! ### Parameters -/

theorem chars_bindings (depth : Nat) (names : List String) (type : TypeRef)
    (hnames : names ≠ []) :
    chars width (Param.layout depth ⟨names, type⟩) = "\x7b\n".toList ++
      (List.intercalate ",\n".toList
        (names.map fun name => padding width (depth + 1) ++ name.toList) ++
      (('\n' :: padding width depth ++ "\x7d: ".toList) ++ chars width type.layout)) := by
  have hempty : names.isEmpty = false := by simpa using hnames
  simp [Param.layout, hempty, bindingLines, chars_intercalate, Piece.chars, Function.comp_def]

theorem bindingsEnd_reads (s : List Char) :
    bindingsEnd (('\n' :: padding width depth ++ "\x7d: ".toList) ++ s) = some s := by
  have hline (s : List Char) : after "\n" ('\n' :: s) = some s := after_append "\n" s
  have hblank : skipBlanks ("\x7d: ".toList ++ s) = "\x7d: ".toList ++ s :=
    skipBlanks_of_head? (by simp)
  simp only [bindingsEnd, List.cons_append, List.append_assoc, hline, Option.bind_eq_bind,
    Option.bind_some, skipBlanks_padding, hblank, after_append]

theorem bindings_read (width depth : Nat) {names : List String}
    (h : ∀ name ∈ names, isIdentifier name.toList = true) (hnames : names ≠ []) {n : Nat}
    (hn : names.length ≤ n) (rest : List Char) :
    separated (fun s => run isIdentifierPart (skipBlanks s)) (after ",\n") bindingsEnd n
      (List.intercalate ",\n".toList
        (names.map fun name => padding width (depth + 1) ++ name.toList) ++
      (('\n' :: padding width depth ++ "\x7d: ".toList) ++ rest)) = some (names, rest) := by
  refine separated_reads (after_append ",\n") bindingsEnd_reads (fun _ => rfl)
    (fun _ => ends_cons _ (by decide) (by decide)) (fun _ => ends_cons _ (by decide) (by decide))
    (fun name hname rest hrest => ?_) hnames hn rest
  have hopens := (opens_of_isIdentifier (h name hname)).append rest
  rw [List.append_assoc, skipBlanks_padding, skipBlanks_of_head? (hopens.head?_ne (by decide)),
    run_identifier (h name hname) hrest.stops_identifier]

/-- A parameter is read back from its text, whatever the indentation of the names it binds. -/
theorem Param.reads (param : Param) (h : param.wellNamed = true) {n : Nat}
    (hn : sizeOf param ≤ n) : Reads (Reader.param n) (chars width (param.layout depth)) param := by
  obtain ⟨names, type⟩ := param
  intro rest hrest
  simp only [wellNamed, Bool.and_eq_true, List.all_eq_true] at h
  simp only [mk.sizeOf_spec] at hn
  have htype : Reads (typeRef n) (chars width type.layout) type := type.reads h.2 (by omega)
  by_cases hnames : names = []
  · subst hnames
    simp only [Param.layout, List.isEmpty_nil, if_true, chars_append, chars_ofText,
      List.append_assoc, Reader.param, after_append, htype rest hrest, Option.bind_eq_bind,
      Option.bind_some]
  · have hnone (s : List Char) : after "\x7b\x7d: " ("\x7b\n".toList ++ s) = none := by
      simp [after, List.dropPrefix?]
    have hlength := length_lt_sizeOf names
    have hbindings := bindings_read width depth h.1 hnames (n := n) (by omega)
    rw [chars_bindings depth names type hnames]
    simp only [List.append_assoc] at hbindings ⊢
    simp only [Reader.param, hnone, after_append, hbindings, htype rest hrest,
      Option.bind_eq_bind, Option.bind_some]

theorem Param.opens (param : Param) : Opens (chars width (param.layout depth)) := by
  refine opens_of_head? (c := '\x7b') ?_ (by decide)
  by_cases h : param.bindings.isEmpty = true <;> simp [Param.layout, h]

end EndpointHooks.TypeScript
