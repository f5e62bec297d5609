import EndpointHooks.Hook
import EndpointHooks.Proofs.TypeScript.ReadExpressions

/-! Unique readability: the text of a well-named bare module determines the module. The reader of
printed modules gives back every such module from its text, whatever the indent width, so two of
them with one text are equal. -/

namespace EndpointHooks.TypeScript

open Layout Reader

variable {width depth : Nat}

/-! ### Declarations -/

/-- A property name is read back, bare or as a literal, up to a mark that stands in no
identifier. -/
theorem propertyName_reads (name : String) {rest : List Char}
    (hrest : Stops isIdentifierPart rest) :
    propertyName ((propertyKey name).toList ++ rest) = some (name, rest) := by
  by_cases h : isIdentifierShaped name.toList = true
  · have hnone : after "\"" (name.toList ++ rest) = none :=
      after_eq_none (c := '"') rfl (head?_identifier_ne h rest (isIdentifierStart_of_isSign rfl))
    simp only [propertyKey, h, if_true, propertyName, hnone,
      run_append (fun _ hc => isIdentifierPart_of_mem h hc) hrest]
  · have hquote (s : List Char) : after "\"" ('"' :: s) = some s := after_append "\"" s
    simp [propertyKey, h, propertyName, hquote, literalRest_escape]

theorem propertyName_opens (name : String) : Opens (propertyKey name).toList := by
  by_cases h : isIdentifierShaped name.toList = true
  · simpa [propertyKey, h] using opens_of_isIdentifierShaped h
  · exact opens_of_head? (c := '"') (by simp [propertyKey, h]) (by decide)

theorem Property.reads (prop : Property) (h : prop.type.wellNamed = true) {n : Nat}
    (hn : sizeOf prop ≤ n) :
    Reads (property n) (chars width prop.layout ++ ";".toList) prop := by
  obtain ⟨name, type, optional⟩ := prop
  intro rest _
  simp only [mk.sizeOf_spec] at hn
  have htype : Reads (typeRef n) (chars width type.layout) type := type.reads h (by omega)
  have hread := htype (";".toList ++ rest) (ends_cons _ (by decide) (by decide))
  have hnone (s : List Char) : after "?" (": ".toList ++ s) = none :=
    after_eq_none (c := '?') rfl (by simp)
  cases optional with
  | false =>
    have hname (s : List Char) : propertyName ((propertyKey name).toList ++ (": ".toList ++ s)) =
        some (name, ": ".toList ++ s) :=
      propertyName_reads name (stops_cons _ (isIdentifierPart_of_isSign rfl))
    simp only [Property.layout, Bool.false_eq_true, if_false, chars_append, chars_ofText,
      List.append_assoc, property, hname, hnone, after_append, hread, Option.bind_eq_bind,
      Option.bind_some, String.toList_empty, List.nil_append]
  | true =>
    have hname (s : List Char) : propertyName ((propertyKey name).toList ++ ("?".toList ++ s)) =
        some (name, "?".toList ++ s) :=
      propertyName_reads name (stops_cons _ (isIdentifierPart_of_isSign rfl))
    simp only [Property.layout, if_true, chars_append, chars_ofText, List.append_assoc, property,
      hname, after_append, hread, Option.bind_eq_bind, Option.bind_some]

theorem Property.opens (prop : Property) : Opens (chars width prop.layout ++ ";".toList) := by
  simpa [Property.layout, List.append_assoc] using (propertyName_opens prop.name).append _

theorem heritage_head (width : Nat) (parents : List TypeRef) (rest : List Char) :
    (chars width (TypeScript.heritage parents) ++ (" \x7b\n".toList ++ rest)).head? = some ' ' := by
  cases parents <;> simp [TypeScript.heritage]

theorem heritage_reads {parents : List TypeRef} (h : ∀ t ∈ parents, t.wellNamed = true) {n : Nat}
    (hn : sizeOf parents ≤ n) (rest : List Char) :
    Reader.heritage n (chars width (TypeScript.heritage parents) ++ (" \x7b\n".toList ++ rest)) =
      some (parents, rest) := by
  by_cases hempty : parents = []
  · subst hempty
    have hnone : after " extends " (" \x7b\n".toList ++ rest) = none := by
      simp [after, List.dropPrefix?]
    simp only [TypeScript.heritage, List.isEmpty_nil, if_true, chars_nil, List.nil_append,
      Reader.heritage, hnone, after_append, Option.bind_eq_bind, Option.bind_some]
  · have hclose : IsCloser " \x7b\n" :=
      ⟨fun s => ⟨⟨' ', _, rfl, by decide⟩, by simp [after, List.dropPrefix?]⟩,
        fun _ => by simp [after, List.dropPrefix?]⟩
    have hread : commaSeparated (typeRef n) " \x7b\n" n (List.intercalate ", ".toList
        (parents.map fun t => chars width (TypeRef.layout t)) ++ (" \x7b\n".toList ++ rest)) =
        some (parents, rest) :=
      commaSeparated_reads hclose (fun t ht hlt => t.reads (h t ht) (by omega)) hempty hn rest
    have hnonempty : parents.isEmpty = false := by simpa using hempty
    simp only [TypeScript.heritage, hnonempty, Bool.false_eq_true, if_false, chars_append,
      chars_ofText, chars_commaSeparated, TypeRef.layouts_eq, List.map_map, Function.comp_def,
      List.append_assoc, Reader.heritage, after_append, hread]

theorem chars_propertyLines (props : List Property) :
    chars width (props.flatMap (Property.line depth)) = props.flatMap fun prop =>
      padding width depth ++ ((chars width prop.layout ++ ";".toList) ++ ['\n']) := by
  rw [chars, List.flatMap_assoc]
  refine List.flatMap_congr fun prop _ => ?_
  simp [Property.line, chars, Piece.chars, ofText]

theorem chars_interface (decl : Interface) :
    chars width (decl.layout depth) = "interface ".toList ++ (decl.name.toList ++
      (bracketedText (fun t => chars width (TypeParam.layout t)) ">" decl.typeParams ++
        (chars width (TypeScript.heritage decl.parents) ++ (" \x7b\n".toList ++
          linesText width depth (fun prop => chars width (Property.layout prop) ++ ";".toList)
            decl.properties)))) := by
  have hparams : chars width (interfaceTypeParams decl.typeParams) =
      bracketedText (fun t => chars width (TypeParam.layout t)) ">" decl.typeParams :=
    chars_bracketed _ _ _
  simp [Interface.layout, hparams, chars_propertyLines, linesText, Piece.chars]

theorem Interface.reads (d : Interface) (h : d.wellNamed = true) {n : Nat} (hn : sizeOf d ≤ n)
    (rest : List Char) :
    decl n (chars width (d.layout depth) ++ rest) = some (.interface d, rest) := by
  obtain ⟨name, typeParams, parents, properties⟩ := d
  simp only [wellNamed, Bool.and_eq_true, List.all_eq_true] at h
  simp only [mk.sizeOf_spec] at hn
  have hlines : lines (property n) n (linesText width depth
      (fun prop => chars width (Property.layout prop) ++ ";".toList) properties ++ rest) =
      some (properties, rest) :=
    lines_reads (fun prop hp hlt => prop.reads (h.2 prop hp) (by omega))
      (fun prop _ => prop.opens) (by omega) rest
  have hheritage (s : List Char) : Reader.heritage n
      (chars width (TypeScript.heritage parents) ++ (" \x7b\n".toList ++ s)) = some (parents, s) :=
    heritage_reads h.1.2 (by omega) s
  let params := bracketedText (fun t => chars width (TypeParam.layout t)) ">" typeParams
  have htypes (s : List Char) : bracketed (typeParam n) ">" n
      (params ++ (chars width (TypeScript.heritage parents) ++ (" \x7b\n".toList ++ s))) =
      some (typeParams, chars width (TypeScript.heritage parents) ++ (" \x7b\n".toList ++ s)) :=
    typeParams_read isCloser_angle h.1.1.2 (by omega) (by rw [heritage_head]; decide)
  have hname (s : List Char) : run isIdentifierPart (name.toList ++
      (params ++ (chars width (TypeScript.heritage parents) ++ (" \x7b\n".toList ++ s)))) =
      some (name, params ++ (chars width (TypeScript.heritage parents) ++
        (" \x7b\n".toList ++ s))) :=
    run_identifier h.1.1.1
      (stops_bracketedText
        (stops_of_head? (heritage_head width parents s) (isIdentifierPart_of_isSign rfl)))
  rw [chars_interface]
  simp only [List.append_assoc, decl, after_append, interface, hname, htypes, hheritage, hlines,
    params, Option.bind_eq_bind, Option.bind_some]

theorem Constant.reads (d : Constant) (hname : isIdentifier d.name.toList = true)
    (h : d.value.wellNamed = true) (hbare : d.value.isBare = true) {n : Nat} (hn : sizeOf d < n)
    (rest : List Char) :
    decl n (chars width (d.layout depth) ++ rest) = some (.constant d, rest) := by
  obtain ⟨name, value⟩ := d
  simp only [mk.sizeOf_spec] at hn
  have hwhole : ReadsWhole (chars width (value.layout depth)) value := (reads_all.1 value h hbare).2
  have hvalue := hwhole n (by omega) (";".toList ++ rest) (ends_cons _ (by decide) (by decide))
  have hnone (s : List Char) : after "interface " ("const ".toList ++ s) = none :=
    after_eq_none (c := 'i') rfl (by simp)
  have hread (s : List Char) := run_identifier hname (s := " = ".toList ++ s)
    (stops_cons _ (isIdentifierPart_of_isSign rfl))
  simp only [Constant.layout, chars_append, chars_ofText, List.append_assoc, decl, hnone,
    after_append, constant, hread, hvalue, Option.bind_eq_bind, Option.bind_some]

theorem Decl.reads (d : Decl) (h : d.wellNamed = true) (hbare : d.isBare = true) {n : Nat}
    (hn : sizeOf d ≤ n) (rest : List Char) :
    decl n (chars width (d.layout depth) ++ rest) = some (d, rest) := by
  cases d with
  | interface d => exact d.reads h (by simp at hn; omega) rest
  | constant d =>
    simp only [wellNamed, Bool.and_eq_true] at h
    exact d.reads h.1 h.2 hbare (by simp at hn; omega) rest

/-! ### Modules -/

theorem Decl.head (width depth : Nat) (d : Decl) (rest : List Char) :
    (chars width (d.layout depth) ++ rest).head? = some 'i' ∨
      (chars width (d.layout depth) ++ rest).head? = some 'c' := by
  cases d <;> simp [Decl.layout, Interface.layout, Constant.layout]

theorem chars_item (a : Item) :
    chars width (a.layout 0) = (if a.exported then "export " else "").toList ++
      (chars width (a.decl.layout 0) ++ "\n".toList) := by
  simp [Item.layout, Piece.chars]

/-- A declaration of a module is read back with its line end, exported or not. -/
theorem Item.reads (a : Item) (h : a.decl.wellNamed = true) (hbare : a.decl.isBare = true) {n : Nat}
    (hn : sizeOf a ≤ n) (rest : List Char) :
    item n (skipBlanks (chars width (a.layout 0) ++ rest)) = some (a, rest) := by
  obtain ⟨exported, d⟩ := a
  simp only [mk.sizeOf_spec] at hn
  have hread : Reader.decl n (chars width (d.layout 0) ++ ("\n".toList ++ rest)) =
      some (d, "\n".toList ++ rest) := d.reads h hbare (by omega) _
  have hhead := Decl.head width 0 d ("\n".toList ++ rest)
  rw [chars_item]
  cases exported with
  | false =>
    have hblank : skipBlanks (chars width (d.layout 0) ++ ("\n".toList ++ rest)) =
        chars width (d.layout 0) ++ ("\n".toList ++ rest) :=
      skipBlanks_of_head? (by rcases hhead with h | h <;> rw [h] <;> decide)
    have hnone : after "export " (chars width (d.layout 0) ++ ("\n".toList ++ rest)) = none :=
      after_eq_none (c := 'e') rfl (by rcases hhead with h | h <;> rw [h] <;> decide)
    simp only [Bool.false_eq_true, if_false, String.toList_empty, List.nil_append,
      List.append_assoc, hblank, item, hnone, hread, after_append, Option.bind_eq_bind,
      Option.bind_some]
  | true =>
    have hblank (s : List Char) : skipBlanks ("export ".toList ++ s) = "export ".toList ++ s :=
      skipBlanks_of_head? (by simp)
    simp only [if_true, List.append_assoc, hblank, item, after_append, hread, Option.bind_eq_bind,
      Option.bind_some]

theorem items_reads {as : List Item} (h : ∀ a ∈ as, a.decl.wellNamed = true)
    (hbare : ∀ a ∈ as, a.decl.isBare = true) {bound : Nat} (hbound : sizeOf as ≤ bound) {n : Nat}
    (hn : as.length < n) :
    items bound n (as.flatMap fun a => chars width (a.layout 0)) = some as := by
  induction as generalizing n with
  | nil =>
    obtain ⟨n, rfl⟩ : ∃ m, n = m + 1 := ⟨n - 1, by omega⟩
    rfl
  | cons a as ih =>
    obtain ⟨n, rfl⟩ : ∃ m, n = m + 1 := ⟨n - 1, by omega⟩
    simp only [List.cons.sizeOf_spec] at hbound
    have more := ih (fun b hb => h b (List.mem_cons_of_mem _ hb))
      (fun b hb => hbare b (List.mem_cons_of_mem _ hb)) (by omega) (n := n) (by simpa using hn)
    have hread : item bound (skipBlanks (chars width (a.layout 0) ++
        as.flatMap fun a => chars width (a.layout 0))) =
        some (a, as.flatMap fun a => chars width (a.layout 0)) :=
      a.reads (h a (by simp)) (hbare a (by simp)) (by omega) _
    obtain ⟨c, s, hcons⟩ : ∃ c s, chars width (a.layout 0) ++
        as.flatMap (fun a => chars width (a.layout 0)) = c :: s :=
      List.exists_cons_of_ne_nil (by simp [chars_item])
    rw [List.flatMap_cons, hcons]
    rw [hcons] at hread
    simp only [items, hread, more, Option.bind_eq_bind, Option.bind_some]

/-- A module is read back from its text at any indent width. -/
theorem Module.read?_chars {m : Module} (h : m.wellNamed = true) (hbare : m.isBare = true)
    {bound : Nat} (hbound : sizeOf m ≤ bound) :
    Module.read? bound (chars width (m.layout 0)) = some m := by
  obtain ⟨as⟩ := m
  simp only [wellNamed, List.all_eq_true] at h
  simp only [isBare, List.all_eq_true] at hbare
  simp only [mk.sizeOf_spec] at hbound
  have hlength := length_lt_sizeOf as
  have hread : Reader.items bound bound (as.flatMap fun a => chars width (a.layout 0)) = some as :=
    items_reads h hbare (by omega) (by omega)
  have htext : chars width ((mk as).layout 0) = as.flatMap fun a => chars width (a.layout 0) := by
    rw [Module.layout, chars, List.flatMap_assoc]
    rfl
  rw [read?, htext, hread, Option.map_some]

/-- The text of a well-named bare module determines it, even over different indent widths. -/
theorem Module.eq_of_render_eq {m m' : Module} {width width' : Nat} {text : String}
    (hm : m.wellNamed = true) (bare : m.isBare = true) (hm' : m'.wellNamed = true)
    (bare' : m'.isBare = true) (h : m.render? width = some text)
    (h' : m'.render? width' = some text) : m = m' := by
  obtain ⟨-, rfl⟩ := render?_eq_some_iff.mp h
  obtain ⟨-, htext⟩ := render?_eq_some_iff.mp h'
  have hchars : chars width (m.layout 0) = chars width' (m'.layout 0) := by
    simpa using congrArg String.toList htext
  have hread : Module.read? (sizeOf m + sizeOf m') (chars width (m.layout 0)) = some m :=
    Module.read?_chars hm bare (by omega)
  have hread' : Module.read? (sizeOf m + sizeOf m') (chars width' (m'.layout 0)) = some m' :=
    Module.read?_chars hm' bare' (by omega)
  rw [hchars, hread'] at hread
  exact (Option.some.inj hread).symm

/-- Two keys that differ in the case of their first letter have one text, with an interface and with
calls inside arrow functions, and so they have one module. -/
theorem Module.eq_of_render_eq_pools :
    ∃ text, ((HookNames.derive "pools" "A" "B.C").module true).render? 2 = some text ∧
      ((HookNames.derive "Pools" "A" "B.C").module true).render? 2 = some text ∧
      (HookNames.derive "pools" "A" "B.C").module true =
        (HookNames.derive "Pools" "A" "B.C").module true := by
  have same : HookNames.derive "pools" "A" "B.C" = HookNames.derive "Pools" "A" "B.C" := by
    decide +kernel
  have fit : fits 2 (((HookNames.derive "Pools" "A" "B.C").module true).layout 0) = true := by
    decide
  have named : ((HookNames.derive "Pools" "A" "B.C").module true).wellNamed = true := by
    decide +kernel
  have bare : ((HookNames.derive "Pools" "A" "B.C").module true).isBare = true := by decide
  have upper : ((HookNames.derive "Pools" "A" "B.C").module true).render? 2 = some _ :=
    render?_eq_some_iff.mpr ⟨fit, rfl⟩
  have lower : ((HookNames.derive "pools" "A" "B.C").module true).render? 2 = some _ :=
    (congrArg (fun names => (HookNames.module names true).render? 2) same).trans upper
  have named' : ((HookNames.derive "pools" "A" "B.C").module true).wellNamed = true := by
    rw [same]
    exact named
  exact ⟨_, lower, upper, Module.eq_of_render_eq named' (by decide) named bare lower upper⟩

end EndpointHooks.TypeScript
