import EndpointHooks.Proofs.CacheKeys
import EndpointHooks.Proofs.Unicode.Letters

/-! Whether the names derived from a key are identifiers again. Only the key is checked, before its
first character is put in upper case for the hook and the interface, and in lower case for the
service method. The names have the shape of identifiers unless the key starts with one of a few
letters whose other case is written with combining marks. -/

namespace EndpointHooks

open TypeScript Unicode

variable {e : Endpoint} {es : List Endpoint} {c : Char} {s t : List Char}

/-! ### The first character in its other case -/

theorem isIdentifierPart_of_isAlphabetic (h : isAlphabetic c = true) :
    isIdentifierPart c = true := by
  simp [isIdentifierPart, isAlphanumeric_of_isAlphabetic h]

/-- The two characters that start identifiers without being letters have no other case. -/
theorem upper_lower_of_mem (h : c ∈ ['_', '$']) : upper c = [c] ∧ lower c = [c] := by
  have hall : ['_', '$'].all (fun d => upper d == [d] && lower d == [d]) = true := by
    decide +kernel
  simpa using List.all_eq_true.mp hall c h

/-- The upper case of the first character of an identifier can go on an identifier, unless it is
written with combining marks. -/
theorem isIdentifierPart_upper_iff (h : isIdentifierStart c = true) :
    (∀ d ∈ upper c, isIdentifierPart d = true) ↔ c ∉ markedCapitals := by
  rw [← List.all_eq_true]
  constructor
  · intro hparts hmarked
    have hmarks : markedCapitals.all (fun c => !(upper c).all isIdentifierPart) = true := by
      decide +kernel
    simpa [hparts] using List.all_eq_true.mp hmarks c hmarked
  · intro hmarked
    rcases isIdentifierStart_cases h with hletter | rfl | rfl
    · exact List.all_eq_true.mpr fun d hd =>
        isIdentifierPart_of_isAlphabetic (isAlphabetic_upper hletter hmarked d hd)
    · simp [upper_lower_of_mem, isIdentifierPart]
    · simp [upper_lower_of_mem, isIdentifierPart]

/-- The lower case of the first character of an identifier starts one too, unless it is the capital
dotted i. -/
theorem isIdentifierShaped_lower_iff (h : isIdentifierStart c = true)
    (hs : ∀ d ∈ s, isIdentifierPart d = true) :
    isIdentifierShaped (lower c ++ s) = true ↔ c ≠ '\u0130' := by
  constructor
  · rintro hshaped rfl
    have hlower : lower '\u0130' = ['i', '\u0307'] := by decide +kernel
    exact dot_not_mem hshaped (by simp [hlower])
  · intro hne
    obtain ⟨d, hd, hstart⟩ : ∃ d, lower c = [d] ∧ isIdentifierStart d = true := by
      rcases isIdentifierStart_cases h with hletter | rfl | rfl
      · obtain ⟨d, hd, hletter⟩ := isAlphabetic_lower hletter hne
        exact ⟨d, hd, by simp [isIdentifierStart, hletter]⟩
      · exact ⟨'_', (upper_lower_of_mem (by simp)).2, h⟩
      · exact ⟨'$', (upper_lower_of_mem (by simp)).2, h⟩
    rw [hd, List.singleton_append, isIdentifierShaped_cons]
    exact ⟨hstart, hs⟩

/-! ### The derived names -/

theorem isIdentifierShaped_append (hs : isIdentifierShaped s = true) :
    isIdentifierShaped (s ++ t) = true ↔ ∀ d ∈ t, isIdentifierPart d = true := by
  cases s with
  | nil => cases hs
  | cons c s =>
    obtain ⟨hc, hs⟩ := isIdentifierShaped_cons.mp hs
    rw [List.cons_append, isIdentifierShaped_cons, List.forall_mem_append]
    simp [hc]
    tauto

/-- The name of a hook or interface, which has the capitalized key in its middle. -/
theorem isIdentifierShaped_capitalized_iff {front back : List Char}
    (hfront : isIdentifierShaped front = true) (hc : isIdentifierStart c = true)
    (hs : ∀ d ∈ s, isIdentifierPart d = true) (hback : ∀ d ∈ back, isIdentifierPart d = true) :
    isIdentifierShaped (front ++ (capitalizeChars (c :: s) ++ back)) = true ↔
      c ∉ markedCapitals := by
  rw [isIdentifierShaped_append hfront, capitalizeChars, List.forall_mem_append,
    List.forall_mem_append, isIdentifierPart_upper_iff hc]
  exact ⟨fun h => h.1.1, fun h => ⟨⟨h, hs⟩, hback⟩⟩

/-- The hook and the interface of an accepted endpoint are named by identifiers unless its key
starts with a letter that has no capital of its own, and its service method is unless its key starts
with the capital dotted i. -/
theorem derivedNames_shaped (h : (validate .strict es).result = .ok ()) (he : e ∈ es) :
    ∃ first rest, e.key.toList = first :: rest ∧
      (isIdentifierShaped e.hookNames.hook.toList = true ↔ first ∉ markedCapitals) ∧
      (isIdentifierShaped e.hookNames.queryInterface.toList = true ↔ first ∉ markedCapitals) ∧
      (isIdentifierShaped e.hookNames.serviceMethod.toList = true ↔ first ≠ '\u0130') := by
  have hown := (issues_eq_nil_iff.mp (validate_strict_ok_iff.mp h)).1 e he
  have hkey := (Endpoint.ownIssues_eq_nil_iff.mp hown).1
  obtain ⟨first, rest, hchars, -⟩ := exists_cons_of_isIdentifierShaped hkey
  rw [hchars, isIdentifierShaped_cons] at hkey
  obtain ⟨hfirst, hrest⟩ := hkey
  have hhook : e.hookNames.hook.toList =
      "use".toList ++ (capitalizeChars (first :: rest) ++ []) := by
    simp [Endpoint.hookNames_hook, capitalize, hchars]
  have hinterface : e.hookNames.queryInterface.toList =
      "Use".toList ++ (capitalizeChars (first :: rest) ++ "Query".toList) := by
    simp [Endpoint.hookNames, HookNames.derive, capitalize, hchars]
  have hmethod : e.hookNames.serviceMethod.toList = lower first ++ rest := by
    simp [Endpoint.hookNames, HookNames.derive, uncapitalize, hchars, uncapitalizeChars]
  obtain ⟨hcapitalUse, huse, hquery⟩ : isIdentifierShaped "Use".toList = true ∧
      isIdentifierShaped "use".toList = true ∧ "Query".toList.all isIdentifierPart = true := by
    decide +kernel
  rw [hhook, hinterface, hmethod]
  exact ⟨first, rest, hchars,
    isIdentifierShaped_capitalized_iff huse hfirst hrest (by simp),
    isIdentifierShaped_capitalized_iff hcapitalUse hfirst hrest (List.all_eq_true.mp hquery),
    isIdentifierShaped_lower_iff hfirst hrest⟩

/-- The ligature fi has two letters for its capital, and no combining mark. -/
theorem derivedNames_shaped_ligature :
    isIdentifierShaped (Endpoint.mk "\uFB01x" (some (.str "A"))
      (some (.str "B"))).hookNames.hook.toList = true := by
  have haccepted :
      (validate .strict [⟨"\uFB01x", some (.str "A"), some (.str "B")⟩]).result = .ok () :=
    validate_strict_ok_iff.mpr (by decide +kernel)
  obtain ⟨first, rest, hchars, hhook, -⟩ :=
    derivedNames_shaped haccepted (List.mem_singleton_self _)
  obtain ⟨rfl, -⟩ : '\uFB01' = first ∧ ['x'] = rest := by simpa using hchars
  exact hhook.mpr (by decide)

/-- A key is accepted whose service method is no identifier, and one whose hook and interface are
none. -/
theorem derivedNames_with_marks :
    (validate .strict [⟨"\u0130", some (.str "A"), some (.str "B")⟩,
        ⟨"\u01F0", some (.str "A"), some (.str "B")⟩]).result = .ok () ∧
      isIdentifierShaped (Endpoint.mk "\u0130" (some (.str "A"))
        (some (.str "B"))).hookNames.serviceMethod.toList = false ∧
      isIdentifierShaped (Endpoint.mk "\u01F0" (some (.str "A"))
        (some (.str "B"))).hookNames.hook.toList = false ∧
      isIdentifierShaped (Endpoint.mk "\u01F0" (some (.str "A"))
        (some (.str "B"))).hookNames.queryInterface.toList = false := by
  refine ⟨validate_strict_ok_iff.mpr ?_, ?_, ?_, ?_⟩ <;> decide +kernel

end EndpointHooks
