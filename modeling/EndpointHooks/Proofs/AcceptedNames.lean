import EndpointHooks.Proofs.Acceptance
import EndpointHooks.Proofs.TypeScript.Names
import EndpointHooks.Proofs.TypeScript.Node

/-! Whether the names that are let through are identifiers of the language. They are unless they
start with a combining mark or hold one of the letters and numerals that are in no identifier. The
names in the module of an endpoint are identifiers exactly if its key and the segments of its types
are. -/

namespace EndpointHooks

open TypeScript Unicode

variable {e : Endpoint} {es : List Endpoint} {s : List Char}

/-- The names that an endpoint gives: its key and the segments of its types. -/
def Endpoint.givenNames (e : Endpoint) : List (List Char) :=
  e.key.toList :: [TypeField.request, .response].flatMap fun field =>
    match e.field field with
    | some (.str name) => Text.pieces '.' name.toList
    | _ => []

theorem isIdentifierShaped_of_mem_givenNames (h : e.ownIssues = []) (hs : s ∈ e.givenNames) :
    isIdentifierShaped s = true := by
  obtain ⟨hkey, hrequest, hresponse⟩ := Endpoint.ownIssues_eq_nil_iff.mp h
  have htype : ∀ field, e.HasType field := by
    intro field
    cases field
    · exact hrequest
    · exact hresponse
  rcases List.mem_cons.mp hs with rfl | hs
  · exact hkey
  · obtain ⟨field, -, hmem⟩ := List.mem_flatMap.mp hs
    obtain ⟨name, hfield, hname⟩ := htype field
    rw [hfield] at hmem
    exact isDotted_iff.mp (isDotted_of_isTypeName hname) s hmem

/-! ### The names in a module -/

/-- The names that stand in every module. -/
def commonNames : List String :=
  [Synthesis.dataParam, Synthesis.baseInterface, Synthesis.queryFunction, Synthesis.queryService,
    Synthesis.errorClass, Synthesis.requestParam, Synthesis.optionsParam]

theorem mem_names_module {names : HookNames} {exportHook : Bool} {name : String} :
    name ∈ (names.module exportHook).names ↔ name ∈ commonNames ∨ name ∈
      [names.queryInterface, names.hook, names.requestType, names.responseType,
        names.serviceMethod] := by
  have hnames : (names.module exportHook).names =
      [names.queryInterface, Synthesis.dataParam, Synthesis.baseInterface, names.responseType,
        Synthesis.dataParam, names.requestType, names.hook, Synthesis.dataParam, names.responseType,
        Synthesis.requestParam, Synthesis.optionsParam, names.queryInterface, Synthesis.dataParam,
        Synthesis.queryFunction, names.responseType, Synthesis.errorClass, Synthesis.dataParam,
        Synthesis.requestParam, Synthesis.queryService, Synthesis.errorClass,
        Synthesis.queryService, names.serviceMethod, Synthesis.requestParam,
        Synthesis.optionsParam] := rfl
  rw [hnames]
  simp only [commonNames, List.mem_cons, List.not_mem_nil, or_false]
  grind

/-- The interface and the hook of a key are named by identifiers of the language if the key is
one, because it stands behind other letters there. -/
theorem isName_of_isName_key (h : isName e.key.toList = true) :
    isName e.hookNames.queryInterface.toList = true ∧ isName e.hookNames.hook.toList = true := by
  have hcapital := goesOnName_capitalizeChars h
  obtain ⟨hcapitalUse, huse, hquery⟩ : isName "Use".toList = true ∧ isName "use".toList = true ∧
      "Query".toList.all goesOnName = true := by decide +kernel
  have hinterface : e.hookNames.queryInterface.toList =
      "Use".toList ++ (capitalizeChars e.key.toList ++ "Query".toList) := by
    simp [Endpoint.hookNames, HookNames.derive, capitalize]
  have hhook : e.hookNames.hook.toList = "use".toList ++ capitalizeChars e.key.toList := by
    simp [Endpoint.hookNames_hook, capitalize]
  rw [hinterface, hhook]
  exact ⟨isName_append hcapitalUse
      (List.forall_mem_append.mpr ⟨hcapital, List.all_eq_true.mp hquery⟩),
    isName_append huse hcapital⟩

/-- The method of the query service that a hook calls is an identifier of the language exactly if
the key is one. -/
theorem isQualifiedName_serviceMethod_iff (h : isIdentifierShaped e.key.toList = true) :
    isQualifiedName e.hookNames.serviceMethod.toList = true ↔ isName e.key.toList = true := by
  have hmethod : e.hookNames.serviceMethod.toList = uncapitalizeChars e.key.toList := by
    simp [Endpoint.hookNames, HookNames.derive, uncapitalize]
  have hdot : '.' ∉ uncapitalizeChars e.key.toList :=
    dot_not_mem_uncapitalizeChars
      (not_mem_of_isIdentifierShaped h (isIdentifierPart_of_isSign rfl))
  rw [hmethod, isQualifiedName_iff_of_not_mem hdot, isName_uncapitalizeChars_iff]

/-- The module of an endpoint is made of identifiers exactly if its key and the segments of its
types are identifiers. -/
theorem names_module_isQualifiedName_iff (h : e.ownIssues = []) (exportHook : Bool) :
    (∀ name ∈ (e.hook exportHook).module.names, isQualifiedName name.toList = true) ↔
      ∀ s ∈ e.givenNames, isName s = true := by
  obtain ⟨hkey, ⟨request, hrequest, -⟩, ⟨response, hresponse, -⟩⟩ :=
    Endpoint.ownIssues_eq_nil_iff.mp h
  have hgiven : (∀ s ∈ e.givenNames, isName s = true) ↔ isName e.key.toList = true ∧
      isQualifiedName request.toList = true ∧ isQualifiedName response.toList = true := by
    simp only [Endpoint.givenNames, List.flatMap_cons, List.flatMap_nil, hrequest, hresponse,
      List.append_nil, List.forall_mem_cons, List.forall_mem_append, isQualifiedName_iff]
  have hrequestType : e.hookNames.requestType = request := congrArg typeText hrequest
  have hresponseType : e.hookNames.responseType = response := congrArg typeText hresponse
  have hmethod := isQualifiedName_serviceMethod_iff hkey
  rw [hgiven]
  constructor
  · intro hnames
    refine ⟨hmethod.mp (hnames _ (mem_names_module.mpr ?_)), hnames _ (mem_names_module.mpr ?_),
      hnames _ (mem_names_module.mpr ?_)⟩ <;> simp [hrequestType, hresponseType]
  · rintro ⟨hname, hrequestName, hresponseName⟩ name hmem
    obtain ⟨hinterface, hhook⟩ := isName_of_isName_key hname
    rcases mem_names_module.mp hmem with hcommon | hown
    · have hall : commonNames.all (isName ·.toList) = true := by decide +kernel
      exact isQualifiedName_of_isName (List.all_eq_true.mp hall name hcommon)
    · simp only [List.mem_cons, List.not_mem_nil, or_false] at hown
      rcases hown with rfl | rfl | rfl | rfl | rfl
      · exact isQualifiedName_of_isName hinterface
      · exact isQualifiedName_of_isName hhook
      · rwa [hrequestType]
      · rwa [hresponseType]
      · exact hmethod.mpr hname

/-- The names that are let through, and with them the keys and type names of accepted endpoints, are
identifiers of the language exactly if they start with no mark and have no stray. The module of an
accepted endpoint is made of identifiers exactly if these are. -/
theorem givenNames_isName_iff (s : List Char) (es : List Endpoint) :
    (isIdentifierShaped s = true →
      (isName s = true ↔ startsWithMark s = false ∧ ∀ c ∈ s, isStray c = false)) ∧
    ((validate .strict es).result = .ok () → ∀ e ∈ es,
      (∀ s ∈ e.givenNames,
        (isName s = true ↔ startsWithMark s = false ∧ ∀ c ∈ s, isStray c = false)) ∧
      ∀ exportHook,
        (∀ name ∈ (e.hook exportHook).module.names, isQualifiedName name.toList = true) ↔
          ∀ s ∈ e.givenNames, isName s = true) := by
  refine ⟨fun hs => isName_iff hs, fun h e he => ?_⟩
  have hown := (issues_eq_nil_iff.mp (validate_strict_ok_iff.mp h)).1 e he
  exact ⟨fun s hs => isName_iff (isIdentifierShaped_of_mem_givenNames hown hs),
    names_module_isQualifiedName_iff hown⟩

/-- Letters with accents are letters of the language. -/
theorem givenNames_isName_iff_accent :
    ∀ name ∈ ((Endpoint.mk "donn\u00E9es" (some (.str "a.B2"))
      (some (.str "$C"))).hook true).module.names, isQualifiedName name.toList = true := by
  have haccepted : (validate .strict
      [⟨"donn\u00E9es", some (.str "a.B2"), some (.str "$C")⟩]).result = .ok () :=
    validate_strict_ok_iff.mpr (by decide +kernel)
  obtain ⟨hgiven, hmodule⟩ :=
    (givenNames_isName_iff [] _).2 haccepted _ (List.mem_singleton_self _)
  refine (hmodule true).mpr fun s hs => (hgiven s hs).mpr ?_
  have hplain : (Endpoint.mk "donn\u00E9es" (some (.str "a.B2"))
      (some (.str "$C"))).givenNames.all
        (fun s => !startsWithMark s && s.all (!isStray ·)) = true := by decide +kernel
  simpa using List.all_eq_true.mp hplain s hs

/-- Accepted keys and types that are no identifiers of the language: an encircled letter, a vowel
sign at the start, and a superscript digit. -/
theorem strays_accepted :
    (validate .strict [⟨"\u24B6", some (.str "\u093E"), some (.str "x\u00B2")⟩]).result = .ok () ∧
      (∀ s ∈ (Endpoint.mk "\u24B6" (some (.str "\u093E")) (some (.str "x\u00B2"))).givenNames,
        isName s = false) ∧
      isName (Endpoint.mk "\u24B6" (some (.str "\u093E"))
        (some (.str "x\u00B2"))).hookNames.hook.toList = false := by
  refine ⟨validate_strict_ok_iff.mpr ?_, ?_, ?_⟩ <;> decide +kernel

end EndpointHooks
