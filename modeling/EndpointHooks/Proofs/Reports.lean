import EndpointHooks.Proofs.Acceptance
import EndpointHooks.Proofs.Json.Compact
import Mathlib.Data.List.Induction

/-! What is reported of a list of endpoints. The reports are described case by case, without the
names that are carried along while a list is checked: an endpoint comes with the endpoints before
it, and its hook is repeated if one of them has a hook of the same name. The check finds exactly
these reports, in this order; a strict run ends with the first of them, and a lenient one warns of
each. -/

namespace EndpointHooks

open TypeScript

variable {e : Endpoint} {es earlier : List Endpoint} {key : String} {field : TypeField}
  {value : Option Json} {found : List Issue}

/-! ### The reports -/

/-- The report on a key. -/
inductive KeyReport (key : String) : List Issue → Prop
  | shaped : isIdentifierShaped key.toList = true → KeyReport key []
  | misshapen : isIdentifierShaped key.toList = false → KeyReport key [.invalidKey key]

/-- The report on the value of a type field. A null counts as missing, a string has to consist of
identifiers, none reserved, between its dots, and any other value is told of by its text. -/
inductive TypeReport (key : String) (field : TypeField) : Option Json → List Issue → Prop
  | absent : TypeReport key field none [.missingType key field]
  | null : TypeReport key field (some .null) [.missingType key field]
  | nonString (v : Json) (text : String) : v ≠ .null → (∀ name, v ≠ .str name) → v.IsText text →
      TypeReport key field (some v) [.nonStringType key field text]
  | invalid (name : String) (part : List Char) : part ∈ Text.pieces '.' name.toList →
      (isIdentifierShaped part = false ∨ isReserved part = true) →
      TypeReport key field (some (.str name)) [.invalidType key field name]
  | valid (name : String) :
      (∀ part ∈ Text.pieces '.' name.toList,
        isIdentifierShaped part = true ∧ isReserved part = false) →
      TypeReport key field (some (.str name)) []

/-- The report on the hook of an endpoint after others, whether these are in order or not. -/
inductive RepetitionReport (earlier : List Endpoint) (e : Endpoint) : List Issue → Prop
  | repeated (f : Endpoint) : f ∈ earlier → f.hookNames.hook = e.hookNames.hook →
      RepetitionReport earlier e [.repeatedHook e.key e.hookNames.hook]
  | fresh : (∀ f ∈ earlier, f.hookNames.hook ≠ e.hookNames.hook) → RepetitionReport earlier e []

/-- The reports on an endpoint after others: on its key, on its two types and on its hook. -/
inductive EndpointReport (earlier : List Endpoint) (e : Endpoint) : List Issue → Prop
  | mk {onKey onRequest onResponse onHook : List Issue} : KeyReport e.key onKey →
      TypeReport e.key .request e.requestType onRequest →
      TypeReport e.key .response e.responseType onResponse → RepetitionReport earlier e onHook →
      EndpointReport earlier e (onKey ++ onRequest ++ onResponse ++ onHook)

/-- The reports on a list of endpoints, one endpoint after the other. -/
inductive Reported : List Endpoint → List Issue → Prop
  | nil : Reported [] []
  | snoc {es : List Endpoint} {e : Endpoint} {found own : List Issue} : Reported es found →
      EndpointReport es e own → Reported (es ++ [e]) (found ++ own)

/-! ### The check finds the reports -/

theorem keyReport_iff : KeyReport e.key found ↔ found = e.keyIssues := by
  rw [Endpoint.keyIssues]
  constructor
  · rintro (h | h) <;> simp [h]
  · rintro rfl
    cases h : isIdentifierShaped e.key.toList with
    | true => exact .shaped h
    | false => exact .misshapen h

theorem not_isTypeName_iff {name : String} : isTypeName name.toList = false ↔
    ∃ part ∈ Text.pieces '.' name.toList,
      isIdentifierShaped part = false ∨ isReserved part = true := by
  rw [← Bool.not_eq_true, isTypeName_iff]
  push Not
  refine exists_congr fun part => and_congr_right fun _ => ?_
  rw [ne_eq, isIdentifier_iff, not_and_or, Bool.not_eq_true, Bool.not_eq_false]

theorem TypeReport.eq_typeIssues (h : TypeReport e.key field (e.field field) found) :
    found = e.typeIssues field := by
  rw [Endpoint.typeIssues]
  generalize e.field field = value at h ⊢
  cases h with
  | absent => rfl
  | null => rfl
  | nonString v text hnull hstr htext =>
    obtain rfl := Json.isText_iff.mp htext
    cases v with
    | null => exact absurd rfl hnull
    | str name => exact absurd rfl (hstr name)
    | _ => rfl
  | invalid name part hpart hbad =>
    have hname : isTypeName name.toList = false := not_isTypeName_iff.mpr ⟨part, hpart, hbad⟩
    simp [hname]
  | valid name hparts =>
    have hname : isTypeName name.toList = true :=
      isTypeName_iff.mpr fun part hpart => isIdentifier_iff.mpr (hparts part hpart)
    simp [hname]

theorem typeReport_typeIssues (e : Endpoint) (field : TypeField) :
    TypeReport e.key field (e.field field) (e.typeIssues field) := by
  rw [Endpoint.typeIssues]
  split
  case h_1 h => rw [h]; exact .absent
  case h_2 h => rw [h]; exact .null
  case h_3 name h =>
    rw [h]
    split
    case isTrue hname =>
      exact .valid name fun part hpart => isIdentifier_iff.mp (isTypeName_iff.mp hname part hpart)
    case isFalse hname =>
      obtain ⟨part, hpart, hbad⟩ := not_isTypeName_iff.mp (Bool.eq_false_iff.mpr hname)
      exact .invalid name part hpart hbad
  case h_4 v hnull hstr h =>
    rw [h]
    exact .nonString v v.text hnull hstr (Json.isText_iff.mpr rfl)

theorem typeReport_iff :
    TypeReport e.key field (e.field field) found ↔ found = e.typeIssues field :=
  ⟨TypeReport.eq_typeIssues, fun h => h ▸ typeReport_typeIssues e field⟩

/-- The names seen so far stand for the endpoints so far. -/
theorem repetitionReport_iff : RepetitionReport earlier e found ↔
    found = e.repetitionIssues (earlier.reverse.map (·.hookNames.hook)) := by
  have hmem : e.hookNames.hook ∈ earlier.reverse.map (·.hookNames.hook) ↔
      ∃ f ∈ earlier, f.hookNames.hook = e.hookNames.hook := by simp
  rw [Endpoint.repetitionIssues_eq]
  constructor
  · rintro (⟨f, hf, hname⟩ | hfresh)
    · rw [if_pos (hmem.mpr ⟨f, hf, hname⟩)]
    · rw [if_neg]
      intro hseen
      obtain ⟨f, hf, hname⟩ := hmem.mp hseen
      exact hfresh f hf hname
  · rintro rfl
    split
    case isTrue hseen =>
      obtain ⟨f, hf, hname⟩ := hmem.mp hseen
      exact .repeated f hf hname
    case isFalse hnew => exact .fresh fun f hf hname => hnew (hmem.mpr ⟨f, hf, hname⟩)

theorem endpointReport_iff : EndpointReport earlier e found ↔
    found = e.ownIssues ++ e.repetitionIssues (earlier.reverse.map (·.hookNames.hook)) := by
  have request {found : List Issue} : TypeReport e.key .request e.requestType found ↔
      found = e.typeIssues .request := typeReport_iff
  have response {found : List Issue} : TypeReport e.key .response e.responseType found ↔
      found = e.typeIssues .response := typeReport_iff
  constructor
  · rintro ⟨hkey, hrequest, hresponse, hhook⟩
    rw [keyReport_iff.mp hkey, request.mp hrequest, response.mp hresponse,
      repetitionReport_iff.mp hhook, Endpoint.ownIssues]
  · rintro rfl
    exact .mk (keyReport_iff.mpr rfl) (request.mpr rfl) (response.mpr rfl)
      (repetitionReport_iff.mpr rfl)

/-! ### The check of a list -/

/-- One more endpoint adds its issues after those of the list before it. -/
theorem issues_concat (es : List Endpoint) (e : Endpoint) :
    issues (es ++ [e]) =
      issues es ++ (e.ownIssues ++ e.repetitionIssues (es.reverse.map (·.hookNames.hook))) := by
  simp [issues, issuesAfter_append, issuesAfter_cons]

theorem reported_iff : Reported es found ↔ found = issues es := by
  constructor
  · intro h
    induction h with
    | nil => rfl
    | snoc _ hown ih => rw [issues_concat, ih, endpointReport_iff.mp hown]
  · rintro rfl
    induction es using List.reverseRecOn with
    | nil => exact .nil
    | append_singleton es e ih =>
      rw [issues_concat]
      exact .snoc ih (endpointReport_iff.mpr rfl)

theorem validate_strict_error_iff {err : Error} : (validate .strict es).result = .error err ↔
    ∃ issue, (issues es).head? = some issue ∧ err = .invalidEndpoint issue := by
  cases h : issues es <;> simp [validate, h, eq_comm]

theorem validate_strict_events : (validate .strict es).events = [] := by
  cases h : issues es <;> simp [validate, h]

theorem warning_entry (issue : Issue) : (Log.Event.invalidEndpoint issue).entry =
    "WARN Generating despite invalid endpoint: " ++ issue.message := by
  have hstart : "WARN" ++ " " ++ "Generating despite invalid endpoint: " =
      "WARN Generating despite invalid endpoint: " := by decide
  rw [← hstart, String.append_assoc]
  rfl

/-- The issues of a list are what is reported of it. A strict run logs nothing and fails with the
first issue if there is one; a lenient run passes and logs one warning for each issue, in order. -/
theorem issues_reported (es : List Endpoint) :
    (∀ found, Reported es found ↔ found = issues es) ∧
    (validate .strict es).events = [] ∧
    ((validate .strict es).result = .ok () ↔ issues es = []) ∧
    (∀ err, (validate .strict es).result = .error err ↔
      ∃ issue, (issues es).head? = some issue ∧ err = .invalidEndpoint issue) ∧
    (validate .lenient es).result = .ok () ∧
    (validate .lenient es).events = (issues es).map .invalidEndpoint ∧
    (validate .lenient es).events.map Log.Event.entry =
      (issues es).map fun issue => "WARN Generating despite invalid endpoint: " ++ issue.message := by
  refine ⟨fun _ => reported_iff, validate_strict_events, validate_strict_ok_iff,
    fun _ => validate_strict_error_iff, validate_ok_iff.mpr (.inl rfl), rfl, ?_⟩
  rw [validate, Run.logged_events, List.map_map]
  exact List.map_congr_left fun issue _ => warning_entry issue

end EndpointHooks
