import EndpointHooks.Generation
import Mathlib.Data.List.Nodup

/-! What it takes for endpoints to be accepted. Each endpoint has to be in order on its own, and the
names of the hooks have to be distinct; nothing else about the list is looked at. -/

namespace EndpointHooks

open TypeScript

variable {e : Endpoint} {es : List Endpoint} {config : Config}

/-- The type of a field is a string that is a type name. -/
def Endpoint.HasType (e : Endpoint) (field : TypeField) : Prop :=
  ∃ name, e.field field = some (.str name) ∧ isTypeName name.toList = true

theorem Endpoint.keyIssues_eq_nil_iff :
    e.keyIssues = [] ↔ isIdentifierShaped e.key.toList = true := by
  simp [keyIssues]

theorem Endpoint.typeIssues_eq_nil_iff {field : TypeField} :
    e.typeIssues field = [] ↔ e.HasType field := by
  rw [typeIssues, HasType]
  split
  case h_1 h => simp [h]
  case h_2 h => simp [h]
  case h_3 name h => simp [h]
  case h_4 v hnull hstr h =>
    simp only [List.cons_ne_nil, false_iff, not_exists, not_and]
    intro name hname
    exact absurd (h.symm.trans hname) (by simpa using hstr name)

/-- An endpoint is in order on its own if its key has the shape of an identifier and both its types
are type names. -/
theorem Endpoint.ownIssues_eq_nil_iff :
    e.ownIssues = [] ↔ isIdentifierShaped e.key.toList = true ∧ e.HasType .request ∧
      e.HasType .response := by
  simp only [ownIssues, List.append_eq_nil_iff, keyIssues_eq_nil_iff, typeIssues_eq_nil_iff,
    and_assoc]

theorem issuesAfter_eq_nil_iff {seen : List String} :
    issuesAfter seen es = [] ↔ (∀ e ∈ es, e.ownIssues = []) ∧
      (es.map (·.hookNames.hook)).Nodup ∧ ∀ e ∈ es, e.hookNames.hook ∉ seen := by
  induction es generalizing seen with
  | nil => simp
  | cons e es ih =>
    have hrep : e.repetitionIssues seen = [] ↔ e.hookNames.hook ∉ seen := by
      simp [Endpoint.repetitionIssues_eq]
    rw [List.forall_mem_cons, List.forall_mem_cons, List.map_cons, List.nodup_cons]
    simp only [issuesAfter_cons, List.append_eq_nil_iff, hrep, ih, List.mem_map, List.mem_cons,
      not_or, not_exists, not_and]
    constructor
    · rintro ⟨⟨hown, hnew⟩, howns, hnodup, hdistinct⟩
      exact ⟨⟨hown, howns⟩, ⟨fun f hf => (hdistinct f hf).1, hnodup⟩, hnew,
        fun f hf => (hdistinct f hf).2⟩
    · rintro ⟨⟨hown, howns⟩, ⟨hdistinct, hnodup⟩, hnew, hnews⟩
      exact ⟨⟨hown, hnew⟩, howns, hnodup, fun f hf => ⟨hdistinct f hf, hnews f hf⟩⟩

/-- A list has no issues if its endpoints are in order and their hooks have different names. -/
theorem issues_eq_nil_iff :
    issues es = [] ↔ (∀ e ∈ es, e.ownIssues = []) ∧ (es.map (·.hookNames.hook)).Nodup := by
  simp [issues, issuesAfter_eq_nil_iff]

/-- Only the strict check of a list with issues fails. -/
theorem validate_ok_iff {strictness : Strictness} :
    (validate strictness es).result = .ok () ↔ strictness = .lenient ∨ issues es = [] := by
  cases strictness with
  | strict => cases h : issues es <;> simp [validate, h]
  | lenient => simp [validate]

theorem validate_strict_ok_iff : (validate .strict es).result = .ok () ↔ issues es = [] := by
  simp [validate_ok_iff]

/-- A run gives the hooks of all its endpoints, unless it refuses them. -/
theorem synthesize_result (config : Config) (es : List Endpoint) :
    (synthesize config es).result =
      (validate config.strictness es).result.map fun _ => hooks config es := by
  rw [synthesize, Run.bind_result]
  cases (validate config.strictness es).result <;> rfl

theorem synthesize_eq_ok_iff {hs : List Hook} : (synthesize config es).result = .ok hs ↔
    (validate config.strictness es).result = .ok () ∧ hs = hooks config es := by
  rw [synthesize_result]
  cases (validate config.strictness es).result <;> simp [Except.map, eq_comm]

theorem synthesize_eq_error_iff {err : Error} : (synthesize config es).result = .error err ↔
    (validate config.strictness es).result = .error err := by
  rw [synthesize_result]
  cases (validate config.strictness es).result <;> simp [Except.map]

end EndpointHooks
