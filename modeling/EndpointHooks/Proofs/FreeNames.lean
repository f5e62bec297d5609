import EndpointHooks.Proofs.DeclaredNames
import EndpointHooks.Proofs.Unicode.LetterCase

/-! The names that generated modules leave open. A module uses a query function, a query service, an
error class and a base interface that it does not declare, and the file it is pasted into has to
have them. When all modules stand in one file, one of them can declare such a name itself, and then
it is the name of the query function. -/

namespace EndpointHooks

open TypeScript Unicode

variable {e f : Endpoint} {es : List Endpoint} {exportHook : Bool}

/-! ### Free and declared names -/

mutual

/-- The names that an expression uses and that no parameter within it binds. -/
def TypeScript.Expr.freeNames : Expr → List String
  | .ident name => [name]
  | .str _ => []
  | .array items => Expr.allFreeNames items
  | .member object _ => object.freeNames
  | .call callee _ args => callee.freeNames ++ Expr.allFreeNames args
  | .construct callee args => callee.freeNames ++ Expr.allFreeNames args
  | .not arg => arg.freeNames
  | .arrow _ params body =>
    (Stmt.allFreeNames body).filter fun name => !params.any (·.bindings.contains name)

def TypeScript.Expr.allFreeNames : List Expr → List String
  | [] => []
  | e :: es => e.freeNames ++ Expr.allFreeNames es

def TypeScript.Stmt.freeNames : Stmt → List String
  | .ret value => value.freeNames
  | .throw value => value.freeNames
  | .when cond consequent => cond.freeNames ++ consequent.freeNames

def TypeScript.Stmt.allFreeNames : List Stmt → List String
  | [] => []
  | s :: ss => s.freeNames ++ Stmt.allFreeNames ss

end

/-- The names that every module leaves to the file it is pasted into. -/
def openNames : List String :=
  [Synthesis.queryFunction, Synthesis.queryService, Synthesis.errorClass, Synthesis.baseInterface]

/-- The names that the modules of endpoints declare, all modules together. -/
def declaredNames (exportHook : Bool) (es : List Endpoint) : List String :=
  (hooks { exportHook } es).flatMap (·.module.declaredNames)

/-- All free names of a hook are left to the file around it. -/
theorem freeNames_hookConstant (names : HookNames) :
    (Synthesis.hookConstant names).value.freeNames =
      [Synthesis.queryFunction, Synthesis.queryService, Synthesis.errorClass,
        Synthesis.queryService] := by
  rfl

theorem mem_declaredNames {name : String} : name ∈ declaredNames exportHook es ↔
    ∃ e ∈ es, name = e.hookNames.queryInterface ∨ name = e.hookNames.hook := by
  simp [declaredNames, hooks_eq_map, declaredNames_hook]

/-! ### The query function -/

theorem capitalize_eq_query_iff {key : String} :
    capitalize key = "Query" ↔ key = "query" ∨ key = "Query" := by
  constructor
  · intro h
    have hchars : capitalizeChars key.toList = ['Q', 'u', 'e', 'r', 'y'] := by
      simpa [capitalize] using congrArg String.toList h
    cases hkey : key.toList with
    | nil => simp [hkey, capitalizeChars] at hchars
    | cons c s =>
      rw [hkey, capitalizeChars] at hchars
      obtain ⟨d, r, hupper⟩ := List.exists_cons_of_ne_nil (upper_ne_nil c)
      obtain ⟨rfl, hrest⟩ : d = 'Q' ∧ r ++ s = ['u', 'e', 'r', 'y'] := by
        simpa [hupper] using hchars
      obtain ⟨hc, rfl⟩ := upper_eq_cons_Q hupper
      obtain rfl : s = ['u', 'e', 'r', 'y'] := hrest
      rcases hc with rfl | rfl
      · exact .inl (String.toList_inj.mp hkey)
      · exact .inr (String.toList_inj.mp hkey)
  · rintro (rfl | rfl) <;> decide +kernel

theorem hook_eq_queryFunction_iff :
    e.hookNames.hook = Synthesis.queryFunction ↔ e.key = "query" ∨ e.key = "Query" := by
  rw [← capitalize_eq_query_iff]
  simp [Endpoint.hookNames_hook, Synthesis.queryFunction, ← String.toList_inj]

/-- The only open name that a hook can have is that of the query function. -/
theorem hook_eq_queryFunction_of_mem (h : e.hookNames.hook ∈ openNames) :
    e.hookNames.hook = Synthesis.queryFunction := by
  have hopen : ∀ name ∈ openNames, name.toList.head? = some 'u' →
      name = Synthesis.queryFunction := by decide
  exact hopen _ h (by simp [Endpoint.hookNames_hook])

theorem queryInterface_not_mem_openNames : e.hookNames.queryInterface ∉ openNames := by
  have hopen : ∀ name ∈ openNames, name.toList.head? ≠ some 'U' := by decide
  exact fun h => hopen _ h (by simp [Endpoint.hookNames, HookNames.derive])

/-- An open name is declared only if some key is `query` or `Query`, and then it is the name of the
query function. The free names of a hook include the name of another one, or its own, exactly if the
key of that one is `query` or `Query`. -/
theorem openName_declared_iff (exportHook : Bool) (es : List Endpoint) :
    (∀ name ∈ openNames, name ∈ declaredNames exportHook es ↔
      name = "useQuery" ∧ ∃ e ∈ es, e.key = "query" ∨ e.key = "Query") ∧
    ∀ e ∈ es, ∀ f ∈ es, f.hookNames.hook ∈ (Synthesis.hookConstant e.hookNames).value.freeNames ↔
      f.key = "query" ∨ f.key = "Query" := by
  refine ⟨fun name hname => ?_, fun e _ f _ => ?_⟩
  · rw [mem_declaredNames]
    constructor
    · rintro ⟨e, he, rfl | rfl⟩
      · exact absurd hname queryInterface_not_mem_openNames
      · have hhook := hook_eq_queryFunction_of_mem hname
        exact ⟨hhook, e, he, hook_eq_queryFunction_iff.mp hhook⟩
    · rintro ⟨rfl, e, he, hkey⟩
      exact ⟨e, he, .inr (hook_eq_queryFunction_iff.mpr hkey).symm⟩
  · rw [freeNames_hookConstant, ← hook_eq_queryFunction_iff]
    refine ⟨fun h => hook_eq_queryFunction_of_mem ?_, fun h => by simp [h]⟩
    simp only [openNames, List.mem_cons] at h ⊢
    tauto

/-- A key that only starts with `query` leaves the query function open. -/
theorem openName_declared_iff_queries :
    "useQuery" ∈ openNames ∧
      "useQuery" ∉ declaredNames true [⟨"queries", some (.str "A"), some (.str "B")⟩] ∧
      "useQueries" ∉ (Synthesis.hookConstant
        (Endpoint.mk "queries" (some (.str "A")) (some (.str "B"))).hookNames).value.freeNames := by
  have hopen : "useQuery" ∈ openNames := by decide
  have hmem : Endpoint.mk "queries" (some (.str "A")) (some (.str "B")) ∈
      [Endpoint.mk "queries" (some (.str "A")) (some (.str "B"))] := List.mem_singleton_self _
  have hhook : (Endpoint.mk "queries" (some (.str "A")) (some (.str "B"))).hookNames.hook =
      "useQueries" := by decide +kernel
  have hkey : ¬("queries" = "query" ∨ "queries" = "Query") := by decide
  obtain ⟨hdeclared, hfree⟩ := openName_declared_iff true
    [⟨"queries", some (.str "A"), some (.str "B")⟩]
  refine ⟨hopen, fun h => ?_, fun h => ?_⟩
  · obtain ⟨-, e, he, hquery⟩ := (hdeclared "useQuery" hopen).mp h
    obtain rfl := List.mem_singleton.mp he
    exact hkey hquery
  · rw [← hhook] at h
    exact hkey ((hfree _ hmem _ hmem).mp h)

/-- An accepted endpoint can declare the query function, and its hook then calls itself. -/
theorem query_declares_useQuery :
    (validate .strict [⟨"query", some (.str "A"), some (.str "B")⟩]).result = .ok () ∧
      "useQuery" ∈ openNames ∧
      "useQuery" ∈ declaredNames true [⟨"query", some (.str "A"), some (.str "B")⟩] ∧
      "useQuery" ∈ (Synthesis.hookConstant
        (Endpoint.mk "query" (some (.str "A")) (some (.str "B"))).hookNames).value.freeNames := by
  refine ⟨validate_ok_iff.mpr (.inr (by decide)), by decide, ?_, by decide⟩
  decide +kernel

end EndpointHooks
