import EndpointHooks.Proofs.CacheKeys

/-! The names that the modules of accepted endpoints declare: an interface and a hook each. No name
is declared twice, within a module or over all of them, and the hook of a module takes the
parameters of the interface declared next to it. -/

namespace EndpointHooks

open TypeScript

variable {e f : Endpoint} {es : List Endpoint} {config : Config}

namespace TypeScript

def Module.declaredNames (m : Module) : List String := m.items.map (·.decl.name)

/-- The names of the interfaces that a module declares. -/
def Module.interfaceNames (m : Module) : List String :=
  m.items.filterMap fun item =>
    match item.decl with
    | .interface decl => some decl.name
    | .constant _ => none

/-- The names of the types that the constants of a module, as functions, ask of their
parameters. -/
def Module.parameterTypes (m : Module) : List String :=
  m.items.flatMap fun item =>
    match item.decl with
    | .constant ⟨_, .arrow _ params _⟩ => params.map (·.type.name)
    | _ => []

end TypeScript

/-! ### Names of one module -/

theorem declaredNames_hook (e : Endpoint) (exportHook : Bool) :
    (e.hook exportHook).module.declaredNames =
      [e.hookNames.queryInterface, e.hookNames.hook] := rfl

theorem interfaceNames_hook (e : Endpoint) (exportHook : Bool) :
    (e.hook exportHook).module.interfaceNames = [e.hookNames.queryInterface] := rfl

theorem parameterTypes_hook (e : Endpoint) (exportHook : Bool) :
    (e.hook exportHook).module.parameterTypes = [e.hookNames.queryInterface] := rfl

theorem queryInterface_eq_iff : e.hookNames.queryInterface = f.hookNames.queryInterface ↔
    capitalize e.key = capitalize f.key := by
  simp [Endpoint.hookNames, HookNames.derive, ← String.toList_inj]

/-- The names of interfaces start with a capital letter, those of hooks do not. -/
theorem queryInterface_ne_hook : e.hookNames.queryInterface ≠ f.hookNames.hook := by
  intro h
  have hhead := congrArg (·.toList.head?) h
  simp [Endpoint.hookNames, HookNames.derive] at hhead

/-- A hook belongs to an endpoint if it has the names of the endpoint and the module built from
them, which declares the interface and the hook by these names. -/
structure Endpoint.HasHook (exportHook : Bool) (e : Endpoint) (hook : Hook) : Prop where
  names : hook.names = e.hookNames
  module : hook.module = hook.names.module exportHook
  declaredNames : hook.module.declaredNames = [hook.names.queryInterface, hook.names.hook]

theorem Endpoint.hasHook (e : Endpoint) (exportHook : Bool) :
    e.HasHook exportHook (e.hook exportHook) :=
  ⟨rfl, rfl, declaredNames_hook e exportHook⟩

/-! ### Names of all modules -/

/-- Accepted endpoints become hooks however strictly they are looked at. -/
theorem synthesize_of_accepted (h : (validate .strict es).result = .ok ()) (config : Config) :
    (synthesize config es).result = .ok (hooks config es) := by
  have hvalid : (validate config.strictness es).result = .ok () :=
    validate_ok_iff.mpr (.inr (validate_strict_ok_iff.mp h))
  exact synthesize_eq_ok_iff.mpr ⟨hvalid, rfl⟩

/-- Endpoints and hooks correspond place by place. -/
theorem forall₂_hooks_iff {P : Endpoint → Hook → Prop} :
    List.Forall₂ P es (hooks config es) ↔ ∀ e ∈ es, P e (e.hook config.exportHook) := by
  rw [hooks_eq_map, List.forall₂_map_right_iff, List.forall₂_same]

theorem pairwise_capitalize_ne (h : (validate .strict es).result = .ok ()) :
    es.Pairwise fun e f => capitalize e.key ≠ capitalize f.key := by
  have hnodup := (issues_eq_nil_iff.mp (validate_strict_ok_iff.mp h)).2
  rw [List.nodup_iff_pairwise_ne, List.pairwise_map] at hnodup
  exact hnodup.imp fun hne => mt hook_eq_iff.mpr hne

theorem nodup_queryInterface (h : (validate .strict es).result = .ok ()) :
    (es.map (·.hookNames.queryInterface)).Nodup := by
  rw [List.nodup_iff_pairwise_ne, List.pairwise_map]
  exact (pairwise_capitalize_ne h).imp fun hne => mt queryInterface_eq_iff.mp hne

theorem disjoint_declaredNames (hne : capitalize e.key ≠ capitalize f.key) (exportHook : Bool) :
    (e.hook exportHook).module.declaredNames.Disjoint (f.hook exportHook).module.declaredNames := by
  have hinterface : e.hookNames.queryInterface ≠ f.hookNames.queryInterface :=
    mt queryInterface_eq_iff.mp hne
  have hhook : e.hookNames.hook ≠ f.hookNames.hook := mt hook_eq_iff.mp hne
  simp [declaredNames_hook, hinterface.symm, hhook.symm, queryInterface_ne_hook,
    queryInterface_ne_hook.symm]

theorem nodup_declaredNames (h : (validate .strict es).result = .ok ()) (exportHook : Bool) :
    (es.flatMap fun e => (e.hook exportHook).module.declaredNames).Nodup := by
  rw [List.nodup_flatMap]
  constructor
  · intro e _
    simp [declaredNames_hook, queryInterface_ne_hook]
  · exact (pairwise_capitalize_ne h).imp fun hne => disjoint_declaredNames hne exportHook

theorem parameterTypes_of_mem {hook : Hook} (h : hook ∈ hooks config es) :
    hook.module.parameterTypes = [hook.names.queryInterface] := by
  obtain ⟨e, -, rfl⟩ := mem_hooks.mp h
  exact parameterTypes_hook e _

theorem interfaceNames_of_mem {hook : Hook} (h : hook ∈ hooks config es) :
    hook.module.interfaceNames = [hook.names.queryInterface] := by
  obtain ⟨e, -, rfl⟩ := mem_hooks.mp h
  exact interfaceNames_hook e _

/-- The parameter of a hook has the interface of a module exactly if the hook is that module's. -/
theorem parameterTypes_eq_interfaceNames_iff (h : (validate .strict es).result = .ok ())
    (i j : Fin (hooks config es).length) :
    (hooks config es)[i].module.parameterTypes = (hooks config es)[j].module.interfaceNames ↔
      i = j := by
  have hnames : (hooks config es).map (·.names.queryInterface) =
      es.map (·.hookNames.queryInterface) := by
    simp [hooks_eq_map, Endpoint.hook]
  have hnodup := nodup_queryInterface h
  rw [← hnames] at hnodup
  have hi := parameterTypes_of_mem (List.getElem_mem i.isLt)
  have hj := interfaceNames_of_mem (List.getElem_mem j.isLt)
  rw [Fin.getElem_fin, Fin.getElem_fin, hi, hj, List.singleton_inj, Fin.ext_iff,
    ← hnodup.getElem_inj_iff, List.getElem_map, List.getElem_map]
  all_goals simp

/-- Accepted endpoints become one hook each, which has the names of its endpoint and the module
built from them. All the names that the modules declare are distinct, and the type that a hook asks
of its parameter is the interface of its own module and of no other. -/
theorem hooks_declare_distinct_names (h : (validate .strict es).result = .ok ())
    (config : Config) :
    ∃ hs, (synthesize config es).result = .ok hs ∧
      List.Forall₂ (Endpoint.HasHook config.exportHook) es hs ∧
      (hs.flatMap (·.module.declaredNames)).length = 2 * es.length ∧
      (hs.flatMap (·.module.declaredNames)).Nodup ∧
      (∀ hook ∈ hs, ∃ name, hook.module.parameterTypes = [name]) ∧
      ∀ i j : Fin hs.length,
        hs[i].module.parameterTypes = hs[j].module.interfaceNames ↔ i = j := by
  refine ⟨hooks config es, synthesize_of_accepted h config, ?_, ?_, ?_, ?_,
    parameterTypes_eq_interfaceNames_iff h⟩
  · exact forall₂_hooks_iff.mpr fun e _ => e.hasHook config.exportHook
  · simp [hooks_eq_map, List.flatMap_map, declaredNames_hook, Nat.mul_comm]
  · rw [hooks_eq_map, List.flatMap_map]
    exact nodup_declaredNames h config.exportHook
  · exact fun hook hmem => ⟨_, parameterTypes_of_mem hmem⟩

/-- The hook of one key and the interface of another can differ in a single letter. -/
theorem hooks_declare_distinct_names_pool :
    ∃ hs, (synthesize {} [Endpoint.mk "pool" (some (.str "A")) (some (.str "B")),
        Endpoint.mk "poolQuery" (some (.str "A")) (some (.str "B"))]).result = .ok hs ∧
      List.Forall₂ (Endpoint.HasHook true)
        [Endpoint.mk "pool" (some (.str "A")) (some (.str "B")),
          Endpoint.mk "poolQuery" (some (.str "A")) (some (.str "B"))] hs ∧
      (hs.flatMap (·.module.declaredNames)).length = 4 ∧
      (hs.flatMap (·.module.declaredNames)).Nodup ∧
      (∀ hook ∈ hs, ∃ name, hook.module.parameterTypes = [name]) ∧
      ∀ i j : Fin hs.length,
        hs[i].module.parameterTypes = hs[j].module.interfaceNames ↔ i = j :=
  hooks_declare_distinct_names (validate_strict_ok_iff.mpr (by decide)) {}

end EndpointHooks
