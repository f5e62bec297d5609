import EndpointHooks.Proofs.Acceptance
import Mathlib.Data.List.FinRange

/-! Endpoints in another order, and fewer of them. A list is looked through from its start, and of
two endpoints with one hook the later one is told of; yet whether anything is told at all does not
depend on the order, and leaving endpoints out adds no issue. The hook of an endpoint depends on
nothing else in the list, so the hooks follow their endpoints to their new places. -/

namespace EndpointHooks

variable {es es' : List Endpoint} {config : Config} {seen : List String}

/-! ### Acceptance -/

theorem accepted_perm_iff (h : es'.Perm es) :
    (validate .strict es').result = .ok () ↔ (validate .strict es).result = .ok () := by
  have hown : (∀ e ∈ es', e.ownIssues = []) ↔ ∀ e ∈ es, e.ownIssues = [] := by
    simp only [h.mem_iff]
  rw [validate_strict_ok_iff, validate_strict_ok_iff, issues_eq_nil_iff, issues_eq_nil_iff, hown,
    (h.map _).nodup_iff]

theorem accepted_of_sublist (hsub : es'.Sublist es) (h : (validate .strict es).result = .ok ()) :
    (validate .strict es').result = .ok () := by
  rw [validate_strict_ok_iff, issues_eq_nil_iff] at h ⊢
  exact ⟨fun e he => h.1 e (hsub.subset he), h.2.sublist (hsub.map _)⟩

/-- Endpoints at different places of an accepted list are accepted, in any order. -/
theorem accepted_ofFn {n : Nat} {place : Fin n → Fin es.length} (hplace : place.Injective)
    (h : (validate .strict es).result = .ok ()) :
    (validate .strict (List.ofFn (es.get ∘ place))).result = .ok () := by
  rw [validate_strict_ok_iff, issues_eq_nil_iff] at h ⊢
  obtain ⟨hown, hnodup⟩ := h
  have hdistinct : Function.Injective ((·.hookNames.hook) ∘ es.get) := by
    apply List.nodup_ofFn.mp
    rwa [← List.map_ofFn, List.ofFn_get]
  constructor
  · rw [List.forall_mem_ofFn_iff]
    exact fun i => hown _ (List.get_mem es (place i))
  · rw [List.map_ofFn, List.nodup_ofFn]
    exact hdistinct.comp hplace

/-- The hooks of endpoints at some places of a list stand at these places of its hooks. -/
theorem hooks_ofFn {n : Nat} (place : Fin n → Fin es.length) :
    hooks config (List.ofFn (es.get ∘ place)) =
      List.ofFn ((fun i => (es.get i).hook config.exportHook) ∘ place) := by
  rw [hooks_eq_map, List.map_ofFn]
  rfl

theorem validate_of_accepted {strictness : Strictness}
    (h : strictness = .lenient ∨ (validate .strict es').result = .ok ()) :
    (validate strictness es').result = .ok () :=
  validate_ok_iff.mpr (h.imp_right validate_strict_ok_iff.mp)

/-! ### What is told of other endpoints -/

/-- The hook that an issue says is repeated, if it says so. -/
def Issue.repeatedHook? : Issue → Option String
  | .repeatedHook _ hook => some hook
  | _ => none

theorem Endpoint.repeatedHook?_of_mem_typeIssues {e : Endpoint} {field : TypeField} {issue : Issue}
    (h : issue ∈ e.typeIssues field) : issue.repeatedHook? = none := by
  rw [typeIssues] at h
  split at h
  case h_3 =>
    split at h
    · cases h
    · rw [List.mem_singleton.mp h]; rfl
  all_goals rw [List.mem_singleton.mp h]; rfl

theorem Endpoint.repeatedHook?_of_mem_ownIssues {e : Endpoint} {issue : Issue}
    (h : issue ∈ e.ownIssues) : issue.repeatedHook? = none := by
  rw [ownIssues, List.mem_append, List.mem_append] at h
  rcases h with (h | h) | h
  · rw [keyIssues] at h
    split at h
    · cases h
    · rw [List.mem_singleton.mp h]; rfl
  · exact repeatedHook?_of_mem_typeIssues h
  · exact repeatedHook?_of_mem_typeIssues h

/-- Apart from repetitions, the issues of a list are those of its endpoints one by one. -/
theorem filter_issuesAfter (seen : List String) (es : List Endpoint) :
    (issuesAfter seen es).filter (·.repeatedHook?.isNone) = es.flatMap (·.ownIssues) := by
  induction es generalizing seen with
  | nil => rfl
  | cons e es ih =>
    have hown : e.ownIssues.filter (·.repeatedHook?.isNone) = e.ownIssues :=
      List.filter_eq_self.mpr fun issue h => by simp [e.repeatedHook?_of_mem_ownIssues h]
    have hrepetition : (e.repetitionIssues seen).filter (·.repeatedHook?.isNone) = [] := by
      rw [Endpoint.repetitionIssues_eq]
      split <;> rfl
    rw [issuesAfter_cons, List.filter_append, List.filter_append, hown, hrepetition, ih,
      List.append_nil, List.flatMap_cons]

/-- The name of a hook is told of as repeated for every endpoint with that hook, but for the first
one unless the name has been seen before. -/
theorem count_repeatedHooks (name : String) (seen : List String) (es : List Endpoint) :
    ((issuesAfter seen es).filterMap Issue.repeatedHook?).count name =
      (es.map (·.hookNames.hook)).count name - if name ∈ seen then 0 else 1 := by
  induction es generalizing seen with
  | nil => simp
  | cons e es ih =>
    have hown : e.ownIssues.filterMap Issue.repeatedHook? = [] :=
      List.filterMap_eq_nil_iff.mpr fun issue h => e.repeatedHook?_of_mem_ownIssues h
    have hrepetition : (e.repetitionIssues seen).filterMap Issue.repeatedHook? =
        if e.hookNames.hook ∈ seen then [e.hookNames.hook] else [] := by
      rw [Endpoint.repetitionIssues_eq]
      split <;> rfl
    rw [issuesAfter_cons, List.filterMap_append, List.filterMap_append, hown, hrepetition,
      List.nil_append, List.count_append, ih, List.map_cons, List.count_cons]
    by_cases hname : e.hookNames.hook = name
    · subst hname
      by_cases hseen : e.hookNames.hook ∈ seen
      · simp [hseen]
        omega
      · simp [hseen]
    · by_cases hseen : e.hookNames.hook ∈ seen <;> simp [hseen, hname, Ne.symm hname]

theorem issues_perm (h : es'.Perm es) :
    ((issues es').filter (·.repeatedHook?.isNone)).Perm
        ((issues es).filter (·.repeatedHook?.isNone)) ∧
      ((issues es').filterMap Issue.repeatedHook?).Perm
        ((issues es).filterMap Issue.repeatedHook?) := by
  rw [issues, issues, filter_issuesAfter, filter_issuesAfter]
  refine ⟨h.flatMap_right _, List.perm_iff_count.mpr fun name => ?_⟩
  rw [count_repeatedHooks, count_repeatedHooks, (h.map _).count_eq]

/-- Of two neighbours that are the first with one hook the second is told of. -/
theorem issues_neighbours {e f : Endpoint} {xs : List Endpoint} (ys : List Endpoint)
    (hsame : e.hookNames.hook = f.hookNames.hook)
    (hfirst : ∀ d ∈ xs, d.hookNames.hook ≠ f.hookNames.hook) :
    issues (xs ++ e :: f :: ys) =
      issues xs ++ e.ownIssues ++ f.ownIssues ++
        .repeatedHook f.key f.hookNames.hook ::
          issuesAfter (f.hookNames.hook :: f.hookNames.hook :: xs.reverse.map (·.hookNames.hook))
            ys := by
  have hnew : f.hookNames.hook ∉ xs.reverse.map (·.hookNames.hook) := by simpa using hfirst
  have hfresh : e.repetitionIssues (xs.reverse.map (·.hookNames.hook)) = [] := by
    rw [Endpoint.repetitionIssues_eq, hsame, if_neg hnew]
  have hrepeated : f.repetitionIssues (f.hookNames.hook :: xs.reverse.map (·.hookNames.hook)) =
      [.repeatedHook f.key f.hookNames.hook] := by
    rw [Endpoint.repetitionIssues_eq, if_pos List.mem_cons_self]
  rw [issues, issuesAfter_append, List.append_nil, issuesAfter_cons, issuesAfter_cons, hfresh,
    hsame, hrepeated]
  simp [issues]

/-- In another order, one and the same warning is about another endpoint. -/
theorem repetition_moves : ∃ es es', es'.Perm es ∧
    (validate .lenient es).events = [.invalidEndpoint (.repeatedHook "Pools" "usePools")] ∧
    (validate .lenient es').events = [.invalidEndpoint (.repeatedHook "pools" "usePools")] := by
  refine ⟨[⟨"pools", some (.str "A"), some (.str "B")⟩,
    ⟨"Pools", some (.str "A"), some (.str "B")⟩], _, List.Perm.swap _ _ _, ?_, ?_⟩
  · decide
  · decide

theorem synthesize_ofFn {n : Nat} {place : Fin n → Fin es.length} (hplace : place.Injective)
    (h : config.strictness = .lenient ∨ (validate .strict es).result = .ok ()) :
    (synthesize config (List.ofFn (es.get ∘ place))).result =
      .ok (List.ofFn ((fun i => (es.get i).hook config.exportHook) ∘ place)) := by
  rw [synthesize_eq_ok_iff]
  exact ⟨validate_of_accepted (h.imp_right (accepted_ofFn hplace)), (hooks_ofFn place).symm⟩

/-- Whether endpoints are accepted does not depend on their order, and any of them may be left out.
Unless they are refused, the hooks of endpoints in another order, or of some of them in their order,
stand as their endpoints do. The warnings of a lenient run are the same in any order, but that one
on a repeated hook can be about another endpoint with this hook: where two neighbours are the first
with it, the second is told of, whichever of the two that is. -/
theorem rearranged_hooks (config : Config) (es : List Endpoint) :
    (∀ es', es'.Perm es →
      ((validate .strict es').result = .ok () ↔ (validate .strict es).result = .ok ())) ∧
    (∀ es', es'.Sublist es → (validate .strict es).result = .ok () →
      (validate .strict es').result = .ok ()) ∧
    (config.strictness = .lenient ∨ (validate .strict es).result = .ok () →
      ∃ hook : Fin es.length → Hook, (synthesize config es).result = .ok (List.ofFn hook) ∧
        (∀ σ : Equiv.Perm (Fin es.length),
          (synthesize config (List.ofFn (es.get ∘ σ))).result = .ok (List.ofFn (hook ∘ σ))) ∧
        ∀ (n : Nat) (ι : Fin n ↪o Fin es.length),
          (synthesize config (List.ofFn (es.get ∘ ι))).result = .ok (List.ofFn (hook ∘ ι))) ∧
    (∀ es', es'.Perm es →
      (validate .lenient es').events = (issues es').map .invalidEndpoint ∧
        ((issues es').filter (·.repeatedHook?.isNone)).Perm
          ((issues es).filter (·.repeatedHook?.isNone)) ∧
        ((issues es').filterMap Issue.repeatedHook?).Perm
          ((issues es).filterMap Issue.repeatedHook?)) ∧
    ∀ xs e f ys, e.hookNames.hook = f.hookNames.hook →
      (∀ d ∈ xs, d.hookNames.hook ≠ f.hookNames.hook) → ∃ others,
        issues (xs ++ e :: f :: ys) = issues xs ++ e.ownIssues ++ f.ownIssues ++
          .repeatedHook f.key f.hookNames.hook :: others ∧
        issues (xs ++ f :: e :: ys) = issues xs ++ f.ownIssues ++ e.ownIssues ++
          .repeatedHook e.key e.hookNames.hook :: others := by
  refine ⟨fun _ => accepted_perm_iff, fun _ => accepted_of_sublist, fun h => ?_,
    fun _ hperm => ⟨rfl, issues_perm hperm⟩, fun xs e f ys hsame hfirst => ?_⟩
  · refine ⟨fun i => (es.get i).hook config.exportHook, ?_, fun σ => ?_, fun n ι => ?_⟩
    · have hall : (synthesize config (List.ofFn (es.get ∘ id))).result =
          .ok (List.ofFn fun i => (es.get i).hook config.exportHook) :=
        synthesize_ofFn Function.injective_id h
      rwa [Function.comp_id, List.ofFn_get] at hall
    · exact synthesize_ofFn σ.injective h
    · exact synthesize_ofFn ι.injective h
  · have hswapped := issues_neighbours ys hsame.symm (hsame ▸ hfirst)
    rw [hsame] at hswapped ⊢
    exact ⟨_, issues_neighbours ys hsame hfirst, hswapped⟩

/-- Two accepted endpoints and their hooks change places. -/
theorem rearranged_hooks_swap : ∃ hook : Fin 2 → Hook,
    (synthesize {} [⟨"pools", some (.str "A"), some (.str "B")⟩,
      ⟨"fees", some (.str "C"), some (.str "D")⟩]).result = .ok [hook 0, hook 1] ∧
    (synthesize {} [⟨"fees", some (.str "C"), some (.str "D")⟩,
      ⟨"pools", some (.str "A"), some (.str "B")⟩]).result = .ok [hook 1, hook 0] := by
  have haccepted : (validate .strict [⟨"pools", some (.str "A"), some (.str "B")⟩,
      ⟨"fees", some (.str "C"), some (.str "D")⟩]).result = .ok () :=
    validate_strict_ok_iff.mpr (by decide)
  obtain ⟨hook, hall, hperm, -⟩ := (rearranged_hooks {} _).2.2.1 (.inr haccepted)
  exact ⟨hook, hall, hperm (Equiv.swap 0 1)⟩

end EndpointHooks
