import EndpointHooks.Proofs.Reports

/-! What becomes of endpoints that follow others. A lenient run treats every endpoint by itself, so
the hooks of two lists in a row are those of the first and then those of the second. A strict run
looks back at the names of earlier hooks: it accepts two lists in a row if it accepts each of them
and no hook of the second has the name of one of the first, and otherwise it fails with the first
report on the first endpoint that something is wrong with. -/

namespace EndpointHooks

open TypeScript

variable {e : Endpoint} {es xs ys earlier : List Endpoint} {found : List Issue} {issue : Issue}
  {err : Error}

/-! ### The first endpoint that something is wrong with -/

/-- An endpoint with a problem of its own: its key has not the shape of an identifier, or one of
its types is not a type name. -/
def Endpoint.Flawed (e : Endpoint) : Prop :=
  ¬(isIdentifierShaped e.key.toList = true ∧ e.HasType .request ∧ e.HasType .response)

/-- An endpoint whose hook has the name of an earlier one. -/
def Endpoint.Repeats (earlier : List Endpoint) (e : Endpoint) : Prop :=
  ∃ f ∈ earlier, f.hookNames.hook = e.hookNames.hook

/-- An endpoint that something is wrong with where it stands after others. -/
def Endpoint.Offends (earlier : List Endpoint) (e : Endpoint) : Prop :=
  e.Flawed ∨ e.Repeats earlier

/-- The first of some endpoints after others that something is wrong with, together with all the
endpoints before it. -/
inductive FirstOffender : List Endpoint → List Endpoint → List Endpoint → Endpoint → Prop
  | here {earlier es : List Endpoint} {e : Endpoint} : e.Offends earlier →
      FirstOffender earlier (e :: es) earlier e
  | later {earlier es before : List Endpoint} {d e : Endpoint} : ¬d.Offends earlier →
      FirstOffender (earlier ++ [d]) es before e → FirstOffender earlier (d :: es) before e

theorem Endpoint.flawed_iff : e.Flawed ↔ e.ownIssues ≠ [] :=
  not_congr Endpoint.ownIssues_eq_nil_iff.symm

theorem Endpoint.repeats_iff :
    e.Repeats earlier ↔ e.repetitionIssues (earlier.reverse.map (·.hookNames.hook)) ≠ [] := by
  simp [Repeats, repetitionIssues_eq]

/-- Something is wrong with an endpoint exactly if something is reported of it. -/
theorem EndpointReport.offends_iff (h : EndpointReport earlier e found) :
    e.Offends earlier ↔ found ≠ [] := by
  rw [endpointReport_iff.mp h, Endpoint.Offends, Endpoint.flawed_iff, Endpoint.repeats_iff, Ne, Ne,
    Ne, List.append_eq_nil_iff, not_and_or]

theorem endpointReport_issues (earlier : List Endpoint) (e : Endpoint) : EndpointReport earlier e
    (e.ownIssues ++ e.repetitionIssues (earlier.reverse.map (·.hookNames.hook))) :=
  endpointReport_iff.mpr rfl

/-- The check of endpoints after others reports on the first of them and goes on after it. -/
theorem EndpointReport.issuesAfter_eq (h : EndpointReport earlier e found) (es : List Endpoint) :
    issuesAfter (earlier.reverse.map (·.hookNames.hook)) (e :: es) =
      found ++ issuesAfter ((earlier ++ [e]).reverse.map (·.hookNames.hook)) es := by
  rw [endpointReport_iff.mp h]
  simp [issuesAfter_cons]

/-- The first issue of endpoints after others is the first report on the first offender. -/
theorem head?_issuesAfter_iff :
    (issuesAfter (earlier.reverse.map (·.hookNames.hook)) es).head? = some issue ↔
      ∃ before e others, FirstOffender earlier es before e ∧
        EndpointReport before e (issue :: others) := by
  induction es generalizing earlier with
  | nil =>
    constructor
    · intro h
      cases h
    · rintro ⟨before, e, others, hfirst, -⟩
      cases hfirst
  | cons d es ih =>
    obtain ⟨found, hreport⟩ : ∃ found, EndpointReport earlier d found :=
      ⟨_, endpointReport_issues earlier d⟩
    rw [hreport.issuesAfter_eq]
    cases found with
    | nil =>
      have hfine : ¬d.Offends earlier := fun h => hreport.offends_iff.mp h rfl
      rw [List.nil_append, ih]
      constructor
      · rintro ⟨before, e, others, hfirst, hissue⟩
        exact ⟨before, e, others, .later hfine hfirst, hissue⟩
      · rintro ⟨before, e, others, hfirst, hissue⟩
        cases hfirst with
        | here hoffends => exact absurd hoffends hfine
        | later _ hfirst => exact ⟨before, e, others, hfirst, hissue⟩
    | cons first others =>
      have hoffends : d.Offends earlier := hreport.offends_iff.mpr (by simp)
      rw [List.cons_append, List.head?_cons, Option.some_inj]
      constructor
      · rintro rfl
        exact ⟨earlier, d, others, .here hoffends, hreport⟩
      · rintro ⟨before, e, others', hfirst, hissue⟩
        cases hfirst with
        | here =>
          have hfound := (endpointReport_iff.mp hissue).trans (endpointReport_iff.mp hreport).symm
          exact (List.cons_eq_cons.mp hfound).1.symm
        | later hfine => exact absurd hoffends hfine

theorem TypeReport.key_eq {key : String} {field : TypeField} {value : Option Json}
    (h : TypeReport key field value found) (hissue : issue ∈ found) : issue.key = key := by
  cases h with
  | valid => cases hissue
  | _ =>
    obtain rfl := List.mem_singleton.mp hissue
    rfl

/-- A report is about the endpoint that it is made on. -/
theorem EndpointReport.key_eq (h : EndpointReport earlier e found) (hissue : issue ∈ found) :
    issue.key = e.key := by
  obtain ⟨hkey, hrequest, hresponse, hhook⟩ := h
  simp only [List.mem_append] at hissue
  rcases hissue with ((hissue | hissue) | hissue) | hissue
  · cases hkey <;> simp_all [Issue.key]
  · exact hrequest.key_eq hissue
  · exact hresponse.key_eq hissue
  · cases hhook <;> simp_all [Issue.key]

/-! ### Two lists in a row -/

theorem hooks_append (config : Config) (xs ys : List Endpoint) :
    hooks config (xs ++ ys) = hooks config xs ++ hooks config ys := by
  simp only [hooks_eq_map, List.map_append]

/-- Two lists in a row have no issues if each of them has none and they share no hook. -/
theorem issues_append_eq_nil_iff : issues (xs ++ ys) = [] ↔
    issues xs = [] ∧ issues ys = [] ∧ ∀ f ∈ ys, ¬f.Repeats xs := by
  simp only [issues_eq_nil_iff, List.forall_mem_append, List.map_append, List.nodup_append,
    List.forall_mem_map, Endpoint.Repeats, not_exists, not_and]
  constructor
  · rintro ⟨⟨hx, hy⟩, hnx, hny, hne⟩
    exact ⟨⟨hx, hnx⟩, ⟨hy, hny⟩, fun f hf e he => hne e he f hf⟩
  · rintro ⟨⟨hx, hnx⟩, ⟨hy, hny⟩, hne⟩
    exact ⟨⟨hx, hy⟩, hnx, hny, fun e he f hf => hne f hf e he⟩

theorem validate_strict_append_of_error (h : (validate .strict xs).result = .error err)
    (ys : List Endpoint) : (validate .strict (xs ++ ys)).result = .error err := by
  obtain ⟨issue, hissue, rfl⟩ := validate_strict_error_iff.mp h
  refine validate_strict_error_iff.mpr ⟨issue, ?_, rfl⟩
  rw [issues] at hissue ⊢
  rw [issuesAfter_append, List.head?_append, hissue]
  rfl

/-- After accepted endpoints, the first offender among the next ones decides about the error. -/
theorem validate_strict_append_error_iff (h : (validate .strict xs).result = .ok ()) :
    (validate .strict (xs ++ ys)).result = .error err ↔
      ∃ before f issue others, FirstOffender xs ys before f ∧
        EndpointReport before f (issue :: others) ∧ err = .invalidEndpoint issue := by
  have hxs : issuesAfter [] xs = [] := validate_strict_ok_iff.mp h
  rw [validate_strict_error_iff, issues, issuesAfter_append, hxs, List.nil_append, List.append_nil]
  simp only [head?_issuesAfter_iff]
  constructor
  · rintro ⟨issue, ⟨before, f, others, hfirst, hreport⟩, herr⟩
    exact ⟨before, f, issue, others, hfirst, hreport, herr⟩
  · rintro ⟨before, f, issue, others, hfirst, hreport, herr⟩
    exact ⟨issue, ⟨before, f, others, hfirst, hreport⟩, herr⟩

/-- In a lenient run the hooks of two lists in a row are those of both, one after the other. A
strict run that fails on the first list fails in the same way whatever follows. If it accepts the
first list, it gives hooks for both exactly if it gives hooks for the second one and no hook of that
has the name of one of the first, and these are the hooks of both, one after the other; and its
errors are exactly the first reports on the first endpoint of the second list that has a problem of
its own or the hook of an endpoint before it, in either list. -/
theorem synthesize_append (config : Config) (xs ys : List Endpoint) :
    (config.strictness = .lenient → ∃ hs ks, (synthesize config xs).result = .ok hs ∧
      (synthesize config ys).result = .ok ks ∧
      (synthesize config (xs ++ ys)).result = .ok (hs ++ ks)) ∧
    (config.strictness = .strict →
      (∀ err, (synthesize config xs).result = .error err →
        (synthesize config (xs ++ ys)).result = .error err) ∧
      ∀ hs, (synthesize config xs).result = .ok hs →
        (∀ both, (synthesize config (xs ++ ys)).result = .ok both ↔
          ∃ ks, (synthesize config ys).result = .ok ks ∧ (∀ f ∈ ys, ¬f.Repeats xs) ∧
            both = hs ++ ks) ∧
        ∀ err, (synthesize config (xs ++ ys)).result = .error err ↔
          ∃ before f issue others, FirstOffender xs ys before f ∧
            EndpointReport before f (issue :: others) ∧ issue.key = f.key ∧
            err = .invalidEndpoint issue) := by
  refine ⟨fun hlenient => ?_, fun hstrict => ?_⟩
  · have hok (es : List Endpoint) : (synthesize config es).result = .ok (hooks config es) :=
      synthesize_eq_ok_iff.mpr ⟨validate_ok_iff.mpr (.inl hlenient), rfl⟩
    exact ⟨_, _, hok xs, hok ys, by rw [hok, hooks_append]⟩
  · simp only [synthesize_eq_ok_iff, synthesize_eq_error_iff, hstrict]
    refine ⟨fun err h => validate_strict_append_of_error h ys, ?_⟩
    rintro hs ⟨hxs, rfl⟩
    refine ⟨fun both => ?_, fun err => ?_⟩
    · rw [validate_strict_ok_iff, issues_append_eq_nil_iff, hooks_append]
      constructor
      · rintro ⟨⟨-, hys, hshared⟩, rfl⟩
        exact ⟨_, ⟨validate_strict_ok_iff.mpr hys, rfl⟩, hshared, rfl⟩
      · rintro ⟨ks, ⟨hys, rfl⟩, hshared, rfl⟩
        exact ⟨⟨validate_strict_ok_iff.mp hxs, validate_strict_ok_iff.mp hys, hshared⟩, rfl⟩
    · rw [validate_strict_append_error_iff hxs]
      constructor
      · rintro ⟨before, f, issue, others, hfirst, hreport, herr⟩
        have hkey : issue.key = f.key := hreport.key_eq List.mem_cons_self
        exact ⟨before, f, issue, others, hfirst, hreport, hkey, herr⟩
      · rintro ⟨before, f, issue, others, hfirst, hreport, -, herr⟩
        exact ⟨before, f, issue, others, hfirst, hreport, herr⟩

/-- The second of two accepted lists can repeat a hook of the first. -/
theorem synthesize_append_pools :
    (synthesize {} ([⟨"pools", some (.str "A"), some (.str "B")⟩] ++
        [⟨"fees", some (.str "A"), some (.str "B")⟩,
          ⟨"Pools", some (.str "A"), some (.str "B")⟩])).result =
      .error (.invalidEndpoint (.repeatedHook "Pools" "usePools")) := by
  have hstrict := (synthesize_append {} [⟨"pools", some (.str "A"), some (.str "B")⟩]
    [⟨"fees", some (.str "A"), some (.str "B")⟩,
      ⟨"Pools", some (.str "A"), some (.str "B")⟩]).2 rfl
  have hpools : (synthesize {} [⟨"pools", some (.str "A"), some (.str "B")⟩]).result =
      .ok (hooks {} [⟨"pools", some (.str "A"), some (.str "B")⟩]) :=
    synthesize_eq_ok_iff.mpr ⟨validate_ok_iff.mpr (.inr (by decide)), rfl⟩
  refine ((hstrict.2 _ hpools).2 _).mpr ⟨_, _, _, [], .later ?_ (.here ?_), ?_, rfl, rfl⟩
  · exact fun hoffends => (endpointReport_issues _ _).offends_iff.mp hoffends (by decide)
  · exact (endpointReport_issues _ _).offends_iff.mpr (by decide)
  · exact endpointReport_iff.mpr (by decide)

end EndpointHooks
