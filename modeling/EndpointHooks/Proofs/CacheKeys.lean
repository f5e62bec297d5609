import EndpointHooks.Proofs.Acceptance
import EndpointHooks.Proofs.Unicode.LetterCase

/-! The cache keys and the service methods of accepted endpoints. Acceptance keeps the names of
hooks apart, which have the first letter of a key in upper case, while cache keys and methods have
it in lower case. For almost all keys that makes no difference; the exceptions are keys that start
with a sign and with a letter that it stands for. -/

namespace EndpointHooks

open TypeScript Unicode

variable {e f : Endpoint} {es : List Endpoint} {k l : String}

/-- Two keys are twins if they are the same but for their first characters, and those are twins. -/
def TwinKeys (k l : String) : Prop :=
  ∃ c d rest, k.toList = c :: rest ∧ l.toList = d :: rest ∧ AreTwins c d

/-- The dot that is put over a letter stands in no identifier. -/
theorem dot_not_mem {s : List Char} (h : isIdentifierShaped s = true) : '\u0307' ∉ s :=
  not_mem_of_isIdentifierShaped h (by decide +kernel)

theorem lower_eq_of_uncapitalizeChars {c d : Char} {s t : List Char}
    (hs : isIdentifierShaped (c :: s) = true) (ht : isIdentifierShaped (d :: t) = true)
    (h : uncapitalizeChars (c :: s) = uncapitalizeChars (d :: t)) : lower c = lower d ∧ s = t := by
  simp only [uncapitalizeChars] at h
  rcases lower_cases c with ⟨c', hc⟩ | ⟨rfl, hc⟩
  · rcases lower_cases d with ⟨d', hd⟩ | ⟨rfl, hd⟩
    · rw [hc, hd] at h ⊢
      simpa using h
    · rw [hc, hd] at h
      obtain ⟨rfl, rfl⟩ : c' = 'i' ∧ s = '\u0307' :: t := by simpa using h
      exact absurd (by simp) (dot_not_mem hs)
  · rcases lower_cases d with ⟨d', hd⟩ | ⟨rfl, hd⟩
    · rw [hc, hd] at h
      obtain ⟨rfl, rfl⟩ : 'i' = d' ∧ '\u0307' :: s = t := by simpa using h
      exact absurd (by simp) (dot_not_mem ht)
    · exact ⟨rfl, by simpa using h⟩

/-- Identifiers with different upper cases have one lower case exactly if they are twins. -/
theorem uncapitalize_eq_iff (hk : isIdentifierShaped k.toList = true)
    (hl : isIdentifierShaped l.toList = true) (hne : capitalize k ≠ capitalize l) :
    uncapitalize k = uncapitalize l ↔ TwinKeys k l := by
  obtain ⟨c, s, hks, -⟩ := exists_cons_of_isIdentifierShaped hk
  obtain ⟨d, t, hlt, -⟩ := exists_cons_of_isIdentifierShaped hl
  rw [hks] at hk
  rw [hlt] at hl
  simp only [uncapitalize, capitalize, hks, hlt, ne_eq, String.ofList_inj] at hne ⊢
  constructor
  · intro h
    obtain ⟨hlower, rfl⟩ := lower_eq_of_uncapitalizeChars hk hl h
    refine ⟨c, d, s, hks, hlt, ?_⟩
    rcases lower_cases c with ⟨x, hc⟩ | ⟨rfl, hc⟩
    · exact (upper_eq_or_areTwins hc (hlower ▸ hc)).resolve_left fun hupper =>
        hne (by simp [capitalizeChars, hupper])
    · rcases lower_cases d with ⟨y, hd⟩ | ⟨rfl, -⟩
      · rw [hc, hd] at hlower
        simp at hlower
      · exact absurd rfl hne
  · rintro ⟨c', d', rest, hk', hl', htwins⟩
    obtain ⟨rfl, rfl⟩ : c = c' ∧ s = rest := by simpa using hks.symm.trans hk'
    obtain ⟨rfl, rfl⟩ : d = d' ∧ t = s := by simpa using hlt.symm.trans hl'
    simp [uncapitalizeChars, htwins.spec.1]

theorem cacheKey_eq_iff :
    e.hookNames.cacheKey = f.hookNames.cacheKey ↔ uncapitalize e.key = uncapitalize f.key := by
  simp [Endpoint.hookNames, HookNames.derive, ← String.toList_inj]

theorem hook_eq_iff :
    e.hookNames.hook = f.hookNames.hook ↔ capitalize e.key = capitalize f.key := by
  simp [Endpoint.hookNames, HookNames.derive, ← String.toList_inj]

/-- In an accepted list, two endpoints share a cache key or a service method exactly if their keys
are twins. -/
theorem pairwise_cacheKey_eq_iff (h : (validate .strict es).result = .ok ()) :
    es.Pairwise fun e f =>
      (e.hookNames.cacheKey = f.hookNames.cacheKey ↔ TwinKeys e.key f.key) ∧
        (e.hookNames.serviceMethod = f.hookNames.serviceMethod ↔ TwinKeys e.key f.key) := by
  obtain ⟨hown, hnodup⟩ := issues_eq_nil_iff.mp ((validate_ok_iff.mp h).resolve_left (by simp))
  have hshape : ∀ e ∈ es, isIdentifierShaped e.key.toList = true := fun e he =>
    (Endpoint.ownIssues_eq_nil_iff.mp (hown e he)).1
  have hdistinct : es.Pairwise fun e f => e.hookNames.hook ≠ f.hookNames.hook :=
    List.pairwise_map.mp hnodup
  refine hdistinct.imp_of_mem fun {e f} he hf hne => ?_
  have hiff : uncapitalize e.key = uncapitalize f.key ↔ TwinKeys e.key f.key :=
    uncapitalize_eq_iff (hshape e he) (hshape f hf) (mt hook_eq_iff.mpr hne)
  exact ⟨cacheKey_eq_iff.trans hiff, hiff⟩

theorem pairwise_cacheKey_eq_iff_kelvin :
    [Endpoint.mk "k" (some (.str "A")) (some (.str "B")),
        Endpoint.mk "\u212A" (some (.str "A")) (some (.str "B"))].Pairwise fun e f =>
      (e.hookNames.cacheKey = f.hookNames.cacheKey ↔ TwinKeys e.key f.key) ∧
        (e.hookNames.serviceMethod = f.hookNames.serviceMethod ↔ TwinKeys e.key f.key) :=
  pairwise_cacheKey_eq_iff (validate_ok_iff.mpr (.inr (by decide +kernel)))

/-- Two endpoints can be accepted and yet share their cache key and their service method. -/
theorem kelvin_shares_cacheKey :
    (validate .strict [⟨"k", some (.str "A"), some (.str "B")⟩,
        ⟨"\u212A", some (.str "A"), some (.str "B")⟩]).result = .ok () ∧
      (Endpoint.mk "k" (some (.str "A")) (some (.str "B"))).hookNames.cacheKey =
        (Endpoint.mk "\u212A" (some (.str "A")) (some (.str "B"))).hookNames.cacheKey ∧
      (Endpoint.mk "k" (some (.str "A")) (some (.str "B"))).hookNames.serviceMethod =
        (Endpoint.mk "\u212A" (some (.str "A")) (some (.str "B"))).hookNames.serviceMethod :=
  ⟨validate_ok_iff.mpr (.inr (by decide +kernel)), by decide +kernel, by decide +kernel⟩

end EndpointHooks
