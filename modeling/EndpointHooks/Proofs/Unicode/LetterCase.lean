import EndpointHooks.Proofs.Unicode.CodeSet
import Mathlib.Data.List.Basic

/-! How the two case mappings go together. The lower case of a letter has the same upper case as the
letter itself, apart from five signs whose lower case is that of another letter. The tables are far
too long to go through character by character, so almost all of their runs are dealt with as a
whole: a run of lower cases is regular if one run of upper cases takes it back and no other code
point of a table is in the way. -/

namespace EndpointHooks.Unicode

namespace CaseRun

variable {run other : CaseRun} {code image : Nat}

def preimage? (run : CaseRun) (image : Nat) : Option Nat :=
  let code := run.first + (image - run.image)
  if run.map? code = some image then some code else none

theorem preimage?_of_map? (h : run.map? code = some image) : run.preimage? image = some code := by
  obtain ⟨hfirst, -, -, himage⟩ := map?_eq_some_iff.mp h
  have hcode : run.first + (image - run.image) = code := by omega
  simp [preimage?, hcode, h]

/-- Whether one run maps all the images of another back to where they come from. -/
def isUndoneBy (run other : CaseRun) : Bool :=
  other.first ≤ run.image && run.image + (run.last - run.first) ≤ other.last &&
    (run.image - other.first) % other.step == 0 && run.step % other.step == 0 &&
    other.image + (run.image - other.first) == run.first

theorem map?_of_isUndoneBy (h : run.isUndoneBy other = true) (hcode : run.map? code = some image) :
    other.map? image = some code := by
  obtain ⟨hfirst, hlast, hstep, rfl⟩ := map?_eq_some_iff.mp hcode
  simp only [isUndoneBy, Bool.and_eq_true, decide_eq_true_eq, beq_iff_eq] at h
  obtain ⟨⟨⟨⟨hlow, hhigh⟩, hstart⟩, hsteps⟩, hback⟩ := h
  have hdiv : other.step ∣ code - run.first :=
    Nat.dvd_trans (Nat.dvd_of_mod_eq_zero hsteps) (Nat.dvd_of_mod_eq_zero hstep)
  have hdistance : run.image + (code - run.first) - other.first =
      (run.image - other.first) + (code - run.first) := by omega
  refine map?_eq_some_iff.mpr ⟨by omega, by omega, ?_, by omega⟩
  rw [hdistance]
  exact Nat.mod_eq_zero_of_dvd (Nat.dvd_add (Nat.dvd_of_mod_eq_zero hstart) hdiv)

def codes (run : CaseRun) : List Nat :=
  (List.range (run.last - run.first + 1)).map (run.first + ·) |>.filter fun code =>
    (run.map? code).isSome

theorem mem_codes (h : run.map? code = some image) : code ∈ run.codes := by
  obtain ⟨hfirst, hlast, -, -⟩ := map?_eq_some_iff.mp h
  simp only [codes, List.mem_filter, List.mem_map, List.mem_range]
  exact ⟨⟨code - run.first, by omega, by omega⟩, by simp [h]⟩

def hasValidImages (run : CaseRun) : Bool :=
  run.image + (run.last - run.first) < 0xD800 ||
    (0xDFFF < run.image && run.image + (run.last - run.first) < 0x110000)

theorem toNat_ofNat_image (hvalid : run.hasValidImages = true) (h : run.map? code = some image) :
    (Char.ofNat image).toNat = image := by
  obtain ⟨hfirst, hlast, -, rfl⟩ := map?_eq_some_iff.mp h
  simp only [hasValidImages, Bool.or_eq_true, Bool.and_eq_true, decide_eq_true_eq] at hvalid
  rw [Char.ofNat, dif_pos (by rw [Nat.isValidChar]; omega)]
  rfl

end CaseRun

/-! ### What is checked of the tables -/

/-- The characters that runs may map to a character. -/
def sources (runs : List CaseRun) (d : Char) : List Char :=
  d :: (runs.filterMap (·.preimage? d.toNat)).map Char.ofNat

/-- The signs whose upper case is not that of their lower case: the capital theta symbol, the
capital sharp s, and the ohm, kelvin and angstrom signs. -/
def signs : List Char := ['\u03F4', '\u1E9E', '\u2126', '\u212A', '\u212B']

/-- Pairs of a sign and a letter with the lower case of the sign. -/
def signPairs : List (Char × Char) :=
  [('\u03F4', 'θ'), ('\u03F4', 'Θ'), ('\u1E9E', 'ß'), ('\u2126', 'ω'), ('\u2126', 'Ω'),
    ('\u212A', 'k'), ('\u212A', 'K'), ('\u212B', 'å'), ('\u212B', 'Å')]

/-- The code points with a single upper case. -/
def upperRunBits : Nat := unionBits CaseRun.bits upperRuns

/-- The code points with a longer upper case. -/
def upperLongerBits : Nat := unionBits (fun p => intervalBits p.1 p.1) upperLonger

/-- Whether the letters of a run of lower cases are their own upper cases and one run of upper cases
takes their lower cases back to them. -/
def CaseRun.isRegular (run : CaseRun) : Bool :=
  run.bits &&& (upperRunBits ||| upperLongerBits) == 0 &&
    run.images.bits &&& upperLongerBits == 0 &&
    (upperRuns.find? (Nat.ble run.image ·.last)).any run.isUndoneBy

/-- Whether the letters of a run have the upper cases of their lower cases, one by one and but for
the signs. -/
def CaseRun.keepsUpper (run : CaseRun) : Bool :=
  run.codes.all fun code => signs.contains (Char.ofNat code) ||
    (run.map? code).all fun image => upper (Char.ofNat code) == upper (Char.ofNat image)

/-- What the tables say, looked up entry by entry. -/
structure TablesChecked : Prop where
  validImages : ∀ run ∈ upperRuns ++ lowerRuns, run.hasValidImages = true
  longer_length : ∀ p ∈ upperLonger ++ lowerLonger, 1 < p.2.length
  lowerRuns_cover : ∀ run ∈ lowerRuns, run.isRegular = true ∨ run.keepsUpper = true
  signPairs_spec : signPairs.all (fun p => lower p.1 = lower p.2 ∧ upper p.1 ≠ upper p.2) = true
  signs_sources : (signs.all fun sign => (lower sign).all fun l => lower sign == [l] &&
    (sources lowerRuns l).all fun d => d == sign || signPairs.contains (sign, d)) = true
  sources_Q : sources upperRuns 'Q' = ['Q', 'q']
  longer_Q : ∀ p ∈ upperLonger, (p.2.map Char.ofNat).head? ≠ some 'Q'
  sources_newline : ∀ runs ∈ [upperRuns, lowerRuns], sources runs '\n' = ['\n']
  longer_newline : ∀ p ∈ upperLonger ++ lowerLonger, '\n' ∉ p.2.map Char.ofNat

theorem tables_checked : TablesChecked := by constructor <;> decide +kernel

/-! ### Single images -/

section SingleImages

variable {runs : List CaseRun} {longer : List (Nat × List Nat)} {c d : Char}

/-- The first run that does not end before a bound decides about a code point from the bound on, if
it has it. -/
theorem findSome?_of_find? {run : CaseRun} {bound code image : Nat}
    (hrun : runs.find? (Nat.ble bound ·.last) = some run) (hbound : bound ≤ code)
    (h : run.map? code = some image) : runs.findSome? (·.map? code) = some image := by
  induction runs with
  | nil => simp at hrun
  | cons head tail ih =>
    rw [List.find?_cons] at hrun
    split at hrun
    · obtain rfl : head = run := by simpa using hrun
      simp [h]
    · rename_i hlast
      have hhead : head.map? code = none := by
        rw [Option.eq_none_iff_forall_ne_some]
        intro image' hmap
        obtain ⟨-, hle, -⟩ := CaseRun.map?_eq_some_iff.mp hmap
        have hble : Nat.ble bound head.last = true :=
          Nat.ble_eq_true_of_le (Nat.le_trans hbound hle)
        rw [hble] at hlast
        cases hlast
      simp [hhead, ih hrun]

theorem mapCase_cases (runs : List CaseRun) (longer : List (Nat × List Nat)) (c : Char) :
    (∃ d, mapCase runs longer c = [d]) ∨
      ∃ p ∈ longer, p.1 = c.toNat ∧ mapCase runs longer c = p.2.map Char.ofNat := by
  unfold mapCase
  split
  · rename_i codes hcodes
    obtain ⟨l, r, hl, -⟩ := List.lookup_eq_some_iff.mp hcodes
    exact .inr ⟨(c.toNat, codes), by simp [hl], rfl, rfl⟩
  · exact .inl ⟨_, rfl⟩

/-- A character with a single image is its own image or belongs to a run. -/
theorem map?_of_mapCase (hruns : runs ⊆ upperRuns ++ lowerRuns)
    (hlonger : longer ⊆ upperLonger ++ lowerLonger) (h : mapCase runs longer c = [d]) :
    c = d ∨ ∃ run ∈ runs, run.map? c.toNat = some d.toNat := by
  unfold mapCase at h
  split at h
  · rename_i codes hcodes
    obtain ⟨l, r, hl, -⟩ := List.lookup_eq_some_iff.mp hcodes
    have hmem : (c.toNat, codes) ∈ longer := by simp [hl]
    have hlength : 1 < codes.length := tables_checked.longer_length _ (hlonger hmem)
    have hone : codes.length = 1 := by simpa using congrArg List.length h
    omega
  · cases hfind : runs.findSome? (·.map? c.toNat) with
    | none =>
      left
      simpa [hfind] using h
    | some image =>
      right
      obtain ⟨run, hrun, hmap⟩ := List.exists_of_findSome?_eq_some hfind
      obtain rfl : Char.ofNat image = d := by simpa [hfind] using h
      have hvalid := tables_checked.validImages run (hruns hrun)
      exact ⟨run, hrun, by rw [CaseRun.toNat_ofNat_image hvalid hmap, hmap]⟩

theorem mem_sources (h : c = d ∨ ∃ run ∈ runs, run.map? c.toNat = some d.toNat) :
    c ∈ sources runs d := by
  rcases h with rfl | ⟨run, hrun, hmap⟩
  · exact List.mem_cons_self
  · refine List.mem_cons_of_mem _ (List.mem_map.mpr ⟨c.toNat, ?_, Char.ofNat_toNat c⟩)
    exact List.mem_filterMap.mpr ⟨run, hrun, CaseRun.preimage?_of_map? hmap⟩

/-- A character that no other one is mapped to is in no image but its own. -/
theorem eq_of_mem_mapCase (hruns : runs ⊆ upperRuns ++ lowerRuns)
    (hlonger : longer ⊆ upperLonger ++ lowerLonger) (hsources : sources runs d = [d])
    (hother : ∀ p ∈ longer, d ∉ p.2.map Char.ofNat) (h : d ∈ mapCase runs longer c) : c = d := by
  rcases mapCase_cases runs longer c with ⟨x, hsingle⟩ | ⟨p, hp, -, hlong⟩
  · rw [hsingle] at h
    obtain rfl : d = x := List.mem_singleton.mp h
    have hmem := mem_sources (map?_of_mapCase hruns hlonger hsingle)
    rw [hsources] at hmem
    exact List.mem_singleton.mp hmem
  · rw [hlong] at h
    exact absurd h (hother p hp)

end SingleImages

variable {c d : Char}

theorem map?_of_upper (h : upper c = [d]) :
    c = d ∨ ∃ run ∈ upperRuns, run.map? c.toNat = some d.toNat :=
  map?_of_mapCase (List.subset_append_left _ _) (List.subset_append_left _ _) h

theorem map?_of_lower (h : lower c = [d]) :
    c = d ∨ ∃ run ∈ lowerRuns, run.map? c.toNat = some d.toNat :=
  map?_of_mapCase (List.subset_append_right _ _) (List.subset_append_right _ _) h

/-- A character has a single lower case, but for the capital dotted i. -/
theorem lower_cases (c : Char) :
    (∃ d, lower c = [d]) ∨ c = '\u0130' ∧ lower c = ['i', '\u0307'] := by
  rcases mapCase_cases lowerRuns lowerLonger c with hsingle | ⟨p, hp, hcode, hlower⟩
  · exact .inl hsingle
  · obtain rfl : p = (0x130, [0x69, 0x307]) := by simpa [lowerLonger] using hp
    obtain rfl : '\u0130' = c := Char.toNat_inj.mp hcode
    exact .inr ⟨rfl, hlower⟩

/-! ### The capital Q and the line end -/

/-- Only the letter q has an upper case that starts with a capital Q. -/
theorem upper_eq_cons_Q {r : List Char} (h : upper c = 'Q' :: r) :
    (c = 'q' ∨ c = 'Q') ∧ r = [] := by
  rcases mapCase_cases upperRuns upperLonger c with ⟨d, hsingle⟩ | ⟨p, hp, -, hlonger⟩
  · obtain ⟨rfl, rfl⟩ : d = 'Q' ∧ [] = r := by simpa using hsingle.symm.trans h
    have hmem := mem_sources (map?_of_upper hsingle)
    rw [tables_checked.sources_Q] at hmem
    simpa [or_comm] using hmem
  · exact absurd (by rw [← hlonger, ← upper, h]; rfl) (tables_checked.longer_Q p hp)

theorem eq_newline_of_mem_upper (h : '\n' ∈ upper c) : c = '\n' :=
  eq_of_mem_mapCase (List.subset_append_left _ _) (List.subset_append_left _ _)
    (tables_checked.sources_newline upperRuns (by simp))
    (fun p hp => tables_checked.longer_newline p (by simp [hp])) h

theorem eq_newline_of_mem_lower (h : '\n' ∈ lower c) : c = '\n' :=
  eq_of_mem_mapCase (List.subset_append_right _ _) (List.subset_append_right _ _)
    (tables_checked.sources_newline lowerRuns (by simp))
    (fun p hp => tables_checked.longer_newline p (by simp [hp])) h

/-! ### From lower case to upper case -/

theorem findSome?_upperRuns {code : Nat} (h : ¬upperRunBits.testBit code = true) :
    upperRuns.findSome? (·.map? code) = none := by
  rw [List.findSome?_eq_none_iff]
  intro run hrun
  rw [Option.eq_none_iff_forall_ne_some]
  intro image hmap
  exact h (testBit_unionBits.mpr ⟨run, hrun, CaseRun.testBit_bits hmap⟩)

theorem lookup_upperLonger {code : Nat} (h : ¬upperLongerBits.testBit code = true) :
    upperLonger.lookup code = none := by
  rw [List.lookup_eq_none_iff]
  intro p hp
  rw [bne_iff_ne]
  rintro rfl
  exact h (testBit_unionBits.mpr ⟨p, hp, testBit_intervalBits.mpr ⟨Nat.le_refl _, Nat.le_refl _⟩⟩)

/-- A letter of a regular run is its own upper case, and so is that of its lower case. -/
theorem upper_of_isRegular {run : CaseRun} (hrun : run.isRegular = true)
    (h : run.map? c.toNat = some d.toNat) : upper c = [c] ∧ upper d = [c] := by
  simp only [CaseRun.isRegular, Bool.and_eq_true, beq_iff_eq] at hrun
  obtain ⟨⟨hcodes, himages⟩, hundone⟩ := hrun
  have hc := not_testBit_of_and_eq_zero hcodes (CaseRun.testBit_bits h)
  have hd := not_testBit_of_and_eq_zero himages (CaseRun.testBit_images h)
  rw [Nat.testBit_or, Bool.or_eq_true, not_or] at hc
  constructor
  · simp [upper, mapCase, lookup_upperLonger hc.2, findSome?_upperRuns hc.1]
  · obtain ⟨-, -, -, himage⟩ := CaseRun.map?_eq_some_iff.mp h
    obtain ⟨other, hfind, hundone⟩ := (Option.any_eq_true _ _).mp hundone
    have hsome := findSome?_of_find? hfind (by omega) (CaseRun.map?_of_isUndoneBy hundone h)
    simp [upper, mapCase, lookup_upperLonger hd, hsome]

/-- Apart from the signs, a character has the upper case of its lower case. -/
theorem upper_of_lower (h : lower c = [d]) : upper c = upper d ∨ c ∈ signs := by
  rcases map?_of_lower h with rfl | ⟨run, hrun, hmap⟩
  · exact .inl rfl
  · rcases tables_checked.lowerRuns_cover run hrun with hregular | hkeeps
    · obtain ⟨hc, hd⟩ := upper_of_isRegular hregular hmap
      exact .inl (hc.trans hd.symm)
    · have hcode := List.all_eq_true.mp hkeeps c.toNat (CaseRun.mem_codes hmap)
      simp only [hmap, Option.all_some, Char.ofNat_toNat, Bool.or_eq_true, beq_iff_eq,
        List.contains_iff_mem] at hcode
      exact hcode.symm

/-! ### Characters with one lower case -/

/-- Two characters are twins if one is a sign and the other a letter with its lower case. -/
def AreTwins (c d : Char) : Prop := (c, d) ∈ signPairs ∨ (d, c) ∈ signPairs

instance (c d : Char) : Decidable (AreTwins c d) := inferInstanceAs (Decidable (_ ∨ _))

theorem AreTwins.spec (h : AreTwins c d) : lower c = lower d ∧ upper c ≠ upper d := by
  have hspec {p : Char × Char} (hp : p ∈ signPairs) :
      lower p.1 = lower p.2 ∧ upper p.1 ≠ upper p.2 :=
    of_decide_eq_true (List.all_eq_true.mp tables_checked.signPairs_spec p hp)
  rcases h with h | h
  · exact hspec h
  · exact (hspec h).imp Eq.symm Ne.symm

theorem mem_signPairs_of_lower {sign : Char} (hsign : sign ∈ signs) (h : lower d = lower sign) :
    d = sign ∨ (sign, d) ∈ signPairs := by
  obtain ⟨l, ls, hl⟩ := List.exists_cons_of_ne_nil (lower_ne_nil sign)
  have hsources := List.all_eq_true.mp
    (List.all_eq_true.mp tables_checked.signs_sources sign hsign) l (by simp [hl])
  simp only [Bool.and_eq_true, beq_iff_eq, List.all_eq_true, Bool.or_eq_true,
    List.contains_iff_mem] at hsources
  exact hsources.2 d (mem_sources (map?_of_lower (h.trans hsources.1)))

/-- Two characters with one single lower case have one upper case or are twins. -/
theorem upper_eq_or_areTwins {l : Char} (hc : lower c = [l]) (hd : lower d = [l]) :
    upper c = upper d ∨ AreTwins c d := by
  rcases upper_of_lower hc with hupper | hsign
  · rcases upper_of_lower hd with hupper' | hsign
    · exact .inl (hupper.trans hupper'.symm)
    · rcases mem_signPairs_of_lower hsign (hc.trans hd.symm) with rfl | hpair
      · exact .inl rfl
      · exact .inr (.inr hpair)
  · rcases mem_signPairs_of_lower hsign (hd.trans hc.symm) with rfl | hpair
    · exact .inl rfl
    · exact .inr (.inl hpair)

end EndpointHooks.Unicode
