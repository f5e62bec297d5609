import EndpointHooks.Naming
import EndpointHooks.Proofs.Unicode.IdentifierClasses
import EndpointHooks.Proofs.Unicode.LetterCase
import EndpointHooks.TypeScript.Identifier

/-! Identifiers of the language. It takes the identifier classes of Unicode for them, where names
are checked for letters and numbers. A name is put together with others after its first character
was put in upper or lower case, and what is made of an identifier of the language is one again. -/

namespace EndpointHooks

open Unicode

variable {c d : Char} {s t : List Char}

namespace TypeScript

def startsName (c : Char) : Bool := isIdStart c || c == '$' || c == '_'

def goesOnName (c : Char) : Bool := isIdContinue c || c == '$' || c == '\u200C' || c == '\u200D'

/-- Whether characters are an identifier of the language, reserved or not. -/
def isName : List Char → Bool
  | [] => false
  | c :: s => startsName c && s.all goesOnName

/-- Whether the first character is a mark, which has nothing there to combine with. -/
def startsWithMark (s : List Char) : Bool := s.head?.any isMark

/-! ### Names of letters and numbers -/

/-- The two characters that start identifiers without being letters start names. -/
theorem startsName_of_mem (h : c ∈ ['_', '$']) : isAlphabetic c = false ∧ startsName c = true ∧
    goesOnName c = true ∧ isMark c = false ∧ isStray c = false := by
  have hall : ['_', '$'].all (fun d => !isAlphabetic d && startsName d && goesOnName d &&
      !isMark d && !isStray d) = true := by decide +kernel
  simpa [and_assoc] using List.all_eq_true.mp hall c h

theorem startsName_iff (h : isIdentifierStart c = true) :
    startsName c = true ↔ isMark c = false ∧ isStray c = false := by
  rcases isIdentifierStart_cases h with hletter | rfl | rfl
  · have hdollar : c ≠ '$' := Text.ne_of_test hletter (startsName_of_mem (by simp)).1
    have hlow : c ≠ '_' := Text.ne_of_test hletter (startsName_of_mem (by simp)).1
    rw [← isIdStart_iff hletter]
    simp [startsName, hdollar, hlow]
  · simp [startsName_of_mem]
  · simp [startsName_of_mem]

theorem goesOnName_iff (h : isIdentifierPart c = true) :
    goesOnName c = true ↔ isStray c = false := by
  rcases isIdentifierPart_cases h with halphanumeric | rfl | rfl
  · have hother : c ∉ ['$', '\u200C', '\u200D'] := by
      intro hmem
      have hnone : ['$', '\u200C', '\u200D'].all (!isAlphanumeric ·) = true := by decide +kernel
      simpa [halphanumeric] using List.all_eq_true.mp hnone c hmem
    simp only [List.mem_cons, List.not_mem_nil, or_false, not_or] at hother
    rw [← isIdContinue_iff halphanumeric]
    simp [goesOnName, hother]
  · simp [startsName_of_mem]
  · simp [startsName_of_mem]

/-- A name of letters and numbers is an identifier of the language exactly if it starts with no mark
and has no stray. -/
theorem isName_iff (h : isIdentifierShaped s = true) :
    isName s = true ↔ startsWithMark s = false ∧ ∀ c ∈ s, isStray c = false := by
  obtain ⟨c, r, rfl, hstart⟩ := exists_cons_of_isIdentifierShaped h
  have hparts : (∀ d ∈ r, goesOnName d = true) ↔ ∀ d ∈ r, isStray d = false :=
    forall₂_congr fun d hd =>
      goesOnName_iff (isIdentifierPart_of_mem h (List.mem_cons_of_mem c hd))
  rw [isName, Bool.and_eq_true, List.all_eq_true, startsName_iff hstart, hparts,
    List.forall_mem_cons, and_assoc]
  simp [startsWithMark]

/-! ### The other case -/

/-- The characters that start names, and those that go on names, as tables. -/
def nameStartRanges : RangeTable := idStartRanges ++ [(0x24, 0x24), (0x5F, 0x5F)]

def namePartRanges : RangeTable := idContinueRanges ++ [(0x24, 0x24), (0x200C, 0x200D)]

theorem startsName_iff_covers : startsName c = true ↔ nameStartRanges.covers c.toNat = true := by
  have hothers : RangeTable.covers [(0x24, 0x24), (0x5F, 0x5F)] c.toNat = true ↔
      c = '$' ∨ c = '_' := by
    simp [RangeTable.covers, ← Char.toNat_inj]
    omega
  rw [nameStartRanges, RangeTable.covers_append, hothers]
  simp [startsName, isIdStart, or_assoc]

theorem goesOnName_iff_covers : goesOnName c = true ↔ namePartRanges.covers c.toNat = true := by
  have hothers : RangeTable.covers [(0x24, 0x24), (0x200C, 0x200D)] c.toNat = true ↔
      c = '$' ∨ c = '\u200C' ∨ c = '\u200D' := by
    simp [RangeTable.covers, ← Char.toNat_inj]
    omega
  rw [namePartRanges, RangeTable.covers_append, hothers]
  simp [goesOnName, isIdContinue, or_assoc]

end TypeScript

/-- Whether a run leads neither into a set of code points nor out of it. -/
def Unicode.CaseRun.staysIn (run : CaseRun) (table : RangeTable) : Bool :=
  let both := run.bits ||| run.images.bits
  both &&& table.bits == both || both &&& table.bits == 0

theorem Unicode.CaseRun.covers_iff_of_staysIn {run : CaseRun} {table : RangeTable}
    {code image : Nat} (h : run.staysIn table = true) (hcode : run.map? code = some image) :
    table.covers image = true ↔ table.covers code = true := by
  have hsource : (run.bits ||| run.images.bits).testBit code = true := by
    rw [Nat.testBit_or, testBit_bits hcode, Bool.true_or]
  have himage : (run.bits ||| run.images.bits).testBit image = true := by
    rw [Nat.testBit_or, testBit_images hcode, Bool.or_true]
  rw [← RangeTable.testBit_bits, ← RangeTable.testBit_bits]
  simp only [staysIn, Bool.or_eq_true, beq_iff_eq] at h
  rcases h with hinside | houtside
  · exact iff_of_true (testBit_of_and_eq hinside himage) (testBit_of_and_eq hinside hsource)
  · exact iff_of_false (not_testBit_of_and_eq_zero houtside himage)
      (not_testBit_of_and_eq_zero houtside hsource)

namespace TypeScript

/-- How the case mappings lie to the characters of names. -/
structure CasesChecked : Prop where
  upper : ∀ run ∈ upperRuns, run.staysIn namePartRanges = true
  longer : ∀ p ∈ upperLonger,
    (p.2.map Char.ofNat).all (namePartRanges.bits.testBit ·.toNat) = true
  lower : ∀ run ∈ lowerRuns, run.staysIn nameStartRanges = true

theorem cases_checked : CasesChecked := by constructor <;> decide +kernel

theorem goesOnName_upper (h : goesOnName c = true) : ∀ d ∈ upper c, goesOnName d = true := by
  rcases mapCase_cases upperRuns upperLonger c with ⟨d, hsingle⟩ | ⟨p, hp, -, hlong⟩
  · have hd : goesOnName d = true := by
      rcases map?_of_upper hsingle with rfl | ⟨run, hrun, hmap⟩
      · exact h
      · rw [goesOnName_iff_covers] at h ⊢
        exact (CaseRun.covers_iff_of_staysIn (cases_checked.upper run hrun) hmap).mpr h
    rw [upper, hsingle]
    simpa using hd
  · rw [upper, hlong]
    intro d hd
    exact goesOnName_iff_covers.mpr
      (RangeTable.testBit_bits.mp (List.all_eq_true.mp (cases_checked.longer p hp) d hd))

theorem startsName_lower_iff (h : lower c = [d]) : startsName d = true ↔ startsName c = true := by
  rcases map?_of_lower h with rfl | ⟨run, hrun, hmap⟩
  · rfl
  · rw [startsName_iff_covers, startsName_iff_covers]
    exact CaseRun.covers_iff_of_staysIn (cases_checked.lower run hrun) hmap

/-! ### Names made of names -/

theorem isName_cons : isName (c :: s) = true ↔
    startsName c = true ∧ ∀ d ∈ s, goesOnName d = true := by
  rw [isName, Bool.and_eq_true, List.all_eq_true]

theorem goesOnName_of_startsName (h : startsName c = true) : goesOnName c = true := by
  simp only [startsName, Bool.or_eq_true, beq_iff_eq] at h
  rcases h with (hstart | rfl) | rfl
  · simp [goesOnName, isIdContinue_of_isIdStart hstart]
  · exact (startsName_of_mem (by simp)).2.2.1
  · exact (startsName_of_mem (by simp)).2.2.1

theorem goesOnName_of_mem (h : isName s = true) (hc : c ∈ s) : goesOnName c = true := by
  cases s with
  | nil => cases hc
  | cons d s =>
    obtain ⟨hd, hs⟩ := isName_cons.mp h
    rcases List.mem_cons.mp hc with rfl | hc
    · exact goesOnName_of_startsName hd
    · exact hs c hc

theorem isName_append (hs : isName s = true) (ht : ∀ c ∈ t, goesOnName c = true) :
    isName (s ++ t) = true := by
  cases s with
  | nil => cases hs
  | cons c s =>
    obtain ⟨hc, hs⟩ := isName_cons.mp hs
    exact isName_cons.mpr ⟨hc, List.forall_mem_append.mpr ⟨hs, ht⟩⟩

theorem goesOnName_capitalizeChars (h : isName s = true) :
    ∀ c ∈ capitalizeChars s, goesOnName c = true := by
  cases s with
  | nil => cases h
  | cons c s =>
    obtain ⟨hc, hs⟩ := isName_cons.mp h
    exact List.forall_mem_append.mpr ⟨goesOnName_upper (goesOnName_of_startsName hc), hs⟩

/-- Putting the first character in lower case neither makes a name an identifier nor keeps it from
being one. The capital dotted i becomes an i with a mark on it, which goes on the name. -/
theorem isName_uncapitalizeChars_iff : isName (uncapitalizeChars s) = true ↔ isName s = true := by
  cases s with
  | nil => rfl
  | cons c s =>
    rw [uncapitalizeChars]
    rcases lower_cases c with ⟨d, hsingle⟩ | ⟨rfl, hlower⟩
    · rw [hsingle, List.singleton_append, isName_cons, isName_cons, startsName_lower_iff hsingle]
    · obtain ⟨hi, hmark, hdotted⟩ : startsName 'i' = true ∧ goesOnName '\u0307' = true ∧
          startsName '\u0130' = true := by decide +kernel
      rw [hlower, List.cons_append, isName_cons, isName_cons]
      simp [hi, hmark, hdotted]

/-- Only the dot is a dot in lower case. -/
theorem dot_not_mem_uncapitalizeChars (h : '.' ∉ s) : '.' ∉ uncapitalizeChars s := by
  cases s with
  | nil => exact h
  | cons c s =>
    obtain ⟨hc, hs⟩ := not_or.mp (mt List.mem_cons.mpr h)
    obtain ⟨hsources, hlonger⟩ : sources lowerRuns '.' = ['.'] ∧
        ∀ p ∈ lowerLonger, '.' ∉ p.2.map Char.ofNat := by decide +kernel
    have hlower : '.' ∉ lower c := fun hmem => hc (eq_of_mem_mapCase
      (List.subset_append_right _ _) (List.subset_append_right _ _) hsources hlonger hmem).symm
    exact List.not_mem_append hlower hs

/-- Whether characters are identifiers of the language with dots between them. -/
def isQualifiedName (s : List Char) : Bool := (Text.pieces '.' s).all isName

theorem isQualifiedName_iff : isQualifiedName s = true ↔
    ∀ part ∈ Text.pieces '.' s, isName part = true :=
  List.all_eq_true

theorem isQualifiedName_iff_of_not_mem (h : '.' ∉ s) :
    isQualifiedName s = true ↔ isName s = true := by
  rw [isQualifiedName_iff, Text.pieces_of_not_mem h, List.forall_mem_singleton]

theorem isQualifiedName_of_isName (h : isName s = true) : isQualifiedName s = true := by
  have hdot : '.' ∉ s := fun hmem => absurd (goesOnName_of_mem h hmem) (by decide +kernel)
  exact (isQualifiedName_iff_of_not_mem hdot).mpr h

end TypeScript

end EndpointHooks
