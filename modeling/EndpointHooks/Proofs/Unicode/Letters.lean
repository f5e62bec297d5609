import EndpointHooks.Proofs.Unicode.LetterCase
import EndpointHooks.Unicode.Alphabetic

/-! What the case mappings make of letters. The other case of a letter consists of letters, with
exceptions among the longer images: some letters have no capital of their own, and their upper case
is a letter followed by combining marks, and the lower case of the capital dotted i is an i with a
dot put over it. -/

namespace EndpointHooks.Unicode

variable {c d : Char}

namespace CaseRun

variable {run : CaseRun} {table : RangeTable} {code image : Nat}

/-- Whether all images of a run are in a set. -/
def mapsInto (run : CaseRun) (table : RangeTable) : Bool :=
  run.images.bits &&& table.bits == run.images.bits

theorem covers_of_mapsInto (h : run.mapsInto table = true) (hcode : run.map? code = some image) :
    table.covers image = true := by
  rw [mapsInto, beq_iff_eq] at h
  exact RangeTable.testBit_bits.mp (testBit_of_and_eq h (testBit_images hcode))

end CaseRun

/-- The letters without a capital of their own: in upper case they are written as another letter
with combining marks after it. -/
def markedCapitals : List Char :=
  ['\u01F0', '\u0390', '\u03B0', '\u1E96', '\u1E97', '\u1E98', '\u1E99', '\u1F50', '\u1F52',
    '\u1F54', '\u1F56', '\u1FB6', '\u1FB7', '\u1FC6', '\u1FC7', '\u1FD2', '\u1FD3', '\u1FD6',
    '\u1FD7', '\u1FE2', '\u1FE3', '\u1FE4', '\u1FE6', '\u1FE7', '\u1FF6', '\u1FF7']

/-- All single images are letters, and so are all parts of the longer upper cases of other
letters. -/
theorem letters_checked : (∀ run ∈ upperRuns ++ lowerRuns, run.mapsInto alphabeticRanges = true) ∧
    ∀ p ∈ upperLonger, Char.ofNat p.1 ∈ markedCapitals ∨
      (p.2.map Char.ofNat).all (alphabeticRanges.bits.testBit ·.toNat) = true := by
  decide +kernel

/-- A single image of a letter is a letter. -/
theorem isAlphabetic_of_map? {run : CaseRun} (hrun : run ∈ upperRuns ++ lowerRuns)
    (h : run.map? c.toNat = some d.toNat) : isAlphabetic d = true :=
  CaseRun.covers_of_mapsInto (letters_checked.1 run hrun) h

theorem isAlphabetic_upper (hc : isAlphabetic c = true) (h : c ∉ markedCapitals) :
    ∀ d ∈ upper c, isAlphabetic d = true := by
  rcases mapCase_cases upperRuns upperLonger c with ⟨d, hsingle⟩ | ⟨p, hp, hcode, hlong⟩
  · have hd : isAlphabetic d = true := by
      rcases map?_of_upper hsingle with rfl | ⟨run, hrun, hmap⟩
      · exact hc
      · exact isAlphabetic_of_map? (List.mem_append_left _ hrun) hmap
    rw [upper, hsingle]
    simpa using hd
  · have hp := letters_checked.2 p hp
    rw [hcode, Char.ofNat_toNat] at hp
    rw [upper, hlong]
    intro d hd
    exact RangeTable.testBit_bits.mp (List.all_eq_true.mp (hp.resolve_left h) d hd)

theorem isAlphabetic_lower (hc : isAlphabetic c = true) (h : c ≠ '\u0130') :
    ∃ d, lower c = [d] ∧ isAlphabetic d = true := by
  rcases lower_cases c with ⟨d, hsingle⟩ | ⟨rfl, -⟩
  · refine ⟨d, hsingle, ?_⟩
    rcases map?_of_lower hsingle with rfl | ⟨run, hrun, hmap⟩
    · exact hc
    · exact isAlphabetic_of_map? (List.mem_append_right _ hrun) hmap
  · exact absurd rfl h

end EndpointHooks.Unicode
