import EndpointHooks.Unicode.CodeRange
import EndpointHooks.Unicode.LetterCase
import Mathlib.Algebra.Group.Nat.Defs

/-! Sets of code points as numbers: a code point is in a set if the bit at its place is set. One
comparison of numbers then says something about all code points of two tables. The number of a run
may have more bits than the run has code points, but none is missing. -/

namespace EndpointHooks.Unicode

variable {α : Type} {low high code image : Nat}

/-- The numbers from `low` to `high`. -/
def intervalBits (low high : Nat) : Nat := (2 ^ (high + 1 - low) - 1) <<< low

theorem testBit_intervalBits :
    (intervalBits low high).testBit code = true ↔ low ≤ code ∧ code ≤ high := by
  rw [intervalBits, Nat.testBit_shiftLeft, Nat.testBit_two_pow_sub_one, Bool.and_eq_true,
    decide_eq_true_eq, decide_eq_true_eq]
  omega

/-- The even numbers below `2 * n`. -/
def evenBits (n : Nat) : Nat := (4 ^ n - 1) / 3

theorem evenBits_succ (n : Nat) : evenBits (n + 1) = 4 * evenBits n + 1 := by
  have hpow : 4 ^ n % 3 = 1 := by rw [Nat.pow_mod]; simp
  rw [evenBits, evenBits, Nat.pow_succ]
  omega

theorem testBit_evenBits {n i : Nat} (h : i < n) : (evenBits n).testBit (2 * i) = true := by
  induction n generalizing i with
  | zero => omega
  | succ n ih =>
    rw [evenBits_succ]
    cases i with
    | zero =>
      simp
      omega
    | succ i =>
      have hrest := ih (i := i) (by omega)
      have hdiv : (4 * evenBits n + 1) / 2 / 2 = evenBits n := by omega
      rw [show 2 * (i + 1) = 2 * i + 1 + 1 by omega, Nat.testBit_succ, Nat.testBit_succ, hdiv,
        hrest]

/-- The numbers that are in one of some sets. -/
def unionBits (bits : α → Nat) (as : List α) : Nat := as.foldr (fun a rest => bits a ||| rest) 0

theorem testBit_unionBits {bits : α → Nat} {as : List α} :
    (unionBits bits as).testBit code = true ↔ ∃ a ∈ as, (bits a).testBit code = true := by
  induction as with
  | nil => simp [unionBits]
  | cons a as ih =>
    rw [unionBits, List.foldr_cons, Nat.testBit_or, Bool.or_eq_true, ← unionBits, ih]
    simp

theorem testBit_of_and_eq {m n : Nat} (h : m &&& n = m) (hcode : m.testBit code = true) :
    n.testBit code = true := by
  rw [← h, Nat.testBit_and, Bool.and_eq_true] at hcode
  exact hcode.2

theorem not_testBit_of_and_eq_zero {m n : Nat} (h : m &&& n = 0) (hcode : m.testBit code = true) :
    ¬n.testBit code = true := by
  intro hcode'
  have hboth : (m &&& n).testBit code = true := by rw [Nat.testBit_and, hcode, hcode']; rfl
  simp [h] at hboth

def RangeTable.bits (table : RangeTable) : Nat := unionBits (fun r => intervalBits r.1 r.2) table

theorem RangeTable.testBit_bits {table : RangeTable} :
    table.bits.testBit code = true ↔ table.covers code = true := by
  simp only [RangeTable.bits, testBit_unionBits, testBit_intervalBits, RangeTable.covers_iff]

namespace CaseRun

variable {run : CaseRun}

theorem map?_eq_some_iff :
    run.map? code = some image ↔ run.first ≤ code ∧ code ≤ run.last ∧
      (code - run.first) % run.step = 0 ∧ image = run.image + (code - run.first) := by
  rw [map?]
  split <;> simp_all [eq_comm]

/-- The code points of a run, and those between them unless it goes by twos. -/
def bits (run : CaseRun) : Nat :=
  if run.step = 2 then evenBits (run.last + 1 - run.first) <<< run.first &&&
    intervalBits run.first run.last
  else intervalBits run.first run.last

theorem testBit_bits (h : run.map? code = some image) : run.bits.testBit code = true := by
  obtain ⟨hfirst, hlast, hstep, -⟩ := map?_eq_some_iff.mp h
  have hinterval : (intervalBits run.first run.last).testBit code = true :=
    testBit_intervalBits.mpr ⟨hfirst, hlast⟩
  rw [bits]
  split
  · rename_i htwo
    rw [htwo] at hstep
    obtain ⟨i, hi⟩ := Nat.dvd_of_mod_eq_zero hstep
    have heven := testBit_evenBits (n := run.last + 1 - run.first) (i := i) (by omega)
    rw [Nat.testBit_and, hinterval, Nat.testBit_shiftLeft, hi, heven]
    simp [hfirst]
  · exact hinterval

/-- The images of a run, as a run. -/
def images (run : CaseRun) : CaseRun :=
  { run with first := run.image, last := run.image + (run.last - run.first) }

theorem testBit_images (h : run.map? code = some image) : run.images.bits.testBit image = true := by
  obtain ⟨hfirst, hlast, hstep, rfl⟩ := map?_eq_some_iff.mp h
  have hmap : run.images.map? (run.image + (code - run.first)) =
      some (run.image + (code - run.first)) := by
    refine map?_eq_some_iff.mpr ⟨by simp [images], ?_, ?_, by simp [images]⟩
    · simp only [images]
      omega
    · simpa [images] using hstep
  exact testBit_bits hmap

end CaseRun

end EndpointHooks.Unicode
