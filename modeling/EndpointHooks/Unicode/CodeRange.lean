/-! Sets of code points, written as tables of closed intervals. A table lists its intervals in
ascending order; membership is a search through the table, so that it computes in the kernel as
well as at run time. -/

namespace EndpointHooks.Unicode

/-- A set of code points as its closed intervals in ascending order. -/
abbrev RangeTable := List (Nat × Nat)

def RangeTable.covers (table : RangeTable) (code : Nat) : Bool :=
  table.any fun r => decide (r.1 ≤ code) && decide (code ≤ r.2)

theorem RangeTable.covers_iff {table : RangeTable} {code : Nat} :
    table.covers code = true ↔ ∃ r ∈ table, r.1 ≤ code ∧ code ≤ r.2 := by
  simp [RangeTable.covers]

/-- The letters of ASCII are the code points of two ranges. -/
theorem isAlpha_iff {c : Char} : c.isAlpha = true ↔
    0x41 ≤ c.toNat ∧ c.toNat ≤ 0x5A ∨ 0x61 ≤ c.toNat ∧ c.toNat ≤ 0x7A := by
  have letter : c.isAlpha = (decide ('A'.val ≤ c.val ∧ c.val ≤ 'Z'.val) ||
      decide ('a'.val ≤ c.val) && decide (c.val ≤ 'z'.val)) := rfl
  simp only [letter, Bool.or_eq_true, Bool.and_eq_true, decide_eq_true_eq, UInt32.le_iff_toNat_le]
  rfl

theorem isDigit_iff {c : Char} : c.isDigit = true ↔ 0x30 ≤ c.toNat ∧ c.toNat ≤ 0x39 := by
  have digit : c.isDigit = (decide ('0'.val ≤ c.val) && decide (c.val ≤ '9'.val)) := rfl
  simp only [digit, Bool.and_eq_true, decide_eq_true_eq, UInt32.le_iff_toNat_le]
  rfl

end EndpointHooks.Unicode
