/-! Numbers and their digits, the most significant first. Hexadecimal digits are read in either case
and written in lower case. A test of characters tells digits from all others. -/

namespace EndpointHooks.Text

def decimalNumber (digits : List Char) : Nat :=
  digits.foldl (fun n c => 10 * n + (c.toNat - 48)) 0

def hexValue? (c : Char) : Option Nat :=
  if '0' ≤ c ∧ c ≤ '9' then some (c.toNat - 48)
  else if 'a' ≤ c ∧ c ≤ 'f' then some (c.toNat - 87)
  else if 'A' ≤ c ∧ c ≤ 'F' then some (c.toNat - 55)
  else none

/-- The number given by hexadecimal digits, unless one of the characters is none. -/
def hexNumber? (digits : List Char) : Option Nat :=
  digits.foldlM (fun n c => (hexValue? c).map (16 * n + ·)) 0

def hexDigit (n : Nat) : Char := (Nat.toDigits 16 n).headD '0'

def hexPair (n : Nat) : List Char := [hexDigit (n / 16), hexDigit (n % 16)]

theorem ne_of_test {p : Char → Bool} {c d : Char} (hc : p c = true) (hd : p d = false) : c ≠ d := by
  rintro rfl
  exact absurd hc (by simp [hd])

/-- An integer is written as the decimal digits of its magnitude, after a minus if it is
negative. -/
theorem toList_toString_int (i : Int) :
    (∃ n : Nat, i = n ∧ (toString i).toList = Nat.toDigits 10 n) ∨
      ∃ n : Nat, 0 < n ∧ i = -n ∧ (toString i).toList = '-' :: Nat.toDigits 10 n := by
  rw [Int.toString_eq_repr, Int.repr_eq_if]
  by_cases natural : 0 ≤ i
  · obtain ⟨n, rfl⟩ := Int.eq_ofNat_of_zero_le natural
    rw [if_pos natural, Int.toNat_natCast, Nat.toList_repr]
    exact .inl ⟨n, rfl, rfl⟩
  · obtain ⟨n, rfl⟩ := Int.exists_eq_neg_ofNat (show i ≤ 0 by omega)
    rw [if_neg natural, Int.neg_neg, Int.toNat_natCast, String.toList_append, Nat.toList_repr]
    exact .inr ⟨n, by omega, rfl, rfl⟩

end EndpointHooks.Text
