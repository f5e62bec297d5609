import EndpointHooks.Proofs.Json.Writing
import EndpointHooks.Toml.Values

/-! Decimal integers at the end of a line. A value that starts with a digit or a sign could also be
a date, a time or a float. The digits of an integer up to the end of the line are none of these, and
they are read back. -/

namespace EndpointHooks.Toml

open Json (WholePart wholePart_toDigits)

variable {ds rest : List Char} {c : Char}

/-- A line ends before the text, which goes on with a line feed unless it is over. -/
def AtLineEnd (rest : List Char) : Prop := ∀ c ∈ rest.head?, c = '\n'

/-! ### Digits -/

theorem moreDigits_append (hds : ∀ d ∈ ds, d.isDigit = true) (hrest : AtLineEnd rest) :
    moreDigits Char.isDigit (ds ++ rest) = (ds, rest) := by
  induction ds with
  | nil =>
    cases rest with
    | nil => rfl
    | cons c rest =>
      obtain rfl : c = '\n' := hrest c rfl
      simp [moreDigits]
  | cons d ds ih =>
    obtain ⟨hd, hds⟩ := List.forall_mem_cons.mp hds
    have hne : d ≠ '_' := Text.ne_of_test hd (by decide)
    simp [moreDigits, hne, hd, ih hds]

theorem digits?_append (hne : ds ≠ []) (hds : ∀ d ∈ ds, d.isDigit = true)
    (hrest : AtLineEnd rest) : digits? Char.isDigit (ds ++ rest) = some (ds, rest) := by
  obtain ⟨d, ds, rfl⟩ := List.exists_cons_of_ne_nil hne
  obtain ⟨hd, hds⟩ := List.forall_mem_cons.mp hds
  simp [digits?, hd, moreDigits_append hds hrest]

theorem decimalDigits?_append (h : WholePart ds) (hrest : AtLineEnd rest) :
    decimalDigits? (ds ++ rest) = some (ds, rest) := by
  unfold decimalDigits?
  split
  case h_1 s hs =>
    obtain ⟨d, ds, rfl⟩ := List.exists_cons_of_ne_nil h.ne_nil
    obtain ⟨rfl, rfl⟩ := List.cons_eq_cons.mp hs
    obtain rfl := h.zero_alone ds rfl
    rfl
  case h_2 => exact digits?_append h.ne_nil h.all hrest

theorem sign_digits (h : WholePart ds) : sign (ds ++ rest) = (false, ds ++ rest) := by
  obtain ⟨d, ds, rfl⟩ := List.exists_cons_of_ne_nil h.ne_nil
  have hd := h.all d List.mem_cons_self
  have hplus : d ≠ '+' := Text.ne_of_test hd (by decide)
  have hminus : d ≠ '-' := Text.ne_of_test hd (by decide)
  simp [sign, hplus, hminus]

theorem numberOf_toDigits (n : Nat) : numberOf 10 (Nat.toDigits 10 n) = n := by
  have hvalue : ∀ ds : List Char, (∀ d ∈ ds, d.isDigit = true) → ∀ m,
      ds.foldl (fun n c => 10 * n + digitValue c) m = Nat.ofDigitChars 10 ds m := by
    intro ds
    induction ds with
    | nil => simp
    | cons d ds ih =>
      intro hds m
      obtain ⟨hd, hds⟩ := List.forall_mem_cons.mp hds
      rw [List.foldl_cons, ih hds, Nat.ofDigitChars_cons, digitValue, if_pos hd]
      rfl
  rw [numberOf, hvalue _ (wholePart_toDigits n).all, Nat.ofDigitChars_ten_toDigits]

/-! ### Neither dates nor times nor floats -/

/-- A fixed number of digits is not taken beyond the digits there are. -/
theorem fixedDigits?_append {count n : Nat} {s : List Char} (hrest : AtLineEnd rest)
    (h : fixedDigits? count (ds ++ rest) = some (n, s)) :
    s = ds.drop count ++ rest := by
  simp only [fixedDigits?, List.all_eq_true, Option.ite_none_right_eq_some, Option.some.injEq,
    Prod.mk.injEq] at h
  obtain ⟨⟨hlength, hall⟩, -, rfl⟩ := h
  refine List.drop_append_of_le_length ?_
  by_contra hlong
  cases rest with
  | nil =>
    simp only [List.append_nil, List.length_take] at hlength
    omega
  | cons c rest =>
    obtain rfl : c = '\n' := hrest c rfl
    have hmem : '\n' ∈ (ds ++ '\n' :: rest).take count := by
      rw [List.take_append, List.mem_append, List.take_cons (by omega)]
      exact .inr List.mem_cons_self
    exact absurd (hall '\n' hmem) (by decide)

theorem fixedDigits?_minus {count : Nat} (hcount : 0 < count) (s : List Char) :
    fixedDigits? count ('-' :: s) = none := by
  obtain ⟨count, rfl⟩ := Nat.exists_eq_add_of_lt hcount
  simp [fixedDigits?, Char.isDigit]

theorem twoDigits?_append {low high n : Nat} {s : List Char} (hrest : AtLineEnd rest)
    (h : twoDigits? low high (ds ++ rest) = some (n, s)) : s = ds.drop 2 ++ rest := by
  unfold twoDigits? at h
  split at h
  case h_1 m t hfixed =>
    obtain ⟨-, hs⟩ := Option.ite_none_right_eq_some.mp h
    simp only [Option.some.injEq, Prod.mk.injEq] at hs
    rw [← hs.2, fixedDigits?_append hrest hfixed]
  case h_2 => cases h

theorem expect?_append (hds : ∀ d ∈ ds, d.isDigit = true) (hrest : AtLineEnd rest)
    (hdigit : c.isDigit = false) (hline : c ≠ '\n') : expect? c (ds ++ rest) = none := by
  cases ds with
  | nil =>
    cases rest with
    | nil => rfl
    | cons d rest =>
      obtain rfl : d = '\n' := hrest d rfl
      simp [expect?, hline.symm]
  | cons d ds =>
    have hne : d ≠ c := Text.ne_of_test (hds d List.mem_cons_self) hdigit
    simp [expect?, hne]

theorem skipMoment?_digits (hds : ∀ d ∈ ds, d.isDigit = true) (hrest : AtLineEnd rest) :
    skipMoment? (ds ++ rest) = none := by
  have hdrop (count : Nat) : ∀ d ∈ ds.drop count, d.isDigit = true :=
    fun d hd => hds d (List.mem_of_mem_drop hd)
  have hdate : skipDate? (ds ++ rest) = none := by
    cases hyear : fixedDigits? 4 (ds ++ rest) with
    | none => simp [skipDate?, hyear]
    | some p =>
      obtain ⟨year, s⟩ := p
      have hdash := expect?_append (hdrop 4) hrest (c := '-') (by decide) (by decide)
      rw [← fixedDigits?_append hrest hyear] at hdash
      simp [skipDate?, hyear, hdash]
  have htime : skipTime? (ds ++ rest) = none := by
    cases hhour : twoDigits? 0 23 (ds ++ rest) with
    | none => simp [skipTime?, hhour]
    | some p =>
      obtain ⟨hour, s⟩ := p
      have hcolon := expect?_append (hdrop 2) hrest (c := ':') (by decide) (by decide)
      rw [← twoDigits?_append hrest hhour] at hcolon
      simp [skipTime?, hhour, hcolon]
  rw [skipMoment?, hdate, htime]

theorem skipMoment?_minus (s : List Char) : skipMoment? ('-' :: s) = none := by
  simp [skipMoment?, skipDate?, skipTime?, twoDigits?, fixedDigits?_minus]

theorem float?_of_sign {s : List Char} {negative : Bool} (h : WholePart ds)
    (hrest : AtLineEnd rest) (hsign : sign s = (negative, ds ++ rest)) : float? s = none := by
  have hdecimal : decimalFloat? s = none := by
    simp only [decimalFloat?, hsign, decimalDigits?_append h hrest, Option.bind_eq_bind,
      Option.bind_some]
    cases rest with
    | nil => simp [exponent?]
    | cons c rest =>
      obtain rfl : c = '\n' := hrest c rfl
      simp [exponent?]
  have hspecial : specialFloat? s = none := by
    obtain ⟨d, ds, rfl⟩ := List.exists_cons_of_ne_nil h.ne_nil
    have hd := h.all d List.mem_cons_self
    have hi : d ≠ 'i' := Text.ne_of_test hd (by decide)
    have hn : d ≠ 'n' := Text.ne_of_test hd (by decide)
    simp [specialFloat?, hsign, hi, hn]
  rw [float?, hdecimal, hspecial]

/-! ### Integers -/

/-- No mark of another base follows the first character of a decimal integer. -/
theorem integer?_eq_decimalInteger? {s : List Char}
    (h : ∀ c ∈ s.tail.head?, c = '\n' ∨ c.isDigit = true) : integer? s = decimalInteger? s := by
  unfold integer?
  split
  case h_1 s => exact absurd (h 'x' rfl) (by decide)
  case h_2 s => exact absurd (h 'o' rfl) (by decide)
  case h_3 s => exact absurd (h 'b' rfl) (by decide)
  case h_4 => rfl

theorem head?_append_atLineEnd (hds : ∀ d ∈ ds, d.isDigit = true) (hrest : AtLineEnd rest) :
    ∀ c ∈ (ds ++ rest).head?, c = '\n' ∨ c.isDigit = true := by
  cases ds with
  | nil => exact fun c hc => .inl (hrest c hc)
  | cons d ds =>
    intro c hc
    obtain rfl : d = c := by simpa using hc
    exact .inr (hds d List.mem_cons_self)

theorem decimalInteger?_of_sign {s : List Char} {negative : Bool} {n : Nat} {i : Int}
    (hrest : AtLineEnd rest) (hsign : sign s = (negative, Nat.toDigits 10 n ++ rest))
    (hi : i = if negative then -(n : Int) else n) (hrange : inRange? i = some i) :
    decimalInteger? s = some (i, rest) := by
  simp [decimalInteger?, hsign, decimalDigits?_append (wholePart_toDigits n) hrest,
    numberOf_toDigits, ← hi, hrange]

/-- The decimal text of an integer of 64 bits is read back at the end of a line. -/
theorem numeral?_toString {i : Int} (low : -0x8000000000000000 ≤ i) (high : i ≤ 0x7fffffffffffffff)
    (hrest : AtLineEnd rest) : numeral? ((toString i).toList ++ rest) = some (.int i, rest) := by
  have hrange : inRange? i = some i := if_pos ⟨low, high⟩
  rcases Text.toList_toString_int i with ⟨n, hi, htext⟩ | ⟨n, -, hi, htext⟩
  · have whole := wholePart_toDigits n
    have hsign : sign (Nat.toDigits 10 n ++ rest) = (false, Nat.toDigits 10 n ++ rest) :=
      sign_digits whole
    have hinteger : integer? (Nat.toDigits 10 n ++ rest) = some (i, rest) := by
      obtain ⟨d, ds, hds⟩ := List.exists_cons_of_ne_nil whole.ne_nil
      have hmore : ∀ d ∈ ds, d.isDigit = true := fun d hd => whole.all d (by simp [hds, hd])
      rw [integer?_eq_decimalInteger?]
      · exact decimalInteger?_of_sign hrest hsign (by simp [hi]) hrange
      · rw [hds]
        exact head?_append_atLineEnd hmore hrest
    rw [htext, numeral?, skipMoment?_digits whole.all hrest]
    simp [float?_of_sign whole hrest hsign, hinteger]
  · have whole := wholePart_toDigits n
    have hsign : sign ('-' :: (Nat.toDigits 10 n ++ rest)) = (true, Nat.toDigits 10 n ++ rest) :=
      rfl
    have hinteger : integer? ('-' :: (Nat.toDigits 10 n ++ rest)) = some (i, rest) := by
      rw [integer?_eq_decimalInteger?]
      · exact decimalInteger?_of_sign hrest hsign (by simp [hi]) hrange
      · exact head?_append_atLineEnd whole.all hrest
    rw [htext, List.cons_append, numeral?, skipMoment?_minus]
    simp [float?_of_sign whole hrest hsign, hinteger]

end EndpointHooks.Toml
