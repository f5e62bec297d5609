import EndpointHooks.Proofs.Json.Brackets

/-! Strings, numbers and words of the grammar. A reader that passes over them takes each of them; a
reader that wants their values may refuse one, a half of a surrogate pair or a number out of range,
and takes the whole of every other. -/

namespace EndpointHooks.Json

open Text

/-! ### Strings -/

theorem exists_shortEscape {c : Char} (h : c ∈ ['"', '\\', '/', 'b', 'f', 'n', 'r', 't']) :
    c ≠ 'u' ∧ ∃ d, shortEscape? c = some d := by
  simp only [List.mem_cons, List.not_mem_nil, or_false] at h
  rcases h with rfl | rfl | rfl | rfl | rfl | rfl | rfl | rfl <;> exact ⟨by decide, _, rfl⟩

theorem length_le_byteCount (s : List Char) : s.length ≤ byteCount s := by
  induction s with
  | nil => simp
  | cons c s ih =>
    have size := c.utf8Size_pos
    simp only [List.length_cons, byteCount_cons]
    omega

theorem exists_hexNumber {h : List Char} (digits : ∀ c ∈ h, (hexValue? c).isSome) :
    ∃ n, hexNumber? h = some n := by
  suffices fold : ∀ k, ∃ n, h.foldlM (fun n c => (hexValue? c).map (16 * n + ·)) k = some n from
    fold 0
  induction h with
  | nil => exact fun k => ⟨k, rfl⟩
  | cons c h ih =>
    intro k
    obtain ⟨v, hv⟩ := Option.isSome_iff_exists.mp (digits c (by simp))
    obtain ⟨n, hn⟩ := ih (fun d hd => digits d (by simp [hd])) (16 * k + v)
    exact ⟨n, by simpa [hv] using hn⟩

theorem hexQuad_of_hexNumber {h : List Char} (four : h.length = 4) {n : Nat}
    (number : hexNumber? h = some n) (r : List Char) : hexQuad (h ++ r) = .ok (n, r) := by
  have bytes := length_le_byteCount h
  have enough : ¬byteCount h + byteCount r < 4 := by omega
  have front : (h ++ r).take 4 = h ∧ (h ++ r).drop 4 = r := by simp [← four]
  simp only [hexQuad, byteCount_append, enough, ↓reduceIte, front, number]

theorem hexQuad_append {h : List Char} (four : h.length = 4)
    (digits : ∀ c ∈ h, (hexValue? c).isSome) (r : List Char) :
    ∃ n, hexQuad (h ++ r) = .ok (n, r) := by
  obtain ⟨n, hn⟩ := exists_hexNumber digits
  exact ⟨n, hexQuad_of_hexNumber four hn r⟩

theorem stringCharsRest_quote (r : List Char) : stringCharsRest ('"' :: r) = .ok ([], r) := by
  rw [stringCharsRest]
  rfl

theorem stringCharsRest_plain {c : Char} (quote : c ≠ '"') (backslash : c ≠ '\\')
    (printable : 0x20 ≤ c.toNat) (r : List Char) :
    stringCharsRest (c :: r) = (stringCharsRest r).map fun p => (c :: p.1, p.2) := by
  rw [stringCharsRest]
  simp [quote, backslash, Nat.not_lt.mpr printable]

theorem stringCharsRest_escape {d : Char} {r rest : List Char}
    (h : escapeRest r = .ok (d, rest)) :
    stringCharsRest ('\\' :: r) = (stringCharsRest rest).map fun p => (d :: p.1, p.2) := by
  rw [stringCharsRest]
  simp only [Char.reduceEq, ↓reduceIte]
  split
  · rename_i h'
    exact absurd (h.symm.trans h') (by simp)
  · rename_i h'
    obtain ⟨rfl, rfl⟩ : d = _ ∧ rest = _ := by simpa using h.symm.trans h'
    rfl

theorem stringCharsRest_fault {fault : Fault} {r : List Char} (h : escapeRest r = .error fault) :
    stringCharsRest ('\\' :: r) = .error fault := by
  rw [stringCharsRest]
  simp only [Char.reduceEq, ↓reduceIte]
  split
  · rename_i h'
    rw [Except.error.inj (h'.symm.trans h)]
  · rename_i h'
    exact absurd (h.symm.trans h') (by simp)

/-- The second half of a surrogate pair is an escape of the string. -/
theorem trailingSurrogate_body {leading : Nat} {s rest r : List Char} {d : Char}
    (h : StringBody s) (ok : trailingSurrogate leading (s ++ '"' :: rest) = .ok (d, r)) :
    ∃ s', StringBody s' ∧ r = s' ++ '"' :: rest := by
  cases h with
  | nil => simp [trailingSurrogate, surrogateMark, bind, Except.bind] at ok
  | plain _ backslash => simp [trailingSurrogate, surrogateMark, backslash, bind, Except.bind] at ok
  | short escape =>
    have mark := (exists_shortEscape escape).1
    simp [trailingSurrogate, surrogateMark, mark, bind, Except.bind] at ok
  | @code h s' four digits body =>
    obtain ⟨n, hn⟩ := hexQuad_append four digits (s' ++ '"' :: rest)
    simp only [trailingSurrogate, surrogateMark, List.cons_append, ↓reduceIte, List.append_assoc,
      hn, bind, Except.bind] at ok
    split at ok
    · exact ⟨s', body, (Prod.mk.inj (Except.ok.inj ok)).2.symm⟩
    · simp at ok

/-- An escape takes one escape of the string or, for a surrogate pair, two. -/
theorem escapeRest_body {s rest r : List Char} {d : Char} (h : StringBody ('\\' :: s))
    (ok : escapeRest (s ++ '"' :: rest) = .ok (d, r)) :
    ∃ s', StringBody s' ∧ r = s' ++ '"' :: rest := by
  cases h with
  | plain _ backslash => exact absurd rfl backslash
  | @short c s' escape body =>
    obtain ⟨-, e, he⟩ := exists_shortEscape escape
    simp only [escapeRest, List.cons_append, he, Except.ok.injEq, Prod.mk.injEq] at ok
    exact ⟨s', body, ok.2.symm⟩
  | @code h s' four digits body =>
    obtain ⟨n, hn⟩ := hexQuad_append four digits (s' ++ '"' :: rest)
    simp only [escapeRest, List.cons_append, show shortEscape? 'u' = none by decide, ↓reduceIte,
      List.append_assoc, hn, bind, Except.bind] at ok
    split at ok
    · simp at ok
    · split at ok
      · exact trailingSurrogate_body body ok
      · exact ⟨s', body, (Prod.mk.inj (Except.ok.inj ok)).2.symm⟩

theorem stringCharsRest_body {s : List Char} (h : StringBody s) (rest : List Char) :
    Leaves True (fun _ => True) rest (stringCharsRest (s ++ '"' :: rest)) := by
  -- A surrogate pair is two escapes of the string, so the induction is on the length.
  induction hn : s.length using Nat.strongRecOn generalizing s with
  | ind n ih =>
    match s, h with
    | [], _ =>
      rw [List.nil_append, stringCharsRest_quote]
      exact .of_ok trivial
    | '\\' :: s, h =>
      rw [List.cons_append]
      cases he : escapeRest (s ++ '"' :: rest) with
      | error fault =>
        rw [stringCharsRest_fault he]
        exact trivial
      | ok p =>
        obtain ⟨s', body, hr⟩ := escapeRest_body h he
        have shorter := escapeRest_length (show escapeRest _ = .ok (p.1, p.2) from he)
        rw [stringCharsRest_escape (show escapeRest _ = .ok (p.1, p.2) from he), hr]
        rw [hr] at shorter
        simp only [List.length_append, List.length_cons] at shorter hn
        exact (ih s'.length (by omega) body rfl).map (fun _ => rfl) fun _ _ => trivial
    | c :: s, .plain quote backslash printable body =>
      rw [List.cons_append, stringCharsRest_plain quote backslash printable]
      rw [List.length_cons] at hn
      exact (ih s.length (by omega) body rfl).map (fun _ => rfl) fun _ _ => trivial

theorem stringRest_body {s : List Char} (h : StringBody s) (rest : List Char) :
    Leaves True (fun _ => True) rest (stringRest (s ++ '"' :: rest)) :=
  (stringCharsRest_body h rest).map (fun _ => rfl) fun _ _ => trivial

theorem skipStringRest_escape {r rest : List Char} (h : skipEscapeRest r = .ok rest) :
    skipStringRest ('\\' :: r) = skipStringRest rest := by
  rw [skipStringRest]
  simp only [Char.reduceEq, ↓reduceIte]
  split
  · rename_i h'
    exact absurd (h.symm.trans h') (by simp)
  · rename_i h'
    obtain rfl : rest = _ := by simpa using h.symm.trans h'
    rfl

theorem skipStringRest_body {s : List Char} (h : StringBody s) (rest : List Char) :
    skipStringRest (s ++ '"' :: rest) = .ok rest := by
  induction h with
  | nil =>
    rw [List.nil_append, skipStringRest]
    rfl
  | plain quote backslash printable _ ih =>
    rw [List.cons_append, skipStringRest]
    simpa [quote, backslash, Nat.not_lt.mpr printable] using ih
  | short escape _ ih =>
    obtain ⟨-, d, hd⟩ := exists_shortEscape escape
    exact (skipStringRest_escape (by simp [skipEscapeRest, hd])).trans ih
  | @code h s four digits _ ih =>
    obtain ⟨n, hn⟩ := hexQuad_append four digits (s ++ '"' :: rest)
    refine (skipStringRest_escape ?_).trans ih
    simp [skipEscapeRest, show shortEscape? 'u' = none by decide, hn, Except.map]

/-! ### Numbers -/

theorem splitDigits_digits {ds r : List Char} (all : ∀ c ∈ ds, c.isDigit = true)
    (ends : ∀ c ∈ r.head?, c.isDigit = false) : splitDigits (ds ++ r) = (ds, r) := by
  have tail : r.takeWhile Char.isDigit = [] ∧ r.dropWhile Char.isDigit = r := by
    cases r with
    | nil => simp
    | cons c r => simp [ends c (by simp)]
  simp only [splitDigits, List.takeWhile_append_of_pos all, List.dropWhile_append_of_pos all, tail,
    List.append_nil]

theorem EndsNumber.not_digit {rest : List Char} (h : EndsNumber rest) :
    ∀ c ∈ rest.head?, c.isDigit = false := fun c hc => (h c hc).1

theorem Exponent.not_digit {e rest : List Char} (h : Exponent e) (ends : EndsNumber rest) :
    ∀ c ∈ (e ++ rest).head?, c.isDigit = false := by
  cases h with
  | none => exact ends.not_digit
  | mark isMark =>
    intro c hc
    obtain rfl : _ = c := by simpa using hc
    by_contra digit
    simp only [isExponentMark, Bool.or_eq_true, beq_iff_eq] at isMark
    rcases isMark with rfl | rfl <;> exact digit (by decide)

theorem Fraction.not_digit {f e rest : List Char} (h : Fraction f) (he : Exponent e)
    (ends : EndsNumber rest) : ∀ c ∈ (f ++ (e ++ rest)).head?, c.isDigit = false := by
  cases h with
  | none => exact he.not_digit ends
  | point =>
    intro c hc
    obtain rfl : _ = c := by simpa using hc
    decide

theorem exponentSign_signed {sign ds : List Char}
    (signed : sign = [] ∨ sign = ['+'] ∨ sign = ['-']) (digits : Digits ds) (rest : List Char) :
    ∃ down, exponentSign (sign ++ (ds ++ rest)) = (down, ds ++ rest) := by
  rcases signed with rfl | rfl | rfl
  · obtain ⟨c, r, rfl⟩ := List.exists_cons_of_ne_nil digits.ne_nil
    have digit := digits.all c (by simp)
    refine ⟨false, ?_⟩
    simp only [List.nil_append, List.cons_append]
    unfold exponentSign
    split
    · rename_i h
      exact absurd (List.cons.inj h).1 (Text.ne_of_test digit (by decide))
    · rename_i h
      exact absurd (List.cons.inj h).1 (Text.ne_of_test digit (by decide))
    · rfl
  · exact ⟨false, rfl⟩
  · exact ⟨true, rfl⟩

section

variable {negative : Bool} {significand dropped : Nat} {exponent : Int} {rest : List Char}

theorem floatResult_leaves :
    Leaves True (fun _ => True) rest (floatResult negative significand exponent rest) := by
  unfold floatResult
  split
  · exact .of_ok trivial
  · exact trivial

theorem exponentRest_leaves {sign ds : List Char}
    (signed : sign = [] ∨ sign = ['+'] ∨ sign = ['-']) (digits : Digits ds)
    (ends : EndsNumber rest) :
    Leaves True (fun _ => True) rest
      (exponentRest negative significand exponent (sign ++ (ds ++ rest))) := by
  obtain ⟨down, hsign⟩ := exponentSign_signed signed digits rest
  simp only [exponentRest, hsign, splitDigits_digits digits.all ends.not_digit,
    List.isEmpty_iff, digits.ne_nil, ↓reduceIte]
  split
  · exact floatResult_leaves
  · split
    · exact trivial
    · exact .of_ok trivial

theorem floatRest_leaves {e : List Char} (h : Exponent e) (ends : EndsNumber rest) :
    Leaves True (fun _ => True) rest
      (floatRest negative significand exponent (e ++ rest)) := by
  cases h with
  | none =>
    rw [List.nil_append]
    match rest, ends with
    | [], _ => exact floatResult_leaves
    | c :: r, ends =>
      simp only [floatRest, (ends c (by simp)).2.2, Bool.false_eq_true, ↓reduceIte]
      exact floatResult_leaves
  | mark isMark signed digits =>
    simp only [List.cons_append, List.append_assoc, floatRest, isMark, ↓reduceIte]
    exact exponentRest_leaves signed digits ends

theorem fractionRest_leaves {ds e : List Char} (digits : Digits ds) (h : Exponent e)
    (ends : EndsNumber rest) :
    Leaves True (fun _ => True) rest
      (fractionRest negative significand exponent (ds ++ (e ++ rest))) := by
  simp only [fractionRest, splitDigits_digits digits.all (h.not_digit ends), List.isEmpty_iff,
    digits.ne_nil, ↓reduceIte]
  exact floatRest_leaves h ends

theorem integerResult_rest : (integerResult negative significand rest).2 = rest := by
  unfold integerResult
  split
  · rfl
  · split <;> rfl

/-- Without a fraction, the number goes on with an exponent or has ended. -/
theorem integerRest_exponent {e : List Char} (h : Exponent e) (ends : EndsNumber rest) :
    Leaves True (fun _ => True) rest
      (integerRest negative significand dropped (e ++ rest)) := by
  have float : Leaves True (fun _ => True) rest
      (floatRest negative significand dropped (e ++ rest)) := floatRest_leaves h ends
  cases h with
  | none =>
    rw [List.nil_append] at float ⊢
    unfold integerRest
    split
    · exact absurd rfl (ends '.' (by simp)).2.1
    · split
      · exact float
      · exact ⟨trivial, integerResult_rest⟩
    · split
      · exact float
      · exact ⟨trivial, integerResult_rest⟩
  | mark isMark =>
    rw [List.cons_append] at float ⊢
    unfold integerRest
    split
    · rename_i h
      rw [(List.cons.inj h).1] at isMark
      exact absurd isMark (by decide)
    · rename_i h
      rw [(List.cons.inj h).1] at isMark
      rw [if_pos (.inr isMark)]
      exact float
    · rename_i h
      simp at h

theorem integerRest_leaves {f e : List Char} (hf : Fraction f) (he : Exponent e)
    (ends : EndsNumber rest) :
    Leaves True (fun _ => True) rest
      (integerRest negative significand dropped (f ++ (e ++ rest))) := by
  cases hf with
  | none => exact integerRest_exponent he ends
  | point digits => exact fractionRest_leaves digits he ends

theorem numberRest_leaves {t : List Char} (h : Magnitude t) (ends : EndsNumber rest) :
    Leaves True (fun _ => True) rest (numberRest negative (t ++ rest)) := by
  obtain ⟨whole, hf, he⟩ := h
  simp only [List.append_assoc, numberRest, splitDigits_digits whole.all (hf.not_digit he ends)]
  split
  · exact absurd rfl whole.ne_nil
  · rename_i more
    obtain rfl := whole.zero_alone more rfl
    exact integerRest_leaves hf he ends
  · exact integerRest_leaves hf he ends

theorem skipFloatRest_exponent {e : List Char} (h : Exponent e) (ends : EndsNumber rest) :
    skipFloatRest (e ++ rest) = .ok rest := by
  cases h with
  | none =>
    match rest, ends with
    | [], _ => rfl
    | c :: r, ends => simp [skipFloatRest, (ends c (by simp)).2.2]
  | mark isMark signed digits =>
    obtain ⟨down, hsign⟩ := exponentSign_signed signed digits rest
    simp [skipFloatRest, isMark, skipExponentRest, hsign,
      splitDigits_digits digits.all ends.not_digit, digits.ne_nil]

theorem skipIntegerRest_fraction {f e : List Char} (hf : Fraction f) (he : Exponent e)
    (ends : EndsNumber rest) : skipIntegerRest (f ++ (e ++ rest)) = .ok rest := by
  have float := skipFloatRest_exponent he ends
  cases hf with
  | none =>
    rw [List.nil_append]
    unfold skipIntegerRest
    split
    · rename_i r h
      cases he with
      | none => exact absurd rfl (ends '.' (by simp [show rest = _ from h])).2.1
      | mark isMark =>
        rw [(List.cons.inj h).1] at isMark
        exact absurd isMark (by decide)
    · exact float
  | point digits =>
    simp [skipIntegerRest, splitDigits_digits digits.all (he.not_digit ends), digits.ne_nil, float]

theorem skipNumberRest_magnitude {t : List Char} (h : Magnitude t) (ends : EndsNumber rest) :
    skipNumberRest (t ++ rest) = .ok rest := by
  obtain ⟨whole, hf, he⟩ := h
  simp only [List.append_assoc, skipNumberRest,
    splitDigits_digits whole.all (hf.not_digit he ends)]
  split
  · exact absurd rfl whole.ne_nil
  · rename_i more
    obtain rfl := whole.zero_alone more rfl
    exact skipIntegerRest_fraction hf he ends
  · exact skipIntegerRest_fraction hf he ends

end

theorem keywordRest_append (word rest : List Char) :
    keywordRest word (word ++ rest) = .ok rest := by
  induction word with
  | nil => rfl
  | cons c word ih => simpa [keywordRest] using ih

end EndpointHooks.Json
