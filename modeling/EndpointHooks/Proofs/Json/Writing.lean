import EndpointHooks.Json.Printer
import EndpointHooks.Proofs.Json.Values

/-! The texts that write a value: the tokens are those of its compact text, and any blanks may stand
between them. A value so written is read back. Floats have no part in it, and the fields of an
object are sorted by name, as an object is kept. -/

namespace EndpointHooks.Json

variable {b t r rest : List Char}

/-- The text of a name between its quotes. -/
def WritesName (name : String) (n : List Char) : Prop := n = name.toList.flatMap stringChar

/-- The text of a value without brackets, an integer of 64 bits with or without sign among them. -/
inductive WritesScalar : Json → List Char → Prop
  | null : WritesScalar .null ['n', 'u', 'l', 'l']
  | true : WritesScalar (.bool true) ['t', 'r', 'u', 'e']
  | false : WritesScalar (.bool false) ['f', 'a', 'l', 's', 'e']
  | str {s : String} {n : List Char} (written : WritesName s n) :
      WritesScalar (.str s) ('"' :: (n ++ ['"']))
  | natural {n : Nat} (high : n < 0x10000000000000000) : WritesScalar (.int n) (Nat.toDigits 10 n)
  | negative {n : Nat} (low : 0 < n) (high : n ≤ 0x8000000000000000) :
      WritesScalar (.int (-n)) ('-' :: Nat.toDigits 10 n)

/-- The texts that write a value whose brackets nest at most to a depth. -/
def Writes : Nat → Json → List Char → Prop
  | 0 => WritesScalar
  | depth + 1 => fun v t =>
    WritesScalar v t ∨
    (∃ items s, v = .arr items ∧ Listed (Writes depth) true items s ∧ t = '[' :: (s ++ [']'])) ∨
    ∃ fields s, v = .obj fields ∧ fields.Pairwise (fun f g => f.1 < g.1) ∧
      Listed (Member WritesName (Writes depth)) true fields s ∧ t = '\x7b' :: (s ++ ['\x7d'])

/-! ### Strings -/

/-- A character is written as an escape of one character, as the code of a control character or as
itself. -/
theorem stringChar_cases (c : Char) :
    (∃ e ∈ ['"', '\\', '/', 'b', 'f', 'n', 'r', 't'],
      shortEscape? e = some c ∧ stringChar c = ['\\', e]) ∨
    (c.toNat < 0x20 ∧ stringChar c = '\\' :: 'u' :: '0' :: '0' :: Text.hexPair c.toNat) ∨
    (c ≠ '"' ∧ c ≠ '\\' ∧ 0x20 ≤ c.toNat ∧ stringChar c = [c]) := by
  by_cases quote : c = '"'
  · exact .inl ⟨'"', by decide, by subst quote; decide⟩
  by_cases backslash : c = '\\'
  · exact .inl ⟨'\\', by decide, by subst backslash; decide⟩
  by_cases backspace : c = '\x08'
  · exact .inl ⟨'b', by decide, by subst backspace; decide⟩
  by_cases tab : c = '\t'
  · exact .inl ⟨'t', by decide, by subst tab; decide⟩
  by_cases newline : c = '\n'
  · exact .inl ⟨'n', by decide, by subst newline; decide⟩
  by_cases feed : c = '\x0c'
  · exact .inl ⟨'f', by decide, by subst feed; decide⟩
  by_cases carriage : c = '\r'
  · exact .inl ⟨'r', by decide, by subst carriage; decide⟩
  by_cases control : c.toNat < 0x20
  · refine .inr (.inl ⟨control, ?_⟩)
    simp [stringChar, quote, backslash, backspace, tab, newline, feed, carriage, control]
  · refine .inr (.inr ⟨quote, backslash, by omega, ?_⟩)
    simp [stringChar, quote, backslash, backspace, tab, newline, feed, carriage, control]

theorem hexNumber?_control :
    ∀ n < 0x20, Text.hexNumber? ('0' :: '0' :: Text.hexPair n) = some n := by
  decide

theorem hexValue?_hexDigit : ∀ n < 0x10, (Text.hexValue? (Text.hexDigit n)).isSome := by
  decide

theorem hexValue?_control {n : Nat} (h : n < 0x20) :
    ∀ c ∈ '0' :: '0' :: Text.hexPair n, (Text.hexValue? c).isSome := by
  intro c hc
  simp only [Text.hexPair, List.mem_cons, List.not_mem_nil, or_false] at hc
  rcases hc with rfl | rfl | rfl | rfl
  · decide
  · decide
  · exact hexValue?_hexDigit _ (by omega)
  · exact hexValue?_hexDigit _ (by omega)

theorem escapeRest_control {c : Char} (h : c.toNat < 0x20) (r : List Char) :
    escapeRest ('u' :: ('0' :: '0' :: Text.hexPair c.toNat ++ r)) = .ok (c, r) := by
  have quad := hexQuad_of_hexNumber rfl (hexNumber?_control _ h) r
  have low : ¬(0xDC00 ≤ c.toNat ∧ c.toNat ≤ 0xDFFF) := by omega
  have high : ¬(0xD800 ≤ c.toNat ∧ c.toNat ≤ 0xDBFF) := by omega
  simp only [escapeRest, show shortEscape? 'u' = none by decide, ↓reduceIte, quad, bind,
    Except.bind, low, high, Char.ofNat_toNat]

theorem stringCharsRest_stringChar (c : Char) (r : List Char) :
    stringCharsRest (stringChar c ++ r) = (stringCharsRest r).map fun p => (c :: p.1, p.2) := by
  obtain ⟨e, -, escape, eq⟩ | ⟨control, eq⟩ | ⟨quote, backslash, printable, eq⟩ :=
    stringChar_cases c
  · rw [eq]
    exact stringCharsRest_escape (by simp [escapeRest, escape])
  · rw [eq]
    exact stringCharsRest_escape (escapeRest_control control r)
  · rw [eq]
    exact stringCharsRest_plain quote backslash printable r

theorem stringCharsRest_flatMap (s rest : List Char) :
    stringCharsRest (s.flatMap stringChar ++ '"' :: rest) = .ok (s, rest) := by
  induction s with
  | nil => exact stringCharsRest_quote rest
  | cons c s ih =>
    rw [List.flatMap_cons, List.append_assoc, stringCharsRest_stringChar, ih]
    rfl

theorem WritesName.stringRest_eq {name : String} {n : List Char} (h : WritesName name n)
    (rest : List Char) : stringRest (n ++ '"' :: rest) = .ok (name, rest) := by
  rw [stringRest, h, stringCharsRest_flatMap]
  simp [Except.map]

theorem WritesName.stringRest_leaves {name : String} {n : List Char} (h : WritesName name n)
    (rest : List Char) : Leaves False (Eq name) rest (stringRest (n ++ '"' :: rest)) :=
  Leaves.iff_ok.mpr (h.stringRest_eq rest)

theorem StringBody.flatMap (s : List Char) : StringBody (s.flatMap stringChar) := by
  induction s with
  | nil => exact .nil
  | cons c s ih =>
    rw [List.flatMap_cons]
    obtain ⟨e, escape, -, eq⟩ | ⟨control, eq⟩ | ⟨quote, backslash, printable, eq⟩ :=
      stringChar_cases c
    · rw [eq]
      exact .short escape ih
    · rw [eq]
      exact .code rfl (hexValue?_control control) ih
    · rw [eq]
      exact .plain quote backslash printable ih

theorem WritesName.stringBody {name : String} {n : List Char} (h : WritesName name n) :
    StringBody n := by
  rw [h]
  exact .flatMap _

/-! ### Integers -/

theorem le_ofDigitChars (ds : List Char) (n : Nat) : n ≤ Nat.ofDigitChars 10 ds n := by
  rw [Nat.ofDigitChars_eq_ofDigitChars_zero]
  have power : 0 < 10 ^ ds.length := Nat.pow_pos (by decide)
  have product := Nat.le_mul_of_pos_left n power
  omega

/-- Digits of a number below the limit are all taken. -/
theorem absorb_ofDigitChars {limit n : Nat} {ds : List Char}
    (h : Nat.ofDigitChars 10 ds n < limit) :
    absorb limit n ds = (Nat.ofDigitChars 10 ds n, []) := by
  induction ds generalizing n with
  | nil => simp [absorb]
  | cons d ds ih =>
    rw [Nat.ofDigitChars_cons] at h ⊢
    have below := le_ofDigitChars ds (10 * n + digitValue d)
    rw [absorb, if_pos (Nat.lt_of_le_of_lt below h)]
    exact ih h

theorem eq_zero_of_toDigits {n : Nat} {more : List Char} (h : Nat.toDigits 10 n = '0' :: more) :
    n = 0 := by
  induction n using Nat.strongRecOn generalizing more with
  | ind n ih =>
    by_cases small : n < 10
    · rw [Nat.toDigits_of_lt_base small] at h
      exact Nat.digitChar_eq_zero.mp (List.cons.inj h).1
    · rw [Nat.toDigits_of_base_le (by decide) (by omega)] at h
      have digits : Nat.toDigits 10 (n / 10) ≠ [] := Nat.toDigits_ne_nil
      obtain ⟨c, front, eq⟩ := List.exists_cons_of_ne_nil digits
      rw [eq, List.cons_append] at h
      have quotient := ih (n / 10) (by omega) (eq.trans (by rw [(List.cons.inj h).1]))
      omega

theorem wholePart_toDigits (n : Nat) : WholePart (Nat.toDigits 10 n) where
  ne_nil := Nat.toDigits_ne_nil
  all := fun _ hc => Nat.isDigit_of_mem_toDigits (by decide) (by decide) hc
  zero_alone := fun more h => by
    rw [eq_zero_of_toDigits h, Nat.toDigits_zero] at h
    exact (List.cons.inj h).2.symm

theorem magnitude_toDigits (n : Nat) : Magnitude (Nat.toDigits 10 n) := by
  have h := Magnitude.mk (wholePart_toDigits n) .none .none
  simpa using h

theorem integerRest_ends {negative : Bool} {n : Nat} (ends : EndsNumber rest) :
    integerRest negative n 0 rest = .ok (integerResult negative n rest) := by
  unfold integerRest
  split
  · exact absurd rfl (ends '.' (by simp)).2.1
  · rename_i c _ _
    simp [(ends c (by simp)).2.2]
  · simp

theorem numberRest_toDigits {negative : Bool} {n : Nat} (h : n < 0x10000000000000000)
    (ends : EndsNumber rest) :
    numberRest negative (Nat.toDigits 10 n ++ rest) = .ok (integerResult negative n rest) := by
  have whole := wholePart_toDigits n
  have value : Nat.ofDigitChars 10 (Nat.toDigits 10 n) 0 = n := Nat.ofDigitChars_ten_toDigits
  simp only [numberRest, splitDigits_digits whole.all ends.not_digit]
  split
  · rename_i h
    exact absurd h whole.ne_nil
  · rename_i more eq
    obtain rfl := whole.zero_alone more eq
    obtain rfl := eq_zero_of_toDigits eq
    exact integerRest_ends ends
  · have all : absorb significandLimit 0 (Nat.toDigits 10 n) = (n, []) := by
      rw [absorb_ofDigitChars (value.symm ▸ h), value]
    rw [all]
    exact integerRest_ends ends

/-! ### Values -/

theorem WritesScalar.scalar {v : Json} (h : WritesScalar v t) : Scalar t := by
  cases h with
  | null => exact .null
  | true => exact .true
  | false => exact .false
  | str written => exact .string written.stringBody
  | natural => exact .positive (magnitude_toDigits _)
  | negative => exact .negative (magnitude_toDigits _)

theorem integerResult_negative {n : Nat} (low : 0 < n) (high : n ≤ 0x8000000000000000) :
    integerResult true n rest = (.int (-n), rest) := by
  have fits : n ≠ 0 ∧ n ≤ 0x8000000000000000 := by omega
  rw [integerResult, if_neg (by decide), if_pos fits]

theorem WritesScalar.scalar_eq {v : Json} {c : Char} (h : WritesScalar v t) (eq : t = c :: r)
    (ends : EndsNumber rest) : Json.scalar c (r ++ rest) = .ok (v, rest) := by
  cases h with
  | null | true | false =>
    obtain ⟨rfl, rfl⟩ := List.cons.inj eq
    simp only [Json.scalar, Char.reduceEq, ↓reduceIte, keywordRest_append, Except.map]
  | str written =>
    obtain ⟨rfl, rfl⟩ := List.cons.inj eq
    simp only [Json.scalar, ↓reduceIte, List.append_assoc, List.singleton_append,
      written.stringRest_eq, Except.map]
  | @natural n high =>
    have magnitude : Magnitude (c :: r) := eq ▸ magnitude_toDigits n
    have digit := magnitude.isDigit_head
    simp only [Json.scalar, ne_head_of_isDigit digit, digit, ↓reduceIte]
    rw [← List.cons_append, ← eq, numberRest_toDigits high ends]
    rfl
  | negative low high =>
    obtain ⟨rfl, rfl⟩ := List.cons.inj eq
    simp only [Json.scalar, Char.reduceEq, ↓reduceIte]
    rw [numberRest_toDigits (by omega) ends, integerResult_negative low high]

theorem WritesScalar.value_takes {v : Json} (h : WritesScalar v t) (limit : Nat) :
    Takes False (Eq v) (value limit) t := by
  intro b rest blank ends
  obtain ⟨c, r, eq, notBlank, -⟩ := h.scalar.begins
  have bracket := (show Scalar (c :: r) from eq ▸ h.scalar).not_bracket
  rw [eq, List.cons_append, value_scalar blank notBlank bracket, h.scalar_eq eq ends]
  exact .of_ok rfl

/-- A field whose name comes after all others is put at the end. -/
theorem insertField_last {name : String} {value : Json} {fields : List (String × Json)}
    (h : ∀ f ∈ fields, f.1 < name) : insertField name value fields = fields ++ [(name, value)] := by
  induction fields with
  | nil => rfl
  | cons f fields ih =>
    have before := h f (by simp)
    have ne : name ≠ f.1 := by
      rintro rfl
      exact String.lt_irrefl _ before
    rw [insertField, if_neg ne, if_neg (String.lt_asymm before), ih fun g hg => h g (by simp [hg])]
    rfl

theorem ofFields_of_sorted {fields : List (String × Json)}
    (h : fields.Pairwise (fun f g => f.1 < g.1)) : ofFields fields = .obj fields := by
  suffices fold : ∀ sorted, (sorted ++ fields).Pairwise (fun f g => f.1 < g.1) →
      fields.foldl (fun sorted f => insertField f.1 f.2 sorted) sorted = sorted ++ fields by
    rw [ofFields, fold [] h, List.nil_append]
  clear h
  induction fields with
  | nil => simp
  | cons f fields ih =>
    intro sorted h
    have last : ∀ g ∈ sorted, g.1 < f.1 := fun g hg =>
      (List.pairwise_append.mp h).2.2 g hg f (by simp)
    rw [List.foldl_cons, insertField_last last, ih]
    · simp
    · simpa using h

def kind : Json → Kind
  | arr items => .array items.length
  | obj _ => .object
  | _ => .scalar

variable {depth : Nat} {v : Json}

/-- What writes a value is a text of the grammar. -/
theorem Writes.valueText (h : Writes depth v t) : ValueText depth v.kind t := by
  induction depth generalizing v t with
  | zero => exact ⟨by cases h <;> rfl, h.scalar⟩
  | succ depth ih =>
    obtain h | ⟨items, s, rfl, listed, rfl⟩ | ⟨fields, s, rfl, -, listed, rfl⟩ := h
    · exact .inl ⟨by cases h <;> rfl, h.scalar⟩
    · have items := listed.map (ValueText depth) kind fun _ _ item _ => ih item
      exact .inr (.inl ⟨_, s, by simp [kind], items, rfl⟩)
    · have members := listed.map (Member AnyName (ValueText depth)) (fun f => ((), f.2.kind))
        fun _ _ member _ => member.map (fun _ => ()) kind
          (fun _ _ name => name.stringBody) fun _ _ item _ => ih item
      exact .inr (.inr ⟨_, s, rfl, members, rfl⟩)

/-- A value is read back from what writes it. -/
theorem Writes.value_takes (h : Writes depth v t) {limit : Nat} (enough : depth ≤ limit) :
    Takes False (Eq v) (value limit) t := by
  induction depth generalizing v t limit with
  | zero => exact h.value_takes limit
  | succ depth ih =>
    obtain ⟨limit, rfl⟩ := Nat.exists_eq_add_one.mpr (Nat.zero_lt_of_lt enough)
    have takes : ∀ w u, Writes depth w u → Takes False (Eq w) (value limit) u :=
      fun _ _ item => ih item (Nat.le_of_succ_le_succ enough)
    obtain h | ⟨items, s, rfl, listed, rfl⟩ | ⟨fields, s, rfl, sorted, listed, rfl⟩ := h
    · exact h.value_takes _
    · intro b rest blank _
      simp only [List.cons_append, List.append_assoc]
      rw [value_array blank]
      refine Leaves.map (items_listed (fun _ _ item => item.valueText.begins) takes listed rest)
        (fun _ => rfl) fun read hread => ?_
      rw [List.forall₂_eq_eq_eq] at hread
      rw [hread]
    · intro b rest blank _
      simp only [List.cons_append, List.append_assoc]
      rw [value_object blank]
      refine Leaves.map (fields_listed (fun _ _ name => name.stringRest_leaves) takes listed rest)
        (fun _ => rfl) fun read hread => ?_
      simp only [← Prod.ext_iff, List.forall₂_eq_eq_eq] at hread
      rw [← hread, ofFields_of_sorted sorted]

end EndpointHooks.Json
