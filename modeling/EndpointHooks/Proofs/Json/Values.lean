import EndpointHooks.Proofs.Json.Tokens

/-! Whole values of the grammar, by induction on their nesting. A value that is read for use may be
refused but is never left in the middle; a value that is passed over is taken whatever it is. -/

namespace EndpointHooks.Json

variable {depth : Nat} {kind : Kind} {b t r rest : List Char}

theorem Magnitude.isDigit_head {c : Char} (h : Magnitude (c :: r)) : c.isDigit = true := by
  obtain ⟨d, _, eq, digit⟩ := h.head
  rwa [(List.cons.inj eq).1]

/-- A digit begins no other value than a number. -/
theorem ne_head_of_isDigit {c : Char} (h : c.isDigit = true) :
    c ≠ '"' ∧ c ≠ 'n' ∧ c ≠ 't' ∧ c ≠ 'f' ∧ c ≠ '-' ∧ c ≠ '[' ∧ c ≠ '\x7b' := by
  refine ⟨?_, ?_, ?_, ?_, ?_, ?_, ?_⟩ <;> exact Text.ne_of_test h (by decide)

theorem Scalar.not_bracket {c : Char} (h : Scalar (c :: r)) : ¬(c = '[' ∨ c = '\x7b') := by
  cases h with
  | positive magnitude => simp [ne_head_of_isDigit magnitude.isDigit_head]
  | _ => decide

theorem scalar_leaves {c : Char} (h : Scalar (c :: r)) (ends : EndsNumber rest) :
    Leaves True (fun _ => True) rest (scalar c (r ++ rest)) := by
  cases h with
  | null | true | false =>
    simp only [scalar, Char.reduceEq, ↓reduceIte, keywordRest_append, Except.map]
    exact .of_ok trivial
  | string body =>
    simp only [scalar, ↓reduceIte, List.append_assoc, List.singleton_append]
    exact (stringRest_body body rest).map (fun _ => rfl) fun _ _ => trivial
  | negative magnitude =>
    simp only [scalar, Char.reduceEq, ↓reduceIte]
    exact numberRest_leaves magnitude ends
  | positive magnitude =>
    have digit := magnitude.isDigit_head
    simp only [scalar, ne_head_of_isDigit digit, digit, ↓reduceIte]
    exact numberRest_leaves magnitude ends

theorem skipScalar_scalar {c : Char} (h : Scalar (c :: r)) (ends : EndsNumber rest) :
    skipScalar c (r ++ rest) = .ok rest := by
  cases h with
  | null | true | false =>
    simp only [skipScalar, Char.reduceEq, ↓reduceIte, keywordRest_append]
  | string body =>
    simp only [skipScalar, ↓reduceIte, List.append_assoc, List.singleton_append]
    exact skipStringRest_body body rest
  | negative magnitude =>
    simp only [skipScalar, Char.reduceEq, ↓reduceIte]
    exact skipNumberRest_magnitude magnitude ends
  | positive magnitude =>
    have digit := magnitude.isDigit_head
    simp only [skipScalar, ne_head_of_isDigit digit, digit, ↓reduceIte]
    exact skipNumberRest_magnitude magnitude ends

/-! ### Values read for use -/

theorem value_scalar {c : Char} (blank : Blank b) (h : isBlank c = false)
    (bracket : ¬(c = '[' ∨ c = '\x7b')) : value depth (b ++ c :: r) = scalar c r := by
  rw [value]
  simp only [skipBlanks_append blank, skipBlanks_cons h, bracket, ↓reduceIte]

theorem value_tooDeep {c : Char} (blank : Blank b) (bracket : c = '[' ∨ c = '\x7b') :
    value 0 (b ++ c :: r) = .error (.inside (c :: r) .tooDeep) := by
  have notBlank : isBlank c = false := by rcases bracket with rfl | rfl <;> decide
  rw [value]
  simp only [skipBlanks_append blank, skipBlanks_cons notBlank, bracket, ↓reduceIte]

theorem value_array (blank : Blank b) :
    value (depth + 1) (b ++ '[' :: r) =
      (items .wanted (value depth) r).map fun p => (.arr p.1, p.2) := by
  rw [value]
  simp [skipBlanks_append blank, skipBlanks_cons (show isBlank '[' = false by decide)]

theorem value_object (blank : Blank b) :
    value (depth + 1) (b ++ '\x7b' :: r) =
      (fields .wanted stringRest (value depth) r).map fun p => (ofFields p.1, p.2) := by
  rw [value]
  simp [skipBlanks_append blank, skipBlanks_cons (show isBlank '\x7b' = false by decide)]

theorem Scalar.value_takes (h : Scalar t) (limit : Nat) :
    Takes True (fun _ => True) (value limit) t := by
  intro b rest blank ends
  obtain ⟨c, r, rfl, notBlank, -⟩ := h.begins
  rw [List.cons_append, value_scalar blank notBlank h.not_bracket]
  exact scalar_leaves h ends

/-- A reader of values takes a value of the grammar whole or not at all, whatever nesting it
allows. -/
theorem ValueText.value_takes (h : ValueText depth kind t) (limit : Nat) :
    Takes True (fun _ => True) (value limit) t := by
  induction depth generalizing kind t limit with
  | zero => exact h.2.value_takes limit
  | succ depth ih =>
    obtain ⟨-, h⟩ | ⟨kinds, s, -, listed, rfl⟩ | ⟨members, s, -, listed, rfl⟩ := h
    · exact h.value_takes limit
    · intro b rest blank _
      simp only [List.cons_append, List.append_assoc]
      cases limit with
      | zero =>
        -- No bracket may be opened any more: the value is refused.
        rw [value_tooDeep blank (.inl rfl)]
        exact trivial
      | succ limit =>
        rw [value_array blank]
        refine Leaves.map (items_listed (fun _ _ item => item.begins)
          (fun _ _ item => ih item limit) listed rest) (fun _ => rfl) fun _ _ => trivial
    · intro b rest blank _
      simp only [List.cons_append, List.append_assoc]
      cases limit with
      | zero =>
        rw [value_tooDeep blank (.inr rfl)]
        exact trivial
      | succ limit =>
        rw [value_object blank]
        refine Leaves.map (fields_listed (fun _ _ name => stringRest_body name)
          (fun _ _ item => ih item limit) listed rest) (fun _ => rfl) fun _ _ => trivial

/-! ### Values passed over -/

theorem skipNested_scalar {c : Char} (blank : Blank b) (h : isBlank c = false)
    (bracket : ¬(c = '[' ∨ c = '\x7b')) :
    skipNested depth (b ++ c :: r) = (skipScalar c r).map noValue := by
  rw [skipNested]
  simp only [skipBlanks_append blank, skipBlanks_cons h, bracket, ↓reduceIte]

theorem skipNested_array (blank : Blank b) :
    skipNested (depth + 1) (b ++ '[' :: r) =
      (items .unwanted (skipNested depth) r).map fun p => noValue p.2 := by
  rw [skipNested]
  simp [skipBlanks_append blank, skipBlanks_cons (show isBlank '[' = false by decide)]

theorem skipNested_object (blank : Blank b) :
    skipNested (depth + 1) (b ++ '\x7b' :: r) =
      (fields .unwanted (fun s => (skipStringRest s).map noValue) (skipNested depth) r).map
        fun p => noValue p.2 := by
  rw [skipNested]
  simp [skipBlanks_append blank, skipBlanks_cons (show isBlank '\x7b' = false by decide)]

theorem Scalar.skipNested_takes (h : Scalar t) (limit : Nat) :
    Takes False (fun _ => True) (skipNested limit) t := by
  intro b rest blank ends
  obtain ⟨c, r, rfl, notBlank, -⟩ := h.begins
  rw [List.cons_append, skipNested_scalar blank notBlank h.not_bracket, skipScalar_scalar h ends]
  exact .of_ok trivial

theorem skipName_leaves {n : List Char} (h : StringBody n) (rest : List Char) :
    Leaves False (fun _ => True) rest ((skipStringRest (n ++ '"' :: rest)).map noValue) := by
  rw [skipStringRest_body h rest]
  exact .of_ok trivial

/-- The length of a text bounds its nesting. -/
theorem ValueText.skipNested_takes (h : ValueText depth kind t) {limit : Nat}
    (enough : t.length ≤ limit) : Takes False (fun _ => True) (skipNested limit) t := by
  induction depth generalizing kind t limit with
  | zero => exact h.2.skipNested_takes limit
  | succ depth ih =>
    obtain ⟨-, h⟩ | ⟨kinds, s, -, listed, rfl⟩ | ⟨members, s, -, listed, rfl⟩ := h
    · exact h.skipNested_takes limit
    · intro b rest blank _
      simp only [List.length_cons, List.length_append] at enough
      obtain ⟨limit, rfl⟩ := Nat.exists_eq_add_one.mpr (show 0 < limit by omega)
      have short := listed.map (fun k u => ValueText depth k u ∧ u.length ≤ limit) id
        fun _ _ item within => ⟨item, by omega⟩
      simp only [List.cons_append, List.append_assoc]
      rw [skipNested_array blank]
      refine Leaves.map (items_listed (fun _ _ item => item.1.begins)
        (fun _ _ item => ih item.1 item.2) short rest) (fun _ => rfl) fun _ _ => trivial
    · intro b rest blank _
      simp only [List.length_cons, List.length_append] at enough
      obtain ⟨limit, rfl⟩ := Nat.exists_eq_add_one.mpr (show 0 < limit by omega)
      have short := listed.map (Member AnyName fun k u => ValueText depth k u ∧ u.length ≤ limit) id
        fun _ _ member within => member.map id id (fun _ _ name => name)
          fun _ _ item shorter => ⟨item, by omega⟩
      simp only [List.cons_append, List.append_assoc]
      rw [skipNested_object blank]
      refine Leaves.map (fields_listed (fun _ _ name => skipName_leaves name)
        (fun _ _ item => ih item.1 item.2) short rest) (fun _ => rfl) fun _ _ => trivial

/-- Whatever value of the grammar stands there, it is passed over. -/
theorem ValueText.skipValue_eq (h : ValueText depth kind t) (blank : Blank b)
    (ends : EndsNumber rest) : skipValue (b ++ (t ++ rest)) = .ok rest := by
  have enough : t.length ≤ (b ++ (t ++ rest)).length := by
    simp only [List.length_append]
    omega
  have read : skipNested (b ++ (t ++ rest)).length (b ++ (t ++ rest)) = .ok ((), rest) :=
    Leaves.iff_ok.mp ((h.skipNested_takes enough b rest blank ends).mono fun _ _ => rfl)
  rw [skipValue, read]
  rfl

end EndpointHooks.Json
