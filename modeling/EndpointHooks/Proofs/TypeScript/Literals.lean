import EndpointHooks.Proofs.TypeScript.ReaderLemmas
import EndpointHooks.TypeScript.Literal
import Mathlib.Data.List.TakeWhile

/-! String literals as the language reads them. The value of a literal is a sequence of UTF-16 code
units, which may be escaped in all the ways that strict code allows; no line end stands inside
unescaped, and the first quote that is not escaped is the last. The literals and property keys that
are written here are read back to the strings they were written for, whatever text follows. -/

namespace EndpointHooks.TypeScript

/-! ### Code units -/

def isHighSurrogate (unit : Nat) : Bool := 0xD800 ≤ unit && unit ≤ 0xDBFF

def isLowSurrogate (unit : Nat) : Bool := 0xDC00 ≤ unit && unit ≤ 0xDFFF

/-- The code units of a code point: two surrogates beyond the first 65536 code points. -/
def codeUnits (code : Nat) : List Nat :=
  if code < 0x10000 then [code]
  else [0xD800 + (code - 0x10000) / 0x400, 0xDC00 + (code - 0x10000) % 0x400]

/-- The text that code units make up, unless a surrogate stands alone. -/
def ofCodeUnits? : List Nat → Option (List Char)
  | [] => some []
  | [unit] => if isHighSurrogate unit || isLowSurrogate unit then none else some [Char.ofNat unit]
  | unit :: next :: rest =>
    if isHighSurrogate unit then
      if isLowSurrogate next then
        (ofCodeUnits? rest).map
          (Char.ofNat (0x10000 + (unit - 0xD800) * 0x400 + (next - 0xDC00)) :: ·)
      else none
    else if isLowSurrogate unit then none
    else (ofCodeUnits? (next :: rest)).map (Char.ofNat unit :: ·)

theorem not_surrogate (c : Char) :
    isHighSurrogate c.toNat = false ∧ isLowSurrogate c.toNat = false := by
  have hvalid : c.toNat < 0xD800 ∨ 0xDFFF < c.toNat ∧ c.toNat < 0x110000 := c.valid
  simp only [isHighSurrogate, isLowSurrogate, Bool.and_eq_false_iff, decide_eq_false_iff_not]
  omega

theorem ofCodeUnits?_append (c : Char) (units : List Nat) :
    ofCodeUnits? (codeUnits c.toNat ++ units) = (ofCodeUnits? units).map (c :: ·) := by
  by_cases hsmall : c.toNat < 0x10000
  · obtain ⟨hhigh, hlow⟩ := not_surrogate c
    cases units <;> simp [codeUnits, hsmall, ofCodeUnits?, hhigh, hlow]
  · have hbound : c.toNat < 0x110000 := by
      have hvalid : c.toNat < 0xD800 ∨ 0xDFFF < c.toNat ∧ c.toNat < 0x110000 := c.valid
      omega
    have hhigh : isHighSurrogate (0xD800 + (c.toNat - 0x10000) / 0x400) = true := by
      simp only [isHighSurrogate, Bool.and_eq_true, decide_eq_true_eq]
      omega
    have hlow : isLowSurrogate (0xDC00 + (c.toNat - 0x10000) % 0x400) = true := by
      simp only [isLowSurrogate, Bool.and_eq_true, decide_eq_true_eq]
      omega
    have hcode : 0x10000 + (0xD800 + (c.toNat - 0x10000) / 0x400 - 0xD800) * 0x400 +
        (0xDC00 + (c.toNat - 0x10000) % 0x400 - 0xDC00) = c.toNat := by omega
    rw [codeUnits, if_neg hsmall, List.cons_append, List.cons_append, List.nil_append,
      ofCodeUnits?, if_pos hhigh, if_pos hlow, hcode, Char.ofNat_toNat]

/-- A text is read back from its code units. -/
theorem ofCodeUnits?_flatMap (s : List Char) :
    ofCodeUnits? (s.flatMap fun c => codeUnits c.toNat) = some s := by
  induction s with
  | nil => rfl
  | cons c s ih => rw [List.flatMap_cons, ofCodeUnits?_append, ih, Option.map_some]

/-! ### The reader -/

namespace Reader

/-- A code unit given by a fixed number of hexadecimal digits. -/
def hexEscape (count : Nat) : Reader (List Nat) := fun s =>
  if s.length < count then none
  else (Text.hexNumber? (s.take count)).map fun unit => ([unit], s.drop count)

/-- A code point given by hexadecimal digits up to a closing brace. -/
def braceEscape : Reader (List Nat) := fun s => do
  let digits := s.takeWhile (· != '\x7d')
  let code ← Text.hexNumber? digits
  let rest ← after "\x7d" (s.dropWhile (· != '\x7d'))
  if digits ≠ [] ∧ code ≤ 0x10FFFF then some (codeUnits code, rest) else none

/-- The code units of an escape, after its backslash. A line end is no part of the value, a zero
is the null character, and a character without a meaning of its own stands for itself. -/
def escapeSequence : Reader (List Nat)
  | [] => none
  | 'x' :: s => hexEscape 2 s
  | 'u' :: '\x7b' :: s => braceEscape s
  | 'u' :: s => hexEscape 4 s
  | '\r' :: '\n' :: s => some ([], s)
  | c :: s =>
    if isLineEnd c then some ([], s)
    else if c.isDigit then
      if c = '0' ∧ s.head?.all (!·.isDigit) then some ([0], s) else none
    else some (codeUnits ((shortEscape? c).getD c).toNat, s)

theorem hexEscape_length {count : Nat} {s rest : List Char} {units : List Nat}
    (h : hexEscape count s = some (units, rest)) : rest.length ≤ s.length := by
  unfold hexEscape at h
  split at h
  · cases h
  · obtain ⟨unit, -, hrest⟩ := Option.map_eq_some_iff.mp h
    rw [Prod.mk.injEq] at hrest
    simp [← hrest.2]

theorem after_length {mark : String} {s rest : List Char} (h : after mark s = some rest) :
    rest.length ≤ s.length := by
  obtain ⟨front, rfl, -⟩ := List.dropPrefix?_eq_some_iff.mp h
  simp

theorem braceEscape_length {s rest : List Char} {units : List Nat}
    (h : braceEscape s = some (units, rest)) : rest.length ≤ s.length := by
  simp only [braceEscape, Option.bind_eq_bind, Option.bind_eq_some_iff] at h
  obtain ⟨code, -, more, hmore, hunits⟩ := h
  split at hunits
  · obtain ⟨-, rfl⟩ : codeUnits code = units ∧ more = rest := by simpa using hunits
    exact Nat.le_trans (after_length hmore) (List.length_dropWhile_le _ s)
  · cases hunits

theorem escapeSequence_length {s rest : List Char} {units : List Nat}
    (h : escapeSequence s = some (units, rest)) : rest.length ≤ s.length := by
  unfold escapeSequence at h
  split at h
  case h_1 => cases h
  case h_2 => exact Nat.le_succ_of_le (hexEscape_length h)
  case h_3 => exact Nat.le_succ_of_le (Nat.le_succ_of_le (braceEscape_length h))
  case h_4 => exact Nat.le_succ_of_le (hexEscape_length h)
  case h_5 =>
    cases h
    simp only [List.length_cons]
    omega
  case h_6 c s _ _ _ _ =>
    suffices s = rest by simp [this]
    split at h
    · simp_all
    · split at h
      · split at h <;> simp_all
      · simp_all

/-- The code units of a literal after its opening quote. -/
def literalUnits (s : List Char) : Option (List Nat × List Char) :=
  match s with
  | [] => none
  | c :: s =>
    if c = '"' then some ([], s)
    else if c = '\\' then
      match _h : escapeSequence s with
      | some (units, rest) => (literalUnits rest).map fun p => (units ++ p.1, p.2)
      | none => none
    else if isLineEnd c then none
    else (literalUnits s).map fun p => (codeUnits c.toNat ++ p.1, p.2)
termination_by s.length
decreasing_by
  · have := escapeSequence_length _h
    simp only [List.length_cons]
    omega
  · simp

/-- A literal whose code units make up a text. -/
def stringLiteral : Reader String := fun s => do
  let (units, rest) ← literalUnits (← after "\"" s)
  some (String.ofList (← ofCodeUnits? units), rest)

/-- A property key: a literal, or as many characters of an identifier as there are. -/
def key : Reader String := fun s =>
  if s.head? = some '"' then stringLiteral s
  else if isIdentifierShaped (s.takeWhile isIdentifierPart) then run isIdentifierPart s
  else none

/-! ### Written literals are read back -/

/-- An escape, without its backslash, that is read as a character and stays on its line. -/
structure IsEscapeOf (escaped : List Char) (c : Char) : Prop where
  reads : ∀ rest, escapeSequence (escaped ++ rest) = some (codeUnits c.toNat, rest)
  onLine : ∀ d ∈ escaped, isLineEnd d = false

theorem escapeChar_cases (c : Char) :
    (∃ escaped, escapeChar c = '\\' :: escaped ∧ IsEscapeOf escaped c) ∨
      escapeChar c = [c] ∧ c ≠ '"' ∧ c ≠ '\\' ∧ isLineEnd c = false := by
  by_cases hslash : c = '\\'
  · subst hslash
    exact .inl ⟨_, rfl, fun _ => rfl, by simp [isLineEnd]⟩
  by_cases hquote : c = '"'
  · subst hquote
    exact .inl ⟨_, rfl, fun _ => rfl, by simp [isLineEnd]⟩
  by_cases hfeed : c = '\n'
  · subst hfeed
    exact .inl ⟨_, rfl, fun _ => rfl, by simp [isLineEnd]⟩
  by_cases hreturn : c = '\r'
  · subst hreturn
    exact .inl ⟨_, rfl, fun _ => rfl, by simp [isLineEnd]⟩
  by_cases hline : c = '\u2028'
  · subst hline
    exact .inl ⟨_, rfl, fun _ => rfl, by simp [isLineEnd]⟩
  by_cases hparagraph : c = '\u2029'
  · subst hparagraph
    exact .inl ⟨_, rfl, fun _ => rfl, by simp [isLineEnd]⟩
  right
  simp [escapeChar, isLineEnd, hslash, hquote, hfeed, hreturn, hline, hparagraph]

theorem literalUnits_escapeChar (c : Char) (s : List Char) :
    literalUnits (escapeChar c ++ s) =
      (literalUnits s).map fun p => (codeUnits c.toNat ++ p.1, p.2) := by
  rcases escapeChar_cases c with ⟨escaped, hc, hescaped⟩ | ⟨hc, hquote, hslash, hline⟩
  · have hreads := hescaped.reads s
    rw [hc, List.cons_append, literalUnits, if_neg (by decide), if_pos rfl]
    split <;> simp_all
  · rw [hc, List.singleton_append, literalUnits, if_neg hquote, if_neg hslash, hline]
    rfl

/-- What stands between the quotes is read up to the closing quote: no quote before it is taken for
it, and it is not passed over. -/
theorem literalUnits_escape (s rest : List Char) :
    literalUnits (escape s ++ '"' :: rest) =
      some (s.flatMap fun c => codeUnits c.toNat, rest) := by
  induction s with
  | nil => rw [escape_nil, List.nil_append, literalUnits, if_pos rfl, List.flatMap_nil]
  | cons c s ih =>
    rw [escape_cons, List.append_assoc, literalUnits_escapeChar, ih, Option.map_some,
      List.flatMap_cons]

theorem isLineEnd_of_mem_escape {s : List Char} {c : Char} (h : c ∈ escape s) :
    isLineEnd c = false := by
  obtain ⟨d, -, hc⟩ := List.mem_flatMap.mp h
  rcases escapeChar_cases d with ⟨escaped, hd, hescaped⟩ | ⟨hd, -, -, hline⟩
  · rw [hd, List.mem_cons] at hc
    rcases hc with rfl | hc
    · decide
    · exact hescaped.onLine c hc
  · rw [hd, List.mem_singleton] at hc
    rw [hc, hline]

theorem stringLiteral_literal (s : String) (rest : List Char) :
    stringLiteral ((literal s).toList ++ rest) = some (s, rest) := by
  have hquote (more : List Char) : after "\"" ('"' :: more) = some more := after_append "\"" more
  simp [stringLiteral, hquote, literalUnits_escape, ofCodeUnits?_flatMap]

theorem isLineEnd_of_mem_literal {s : String} {c : Char} (h : c ∈ (literal s).toList) :
    isLineEnd c = false := by
  simp only [toList_literal, List.cons_append, List.mem_cons, List.mem_append,
    List.not_mem_nil, or_false] at h
  rcases h with rfl | h | rfl
  · decide
  · exact isLineEnd_of_mem_escape h
  · decide

/-- A bare key is no literal, because no identifier starts with a quote. -/
theorem key_bare {name : String} (h : isIdentifierShaped name.toList = true)
    {rest : List Char} (hrest : Stops isIdentifierPart rest) :
    key (name.toList ++ rest) = some (name, rest) := by
  have hrun : run isIdentifierPart (name.toList ++ rest) = some (name, rest) :=
    run_append (fun _ hc => isIdentifierPart_of_mem h hc) hrest
  have hquote : (name.toList ++ rest).head? ≠ some '"' :=
    head?_identifier_ne h rest (isIdentifierStart_of_isSign rfl)
  have hname : (name.toList ++ rest).takeWhile isIdentifierPart = name.toList := by
    simpa [run] using congrArg (Option.map fun p => p.1.toList) hrun
  rw [key, if_neg hquote, hname, if_pos h, hrun]

theorem key_propertyKey (name : String) {rest : List Char} (hrest : Stops isIdentifierPart rest) :
    key ((propertyKey name).toList ++ rest) = some (name, rest) := by
  unfold propertyKey
  split
  case isTrue hname => exact key_bare hname hrest
  case isFalse => rw [key, if_pos (by simp), stringLiteral_literal]

/-- Every string is read back from its literal, which stays on one line, and from its property key
before the mark that follows a key. -/
theorem literals_read_back (s : String) (t : List Char) :
    stringLiteral ((literal s).toList ++ t) = some (s, t) ∧
      (∀ c ∈ (literal s).toList, c ≠ '\n' ∧ c ≠ '\r' ∧ c ≠ '\u2028' ∧ c ≠ '\u2029') ∧
      (t.head? = some '?' ∨ t.head? = some ':' →
        key ((propertyKey s).toList ++ t) = some (s, t)) := by
  refine ⟨stringLiteral_literal s t, fun c hc => ?_, fun ht => key_propertyKey s ?_⟩
  · have hline := isLineEnd_of_mem_literal hc
    simpa [isLineEnd, and_assoc] using hline
  · rcases ht with ht | ht
    · exact stops_of_head? ht (isIdentifierPart_of_isSign rfl)
    · exact stops_of_head? ht (isIdentifierPart_of_isSign rfl)

/-- A name that ends in backslashes and holds a quote and the text of an escape. -/
theorem literals_read_back_escapes :
    key ((propertyKey "a\"\\u2028\\\\").toList ++ "?: A;".toList) =
      some ("a\"\\u2028\\\\", "?: A;".toList) :=
  (literals_read_back "a\"\\u2028\\\\" "?: A;".toList).2.2 (.inl rfl)

end Reader

end EndpointHooks.TypeScript
