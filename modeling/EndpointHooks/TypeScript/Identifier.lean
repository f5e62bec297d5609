import EndpointHooks.Text.Pieces
import EndpointHooks.Unicode.Numeric

/-! The names of TypeScript: identifiers, reserved words and dotted type names. An identifier here
starts with a letter, `_` or `$` and goes on with letters, numbers, `_` and `$`, letters and
numbers being those of Unicode. A type name is a chain of identifiers, none reserved, joined by
dots. -/

namespace EndpointHooks.TypeScript

open Unicode

def isIdentifierStart (c : Char) : Bool := isAlphabetic c || c == '_' || c == '$'

def isIdentifierPart (c : Char) : Bool := isAlphanumeric c || c == '_' || c == '$'

theorem isIdentifierStart_cases {c : Char} (h : isIdentifierStart c = true) :
    isAlphabetic c = true ∨ c = '_' ∨ c = '$' := by
  simpa [isIdentifierStart, or_assoc] using h

theorem isIdentifierPart_cases {c : Char} (h : isIdentifierPart c = true) :
    isAlphanumeric c = true ∨ c = '_' ∨ c = '$' := by
  simpa [isIdentifierPart, or_assoc] using h

theorem isIdentifierPart_of_isIdentifierStart {c : Char} (h : isIdentifierStart c = true) :
    isIdentifierPart c = true := by
  simp only [isIdentifierStart, isIdentifierPart, isAlphanumeric, Bool.or_eq_true] at h ⊢
  rcases h with (h | h) | h <;> simp [h]

/-- The signs of ASCII that stand in no identifier, among them quotes, brackets and blanks. -/
def isSign (c : Char) : Bool :=
  decide (c.toNat < 0x80) && !c.isAlphanum && !(c == '_') && !(c == '$')

theorem isIdentifierPart_of_isSign {c : Char} (h : isSign c = true) :
    isIdentifierPart c = false := by
  simp only [isSign, Bool.and_eq_true, decide_eq_true_eq, Bool.not_eq_true'] at h
  obtain ⟨⟨⟨hascii, hletter⟩, hlow⟩, hdollar⟩ := h
  have hnone : isAlphanumeric c = false := by
    rw [← Bool.not_eq_true]
    intro halphanumeric
    rw [isAlphanum_of_isAlphanumeric halphanumeric hascii] at hletter
    cases hletter
  simp only [isIdentifierPart, hnone, hlow, hdollar, Bool.or_self]

theorem isIdentifierStart_of_isSign {c : Char} (h : isSign c = true) :
    isIdentifierStart c = false := by
  cases hstart : isIdentifierStart c with
  | false => rfl
  | true =>
    have hpart := isIdentifierPart_of_isIdentifierStart hstart
    rw [isIdentifierPart_of_isSign h] at hpart
    cases hpart

/-- Whether characters have the shape of an identifier, reserved or not. -/
def isIdentifierShaped : List Char → Bool
  | [] => false
  | c :: cs => isIdentifierStart c && cs.all isIdentifierPart

@[simp] theorem isIdentifierShaped_nil : isIdentifierShaped [] = false := rfl

theorem isIdentifierShaped_cons {c : Char} {cs : List Char} :
    isIdentifierShaped (c :: cs) = true ↔
      isIdentifierStart c = true ∧ ∀ d ∈ cs, isIdentifierPart d = true := by
  simp [isIdentifierShaped]

theorem exists_cons_of_isIdentifierShaped {s : List Char} (h : isIdentifierShaped s = true) :
    ∃ c r, s = c :: r ∧ isIdentifierStart c = true := by
  cases s with
  | nil => simp at h
  | cons c r => exact ⟨c, r, rfl, (isIdentifierShaped_cons.mp h).1⟩

theorem isIdentifierPart_of_mem {s : List Char} {c : Char} (h : isIdentifierShaped s = true)
    (hc : c ∈ s) : isIdentifierPart c = true := by
  cases s with
  | nil => simp at hc
  | cons d ds =>
    rw [isIdentifierShaped_cons] at h
    rcases List.mem_cons.mp hc with rfl | hc
    · exact isIdentifierPart_of_isIdentifierStart h.1
    · exact h.2 c hc

theorem not_mem_of_isIdentifierShaped {s : List Char} {c : Char} (h : isIdentifierShaped s = true)
    (hc : isIdentifierPart c = false) : c ∉ s := by
  intro hmem
  rw [isIdentifierPart_of_mem h hmem] at hc
  cases hc

def reservedWords : List String :=
  ["break", "case", "catch", "class", "const", "continue", "debugger", "default", "delete", "do",
    "else", "enum", "export", "extends", "false", "finally", "for", "function", "if", "import",
    "in", "instanceof", "new", "null", "return", "super", "switch", "this", "throw", "true",
    "try", "typeof", "var", "void", "while", "with", "yield", "let", "static", "implements",
    "interface", "package", "private", "protected", "public", "await", "async"]

def isReserved (s : List Char) : Bool := reservedWords.contains (String.ofList s)

/-- Whether characters can name a value or a type: an identifier that is not reserved. -/
def isIdentifier (s : List Char) : Bool := isIdentifierShaped s && !isReserved s

theorem isIdentifier_iff {s : List Char} :
    isIdentifier s = true ↔ isIdentifierShaped s = true ∧ isReserved s = false := by
  simp [isIdentifier]

/-- Whether characters are a type name: identifiers joined by dots. -/
def isTypeName (s : List Char) : Bool := (Text.pieces '.' s).all isIdentifier

theorem isTypeName_iff {s : List Char} :
    isTypeName s = true ↔ ∀ part ∈ Text.pieces '.' s, isIdentifier part = true := by
  simp [isTypeName]

/-- Whether characters are identifiers joined by dots, reserved or not. -/
def isDotted (s : List Char) : Bool := (Text.pieces '.' s).all isIdentifierShaped

theorem isDotted_iff {s : List Char} :
    isDotted s = true ↔ ∀ part ∈ Text.pieces '.' s, isIdentifierShaped part = true := by
  simp [isDotted]

theorem isDotted_of_isTypeName {s : List Char} (h : isTypeName s = true) : isDotted s = true :=
  isDotted_iff.mpr fun part hpart => (isIdentifier_iff.mp (isTypeName_iff.mp h part hpart)).1

end EndpointHooks.TypeScript
