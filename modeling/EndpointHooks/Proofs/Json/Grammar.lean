import EndpointHooks.Json.Reader

/-! The grammar of JSON, stated without a reader. Every relation speaks of a whole text: what stands
in brackets, in a string, in a number. A list in brackets carries a specification of each of its
items, so that one relation serves values of which only the kind matters and values that are read
for use. The nesting of a value is a bound on the recursion of the grammar. -/

namespace EndpointHooks.Json

variable {α β : Type} {Item : α → List Char → Prop}

/-- Any characters that may stand between tokens. -/
def Blank (s : List Char) : Prop := ∀ c ∈ s, isBlank c = true

/-- What stands before an item in brackets, be it the first or a later one. -/
inductive Lead : Bool → List Char → Prop
  | first {b : List Char} (blank : Blank b) : Lead true b
  | comma {b b' : List Char} (before : Blank b) (after : Blank b') : Lead false (b ++ ',' :: b')

/-- What stands in brackets from an item on, up to the closing bracket. -/
inductive Listed (Item : α → List Char → Prop) : Bool → List α → List Char → Prop
  | done {first : Bool} {b : List Char} (blank : Blank b) : Listed Item first [] b
  | item {first : Bool} {a : α} {as : List α} {l t s : List Char} (lead : Lead first l)
      (item : Item a t) (more : Listed Item false as s) :
      Listed Item first (a :: as) (l ++ (t ++ s))

/-- A name in quotes, a colon and a value. -/
inductive Member (Name : α → List Char → Prop) (Value : β → List Char → Prop) :
    α × β → List Char → Prop
  | mk {name : α} {value : β} {n b b' t : List Char} (named : Name name n) (before : Blank b)
      (after : Blank b') (valued : Value value t) :
      Member Name Value (name, value) ('"' :: (n ++ '"' :: (b ++ ':' :: (b' ++ t))))

/-- What stands between the quotes of a string. -/
inductive StringBody : List Char → Prop
  | nil : StringBody []
  | plain {c : Char} {s : List Char} (quote : c ≠ '"') (backslash : c ≠ '\\')
      (printable : 0x20 ≤ c.toNat) (rest : StringBody s) : StringBody (c :: s)
  | short {c : Char} {s : List Char} (escape : c ∈ ['"', '\\', '/', 'b', 'f', 'n', 'r', 't'])
      (rest : StringBody s) : StringBody ('\\' :: c :: s)
  | code {h s : List Char} (four : h.length = 4) (digits : ∀ c ∈ h, (Text.hexValue? c).isSome)
      (rest : StringBody s) : StringBody ('\\' :: 'u' :: (h ++ s))

/-- One digit or more. -/
structure Digits (s : List Char) : Prop where
  ne_nil : s ≠ []
  all : ∀ c ∈ s, c.isDigit = true

/-- The digits before the point of a number: zero stands alone. -/
structure WholePart (s : List Char) : Prop extends Digits s where
  zero_alone : ∀ more, s = '0' :: more → more = []

inductive Fraction : List Char → Prop
  | none : Fraction []
  | point {s : List Char} (digits : Digits s) : Fraction ('.' :: s)

inductive Exponent : List Char → Prop
  | none : Exponent []
  | mark {m : Char} {sign s : List Char} (isMark : isExponentMark m = true)
      (signed : sign = [] ∨ sign = ['+'] ∨ sign = ['-']) (digits : Digits s) :
      Exponent (m :: (sign ++ s))

/-- A number after its sign. -/
inductive Magnitude : List Char → Prop
  | mk {w f e : List Char} (whole : WholePart w) (fraction : Fraction f) (exponent : Exponent e) :
      Magnitude (w ++ (f ++ e))

/-- The text of a value without brackets. -/
inductive Scalar : List Char → Prop
  | null : Scalar ['n', 'u', 'l', 'l']
  | true : Scalar ['t', 'r', 'u', 'e']
  | false : Scalar ['f', 'a', 'l', 's', 'e']
  | string {n : List Char} (body : StringBody n) : Scalar ('"' :: (n ++ ['"']))
  | positive {t : List Char} (magnitude : Magnitude t) : Scalar t
  | negative {t : List Char} (magnitude : Magnitude t) : Scalar ('-' :: t)

/-- What is told apart of a value: whether it is an array, with the number of its items, or an
object. -/
inductive Kind where
  | scalar
  | array (items : Nat)
  | object
  deriving DecidableEq

/-- The text of a name of which nothing is asked. -/
def AnyName (_ : Unit) (n : List Char) : Prop := StringBody n

/-- The text of a value of a kind, whose brackets nest at most to a depth. -/
def ValueText : Nat → Kind → List Char → Prop
  | 0 => fun kind t => kind = .scalar ∧ Scalar t
  | depth + 1 => fun kind t =>
    (kind = .scalar ∧ Scalar t) ∨
    (∃ kinds s, kind = .array kinds.length ∧ Listed (ValueText depth) true kinds s ∧
      t = '[' :: (s ++ [']'])) ∨
    ∃ members s, kind = .object ∧ Listed (Member AnyName (ValueText depth)) true members s ∧
      t = '\x7b' :: (s ++ ['\x7d'])

theorem Blank.nil : Blank [] := by
  simp [Blank]

theorem Blank.space : Blank [' '] := by
  simp [Blank, isBlank]

namespace Listed

variable {first : Bool} {as : List α} {s : List Char}

/-- Every item but the first takes a comma. -/
theorem length_le (h : Listed Item first as s) : as.length ≤ s.length + first.toNat := by
  induction h with
  | done => simp
  | item lead _ _ ih =>
    cases lead with
    | first => simp at ih ⊢; omega
    | comma => simp at ih ⊢; omega

/-- The length of a list with what follows it is fuel enough for its items. -/
theorem length_lt (h : Listed Item true as s) (close : Char) (rest : List Char) :
    as.length < (s ++ close :: rest).length + 1 := by
  have length := h.length_le
  simp only [List.length_append, List.length_cons, Bool.toNat_true] at length ⊢
  omega

/-- A list keeps its text if its items are specified otherwise. Every item is at most as long as
the list. -/
theorem map (Item' : β → List Char → Prop) (f : α → β) (h : Listed Item first as s)
    (imp : ∀ a t, Item a t → t.length ≤ s.length → Item' (f a) t) :
    Listed Item' first (as.map f) s := by
  induction h with
  | done blank => exact .done blank
  | item lead item _ ih =>
    refine .item lead (imp _ _ item ?_) (ih fun a u hu length => imp a u hu ?_)
    · simp only [List.length_append]
      omega
    · simp only [List.length_append]
      omega

end Listed

theorem Member.map {γ δ : Type} {Name : α → List Char → Prop} {Value : β → List Char → Prop}
    {Name' : γ → List Char → Prop} {Value' : δ → List Char → Prop} {m : α × β} {t : List Char}
    (f : α → γ) (g : β → δ) (h : Member Name Value m t)
    (name : ∀ a n, Name a n → Name' (f a) n)
    (value : ∀ v u, Value v u → u.length < t.length → Value' (g v) u) :
    Member Name' Value' (f m.1, g m.2) t := by
  obtain ⟨named, before, after, valued⟩ := h
  refine .mk (name _ _ named) before after (value _ _ valued ?_)
  simp only [List.length_cons, List.length_append]
  omega

/-! ### How a text begins -/

/-- A text begins with a character that is neither a blank nor a closing bracket of an array. -/
def Begins (t : List Char) : Prop := ∃ c r, t = c :: r ∧ isBlank c = false ∧ c ≠ ']'

theorem isBlank_of_isDigit {c : Char} (h : c.isDigit = true) : isBlank c = false := by
  have space := Text.ne_of_test h (show ' '.isDigit = false by decide)
  have tab := Text.ne_of_test h (show '\t'.isDigit = false by decide)
  have newline := Text.ne_of_test h (show '\n'.isDigit = false by decide)
  have back := Text.ne_of_test h (show '\r'.isDigit = false by decide)
  simp [isBlank, space, tab, newline, back]

theorem Magnitude.head {t : List Char} (h : Magnitude t) :
    ∃ c r, t = c :: r ∧ c.isDigit = true := by
  obtain ⟨⟨⟨ne_nil, all⟩, _⟩, _, _⟩ := h
  obtain ⟨c, r, rfl⟩ := List.exists_cons_of_ne_nil ne_nil
  exact ⟨c, _, rfl, all c (by simp)⟩

theorem Scalar.begins {t : List Char} (h : Scalar t) : Begins t := by
  cases h with
  | null => exact ⟨'n', _, rfl, by decide, by decide⟩
  | true => exact ⟨'t', _, rfl, by decide, by decide⟩
  | false => exact ⟨'f', _, rfl, by decide, by decide⟩
  | string => exact ⟨'"', _, rfl, by decide, by decide⟩
  | negative => exact ⟨'-', _, rfl, by decide, by decide⟩
  | positive magnitude =>
    obtain ⟨c, r, rfl, digit⟩ := magnitude.head
    exact ⟨c, r, rfl, isBlank_of_isDigit digit, Text.ne_of_test digit (by decide)⟩

theorem ValueText.begins {depth : Nat} {kind : Kind} {t : List Char} (h : ValueText depth kind t) :
    Begins t := by
  cases depth with
  | zero => exact h.2.begins
  | succ depth =>
    obtain ⟨-, h⟩ | ⟨_, _, -, -, rfl⟩ | ⟨_, _, -, -, rfl⟩ := h
    · exact h.begins
    · exact ⟨'[', _, rfl, by decide, by decide⟩
    · exact ⟨'\x7b', _, rfl, by decide, by decide⟩

end EndpointHooks.Json
