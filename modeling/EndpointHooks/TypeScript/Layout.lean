/-! Layouts: text whose indentation is still open. A layout is a sequence of pieces, each a text or
the padding of a line at some nesting depth; a width for one level turns it into characters. A
layout can be written at a width when every padding in it stays below `2 ^ 63` characters, the
most that one string can hold. -/

namespace EndpointHooks.TypeScript

/-- A piece of a layout: fixed text, or the blanks before a line at a nesting depth. -/
inductive Piece where
  | text (s : String)
  | pad (depth : Nat)
  deriving DecidableEq

/-- Text whose indentation is still open. -/
abbrev Layout := List Piece

/-- The least number of characters that no string can hold: `2 ^ 63`. -/
def textLimit : Nat := 0x8000000000000000

def padding (width depth : Nat) : List Char := List.replicate (width * depth) ' '

@[simp] theorem padding_zero_right (width : Nat) : padding width 0 = [] := by
  simp [padding]

def Piece.chars (width : Nat) : Piece → List Char
  | text s => s.toList
  | pad depth => padding width depth

def Piece.fits (width : Nat) : Piece → Bool
  | text _ => true
  | pad depth => decide (width * depth < textLimit)

namespace Layout

variable {width : Nat}

def ofText (s : String) : Layout := [.text s]

def chars (width : Nat) (l : Layout) : List Char := l.flatMap (Piece.chars width)

def fits (width : Nat) (l : Layout) : Bool := l.all (Piece.fits width)

/-- The text of a layout at a width, or nothing if some padding is too long. -/
def render? (width : Nat) (l : Layout) : Option String :=
  if l.fits width then some (String.ofList (l.chars width)) else none

def commaSeparated (ls : List Layout) : Layout := List.intercalate (ofText ", ") ls

@[simp] theorem chars_nil : chars width [] = [] := rfl

@[simp] theorem chars_cons (p : Piece) (l : Layout) :
    chars width (p :: l) = p.chars width ++ chars width l := rfl

@[simp] theorem chars_append (l m : Layout) :
    chars width (l ++ m) = chars width l ++ chars width m := by
  simp [chars]

@[simp] theorem chars_ofText (s : String) : chars width (ofText s) = s.toList := by
  simp [ofText, Piece.chars]

theorem chars_intercalate (sep : Layout) (ls : List Layout) :
    chars width (List.intercalate sep ls) =
      List.intercalate (chars width sep) (ls.map (chars width)) := by
  induction ls with
  | nil => rfl
  | cons l ls ih =>
    cases ls with
    | nil => simp
    | cons m ls => simpa [List.intercalate_cons_cons] using ih

theorem chars_commaSeparated (ls : List Layout) :
    chars width (commaSeparated ls) =
      List.intercalate ", ".toList (ls.map (chars width)) := by
  rw [commaSeparated, chars_intercalate, chars_ofText]

@[simp] theorem fits_nil : fits width [] = true := rfl

@[simp] theorem fits_cons (p : Piece) (l : Layout) :
    fits width (p :: l) = (p.fits width && fits width l) := rfl

@[simp] theorem fits_append (l m : Layout) :
    fits width (l ++ m) = (fits width l && fits width m) := by
  simp [fits]

@[simp] theorem fits_ofText (s : String) : fits width (ofText s) = true := rfl

theorem render?_eq_some_iff {l : Layout} {s : String} :
    render? width l = some s ↔ fits width l = true ∧ s = String.ofList (chars width l) := by
  cases h : fits width l <;> simp [render?, h, eq_comm]

theorem render?_eq_none_iff {l : Layout} : render? width l = none ↔ fits width l = false := by
  cases h : fits width l <;> simp [render?, h]

end Layout

end EndpointHooks.TypeScript
