/-! Places in a text. A place is found by its index in bytes of UTF-8 and told as a line, counted
from one, and a column, the number of bytes since the last line end. -/

namespace EndpointHooks.Text

def byteCount : List Char → Nat
  | [] => 0
  | c :: s => c.utf8Size + byteCount s

@[simp] theorem byteCount_nil : byteCount [] = 0 := rfl

@[simp] theorem byteCount_cons (c : Char) (s : List Char) :
    byteCount (c :: s) = c.utf8Size + byteCount s := rfl

@[simp] theorem byteCount_append (s t : List Char) :
    byteCount (s ++ t) = byteCount s + byteCount t := by
  induction s with
  | nil => simp
  | cons c s ih => simp [ih, Nat.add_assoc]

/-- A line, counted from one, and the number of bytes before a place on it. -/
structure Position where
  line : Nat
  column : Nat
  deriving DecidableEq

/-- The place a number of bytes further on, having started at `here`. -/
def Position.advance (here : Position) : List Char → Nat → Position
  | [], bytes => { here with column := here.column + bytes }
  | c :: s, bytes =>
    if bytes = 0 then here
    else if c = '\n' then Position.advance ⟨here.line + 1, 0⟩ s (bytes - 1)
    else if bytes ≤ c.utf8Size then { here with column := here.column + bytes }
    else
      Position.advance { here with column := here.column + c.utf8Size } s (bytes - c.utf8Size)

def Position.ofIndex (s : List Char) (index : Nat) : Position := Position.advance ⟨1, 0⟩ s index

end EndpointHooks.Text
