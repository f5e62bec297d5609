import EndpointHooks.Decimal.Shortest

/-! The text of a floating-point number: its shortest digits, placed around a point or before a
power of ten as a notation asks. -/

namespace EndpointHooks.Decimal

/-- How numbers are written: which decimal exponents stand in positional form (the others are
written with a power of ten) and how ties between digits are broken. -/
structure FloatStyle where
  positional : Int → Bool
  tie : Tie

/-- The exponent of the leading digit. -/
def magnitude (d : Decimal) : Int :=
  d.exponent + (Nat.toDigits 10 d.digits).length - 1

def positionalText (d : Decimal) : List Char :=
  let digits := Nat.toDigits 10 d.digits
  let zeros (n : Int) : List Char := List.replicate n.toNat '0'
  if 0 ≤ d.exponent then digits ++ zeros d.exponent ++ ['.', '0']
  else if 0 ≤ d.magnitude then
    digits.take (d.magnitude.toNat + 1) ++ '.' :: digits.drop (d.magnitude.toNat + 1)
  else '0' :: '.' :: zeros (-d.magnitude - 1) ++ digits

def scientificText (d : Decimal) : List Char :=
  let power := (if 0 ≤ d.magnitude then '+' else '-') :: Nat.toDigits 10 d.magnitude.natAbs
  match Nat.toDigits 10 d.digits with
  | [] => 'e' :: power
  | [digit] => digit :: 'e' :: power
  | digit :: more => digit :: '.' :: more ++ 'e' :: power

def FloatStyle.decimalText (style : FloatStyle) (d : Decimal) : List Char :=
  if style.positional d.magnitude then d.positionalText else d.scientificText

def signBit (x : Float) : Bool := (x.toBits >>> 63) == 1

def exponentBits (x : Float) : Nat := ((x.toBits >>> 52) &&& 0x7ff).toNat

def fractionBits (x : Float) : Nat := (x.toBits &&& 0xfffffffffffff).toNat

/-- The text of a number. Zero keeps its sign. -/
def FloatStyle.text (style : FloatStyle) (x : Float) : String :=
  let biased := exponentBits x
  let fraction := fractionBits x
  let sign := if signBit x then "-" else ""
  if biased = 2047 then if fraction = 0 then sign ++ "inf" else "NaN"
  else if biased = 0 ∧ fraction = 0 then sign ++ "0.0"
  else
    sign ++ String.ofList (style.decimalText ((Interval.ofBits biased fraction).shortest style.tie))

end EndpointHooks.Decimal
