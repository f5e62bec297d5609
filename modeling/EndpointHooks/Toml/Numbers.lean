import EndpointHooks.Toml.Lexical

/-! TOML numbers. An integer fits 64 bits with its sign and is decimal, or hexadecimal, octal or
binary after a mark. A float has a fraction or an exponent, or is infinite or not a number. Single
underscores may stand between digits. -/

namespace EndpointHooks.Toml

def sign : List Char → Bool × List Char
  | '+' :: s => (false, s)
  | '-' :: s => (true, s)
  | s => (false, s)

/-- The digits after the first one: each may have an underscore before it. -/
def moreDigits (isDigit : Char → Bool) : List Char → List Char × List Char
  | '_' :: d :: s =>
    if isDigit d then
      let p := moreDigits isDigit s
      (d :: p.1, p.2)
    else ([], '_' :: d :: s)
  | d :: s =>
    if isDigit d then
      let p := moreDigits isDigit s
      (d :: p.1, p.2)
    else ([], d :: s)
  | [] => ([], [])

def digits? (isDigit : Char → Bool) : List Char → Option (List Char × List Char)
  | [] => none
  | d :: s =>
    if isDigit d then
      let p := moreDigits isDigit s
      some (d :: p.1, p.2)
    else none

/-- The digits of a decimal integer: a zero stands alone. -/
def decimalDigits? : List Char → Option (List Char × List Char)
  | '0' :: s => some (['0'], s)
  | s => digits? Char.isDigit s

def digitValue (c : Char) : Nat :=
  if c.isDigit then c.toNat - 48 else if c.toNat < 97 then c.toNat - 55 else c.toNat - 87

def numberOf (base : Nat) (digits : List Char) : Nat :=
  digits.foldl (fun n c => base * n + digitValue c) 0

def isDigitIn (base : Nat) (c : Char) : Bool :=
  (c.isDigit || (97 ≤ c.toNat && c.toNat ≤ 102) || (65 ≤ c.toNat && c.toNat ≤ 70)) &&
    digitValue c < base

def inRange? (i : Int) : Option Int :=
  if -0x8000000000000000 ≤ i ∧ i ≤ 0x7fffffffffffffff then some i else none

/-- An integer in a base, after the mark of the base. -/
def basedInteger? (base : Nat) (s : List Char) : Option (Int × List Char) := do
  let (digits, rest) ← digits? (isDigitIn base) s
  let i ← inRange? (numberOf base digits)
  some (i, rest)

def decimalInteger? (s : List Char) : Option (Int × List Char) := do
  let (negative, s) := sign s
  let (digits, rest) ← decimalDigits? s
  let n : Int := numberOf 10 digits
  let i ← inRange? (if negative then -n else n)
  some (i, rest)

def integer? : List Char → Option (Int × List Char)
  | '0' :: 'x' :: s => basedInteger? 16 s
  | '0' :: 'o' :: s => basedInteger? 8 s
  | '0' :: 'b' :: s => basedInteger? 2 s
  | s => decimalInteger? s

def specialFloat? (s : List Char) : Option (Float × List Char) :=
  let (negative, s) := sign s
  let signed (x : Float) : Float := if negative then -x else x
  match s with
  | 'i' :: 'n' :: 'f' :: rest => some (signed (1.0 / 0.0), rest)
  | 'n' :: 'a' :: 'n' :: rest => some (0.0 / 0.0, rest)
  | _ => none

def exponent? (s : List Char) : Option (Int × List Char) :=
  match s with
  | c :: s =>
    if c = 'e' ∨ c = 'E' then do
      let (negative, s) := sign s
      let (digits, rest) ← digits? Char.isDigit s
      let n : Int := numberOf 10 digits
      some (if negative then -n else n, rest)
    else none
  | [] => none

/-- The float nearest to `digits * 10 ^ exponent`. Beyond four hundred places it is zero or
infinite. -/
def nearestFloat (digits : Nat) (exponent : Int) : Float :=
  let magnitude := exponent + (Nat.toDigits 10 digits).length
  if digits = 0 ∨ magnitude < -400 then 0.0
  else if 400 < magnitude then 1.0 / 0.0
  else if exponent < 0 then Float.ofScientific digits true exponent.natAbs
  else Float.ofScientific digits false exponent.natAbs

/-- A float with a fraction or an exponent. One that is too large has no value, unless it is
negative. -/
def decimalFloat? (s : List Char) : Option (Float × List Char) := do
  let (negative, s) := sign s
  let (whole, s) ← decimalDigits? s
  let (fraction, exponent, rest) ←
    match s with
    | '.' :: s => do
      let (fraction, s) ← digits? Char.isDigit s
      let (exponent, rest) := (exponent? s).getD (0, s)
      some (fraction, exponent, rest)
    | s => do
      let (exponent, rest) ← exponent? s
      some ([], exponent, rest)
  let x := nearestFloat (numberOf 10 (whole ++ fraction)) (exponent - fraction.length)
  if negative then some (-x, rest) else if x.isInf then none else some (x, rest)

def float? (s : List Char) : Option (Float × List Char) :=
  match decimalFloat? s with
  | some p => some p
  | none => specialFloat? s

end EndpointHooks.Toml
