import EndpointHooks.Json.Basic
import EndpointHooks.Json.Fault

/-! JSON numbers. A number without fraction and exponent that fits 64 bits is an integer; any other
is a float. A float keeps as many leading digits as fit 64 bits and is scaled by one power of ten,
so its last bits may differ from those of the nearest float. -/

namespace EndpointHooks.Json

open Text

def digitValue (c : Char) : Nat := c.toNat - '0'.toNat

/-- The digits at the front of a text, and what follows them. -/
def splitDigits (s : List Char) : List Char × List Char :=
  (s.takeWhile Char.isDigit, s.dropWhile Char.isDigit)

/-- Appends digits to a number while it stays below a limit: the number, and the digits that no
longer fit. -/
def absorb (limit : Nat) : Nat → List Char → Nat × List Char
  | n, [] => (n, [])
  | n, d :: ds =>
    if 10 * n + digitValue d < limit then absorb limit (10 * n + digitValue d) ds else (n, d :: ds)

def significandLimit : Nat := 0x10000000000000000

def exponentLimit : Nat := 0x80000000

def signed (negative : Bool) (x : Float) : Float := if negative then -x else x

def powerOfTen (n : Nat) : Float := Float.ofScientific 1 false n

/-- Scales by a power of ten that may be too small for one step. -/
def scaleDown : Nat → Float → Int → Float
  | 0, x, _ => x
  | fuel + 1, x, exponent =>
    if -308 ≤ exponent then x / powerOfTen exponent.natAbs
    else if x == 0 then x
    else scaleDown fuel (x / powerOfTen 308) (exponent + 308)

/-- `significand * 10 ^ exponent` as a float, unless it is too large. Three steps down take any
significand to zero. -/
def scale? (significand : Nat) (exponent : Int) : Option Float :=
  let x := Float.ofNat significand
  if exponent < 0 then some (scaleDown 4 x exponent)
  else if exponent ≤ 308 then
    let y := x * powerOfTen exponent.toNat
    if y.isInf then none else some y
  else if x == 0 then some x
  else none

/-- The float given by a significand and an exponent, with what remains of the text. -/
def floatResult (negative : Bool) (significand : Nat) (exponent : Int) (rest : List Char) :
    Except Fault (Json × List Char) :=
  match scale? significand exponent with
  | some x => .ok (.float (signed negative x), rest)
  | none => .error (.before rest .numberOutOfRange)

/-- An integer, or a float if it does not fit 64 bits with its sign or is a negative zero. -/
def integerResult (negative : Bool) (significand : Nat) (rest : List Char) : Json × List Char :=
  if !negative then (.int significand, rest)
  else if significand ≠ 0 ∧ significand ≤ 0x8000000000000000 then (.int (-significand), rest)
  else (.float (signed true (Float.ofNat significand)), rest)

def exponentSign : List Char → Bool × List Char
  | '+' :: s => (false, s)
  | '-' :: s => (true, s)
  | s => (false, s)

/-- The exponent of a number, after its mark. An exponent beyond the limit makes a nonzero number
too large or zero. -/
def exponentRest (negative : Bool) (significand : Nat) (exponent : Int) (s : List Char) :
    Except Fault (Json × List Char) :=
  let (down, s) := exponentSign s
  let (digits, rest) := splitDigits s
  if digits.isEmpty then
    .error (.inside s (if s.isEmpty then .endInValue else .invalidNumber))
  else
    let (n, unread) := absorb exponentLimit 0 digits
    if unread.isEmpty then
      floatResult negative significand (if down then exponent - n else exponent + n) rest
    else if significand ≠ 0 ∧ !down then
      .error (.before (unread.tail ++ rest) .numberOutOfRange)
    else .ok (.float (signed negative 0), rest)

def isExponentMark (c : Char) : Bool := c == 'e' || c == 'E'

def floatRest (negative : Bool) (significand : Nat) (exponent : Int) (s : List Char) :
    Except Fault (Json × List Char) :=
  match s with
  | [] => floatResult negative significand exponent []
  | c :: r =>
    if isExponentMark c then exponentRest negative significand exponent r
    else floatResult negative significand exponent s

def fractionRest (negative : Bool) (significand : Nat) (exponent : Int) (s : List Char) :
    Except Fault (Json × List Char) :=
  let (digits, rest) := splitDigits s
  if digits.isEmpty then
    .error (.inside s (if s.isEmpty then .endInValue else .invalidNumber))
  else
    let (n, unread) := absorb significandLimit significand digits
    floatRest negative n (exponent - (digits.length - unread.length : Nat)) rest

/-- What follows the integer part of a number, of which `dropped` digits did not fit. -/
def integerRest (negative : Bool) (significand dropped : Nat) (s : List Char) :
    Except Fault (Json × List Char) :=
  match s with
  | '.' :: r => fractionRest negative significand dropped r
  | c :: _ =>
    if dropped ≠ 0 ∨ isExponentMark c then floatRest negative significand dropped s
    else .ok (integerResult negative significand s)
  | [] =>
    if dropped ≠ 0 then floatRest negative significand dropped []
    else .ok (integerResult negative significand [])

def numberRest (negative : Bool) (s : List Char) : Except Fault (Json × List Char) :=
  let (digits, rest) := splitDigits s
  match digits with
  | [] => .error (.inside s (if s.isEmpty then .endInValue else .invalidNumber))
  | '0' :: more =>
    if more.isEmpty then integerRest negative 0 0 rest
    else .error (.inside (more ++ rest) .invalidNumber)
  | digits =>
    let (n, unread) := absorb significandLimit 0 digits
    integerRest negative n unread.length rest

def skipExponentRest (s : List Char) : Except Fault (List Char) :=
  let (digits, rest) := splitDigits (exponentSign s).2
  if digits.isEmpty then .error (.inside rest .invalidNumber) else .ok rest

def skipFloatRest (s : List Char) : Except Fault (List Char) :=
  match s with
  | [] => .ok []
  | c :: r => if isExponentMark c then skipExponentRest r else .ok s

def skipIntegerRest (s : List Char) : Except Fault (List Char) :=
  match s with
  | '.' :: r =>
    let (digits, rest) := splitDigits r
    if digits.isEmpty then .error (.inside rest .invalidNumber) else skipFloatRest rest
  | s => skipFloatRest s

/-- Passes over a number, after its sign. The size of its parts does not matter. -/
def skipNumberRest (s : List Char) : Except Fault (List Char) :=
  let (digits, rest) := splitDigits s
  match digits with
  | [] => .error (.inside s .invalidNumber)
  | '0' :: more =>
    if more.isEmpty then skipIntegerRest rest
    else .error (.inside (more ++ rest) .invalidNumber)
  | _ => skipIntegerRest rest

end EndpointHooks.Json
