import EndpointHooks.Text.Digits
import EndpointHooks.Toml.Lexical

/-! TOML dates and times. They are checked against the calendar and the clock and then left behind:
only what remains of the text is given. -/

namespace EndpointHooks.Toml

def fixedDigits? (count : Nat) (s : List Char) : Option (Nat × List Char) :=
  let digits := s.take count
  if digits.length = count ∧ digits.all Char.isDigit then
    some (Text.decimalNumber digits, s.drop count)
  else none

def twoDigits? (low high : Nat) (s : List Char) : Option (Nat × List Char) :=
  match fixedDigits? 2 s with
  | some (n, rest) => if low ≤ n ∧ n ≤ high then some (n, rest) else none
  | none => none

def isLeapYear (year : Nat) : Bool := year % 4 == 0 && (year % 100 != 0 || year % 400 == 0)

def daysIn (year month : Nat) : Nat :=
  if month = 2 then if isLeapYear year then 29 else 28
  else if month = 4 ∨ month = 6 ∨ month = 9 ∨ month = 11 then 30
  else 31

def skipDate? (s : List Char) : Option (List Char) := do
  let (year, s) ← fixedDigits? 4 s
  let (month, s) ← twoDigits? 1 12 (← expect? '-' s)
  let (_, rest) ← twoDigits? 1 (daysIn year month) (← expect? '-' s)
  some rest

def skipFraction (s : List Char) : List Char :=
  match s with
  | '.' :: d :: r => if d.isDigit then r.dropWhile Char.isDigit else s
  | s => s

/-- What follows a time of day, which may have a leap second. -/
def skipTime? (s : List Char) : Option (List Char) := do
  let (_, s) ← twoDigits? 0 23 s
  let (_, s) ← twoDigits? 0 59 (← expect? ':' s)
  let (_, s) ← twoDigits? 0 60 (← expect? ':' s)
  some (skipFraction s)

def skipOffset? : List Char → Option (List Char)
  | [] => none
  | c :: s =>
    if c = 'Z' ∨ c = 'z' then some s
    else if c = '+' ∨ c = '-' then do
      let (_, s) ← twoDigits? 0 23 s
      let (_, s) ← twoDigits? 0 59 (← expect? ':' s)
      some s
    else none

/-- What follows the time after a date, if there is one. -/
def skipTimeOfDate (s : List Char) : List Char :=
  match s with
  | [] => []
  | c :: r =>
    if c = 'T' ∨ c = 't' ∨ c = ' ' then
      match skipTime? r with
      | some rest => (skipOffset? rest).getD rest
      | none => s
    else s

def skipMoment? (s : List Char) : Option (List Char) :=
  match skipDate? s with
  | some rest => some (skipTimeOfDate rest)
  | none => skipTime? s

end EndpointHooks.Toml
