import EndpointHooks.Json.Numbers
import EndpointHooks.Json.Strings

/-! Reading JSON. A reader takes a value from the front of a text; `value depth` opens at most
`depth` brackets inside one another. `skipValue` passes over a value that is not wanted: it follows
the same grammar, with no bound on nesting and numbers, and tells a comma before a closing bracket
by what is missing after it. `parseWithin` reads a whole text. -/

namespace EndpointHooks.Json

open Text

/-- Whether a character may stand between tokens. -/
def isBlank (c : Char) : Bool := c == ' ' || c == '\t' || c == '\n' || c == '\r'

def skipBlanks (s : List Char) : List Char := s.dropWhile isBlank

/-- Whether a value is read for use or passed over. -/
inductive Use where
  | wanted
  | unwanted
  deriving DecidableEq

def afterComma (use : Use) (close : Char) (s : List Char) : Except Fault (List Char) :=
  match use with
  | .unwanted => .ok s
  | .wanted =>
    match skipBlanks s with
    | [] => .error (.before [] .endInValue)
    | c :: r => if c = close then .error (.inside (c :: r) .trailingComma) else .ok (c :: r)

/-- The start of the next item of an array, or nothing at its closing bracket. -/
def nextItem? (use : Use) (first : Bool) (s : List Char) : Except Fault (Option (List Char)) :=
  match skipBlanks s with
  | [] => .error (.before [] .endInArray)
  | c :: r =>
    if c = ']' then .ok none
    else if first then .ok (some (c :: r))
    else if c = ',' then (afterComma use ']' r).map some
    else .error (.inside (c :: r) .expectedArrayEnd)

def openName (s : List Char) : Except Fault (List Char) :=
  match skipBlanks s with
  | [] => .error (.before [] .endInObject)
  | c :: r => if c = '"' then .ok r else .error (.inside (c :: r) .keyNotString)

/-- The next field of an object, after the opening quote of its name, or nothing at the closing
brace of the object. -/
def nextField? (use : Use) (first : Bool) (s : List Char) : Except Fault (Option (List Char)) :=
  match skipBlanks s with
  | [] => .error (.before [] .endInObject)
  | c :: r =>
    if c = '\x7d' then .ok none
    else if first then (openName (c :: r)).map some
    else if c = ',' then do
      let s ← afterComma use '\x7d' r
      (openName s).map some
    else .error (.inside (c :: r) .expectedObjectEnd)

def colon (s : List Char) : Except Fault (List Char) :=
  match skipBlanks s with
  | [] => .error (.before [] .endInObject)
  | c :: r => if c = ':' then .ok r else .error (.inside (c :: r) .expectedColon)

def afterClose (s : List Char) : List Char := (skipBlanks s).tail

/-- The items of an array from one of them on, and what follows its closing bracket. Every item
takes a character, so the length of the text is fuel enough. -/
def itemsRest (use : Use) {α : Type} (item : List Char → Except Fault (α × List Char)) :
    Nat → Bool → List Char → Except Fault (List α × List Char)
  | 0, _, s => .error (.before s .endInArray)
  | fuel + 1, first, s => do
    match ← nextItem? use first s with
    | none => .ok ([], afterClose s)
    | some s =>
      let (v, s) ← item s
      let (vs, s) ← itemsRest use item fuel false s
      .ok (v :: vs, s)

def items (use : Use) {α : Type} (item : List Char → Except Fault (α × List Char))
    (s : List Char) : Except Fault (List α × List Char) :=
  itemsRest use item (s.length + 1) true s

/-- The fields of an object from one of them on, and what follows its closing brace. -/
def fieldsRest (use : Use) {α β : Type} (name : List Char → Except Fault (α × List Char))
    (item : List Char → Except Fault (β × List Char)) :
    Nat → Bool → List Char → Except Fault (List (α × β) × List Char)
  | 0, _, s => .error (.before s .endInObject)
  | fuel + 1, first, s => do
    match ← nextField? use first s with
    | none => .ok ([], afterClose s)
    | some s =>
      let (k, s) ← name s
      let s ← colon s
      let (v, s) ← item s
      let (fs, s) ← fieldsRest use name item fuel false s
      .ok ((k, v) :: fs, s)

/-- The fields of an object after its opening brace, in order, with every repetition. -/
def fields (use : Use) {α β : Type} (name : List Char → Except Fault (α × List Char))
    (item : List Char → Except Fault (β × List Char)) (s : List Char) :
    Except Fault (List (α × β) × List Char) :=
  fieldsRest use name item (s.length + 1) true s

def keywordRest : List Char → List Char → Except Fault (List Char)
  | [], s => .ok s
  | _ :: _, [] => .error (.before [] .endInValue)
  | k :: ks, c :: s =>
    if c = k then keywordRest ks s else .error (.inside (c :: s) .expectedKeyword)

def scalar (c : Char) (s : List Char) : Except Fault (Json × List Char) :=
  if c = '"' then (stringRest s).map fun p => (.str p.1, p.2)
  else if c = 'n' then (keywordRest ['u', 'l', 'l'] s).map fun s => (.null, s)
  else if c = 't' then (keywordRest ['r', 'u', 'e'] s).map fun s => (.bool true, s)
  else if c = 'f' then (keywordRest ['a', 'l', 's', 'e'] s).map fun s => (.bool false, s)
  else if c = '-' then numberRest true s
  else if c.isDigit then numberRest false (c :: s)
  else .error (.inside (c :: s) .expectedValue)

/-- A value whose brackets nest at most to a depth. -/
def value (depth : Nat) (s : List Char) : Except Fault (Json × List Char) :=
  match skipBlanks s with
  | [] => .error (.before [] .endInValue)
  | c :: r =>
    if c = '[' ∨ c = '\x7b' then
      match depth with
      | 0 => .error (.inside (c :: r) .tooDeep)
      | depth + 1 =>
        if c = '[' then (items .wanted (value depth) r).map fun p => (.arr p.1, p.2)
        else (fields .wanted stringRest (value depth) r).map fun p => (ofFields p.1, p.2)
    else scalar c r

def skipScalar (c : Char) (s : List Char) : Except Fault (List Char) :=
  if c = '"' then skipStringRest s
  else if c = 'n' then keywordRest ['u', 'l', 'l'] s
  else if c = 't' then keywordRest ['r', 'u', 'e'] s
  else if c = 'f' then keywordRest ['a', 'l', 's', 'e'] s
  else if c = '-' then skipNumberRest s
  else if c.isDigit then skipNumberRest (c :: s)
  else .error (.inside (c :: s) .expectedValue)

def noValue (s : List Char) : Unit × List Char := ((), s)

def skipNested (depth : Nat) (s : List Char) : Except Fault (Unit × List Char) :=
  match skipBlanks s with
  | [] => .error (.before [] .endInValue)
  | c :: r =>
    if c = '[' ∨ c = '\x7b' then
      match depth with
      | 0 => .error (.inside (c :: r) .tooDeep)
      | depth + 1 =>
        if c = '[' then (items .unwanted (skipNested depth) r).map fun p => noValue p.2
        else
          (fields .unwanted (fun s => (skipStringRest s).map noValue) (skipNested depth) r).map
            fun p => noValue p.2
    else (skipScalar c r).map noValue

/-- Passes over a value. Every bracket takes a character, so the length of the text bounds the
nesting. -/
def skipValue (s : List Char) : Except Fault (List Char) :=
  (skipNested s.length s).map Prod.snd

def finish {α : Type} (p : α × List Char) : Except Fault α :=
  match skipBlanks p.2 with
  | [] => .ok p.1
  | c :: r => .error (.inside (c :: r) .trailingCharacters)

def nestingLimit : Nat := 127

def parseWithin (depth : Nat) (s : String) : Except Fault Json :=
  value depth s.toList >>= finish

end EndpointHooks.Json
