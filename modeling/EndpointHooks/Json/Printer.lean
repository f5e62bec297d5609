import EndpointHooks.Decimal.FloatText
import EndpointHooks.Json.Basic
import EndpointHooks.Text.Digits
import EndpointHooks.Text.Found

/-! The compact text of a JSON value: no blanks, and in strings only quotes, backslashes and
control characters escaped. -/

namespace EndpointHooks.Json

open Decimal

/-- Numbers stand in positional form from `0.00001` up to sixteen digits before the point, and a
tie goes to the even digit. -/
def floatStyle : FloatStyle :=
  ⟨fun magnitude => decide (-5 ≤ magnitude) && decide (magnitude < 16), .even⟩

def stringChar (c : Char) : List Char :=
  if c = '"' then ['\\', '"']
  else if c = '\\' then ['\\', '\\']
  else if c = '\x08' then ['\\', 'b']
  else if c = '\t' then ['\\', 't']
  else if c = '\n' then ['\\', 'n']
  else if c = '\x0c' then ['\\', 'f']
  else if c = '\r' then ['\\', 'r']
  else if c.toNat < 0x20 then ['\\', 'u', '0', '0'] ++ Text.hexPair c.toNat
  else [c]

def stringChars (s : String) : List Char := '"' :: s.toList.flatMap stringChar ++ ['"']

mutual

def chars : Json → List Char
  | null => "null".toList
  | bool b => (if b then "true" else "false").toList
  | int i => (toString i).toList
  | float x => (floatStyle.text x).toList
  | str s => stringChars s
  | arr items => '[' :: itemChars items ++ [']']
  | obj fields => '\x7b' :: fieldChars fields ++ ['\x7d']

def itemChars : List Json → List Char
  | [] => []
  | [v] => v.chars
  | v :: w :: rest => v.chars ++ ',' :: itemChars (w :: rest)

def fieldChars : List (String × Json) → List Char
  | [] => []
  | [(name, v)] => stringChars name ++ ':' :: v.chars
  | (name, v) :: f :: rest => stringChars name ++ ':' :: v.chars ++ ',' :: fieldChars (f :: rest)

end

/-- The compact text of a value. -/
def text (v : Json) : String := String.ofList v.chars

@[simp] theorem toList_text (v : Json) : v.text.toList = v.chars := String.toList_ofList

def found : Json → Text.Found
  | null => .null
  | bool b => .bool b
  | int i => .int i
  | float x => .float (floatStyle.text x)
  | str s => .str s
  | arr _ => .sequence
  | obj _ => .map

end EndpointHooks.Json
