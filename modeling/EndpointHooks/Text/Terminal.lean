import EndpointHooks.Text.Digits
import EndpointHooks.Text.Quoted

/-! Text for a terminal. The control characters that can steer a terminal are told by their codes,
so that a name taken from a document cannot move the cursor or change the colours of a log; all
other characters are written as they are. -/

namespace EndpointHooks.Text

/-- The control characters below `U+0080` that can steer a terminal: bell, backspace, form feed,
escape and delete. -/
def steeringChars : List Char := ['\x07', '\x08', '\x0c', '\x1b', '\x7f']

/-- A character on a terminal. From `U+0080` to `U+009F` there are only control characters. -/
def terminalChar (c : Char) : List Char :=
  if steeringChars.contains c then '\\' :: 'x' :: hexPair c.toNat
  else if 0x80 ≤ c.toNat ∧ c.toNat ≤ 0x9f then codePointEscape c
  else [c]

def forTerminal (s : String) : String := String.ofList (s.toList.flatMap terminalChar)

end EndpointHooks.Text
