import EndpointHooks.Unicode.Graphic

/-! Strings quoted for a message. The quoted form stands between double quotes and shows every
character: the common control characters, quotes and backslashes by a short escape, and whatever
cannot be seen on its own by its code point. -/

namespace EndpointHooks.Text

open Unicode

/-- A character told by its code point. -/
def codePointEscape (c : Char) : List Char :=
  ['\\', 'u', '\x7b'] ++ Nat.toDigits 16 c.toNat ++ ['\x7d']

def quotedChar (c : Char) : List Char :=
  if c = '\x00' then ['\\', '0']
  else if c = '\t' then ['\\', 't']
  else if c = '\r' then ['\\', 'r']
  else if c = '\n' then ['\\', 'n']
  else if c = '"' then ['\\', '"']
  else if c = '\\' then ['\\', '\\']
  else if isVisible c then [c]
  else codePointEscape c

def quoted (s : String) : String :=
  String.ofList ('"' :: s.toList.flatMap quotedChar ++ ['"'])

end EndpointHooks.Text
