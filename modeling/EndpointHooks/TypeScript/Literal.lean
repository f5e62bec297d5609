import EndpointHooks.TypeScript.Identifier

/-! String literals and property keys of TypeScript. A literal stands between double quotes on one
line: quotes, backslashes and the four line terminators are escaped, everything else is written as
it is. A property key is written bare when it is an identifier and as a literal otherwise. -/

namespace EndpointHooks.TypeScript

def escapeChar (c : Char) : List Char :=
  if c = '\\' then ['\\', '\\']
  else if c = '"' then ['\\', '"']
  else if c = '\n' then ['\\', 'n']
  else if c = '\r' then ['\\', 'r']
  else if c = '\u2028' then ['\\', 'u', '2', '0', '2', '8']
  else if c = '\u2029' then ['\\', 'u', '2', '0', '2', '9']
  else [c]

/-- The text between the quotes of a literal. -/
def escape (s : List Char) : List Char := s.flatMap escapeChar

@[simp] theorem escape_nil : escape [] = [] := rfl

@[simp] theorem escape_cons (c : Char) (s : List Char) :
    escape (c :: s) = escapeChar c ++ escape s := rfl

def literal (s : String) : String := String.ofList ('"' :: escape s.toList ++ ['"'])

@[simp] theorem toList_literal (s : String) :
    (literal s).toList = '"' :: escape s.toList ++ ['"'] := by
  simp [literal]

def propertyKey (name : String) : String :=
  if isIdentifierShaped name.toList then name else literal name

end EndpointHooks.TypeScript
