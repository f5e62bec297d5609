import EndpointHooks.Text.Quoted

/-! What a message says of a value that stands where another kind of value was expected. -/

namespace EndpointHooks.Text

/-- A value as a message names it. A float comes as its text, which the document's format
decides. -/
inductive Found where
  | null
  | bool (b : Bool)
  | int (i : Int)
  | float (text : String)
  | str (s : String)
  | sequence
  | map
  deriving DecidableEq

def Found.describe : Found → String
  | null => "null"
  | bool b => "boolean `" ++ (if b then "true" else "false") ++ "`"
  | int i => "integer `" ++ toString i ++ "`"
  | float text => "floating point `" ++ text ++ "`"
  | str s => "string " ++ quoted s
  | sequence => "sequence"
  | map => "map"

/-- The message that a value of another kind was expected. -/
def Found.mismatch (found : Found) (expected : String) : String :=
  "invalid type: " ++ found.describe ++ ", expected " ++ expected

end EndpointHooks.Text
