/-! JSON values. Integers and floats are kept apart, and an object is a list of fields that
`Json.insertField` keeps sorted by name, each name once. -/

namespace EndpointHooks

inductive Json where
  | null
  | bool (b : Bool)
  | int (i : Int)
  | float (x : Float)
  | str (s : String)
  | arr (items : List Json)
  | obj (fields : List (String × Json))

namespace Json

instance : Inhabited Json := ⟨null⟩

def field? (name : String) : Json → Option Json
  | obj fields => fields.lookup name
  | _ => none

/-- Puts a field in its place by name; a field of the same name is replaced. -/
def insertField (name : String) (value : Json) : List (String × Json) → List (String × Json)
  | [] => [(name, value)]
  | (other, v) :: rest =>
    if name = other then (name, value) :: rest
    else if name < other then (name, value) :: (other, v) :: rest
    else (other, v) :: insertField name value rest

/-- The object of fields read in order: the last value given for a name counts. -/
def ofFields (fields : List (String × Json)) : Json :=
  obj (fields.foldl (fun sorted f => insertField f.1 f.2 sorted) [])

end Json

end EndpointHooks
