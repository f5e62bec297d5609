import EndpointHooks.Naming
import EndpointHooks.Text.Quoted
import EndpointHooks.TypeScript.Identifier

/-! What is wrong with a list of endpoints. Each endpoint is checked on its own: its key has to be
shaped like an identifier, and its types have to be type names. An endpoint whose hook has the name
of an earlier one is an issue too. -/

namespace EndpointHooks

open TypeScript

inductive Issue where
  | invalidKey (key : String)
  | missingType (key : String) (field : TypeField)
  | nonStringType (key : String) (field : TypeField) (text : String)
  | invalidType (key : String) (field : TypeField) (name : String)
  | repeatedHook (key hook : String)
  deriving DecidableEq

namespace Issue

def key : Issue → String
  | invalidKey key => key
  | missingType key _ => key
  | nonStringType key _ _ => key
  | invalidType key _ _ => key
  | repeatedHook key _ => key

def invalidIdentifierMessage (key field name : String) : String :=
  "Endpoint '" ++ key ++ "' has an invalid identifier in '" ++ field ++ "': " ++ Text.quoted name

def message : Issue → String
  | invalidKey key => invalidIdentifierMessage key "key" key
  | missingType key field =>
    "Endpoint '" ++ key ++ "' is missing required field '" ++ field.name ++ "'"
  | nonStringType key field text =>
    "Endpoint '" ++ key ++ "' has a non-string value for '" ++ field.name ++ "': " ++ text
  | invalidType key field name => invalidIdentifierMessage key field.name name
  | repeatedHook key hook => "Endpoint '" ++ key ++ "' reuses hook name '" ++ hook ++ "'"

end Issue

namespace Endpoint

def keyIssues (e : Endpoint) : List Issue :=
  if isIdentifierShaped e.key.toList then [] else [.invalidKey e.key]

def typeIssues (e : Endpoint) (field : TypeField) : List Issue :=
  match e.field field with
  | none | some .null => [.missingType e.key field]
  | some (.str name) => if isTypeName name.toList then [] else [.invalidType e.key field name]
  | some v => [.nonStringType e.key field v.text]

/-- The issues of an endpoint on its own. -/
def ownIssues (e : Endpoint) : List Issue :=
  e.keyIssues ++ e.typeIssues .request ++ e.typeIssues .response

/-- The name that the hook of an endpoint will have. It is read off the key alone, since the types
can still be missing here. -/
def hookName (e : Endpoint) : String := "use" ++ capitalize e.key

/-- The name read off the key is the one that the hook is given. -/
theorem hookName_eq (e : Endpoint) : e.hookName = e.hookNames.hook := rfl

/-- The issue that the hook name of an endpoint is one of those seen before. -/
def repetitionIssues (seen : List String) (e : Endpoint) : List Issue :=
  if e.hookName ∈ seen then [.repeatedHook e.key e.hookName] else []

theorem repetitionIssues_eq (seen : List String) (e : Endpoint) : e.repetitionIssues seen =
    if e.hookNames.hook ∈ seen then [.repeatedHook e.key e.hookNames.hook] else [] := by
  rw [repetitionIssues, hookName_eq]

end Endpoint

def issuesAfter (seen : List String) : List Endpoint → List Issue
  | [] => []
  | e :: es => e.ownIssues ++ e.repetitionIssues seen ++ issuesAfter (e.hookName :: seen) es

def issues (es : List Endpoint) : List Issue := issuesAfter [] es

/-- What is done about issues: the first one stops, or all of them are logged. -/
inductive Strictness where
  | strict
  | lenient
  deriving DecidableEq

@[simp] theorem issuesAfter_nil (seen : List String) : issuesAfter seen [] = [] := rfl

theorem issuesAfter_cons (seen : List String) (e : Endpoint) (es : List Endpoint) :
    issuesAfter seen (e :: es) =
      e.ownIssues ++ e.repetitionIssues seen ++ issuesAfter (e.hookNames.hook :: seen) es := by
  rw [issuesAfter, Endpoint.hookName_eq]

/-- The issues of two lists in a row. -/
theorem issuesAfter_append (seen : List String) (es fs : List Endpoint) :
    issuesAfter seen (es ++ fs) =
      issuesAfter seen es ++ issuesAfter (es.reverse.map (·.hookNames.hook) ++ seen) fs := by
  induction es generalizing seen with
  | nil => simp
  | cons e es ih => simp [issuesAfter_cons, ih]

end EndpointHooks
