import EndpointHooks.Endpoint.Basic
import EndpointHooks.Json.Printer
import EndpointHooks.Unicode.LetterCase

/-! The names of a hook. They follow from the key of an endpoint, with its first character in upper
or lower case, and from its two types. -/

namespace EndpointHooks

def capitalizeChars : List Char → List Char
  | [] => []
  | c :: cs => Unicode.upper c ++ cs

def uncapitalizeChars : List Char → List Char
  | [] => []
  | c :: cs => Unicode.lower c ++ cs

def capitalize (s : String) : String := String.ofList (capitalizeChars s.toList)

def uncapitalize (s : String) : String := String.ofList (uncapitalizeChars s.toList)

structure HookNames where
  queryInterface : String
  hook : String
  requestType : String
  responseType : String
  serviceMethod : String
  cacheKey : String
  deriving DecidableEq

/-- The names for a key and the texts of two types. -/
def HookNames.derive (key requestType responseType : String) : HookNames :=
  { queryInterface := "Use" ++ capitalize key ++ "Query"
    hook := "use" ++ capitalize key
    requestType
    responseType
    serviceMethod := uncapitalize key
    cacheKey := uncapitalize key ++ "Query" }

/-- The text that stands for a type in a module: the type itself if it is a string, a placeholder
if there is none, and the JSON text of any other value. -/
def typeText : Option Json → String
  | none => "undefined"
  | some (.str s) => s
  | some v => v.text

def Endpoint.hookNames (e : Endpoint) : HookNames :=
  .derive e.key (typeText e.requestType) (typeText e.responseType)

/-- The name of the hook does not depend on the types. -/
theorem Endpoint.hookNames_hook (e : Endpoint) : e.hookNames.hook = "use" ++ capitalize e.key := rfl

end EndpointHooks
