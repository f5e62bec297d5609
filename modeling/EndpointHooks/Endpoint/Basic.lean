import EndpointHooks.Json.Basic

/-! Endpoints: a key and the types of the request and the response. The types are kept as the JSON
values of the document, so that an absent type, a null and a value of the wrong kind can be told
apart. -/

namespace EndpointHooks

/-- The two types of an endpoint. -/
inductive TypeField where
  | request
  | response
  deriving DecidableEq

def TypeField.name : TypeField → String
  | request => "requestType"
  | response => "responseType"

def TypeField.ofName? (name : String) : Option TypeField :=
  if name = request.name then some request
  else if name = response.name then some response
  else none

@[simp] theorem TypeField.ofName?_name (field : TypeField) : ofName? field.name = some field := by
  cases field <;> simp [ofName?, name]

structure Endpoint where
  key : String
  requestType : Option Json
  responseType : Option Json

namespace Endpoint

def bare (key : String) : Endpoint := ⟨key, none, none⟩

def field (e : Endpoint) : TypeField → Option Json
  | .request => e.requestType
  | .response => e.responseType

def setField (e : Endpoint) (value : Json) : TypeField → Endpoint
  | .request => { e with requestType := some value }
  | .response => { e with responseType := some value }

variable {e : Endpoint} {value : Json}

@[simp] theorem field_setField_self (f : TypeField) :
    (e.setField value f).field f = some value := by
  cases f <;> rfl

theorem field_setField_of_ne {f g : TypeField} (h : g ≠ f) :
    (e.setField value f).field g = e.field g := by
  cases f <;> cases g <;> first | rfl | exact absurd rfl h

@[simp] theorem key_setField (f : TypeField) : (e.setField value f).key = e.key := by
  cases f <;> rfl

end Endpoint

end EndpointHooks
