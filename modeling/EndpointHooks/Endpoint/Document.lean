import EndpointHooks.Endpoint.Basic
import EndpointHooks.Json.Printer
import EndpointHooks.Json.Reader

/-! Reading an endpoint document: one JSON object whose field names are the keys of endpoints, in
document order and with every repetition. An entry is an object that may hold the two types among
other fields, each type once, or an array of at most the request type and the response type. -/

namespace EndpointHooks.Document

open Json Text

/-- The nesting left inside an entry: the document and the entry are open. -/
def valueDepth : Nat := nestingLimit - 2

def mismatched (expected : String) (s : List Char) : Fault :=
  match s with
  | [] => .before [] .endInValue
  | c :: r =>
    if c = '[' then .before s (.mismatch .sequence expected)
    else
      match scalar c r with
      | .error fault => fault
      | .ok (v, rest) => .before rest (.mismatch v.found expected)

/-- A type given for the second time. The fault lies after its name and the blanks that follow,
and after the closing brace if that is next. -/
def repeated (field : TypeField) (s : List Char) : Fault :=
  match skipBlanks s with
  | [] => .before [] (.repeatedField field.name)
  | c :: r => .before (if c = '\x7d' then r else c :: r) (.repeatedField field.name)

/-- A field of an entry, after its name: a type is set, any other field is passed over. -/
def entryField (e : Endpoint) (name : String) (s : List Char) :
    Except Fault (Endpoint × List Char) :=
  match TypeField.ofName? name with
  | some field =>
    if (e.field field).isSome then .error (repeated field s)
    else do
      let (v, s) ← value valueDepth (← colon s)
      .ok (e.setField v field, s)
  | none => do
    let s ← skipValue (← colon s)
    .ok (e, s)

/-- The fields of an entry from one of them on. Every field takes a character, so the length of
the text is fuel enough. -/
def entryFields : Nat → Bool → Endpoint → List Char → Except Fault (Endpoint × List Char)
  | 0, _, _, s => .error (.before s .endInObject)
  | fuel + 1, first, e, s => do
    match ← nextField? .wanted first s with
    | none => .ok (e, afterClose s)
    | some s =>
      let (name, s) ← stringRest s
      let (e, s) ← entryField e name s
      entryFields fuel false e s

/-- A type of an entry that is an array, if the array has another item. -/
def entryItem (first : Bool) (s : List Char) : Except Fault (Option Json × List Char) := do
  match ← nextItem? .wanted first s with
  | none => .ok (none, s)
  | some s =>
    let (v, s) ← value valueDepth s
    .ok (some v, s)

/-- The end of an entry that is an array: nothing may follow its two types. -/
def entryArrayEnd (s : List Char) : Except Fault (List Char) :=
  match skipBlanks s with
  | [] => .error (.before [] .endInArray)
  | c :: r =>
    if c = ']' then .ok r
    else if c = ',' then
      let s := skipBlanks r
      .error (.inside s (if s.head? = some ']' then .trailingComma else .trailingCharacters))
    else .error (.inside (c :: r) .trailingCharacters)

def entryArray (key : String) (s : List Char) : Except Fault (Endpoint × List Char) := do
  let (requestType, s) ← entryItem true s
  let (responseType, s) ← entryItem requestType.isNone s
  let s ← entryArrayEnd s
  .ok (⟨key, requestType, responseType⟩, s)

def entry (key : String) (s : List Char) : Except Fault (Endpoint × List Char) :=
  match skipBlanks s with
  | [] => .error (.before [] .endInValue)
  | c :: r =>
    if c = '\x7b' then entryFields (r.length + 1) true (.bare key) r
    else if c = '[' then entryArray key r
    else .error (mismatched "struct RawEndpoint" (c :: r))

/-- The entries of a document from one of them on. Every entry takes a character, so the length of
the text is fuel enough. -/
def entries : Nat → Bool → List Char → Except Fault (List Endpoint × List Char)
  | 0, _, s => .error (.before s .endInObject)
  | fuel + 1, first, s => do
    match ← nextField? .wanted first s with
    | none => .ok ([], afterClose s)
    | some s =>
      let (key, s) ← stringRest s
      let (e, s) ← entry key (← colon s)
      let (es, s) ← entries fuel false s
      .ok (e :: es, s)

def endpoints (s : List Char) : Except Fault (List Endpoint × List Char) :=
  match skipBlanks s with
  | [] => .error (.before [] .endInValue)
  | c :: r =>
    if c = '\x7b' then entries (r.length + 1) true r
    else
      .error (mismatched "an object mapping endpoint names to request/response types" (c :: r))

def parse (s : List Char) : Except Fault (List Endpoint) := endpoints s >>= finish

end EndpointHooks.Document
