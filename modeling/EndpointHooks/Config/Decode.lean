import EndpointHooks.Config.Basic
import EndpointHooks.Decimal.FloatText
import EndpointHooks.Text.Found
import EndpointHooks.Toml.Tree

/-! Settings in a TOML document. They stand in the table `codegen`, each under its own name, or in
an array of that name by position. What is left out keeps its default, and what is not known is
ignored. -/

namespace EndpointHooks.Config

open Text Toml

/-- Numbers are always written in positional form, and a tie goes up. -/
def floatStyle : Decimal.FloatStyle := ⟨fun _ => true, .up⟩

/-- What a message says of a node. A date or time counts as a table. -/
def foundIn : Node → Found
  | .scalar _ (.str s) => .str s
  | .scalar _ (.int i) => .int i
  | .scalar _ (.float x) => .float (floatStyle.text x)
  | .scalar _ (.bool b) => .bool b
  | .scalar _ .moment => .map
  | .array _ _ => .sequence
  | .table _ _ _ => .map
  | .tables _ => .sequence

/-- What is wrong with a setting, and where, if that is known. -/
structure Complaint where
  message : String
  span : Option Span
  deriving DecidableEq

/-- The complaint with a place, if it has none yet. -/
def Complaint.orSpan (complaint : Complaint) (span : Option Span) : Complaint :=
  ⟨complaint.message, complaint.span.or span⟩

def complain {α : Type} (node : Node) (message : String) : Except Complaint α :=
  .error ⟨message, node.span?⟩

def decodeBool (node : Node) : Except Complaint Bool :=
  match node with
  | .scalar _ (.bool b) => .ok b
  | _ => complain node ((foundIn node).mismatch "a boolean")

/-- A width: an integer that is not negative. -/
def decodeWidth (node : Node) : Except Complaint Nat :=
  match node with
  | .scalar _ (.int i) =>
    if 0 ≤ i then .ok i.toNat
    else complain node ("invalid value: " ++ (foundIn node).describe ++ ", expected usize")
  | _ => complain node ((foundIn node).mismatch "usize")

def strictnessOfName (name : String) : Except String Strictness :=
  if name = "strict" then .ok .strict
  else if name = "lenient" then .ok .lenient
  else .error ("unknown variant `" ++ name ++ "`, expected `strict` or `lenient`")

def scalarKind : Scalar → String
  | .str _ => "string"
  | .int _ => "integer"
  | .float _ => "float"
  | .bool _ => "boolean"
  | .moment => "datetime"

/-- What stands under the name of a strictness in a table has to be empty. -/
def checkEmpty (node : Node) : Except Complaint Unit :=
  match node with
  | .scalar _ v => complain node ("expected table, found " ++ scalarKind v)
  | .array _ items => if items.isEmpty then .ok () else complain node "expected empty table"
  | .table _ _ entries => if entries.isEmpty then .ok () else complain node "expected empty table"
  | .tables items => if items.isEmpty then .ok () else complain node "expected empty array"

/-- A strictness: its name, or a table with nothing under its name. -/
def decodeStrictness (node : Node) : Except Complaint Strictness :=
  match node with
  | .scalar _ (.str name) =>
    match strictnessOfName name with
    | .ok strictness => .ok strictness
    | .error message => complain node message
  | .table _ _ [] => complain node "wanted exactly 1 element, found 0 elements"
  | .table _ span [(key, inner)] =>
    match strictnessOfName key.name with
    | .error message => .error ⟨message, some key.span⟩
    | .ok strictness =>
      match checkEmpty inner with
      | .ok () => .ok strictness
      | .error complaint => .error (complaint.orSpan span)
  | .table _ _ _ => complain node "wanted exactly 1 element, more than 1 element"
  | _ => complain node "wanted string or table"

inductive Setting where
  | exportHook
  | strictness
  | indentWidth
  | parallel
  deriving DecidableEq

def Setting.name : Setting → String
  | exportHook => "export_hook"
  | strictness => "validation"
  | indentWidth => "indent_width"
  | parallel => "parallel"

/-- The settings in the order in which an array gives them. -/
def Setting.all : List Setting := [exportHook, strictness, indentWidth, parallel]

def Setting.ofName? (name : String) : Option Setting := all.find? (·.name == name)

def decodeSetting (config : Config) (node : Node) : Setting → Except Complaint Config
  | .exportHook => (decodeBool node).map fun exportHook => { config with exportHook }
  | .strictness => (decodeStrictness node).map fun strictness => { config with strictness }
  | .indentWidth => (decodeWidth node).map fun indentWidth => { config with indentWidth }
  | .parallel => (decodeBool node).map fun parallel => { config with parallel }

/-- The settings with the entry of a table read. What has no place of its own is blamed on its
key. -/
def decodeEntry (config : Config) (entry : Key × Node) : Except Complaint Config :=
  match Setting.ofName? entry.1.name with
  | none => .ok config
  | some setting =>
    match decodeSetting config entry.2 setting with
    | .ok config => .ok config
    | .error complaint => .error (complaint.orSpan (some entry.1.span))

def decodeEntries (entries : Entries) : Except Complaint Config := entries.foldlM decodeEntry {}

def decodeItems (nodes : List Node) : Except Complaint Config :=
  (nodes.zip Setting.all).foldlM (fun config p => decodeSetting config p.1 p.2) {}

def decodeNode (node : Node) : Except Complaint Config :=
  match node with
  | .table _ span entries => (decodeEntries entries).mapError (·.orSpan span)
  | .array span items => (decodeItems items).mapError (·.orSpan (some span))
  | .tables items => (decodeItems items).mapError (·.orSpan node.span?)
  | .scalar _ .moment => .ok {}
  | .scalar _ _ => complain node ((foundIn node).mismatch "struct CodegenConfig")

def decode (root : Entries) : Except Complaint Config :=
  match List.find? (fun entry => entry.1.name == "codegen") root with
  | none => .ok {}
  | some (key, node) => (decodeNode node).mapError (·.orSpan (some key.span))

end EndpointHooks.Config
