import EndpointHooks.Endpoint.Document
import EndpointHooks.Hook
import EndpointHooks.Run

/-! From endpoints to text. The endpoints of a document are validated as the settings ask, each
becomes a hook, and the texts of the hooks follow one another with an empty line between them. -/

namespace EndpointHooks

open Log TypeScript

def readEndpoints (document : String) : Except Error (List Endpoint) :=
  match Document.parse document.toList with
  | .ok es => .ok es
  | .error fault => .error (.document fault.cause (fault.position document.toList))

/-- Deals with the issues of endpoints: the first stops the run, or all are logged. -/
def validate (strictness : Strictness) (es : List Endpoint) : Run Unit :=
  match strictness with
  | .strict =>
    match issues es with
    | [] => .logged []
    | issue :: _ => .ofExcept (.error (.invalidEndpoint issue))
  | .lenient => .logged ((issues es).map .invalidEndpoint)

/-- The names of endpoints, in their order. -/
def allNames (es : List Endpoint) : List HookNames := es.map (·.hookNames)

/-- One module for the names of each hook, in their order. -/
def allModules (config : Config) (names : List HookNames) : List Module :=
  names.map (·.module config.exportHook)

/-- The hooks of endpoints: their names, paired with the modules that were built from all names. -/
def hooks (config : Config) (es : List Endpoint) : List Hook :=
  List.zipWith Hook.mk (allNames es) (allModules config (allNames es))

def synthesize (config : Config) (es : List Endpoint) : Run (List Hook) := do
  validate config.strictness es
  Run.logged [.hooksSynthesized (allModules config (allNames es)).length config.parallel]
  return hooks config es

def Hook.render (hook : Hook) (width : Nat) : Except Error String :=
  match hook.module.render? width with
  | some text => .ok text
  | none => .error .indentTooWide

def renderAll (width : Nat) (hs : List Hook) : Except Error (List String) :=
  hs.mapM (·.render width)

/-- The text of modules with an empty line between neighbours. -/
def joinModules (texts : List String) : String := "\n".intercalate texts

/-- The text generated from a document. -/
def generate (config : Config) (document : String) : Run String := do
  let es ← Run.ofExcept (readEndpoints document)
  Run.logged [.documentParsed es.length]
  let hs ← synthesize config es
  let texts ← Run.ofExcept (renderAll config.indentWidth hs)
  return joinModules texts

/-- Names and module of every hook belong to the endpoint in its place. -/
theorem hooks_eq_map (config : Config) (es : List Endpoint) :
    hooks config es = es.map (·.hook config.exportHook) := by
  rw [hooks, allModules, allNames, List.map_map, List.zipWith_map, List.zipWith_self]
  rfl

theorem mem_hooks {config : Config} {es : List Endpoint} {hook : Hook} :
    hook ∈ hooks config es ↔ ∃ e ∈ es, e.hook config.exportHook = hook := by
  rw [hooks_eq_map, List.mem_map]

end EndpointHooks
