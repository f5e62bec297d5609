import EndpointHooks.Config.Basic
import EndpointHooks.Text.Terminal

/-! What is logged: events with a level, a target and a text. The target names the part of the
program that an event comes from. -/

namespace EndpointHooks.Log

/-- The level of an event, from the most detailed to the most severe. -/
inductive Level where
  | trace
  | debug
  | info
  | warn
  | error
  deriving DecidableEq

def Level.severity : Level → Nat
  | trace => 0
  | debug => 1
  | info => 2
  | warn => 3
  | error => 4

def Level.name : Level → String
  | trace => "TRACE"
  | debug => "DEBUG"
  | info => "INFO"
  | warn => "WARN"
  | error => "ERROR"

inductive Event where
  | alreadyInstalled
  | documentParsed (count : Nat)
  | invalidEndpoint (issue : Issue)
  | hooksSynthesized (count : Nat) (parallel : Bool)
  | configLoaded (path : String) (config : Config)
  deriving DecidableEq

namespace Event

/-- The level of an event: only invalid endpoints are worth a warning. -/
def level : Event → Level
  | invalidEndpoint _ => .warn
  | _ => .debug

def rootTarget : String := "query_hookgen"

def target : Event → String
  | alreadyInstalled => rootTarget
  | documentParsed _ | hooksSynthesized _ _ => rootTarget ++ "::emitter"
  | invalidEndpoint _ => rootTarget ++ "::validate"
  | configLoaded _ _ => rootTarget ++ "::config"

def text : Event → String
  | alreadyInstalled => "Tracing subscriber already initialized."
  | documentParsed count => "Parsed endpoint document. count=" ++ toString count
  | invalidEndpoint issue => "Generating despite invalid endpoint: " ++ issue.message
  | hooksSynthesized count parallel =>
    "Synthesized hook modules. count=" ++ toString count ++ " parallel=" ++ boolText parallel
  | configLoaded path config =>
    "Loaded codegen config. path=" ++ path ++ " config=" ++ config.logText

def entry (e : Event) : String := e.level.name ++ " " ++ e.text

/-- The characters of a text before its first line end. -/
def firstLine : List Char → List Char
  | [] => []
  | '\n' :: _ => []
  | '\r' :: '\n' :: _ => []
  | c :: s => c :: firstLine s

/-- An event with its level and target, as a line of a log on a terminal. A name from a document
may hold line ends; the line goes up to the first of them. -/
def line (e : Event) : String :=
  e.level.name ++ " " ++ e.target ++ ": " ++
    String.ofList (firstLine (Text.forTerminal e.text).toList)

end Event

end EndpointHooks.Log
