import EndpointHooks.Log.Event
import EndpointHooks.Text.Digits
import EndpointHooks.Text.Pieces
import EndpointHooks.Unicode.Numeric

/-! Which events pass into the log. A filter is a list of directives; of those whose target starts
the target of an event, the longest decides by its level, and of equal ones the last. -/

namespace EndpointHooks.Log

/-- A rule for the events of a target and of all targets that start with it. Without a level it
lets nothing pass. -/
structure Directive where
  target : String
  level : Option Level
  deriving DecidableEq

/-- Directives in the order in which they were given. -/
abbrev Filter := List Directive

/-- The number that a text stands for, if any: decimal digits, which may have a plus sign before
them. -/
def number? (text : List Char) : Option Nat :=
  let digits := if text.head? = some '+' then text.tail else text
  if digits.isEmpty || !digits.all Char.isDigit then none else some (Text.decimalNumber digits)

/-- The level that a number stands for, if any; zero stands for none, which lets nothing pass. -/
def levelOfNumber? : Nat → Option (Option Level)
  | 0 => some none
  | 1 => some (some .error)
  | 2 => some (some .warn)
  | 3 => some (some .info)
  | 4 => some (some .debug)
  | 5 => some (some .trace)
  | _ => none

/-- The level that a number or a name in either case stands for, if any. -/
def levelOfText? (text : List Char) : Option (Option Level) :=
  match number? text with
  | some n => levelOfNumber? n
  | none =>
    match (String.ofList text).toLower with
    | "trace" => some (some .trace)
    | "debug" => some (some .debug)
    | "info" => some (some .info)
    | "warn" => some (some .warn)
    | "error" => some (some .error)
    | "off" => some none
    | _ => none

def startsDirective (c : Char) : Bool :=
  Unicode.isAlphanumeric c || c == '_' || c == ':' || c == '-'

/-- The directive that a text stands for, if any: a level for all targets, or a target with an
optional level, which lets everything pass if it is left out. -/
def Directive.ofText? (text : List Char) : Option Directive :=
  if (text.head?.map startsDirective).getD false then
    let target := String.ofList (text.takeWhile (· != '='))
    match text.dropWhile (· != '=') with
    | [] =>
      match levelOfText? text with
      | some level => some ⟨"", level⟩
      | none => some ⟨target, some .trace⟩
    | [_] => some ⟨target, some .trace⟩
    | _ :: level => (levelOfText? level).map fun level => ⟨target, level⟩
  else none

namespace Filter

/-- The filter of a list of directives separated by commas. What is no directive is left out, and
without any directive only errors pass. -/
def ofText (text : String) : Filter :=
  match (Text.pieces ',' text.toList).filterMap Directive.ofText? with
  | [] => [⟨"", some .error⟩]
  | directives => directives

def isLevelName (setting : String) : Bool :=
  ["trace", "debug", "info", "warn", "error"].contains setting.toLower

/-- The filter for a setting: a level for this program, or a list of directives. Without a setting
the level is that of information. -/
def ofSetting : Option String → Filter
  | none => ofText (Event.rootTarget ++ "=info")
  | some setting =>
    if isLevelName setting then ofText (Event.rootTarget ++ "=" ++ setting) else ofText setting

def deciding? (filter : Filter) (target : String) : Option Directive :=
  filter.foldl
    (fun best d =>
      if d.target.toList.isPrefixOf target.toList then
        match best with
        | none => some d
        | some b => if b.target.length ≤ d.target.length then some d else some b
      else best)
    none

def passes (filter : Filter) (event : Event) : Bool :=
  match filter.deciding? event.target with
  | some ⟨_, some level⟩ => level.severity ≤ event.level.severity
  | _ => false

def lines (filter : Filter) (events : List Event) : List String :=
  (events.filter filter.passes).map Event.line

end Filter

end EndpointHooks.Log
