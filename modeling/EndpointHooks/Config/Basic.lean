import EndpointHooks.Validation

/-! The settings of a generation run. -/

namespace EndpointHooks

/-- The settings: whether hooks are exported, what is done about issues, the number of blanks per
indent level, and whether modules may be built side by side, which changes no result. -/
structure Config where
  exportHook : Bool := true
  strictness : Strictness := .strict
  indentWidth : Nat := 4
  parallel : Bool := true
  deriving DecidableEq

instance : Inhabited Config := ⟨{}⟩

def boolText (b : Bool) : String := if b then "true" else "false"

def Config.logText (c : Config) : String :=
  "CodegenConfig \x7b export_hook: " ++ boolText c.exportHook ++ ", validation: " ++
    (match c.strictness with | .strict => "Strict" | .lenient => "Lenient") ++
    ", indent_width: " ++ toString c.indentWidth ++ ", parallel: " ++ boolText c.parallel ++ " \x7d"

end EndpointHooks
