import EndpointHooks.Text.Pieces
import EndpointHooks.Text.Position
import EndpointHooks.Toml.Tree

/-! Reports on a place in a text: the line with the place, marks below the place, and a message. -/

namespace EndpointHooks.Toml

def gutter (line : Nat) : String := String.ofList (List.replicate ((toString line).length + 1) ' ')

/-- The characters at the front of a text that lie within a number of bytes. -/
def charsWithin : Nat → List Char → List Char
  | _, [] => []
  | bytes, c :: s => if bytes < c.utf8Size then [] else c :: charsWithin (bytes - c.utf8Size) s

/-- The report on a stretch of a text. The marks start below its first character. There is one for
each of its bytes on the line, the line being counted in bytes too, and at least one. -/
def report (s : List Char) (span : Span) (message : String) : String :=
  let before := charsWithin (Text.byteCount s - span.fromStart) s
  let line := before.count '\n' + 1
  let column := (before.reverse.takeWhile (· != '\n')).length
  let content := (Text.pieces '\n' s).getD (line - 1) []
  let marks := max 1 (min (span.fromStart - span.fromEnd) (Text.byteCount content - column))
  "TOML parse error at line " ++ toString line ++ ", column " ++ toString (column + 1) ++ "\n" ++
    gutter line ++ "|\n" ++
    toString line ++ " | " ++ String.ofList content ++ "\n" ++
    gutter line ++ "|" ++ String.ofList (List.replicate (column + 1) ' ') ++
    String.ofList (List.replicate marks '^') ++ "\n" ++
    message ++ "\n"

end EndpointHooks.Toml
