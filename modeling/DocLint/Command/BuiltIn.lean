import DocLint.Command.Lint
import DocLint.Glob.Match
import DocLint.Glob.Parser
import DocLint.Json.Parser
import DocLint.Json.Record
import DocLint.Yaml.Record

/-!
# The libraries of the program

The program reads YAML and JSON and compiles glob patterns by its own means.
-/

namespace DocLint

/-- What is told about a text that does not hold what is expected. -/
def unexpectedMessage (format : String) : String :=
  "the " ++ format ++ " does not hold what is expected"

/-- Read what is written in YAML. -/
def Yaml.readText
    {α : Type}
    (read : Yaml.Value → Option α)
    (text : String) :
    Except String α :=
  match (Yaml.parse? text.toList).bind read with
  | some value => .ok value
  | none => .error (unexpectedMessage "YAML")

/-- Read what is written in JSON. -/
def Json.readText
    {α : Type}
    (read : Json → Option α)
    (text : String) :
    Except String α :=
  match (Json.parse? text.toList).bind read with
  | some value => .ok value
  | none => .error (unexpectedMessage "JSON")

/-- Glob patterns as they are read and matched here. -/
def Glob.compiler : PatternCompiler where
  Pattern := List Glob.Token
  read pattern :=
    (Glob.parse pattern).mapError fun cause =>
      "error parsing glob '" ++ pattern ++ "': " ++ cause.message
  test patterns := .ok fun path =>
    patterns.any fun pattern => Glob.isMatch pattern path

/-- The libraries that are part of the program. -/
def Libraries.builtIn : Libraries where
  config := Yaml.readText Config.read?
  manifests :=
    { yaml := Yaml.readText Manifest.read?
      json := Json.readText Manifest.read? }
  patterns := Glob.compiler

end DocLint
