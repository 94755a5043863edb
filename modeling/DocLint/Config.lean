import DocLint.Finding
import DocLint.Prototype
import DocLint.Record
import DocLint.Text.Quoted
import DocLint.TypeExpr.Style

/-!
# Configurations

A configuration chooses the style of collections, the layout of generated tags,
the manifests to leave out, and for each rule whether it is checked and how
severe it is.

Manifests are left out by glob patterns.  How a pattern is written and what it
matches is up to a pattern compiler.
-/

namespace DocLint

/-- What is configured for one rule. -/
structure RuleSetting where
  enabled : Bool
  severity : Option Severity
  deriving DecidableEq, Repr

/-- A configuration. -/
structure Config where
  version : String := ""
  style : Style := .long
  prototype : Prototype := .typeFirst
  /-- Glob patterns of the manifests to leave out. -/
  excludedPaths : List String := []
  /-- Settings of rules by name, in the order of the names. -/
  rules : List (String × RuleSetting) := []
  deriving DecidableEq, Repr

/-- What makes a test of paths out of glob patterns. -/
structure PatternCompiler where
  /-- A pattern that was understood. -/
  Pattern : Type
  /-- Read a pattern, or tell what is wrong with it. -/
  read : String → Except String Pattern
  /-- The test whether some pattern matches a path, or what stands against
  it. -/
  test : List Pattern → Except String (String → Bool)

/-- What is wrong with a configuration. -/
inductive ConfigError
  | unknownRule (name : String)
  | invalidPattern (pattern cause : String)
  | unusablePatterns (cause : String)
  deriving DecidableEq, Repr

/-- What is told about an error. -/
def ConfigError.message : ConfigError → String
  | .unknownRule name =>
    "unknown rule " ++ Text.quoted name ++ ", expected one of: " ++
      ", ".intercalate (Rule.all.map Rule.name)
  | .invalidPattern pattern cause =>
    "invalid excluded_paths pattern " ++ Text.quoted pattern ++ ": " ++ cause
  | .unusablePatterns cause => cause

namespace Config

/-- Put a setting into a list that is in the order of the names.  A setting of
the same name is replaced. -/
def insertRule
    (name : String)
    (setting : RuleSetting) :
    List (String × RuleSetting) → List (String × RuleSetting)
  | [] => [(name, setting)]
  | entry :: rest =>
    if name = entry.1 then (name, setting) :: rest
    else if name < entry.1 then (name, setting) :: entry :: rest
    else entry :: insertRule name setting rest

/-- Settings in the order of their names; the last of one name counts. -/
def sortRules
    (entries : List (String × RuleSetting)) :
    List (String × RuleSetting) :=
  entries.foldl (fun rules entry => insertRule entry.1 entry.2 rules) []

/-- What is configured for a rule. -/
def setting? (config : Config) (rule : Rule) : Option RuleSetting :=
  config.rules.lookup rule.name

/-- Whether a rule is checked. -/
def isEnabled (config : Config) (rule : Rule) : Bool :=
  match config.setting? rule with
  | some setting => setting.enabled
  | none => true

/-- How severe a rule is. -/
def severity (config : Config) (rule : Rule) : Severity :=
  ((config.setting? rule).bind RuleSetting.severity).getD rule.defaultSeverity

/-- The test whether a path is left out.  The first pattern that is wrong
decides. -/
def exclusions
    (config : Config)
    (compiler : PatternCompiler) :
    Except ConfigError (String → Bool) := do
  let patterns ← config.excludedPaths.mapM fun pattern =>
    (compiler.read pattern).mapError (.invalidPattern pattern)
  (compiler.test patterns).mapError .unusablePatterns

/-- The first thing that is wrong with a configuration: rules are looked at
before patterns. -/
def error?
    (config : Config)
    (compiler : PatternCompiler) :
    Option ConfigError :=
  match config.rules.find? fun entry => (Rule.ofName? entry.1).isNone with
  | some entry => some (.unknownRule entry.1)
  | none =>
    match config.exclusions compiler with
    | .error error => some error
    | .ok _ => none

open DataFormat

/-- Read the setting of a rule. -/
def readSetting?
    {ν : Type}
    [DataFormat ν]
    (value : ν) :
    Option RuleSetting := do
  match ← fields? ["enabled", "severity"] value with
  | [enabled, severity] =>
    return {
      enabled := ← withDefault true flag? enabled
      severity := ← optional (oneOf? Severity.all Severity.word) severity }
  | _ => none

/-- Read the settings of rules. -/
def readRules?
    {ν : Type}
    [DataFormat ν]
    (value : ν) :
    Option (List (String × RuleSetting)) := do
  let entries ← (← entries? value).mapM fun entry => do
    return (entry.1, ← readSetting? entry.2)
  return sortRules entries

/-- Read a configuration. -/
def read? {ν : Type} [DataFormat ν] (value : ν) : Option Config := do
  match ← fields?
      ["version", "style", "prototype", "excluded_paths", "rules"] value with
  | [version, style, prototype, excludedPaths, rules] =>
    return {
      version := ← withDefault "" text? version
      style := ← withDefault .long (oneOf? Style.all Style.word) style
      prototype :=
        ← withDefault .typeFirst (oneOf? Prototype.all Prototype.word) prototype
      excludedPaths := ← withDefault [] (list? text?) excludedPaths
      rules := ← withDefault [] readRules? rules }
  | _ => none

end Config
end DocLint
