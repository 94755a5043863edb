import DocLint.Check.Arguments
import DocLint.Check.MeaninglessTag
import DocLint.Check.TagPosition
import DocLint.Check.TagTypes
import DocLint.Config
import DocLint.Tag.Extract

/-!
# Checking declarations

A checker holds a configuration and, once they are needed, the settings that
follow from it.  All checks of a declaration are run, the findings of rules that
are not enabled are dropped, and the others take the severity that is configured
for their rule.
-/

namespace DocLint

/-- What a configuration settles for the checks. -/
structure Settings where
  style : Style
  prototype : Prototype
  /-- The rules that are checked. -/
  enabled : List Rule
  /-- How severe each rule is. -/
  severities : List (Rule × Severity)
  deriving DecidableEq, Repr

namespace Settings

/-- The settings that follow from a configuration. -/
def resolve (config : Config) : Settings where
  style := config.style
  prototype := config.prototype
  enabled := Rule.all.filter config.isEnabled
  severities := Rule.all.map fun rule => (rule, config.severity rule)

/-- Whether a rule is checked. -/
def isEnabled (settings : Settings) (rule : Rule) : Bool :=
  settings.enabled.contains rule

/-- How severe a rule is. -/
def severity (settings : Settings) (rule : Rule) : Severity :=
  (settings.severities.lookup rule).getD rule.defaultSeverity

/-- All findings for a declaration, whether their rules are enabled or not:
types of tags first, then positions of types, then what tags and parameters have
to do with each other. -/
def allFindings
    (settings : Settings)
    (declaration : Declaration) :
    List Finding :=
  let tags := Tag.extract declaration.comments
  tags.flatMap (Check.tagTypes settings.style) ++
    Check.tagPositions declaration.comments tags ++
    match declaration.kind with
    | .method => Check.arguments declaration tags settings.prototype
    | _ => Check.meaninglessTags declaration tags

/-- The findings for a declaration. -/
def check (settings : Settings) (declaration : Declaration) : List Finding :=
  ((settings.allFindings declaration).filter fun finding =>
    settings.isEnabled finding.rule).map fun finding =>
      { finding with severity := settings.severity finding.rule }

end Settings

/-- A configuration with the settings that were last needed. -/
structure Checker where
  config : Config
  resolved : Option Settings := none
  deriving Repr

namespace Checker

/-- The settings, resolved now if they were not needed before. -/
def settings (checker : Checker) : Settings :=
  checker.resolved.getD (Settings.resolve checker.config)

/-- The checker with its settings kept for the next time. -/
def remember (checker : Checker) : Checker :=
  { checker with resolved := some checker.settings }

/-- The checker with another style of collections.  Settings that were kept are
forgotten. -/
def withStyle (checker : Checker) (style : Style) : Checker :=
  { config := { checker.config with style }, resolved := none }

/-- The findings for a declaration. -/
def check (checker : Checker) (declaration : Declaration) : List Finding :=
  checker.settings.check declaration

/-- The findings for each of some declarations. -/
def checkAll
    (checker : Checker)
    (declarations : List Declaration) :
    List (List Finding) :=
  declarations.map checker.remember.check

end Checker
end DocLint
