import DocLint.Proofs.IndependentSettings

/-!
# Checkers never use stale settings

A checker keeps its settings once they were needed, and its style can be
overridden before or after that.  One invariant carries this module: settings
that are kept are those that follow from the configuration.  A new checker keeps
none, an override forgets them, and everything else keeps what it has just
resolved.  So after any requests, a checker answers like one that has just been
made from the configuration at that time.
-/

namespace DocLint

/-- What a checker can be asked for. -/
inductive Checker.Request
  | withStyle (style : Style)
  | settings
  | check (declaration : Declaration)
  | checkAll (declarations : List Declaration)

/-- What a checker answers. -/
inductive Checker.Answer
  | done
  | settings (settings : Settings)
  | findings (findings : List Finding)
  | findingsOfAll (findings : List (List Finding))

/-- The configuration after a request: only an override of the style changes
it. -/
def Config.after (config : Config) : Checker.Request → Config
  | .withStyle style => { config with style }
  | _ => config

/-- Settings that say what a configuration says. -/
structure Settings.FollowFrom
    (settings : Settings)
    (config : Config) : Prop where
  style : settings.style = config.style
  prototype : settings.prototype = config.prototype
  isEnabled : ∀ rule, settings.isEnabled rule = config.isEnabled rule
  severity : ∀ rule, settings.severity rule = config.severity rule

theorem Settings.followFrom_resolve (config : Config) :
    (Settings.resolve config).FollowFrom config :=
  ⟨rfl, rfl, isEnabled_resolve config, severity_resolve config⟩

namespace Checker

/-- The answer to a request. -/
def answer (checker : Checker) : Request → Answer
  | .withStyle _ => .done
  | .settings => .settings checker.settings
  | .check declaration => .findings (checker.check declaration)
  | .checkAll declarations => .findingsOfAll (checker.checkAll declarations)

/-- The checker after a request: only an override of the style does not need the
settings. -/
def after (checker : Checker) : Request → Checker
  | .withStyle style => checker.withStyle style
  | _ => checker.remember

/-- A checker that keeps no settings but those of its configuration. -/
def IsCoherent (checker : Checker) : Prop :=
  ∀ settings, checker.resolved = some settings →
    settings = Settings.resolve checker.config

/-! ## One request -/

theorem isCoherent_new (config : Config) :
    IsCoherent { config := config } := by
  rintro settings ⟨⟩

theorem config_after (checker : Checker) (request : Request) :
    (checker.after request).config = checker.config.after request := by
  cases request <;> rfl

namespace IsCoherent

variable {checker : Checker}

theorem settings_eq (coherent : checker.IsCoherent) :
    checker.settings = Settings.resolve checker.config := by
  cases kept : checker.resolved with
  | none => rw [settings, kept, Option.getD_none]
  | some settings =>
      rw [Checker.settings, kept, Option.getD_some]
      exact coherent settings kept

theorem remember (coherent : checker.IsCoherent) :
    checker.remember.IsCoherent := by
  rintro _ ⟨⟩
  exact coherent.settings_eq

theorem after
    (coherent : checker.IsCoherent)
    (request : Request) :
    (checker.after request).IsCoherent := by
  cases request with
  | withStyle style => exact isCoherent_new _
  | settings => exact coherent.remember
  | check declaration => exact coherent.remember
  | checkAll declarations => exact coherent.remember

/-- A checker that keeps no stale settings answers like a new one. -/
theorem answer_eq
    (coherent : checker.IsCoherent)
    (request : Request) :
    checker.answer request =
      answer { config := checker.config } request := by
  have same : checker.settings =
      Checker.settings { config := checker.config } :=
    coherent.settings_eq.trans (isCoherent_new _).settings_eq.symm
  cases request with
  | withStyle style => rfl
  | settings => exact congrArg Answer.settings same
  | check declaration =>
      exact congrArg (fun settings : Settings =>
        Answer.findings (settings.check declaration)) same
  | checkAll declarations =>
      exact congrArg (fun settings : Settings =>
        Answer.findingsOfAll (declarations.map settings.check)) same

end IsCoherent

/-! ## Any number of requests -/

theorem config_foldl_after
    (checker : Checker)
    (requests : List Request) :
    (requests.foldl after checker).config =
      requests.foldl Config.after checker.config := by
  induction requests generalizing checker with
  | nil => rfl
  | cons request later hypothesis =>
      rw [List.foldl_cons, List.foldl_cons, hypothesis, config_after]

theorem IsCoherent.foldl_after
    {checker : Checker}
    (coherent : checker.IsCoherent)
    (requests : List Request) :
    (requests.foldl Checker.after checker).IsCoherent := by
  induction requests generalizing checker with
  | nil => exact coherent
  | cons request later hypothesis => exact hypothesis (coherent.after request)

/-- After any requests to a new checker, its settings are those of the
configuration at that time, and whatever is asked next is answered as by a new
checker with that configuration. -/
theorem never_stale
    (config : Config)
    (requests : List Request) :
    let checker := requests.foldl after { config := config }
    let current := requests.foldl Config.after config
    checker.config = current ∧
      checker.settings = Settings.resolve current ∧
      checker.settings.FollowFrom current ∧
      ∀ request, checker.answer request =
        answer { config := current } request := by
  intro checker current
  have coherent : checker.IsCoherent :=
    (isCoherent_new config).foldl_after requests
  have sameConfig : checker.config = current :=
    config_foldl_after { config := config } requests
  have resolved : checker.settings = Settings.resolve current := by
    rw [coherent.settings_eq, sameConfig]
  refine ⟨sameConfig, resolved, ?_, fun request => ?_⟩
  · rw [resolved]
    exact Settings.followFrom_resolve current
  · rw [coherent.answer_eq, sameConfig]

end Checker
end DocLint
