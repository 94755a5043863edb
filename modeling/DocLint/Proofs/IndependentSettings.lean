import DocLint.Proofs.CorrectionSpan
import DocLint.Proofs.FindingOrigins

/-!
# Settings act on their own findings

A configuration decides three things: the style of collections, the layout of
suggested tags, and which rules are checked how severely.  The style changes the
findings about styles and the texts that collections are corrected to; the
layout changes the texts of suggested tags; what is configured for a rule
changes the findings of that rule.  All other findings are the same, in the same
order.
-/

namespace DocLint

/-- The findings of all rules but one. -/
def withoutRule (rule : Rule) (findings : List Finding) : List Finding :=
  findings.filter fun finding => finding.rule != rule

/-- A finding of a rule with an empty text in place of its correction's; other
findings are kept. -/
def Finding.withoutReplacement (rule : Rule) (finding : Finding) : Finding :=
  if finding.rule = rule then
    { finding with
      correction := finding.correction.map fun correction =>
        { correction with replacement := "" } }
  else finding

/-- The findings, with no texts for the corrections of a rule. -/
def withoutReplacements (rule : Rule) (findings : List Finding) :
    List Finding :=
  findings.map (Finding.withoutReplacement rule)

section Views

variable (rule : Rule)

theorem withoutRule_append (left right : List Finding) :
    withoutRule rule (left ++ right) =
      withoutRule rule left ++ withoutRule rule right :=
  List.filter_append left right

theorem withoutReplacements_append (left right : List Finding) :
    withoutReplacements rule (left ++ right) =
      withoutReplacements rule left ++ withoutReplacements rule right :=
  List.map_append

theorem Finding.rule_withoutReplacement (finding : Finding) :
    (finding.withoutReplacement rule).rule = finding.rule := by
  unfold withoutReplacement
  split <;> rfl

theorem Finding.withoutReplacement_severity
    (finding : Finding)
    (severity : Severity) :
    Finding.withoutReplacement rule { finding with severity } =
      { finding.withoutReplacement rule with severity } := by
  unfold withoutReplacement
  split <;> rfl

end Views

/-! ## Choosing findings -/

namespace Settings

/-- The findings of enabled rules, as severe as configured. -/
def chosen (settings : Settings) (findings : List Finding) : List Finding :=
  (findings.filter fun finding => settings.isEnabled finding.rule).map
    fun finding => { finding with severity := settings.severity finding.rule }

theorem check_eq_chosen (settings : Settings) (declaration : Declaration) :
    settings.check declaration =
      settings.chosen (settings.allFindings declaration) := rfl

section Chosen

variable (settings : Settings)
variable (rule : Rule)
variable (findings : List Finding)

theorem withoutRule_chosen :
    withoutRule rule (settings.chosen findings) =
      settings.chosen (withoutRule rule findings) := by
  unfold withoutRule chosen
  rw [List.filter_map, List.filter_comm]
  rfl

/-- A change of findings that keeps their rules, and does not look at how severe
they are, can be made before or after they are chosen. -/
theorem map_chosen
    {change : Finding → Finding}
    (sameRule : ∀ finding, (change finding).rule = finding.rule)
    (sameSeverity : ∀ (finding : Finding) (severity : Severity),
      change { finding with severity } = { change finding with severity }) :
    (settings.chosen findings).map change =
      settings.chosen (findings.map change) := by
  unfold chosen
  rw [List.filter_map, List.map_map, List.map_map]
  have enabled : ((fun finding => settings.isEnabled finding.rule) ∘ change) =
      fun finding => settings.isEnabled finding.rule := by
    funext finding
    exact congrArg settings.isEnabled (sameRule finding)
  rw [enabled]
  apply List.map_congr_left
  intro finding _
  rw [Function.comp_apply, Function.comp_apply, sameSeverity finding]
  dsimp only
  rw [sameRule finding]

theorem withoutReplacements_chosen :
    withoutReplacements rule (settings.chosen findings) =
      settings.chosen (withoutReplacements rule findings) :=
  settings.map_chosen findings (Finding.rule_withoutReplacement rule)
    (Finding.withoutReplacement_severity rule)

end Chosen

/-- Settings that differ in one rule choose the same findings of other rules. -/
theorem chosen_withoutRule_congr
    {settings other : Settings}
    {rule : Rule}
    (enabled : ∀ checked, checked ≠ rule →
      other.isEnabled checked = settings.isEnabled checked)
    (severe : ∀ checked, checked ≠ rule →
      other.severity checked = settings.severity checked)
    (findings : List Finding) :
    other.chosen (withoutRule rule findings) =
      settings.chosen (withoutRule rule findings) := by
  have different {finding : Finding}
      (member : finding ∈ withoutRule rule findings) : finding.rule ≠ rule := by
    simpa using (List.mem_filter.mp member).2
  unfold chosen
  rw [List.filter_congr fun finding member => enabled _ (different member)]
  apply List.map_congr_left
  intro finding member
  rw [severe _ (different (List.mem_filter.mp member).1)]

/-! ## What a configuration says about a rule -/

theorem isEnabled_resolve (config : Config) (rule : Rule) :
    (resolve config).isEnabled rule = config.isEnabled rule := by
  have member : rule ∈ Rule.all := by
    cases rule <;> decide
  rw [isEnabled, Bool.eq_iff_iff, List.contains_iff_mem, resolve,
    List.mem_filter, and_iff_right member]

theorem severity_resolve (config : Config) (rule : Rule) :
    (resolve config).severity rule = config.severity rule := by
  cases rule <;> rfl

end Settings

theorem Rule.ofName?_name (rule : Rule) : ofName? rule.name = some rule := by
  cases rule <;> decide

theorem Rule.name_ne_of_ne
    {rule other : Rule}
    (different : rule ≠ other) :
    rule.name ≠ other.name := by
  intro same
  have found := other.ofName?_name
  rw [← same, rule.ofName?_name] at found
  exact different (Option.some.inj found)

/-! ## The style of collections -/

namespace Check

/-- Apart from styles, what is said about an alternative are its mismatches. -/
theorem filter_complaints
    (style : Style)
    (raw : List Char)
    (type : TypeExpr) :
    ((complaints style raw type).filter fun complaint =>
        complaint.1 != .collectionStyle) =
      type.mismatches.map fun mismatch =>
        (.collectionType, mismatch.1.message) := by
  have kept : ((type.mismatches.map fun mismatch =>
      (Rule.collectionType, mismatch.1.message)).filter fun complaint =>
        complaint.1 != .collectionStyle) =
        type.mismatches.map fun mismatch =>
          (.collectionType, mismatch.1.message) := by
    apply List.filter_eq_self.mpr
    intro complaint member
    obtain ⟨mismatch, _, rfl⟩ := List.mem_map.mp member
    rfl
  unfold complaints
  split
  · rw [List.append_nil, kept]
  · rw [List.filter_append, kept]
    exact List.append_nil _

theorem withoutRule_alternativeFindings
    (types : TagText)
    (style : Style)
    (alternative : Alternative) :
    withoutRule .collectionStyle
        (alternativeFindings types style alternative) =
      alternative.type.mismatches.map fun mismatch =>
        reported types style alternative .collectionType
          mismatch.1.message := by
  rw [alternativeFindings_eq, withoutRule, List.filter_map]
  have chosen := filter_complaints style (rawText types alternative)
    alternative.type
  calc _ = ((complaints style (rawText types alternative)
          alternative.type).filter fun complaint =>
            complaint.1 != .collectionStyle).map fun complaint =>
              reported types style alternative complaint.1 complaint.2 := rfl
    _ = _ := by
      rw [chosen, List.map_map]
      rfl

/-- A correction stands in the same place in either style. -/
theorem withoutReplacement_reported
    (types : TagText)
    (style other : Style)
    (alternative : Alternative)
    (rule : Rule)
    (message : String) :
    (reported types other alternative rule message).withoutReplacement rule =
      (reported types style alternative rule message).withoutReplacement
        rule := by
  unfold Finding.withoutReplacement reported
  rw [if_pos rfl, if_pos rfl]
  split <;> rfl

theorem withoutReplacements_tagTypes
    (style other : Style)
    (tag : Tag) :
    withoutReplacements .collectionType
        (withoutRule .collectionStyle (tagTypes other tag)) =
      withoutReplacements .collectionType
        (withoutRule .collectionStyle (tagTypes style tag)) := by
  unfold tagTypes
  split
  · rfl
  · rename_i types _
    split
    · split
      · rename_i alternatives _
        simp only [withoutReplacements, withoutRule, List.filter_flatMap,
          List.map_flatMap]
        apply List.flatMap_congr
        intro alternative _
        have apart (style : Style) :=
          withoutRule_alternativeFindings types style alternative
        unfold withoutRule at apart
        rw [apart other, apart style, List.map_map, List.map_map]
        apply List.map_congr_left
        intro mismatch _
        exact withoutReplacement_reported types style other alternative
          .collectionType mismatch.1.message
      · rfl
    · rfl

end Check

theorem Settings.withoutReplacements_allFindings_style
    (settings : Settings)
    (style : Style)
    (declaration : Declaration) :
    withoutReplacements .collectionType (withoutRule .collectionStyle
        (allFindings { settings with style } declaration)) =
      withoutReplacements .collectionType (withoutRule .collectionStyle
        (settings.allFindings declaration)) := by
  have forTags (tags : List Tag) :
      withoutReplacements .collectionType (withoutRule .collectionStyle
          (tags.flatMap (Check.tagTypes style))) =
        withoutReplacements .collectionType (withoutRule .collectionStyle
          (tags.flatMap (Check.tagTypes settings.style))) := by
    simp only [withoutReplacements, withoutRule, List.filter_flatMap,
      List.map_flatMap]
    exact List.flatMap_congr fun tag _ =>
      Check.withoutReplacements_tagTypes settings.style style tag
  unfold allFindings
  simp only [withoutRule_append, withoutReplacements_append, forTags]

/-! ## The layout of suggested tags -/

namespace Check

theorem withoutReplacement_undocumentedFinding?
    (prototype other : Prototype)
    (last : CommentLine)
    (documented : List String)
    (parameter : Parameter) :
    (undocumentedFinding? other last documented parameter).map
        (Finding.withoutReplacement .undocumentedArgument) =
      (undocumentedFinding? prototype last documented parameter).map
        (Finding.withoutReplacement .undocumentedArgument) := by
  unfold undocumentedFinding?
  cases parameter.needsDocumentation with
  | false => rfl
  | true =>
      cases parameter.name with
      | none => rfl
      | some name =>
          dsimp only [bind, Option.bind]
          cases documented.contains name <;> rfl

theorem withoutReplacements_arguments
    (declaration : Declaration)
    (tags : List Tag)
    (prototype other : Prototype) :
    withoutReplacements .undocumentedArgument
        (arguments declaration tags other) =
      withoutReplacements .undocumentedArgument
        (arguments declaration tags prototype) := by
  have undocumented : withoutReplacements .undocumentedArgument
      (undocumentedArguments declaration tags other) =
        withoutReplacements .undocumentedArgument
          (undocumentedArguments declaration tags prototype) := by
    unfold undocumentedArguments
    split
    · split
      · rfl
      · simp only [withoutReplacements, List.map_filterMap,
          withoutReplacement_undocumentedFinding? prototype other]
    · rfl
  unfold arguments
  split
  · rfl
  · rw [withoutReplacements_append, withoutReplacements_append, undocumented]

end Check

theorem Settings.withoutReplacements_allFindings_prototype
    (settings : Settings)
    (prototype : Prototype)
    (declaration : Declaration) :
    withoutReplacements .undocumentedArgument
        (allFindings { settings with prototype } declaration) =
      withoutReplacements .undocumentedArgument
        (settings.allFindings declaration) := by
  unfold allFindings
  simp only [withoutReplacements_append]
  congr 1
  split
  · exact Check.withoutReplacements_arguments declaration _
      settings.prototype prototype
  · rfl

/-! ## Each setting for itself -/

/-- Configurations that differ in the style have the same findings but those
about styles, up to the texts that mismatches are corrected to.  Those that
differ in the layout have the same findings up to the texts of suggested tags.
Those that differ in what is configured for one rule have the same findings of
all other rules. -/
theorem check_independent
    (config : Config)
    (declaration : Declaration) :
    (∀ style,
      withoutReplacements .collectionType (withoutRule .collectionStyle
          ((Checker.mk { config with style } none).check declaration)) =
        withoutReplacements .collectionType (withoutRule .collectionStyle
          ((Checker.mk config none).check declaration))) ∧
    (∀ prototype,
      withoutReplacements .undocumentedArgument
          ((Checker.mk { config with prototype } none).check declaration) =
        withoutReplacements .undocumentedArgument
          ((Checker.mk config none).check declaration)) ∧
    (∀ (rule : Rule) (rules : List (String × RuleSetting)),
      (∀ name, name ≠ rule.name →
        rules.lookup name = config.rules.lookup name) →
      withoutRule rule
          ((Checker.mk { config with rules } none).check declaration) =
        withoutRule rule
          ((Checker.mk config none).check declaration)) := by
  simp only [Checker.check, Settings.check_eq_chosen,
    Settings.withoutRule_chosen, Settings.withoutReplacements_chosen]
  refine ⟨?_, ?_, ?_⟩
  · intro style
    have same := (Settings.resolve config).withoutReplacements_allFindings_style
      style declaration
    exact congrArg (Settings.resolve config).chosen same
  · intro prototype
    have same :=
      (Settings.resolve config).withoutReplacements_allFindings_prototype
        prototype declaration
    exact congrArg (Settings.resolve config).chosen same
  · intro rule rules same
    have setting (checked : Rule) (different : checked ≠ rule) :
        Config.setting? { config with rules } checked =
          config.setting? checked :=
      same checked.name (Rule.name_ne_of_ne different)
    apply Settings.chosen_withoutRule_congr
    · intro checked different
      show (Settings.resolve { config with rules }).isEnabled checked =
        (Settings.resolve config).isEnabled checked
      rw [Settings.isEnabled_resolve, Settings.isEnabled_resolve,
        Config.isEnabled, Config.isEnabled, setting checked different]
    · intro checked different
      show (Settings.resolve { config with rules }).severity checked =
        (Settings.resolve config).severity checked
      rw [Settings.severity_resolve, Settings.severity_resolve,
        Config.severity, Config.severity, setting checked different]

/-! ## One setting changed -/

/-- A method with a mismatch, a collection in the short style and a parameter
without a tag. -/
def threeFaults : Declaration where
  kind := .method
  name := "merge"
  line := 3
  column := 0
  parameters := [⟨some "x", .required, none⟩, ⟨some "y", .rest, none⟩]
  comments := [⟨2, 0, "# @param [Hash<A, (é)>] x", true⟩]

/-- With the rule for styles disabled only the finding about the style is gone;
with the short style or the other layout only texts of corrections are
changed. -/
theorem check_independent_three_faults :
    ((Checker.mk {} none).check threeFaults).map Finding.rule =
        [.collectionType, .collectionStyle, .undocumentedArgument] ∧
      ((Checker.mk { rules := [("collection_style", ⟨false, none⟩)] }
          none).check threeFaults).map Finding.rule =
        [.collectionType, .undocumentedArgument] ∧
      withoutRule .collectionStyle
          ((Checker.mk { rules := [("collection_style", ⟨false, none⟩)] }
            none).check threeFaults) =
        withoutRule .collectionStyle
          ((Checker.mk {} none).check threeFaults) ∧
      withoutReplacements .collectionType (withoutRule .collectionStyle
          ((Checker.mk { style := .short } none).check threeFaults)) =
        withoutReplacements .collectionType (withoutRule .collectionStyle
          ((Checker.mk {} none).check threeFaults)) ∧
      withoutReplacements .undocumentedArgument
          ((Checker.mk { prototype := .nameFirst } none).check threeFaults) =
        withoutReplacements .undocumentedArgument
          ((Checker.mk {} none).check threeFaults) := by
  obtain ⟨style, prototype, rules⟩ := check_independent {} threeFaults
  refine ⟨by decide +kernel, by decide +kernel, ?_, style .short,
    prototype .nameFirst⟩
  apply rules
  intro name different
  have absent : (name == "collection_style") = false :=
    beq_eq_false_iff_ne.mpr different
  rw [List.lookup_cons, absent]

end DocLint
