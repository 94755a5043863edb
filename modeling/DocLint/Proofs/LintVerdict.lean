import DocLint.Command.BuiltIn
import DocLint.Proofs.IndependentSettings
import DocLint.Proofs.ManifestRuns
import DocLint.Proofs.ReportRoundTrip
import DocLint.Proofs.VisibleFiles

/-!
# The verdict of a check

A check that finds manifests writes a report and ends with a verdict.  Both come
from one result, and the result from the manifests that can be loaded.  The
verdict is therefore a statement about declarations: the check fails exactly if
one of them has a finding that is configured to be an error, and the report
holds all findings of all of them, in their order, whatever files were skipped.

The libraries may be any: which texts hold a configuration or a manifest, and
which paths a pattern matches, is never looked into.
-/

namespace DocLint

/-! ## What is planned -/

/-- The plan that options lead to in a workspace: a format that there is, a
configuration without errors whose style may be replaced, and the manifests that
are found at the path and not excluded. -/
structure LintOptions.LeadsTo
    (options : LintOptions)
    (libraries : Libraries)
    (workspace : Workspace)
    (plan : LintPlan) : Prop where
  format : OutputFormat.ofWord? options.format = some plan.format
  configPath : plan.configPath = options.configPath? workspace
  config : ∃ config,
    LintOptions.loadConfig libraries workspace plan.configPath = .ok config ∧
      config.error? libraries.patterns = none ∧
      plan.config = { config with style := options.style.getD config.style }
  manifests : ∃ place excluded,
    workspace.place options.path = .ok place ∧
      plan.config.exclusions libraries.patterns = .ok excluded ∧
      Manifest.search workspace excluded (Path.absolute place) =
        some plan.manifests

namespace LintOptions

variable {options : LintOptions}
variable {libraries : Libraries}
variable {workspace : Workspace}
variable {plan : LintPlan}

theorem leadsTo_of_plan
    (planned : options.plan libraries workspace = .ok plan) :
    options.LeadsTo libraries workspace plan := by
  unfold LintOptions.plan at planned
  cases format : OutputFormat.ofWord? options.format with
  | none =>
      rw [format] at planned
      cases planned
  | some word =>
      rw [format] at planned
      obtain ⟨config, loaded, planned⟩ := Parser.bind_eq_ok.mp planned
      cases valid : config.error? libraries.patterns with
      | some error =>
          rw [valid] at planned
          cases planned
      | none =>
          rw [valid] at planned
          obtain ⟨place, placed, planned⟩ := Parser.bind_eq_ok.mp planned
          obtain ⟨excluded, excludes, planned⟩ := Parser.bind_eq_ok.mp planned
          cases found : Manifest.search workspace excluded
              (Path.absolute place) with
          | none =>
              rw [found] at planned
              cases planned
          | some manifests =>
              rw [found] at planned
              cases planned
              exact
                { format := format
                  configPath := rfl
                  config := ⟨config, loaded, valid, rfl⟩
                  manifests := ⟨place, excluded,
                    mapError_eq_ok_iff.mp placed,
                    mapError_eq_ok_iff.mp excludes, found⟩ }

theorem plan_of_leadsTo
    (leads : options.LeadsTo libraries workspace plan) :
    options.plan libraries workspace = .ok plan := by
  obtain ⟨format, config, configPath, manifests⟩ := plan
  obtain ⟨formatRead, rfl, ⟨config, loaded, valid, rfl⟩, place, excluded,
    placed, excludes, found⟩ := leads
  simp [LintOptions.plan, formatRead, loaded, valid, placed, excludes, found,
    Except.mapError, bind, Except.bind, pure, Except.pure]

/-- Options lead to one plan at most. -/
theorem LeadsTo.unique
    {other : LintPlan}
    (leads : options.LeadsTo libraries workspace plan)
    (otherLeads : options.LeadsTo libraries workspace other) :
    other = plan := by
  have planned := plan_of_leadsTo otherLeads
  rw [plan_of_leadsTo leads] at planned
  exact (Except.ok.inj planned).symm

theorem LeadsTo.format_eq
    (leads : options.LeadsTo libraries workspace plan)
    {format : OutputFormat}
    (isWord : OutputFormat.ofWord? options.format = some format) :
    plan.format = format :=
  Option.some.inj (leads.format.symm.trans isWord)

end LintOptions

/-! ## What is found -/

/-- A finding is as severe as its rule is configured to be. -/
theorem Checker.severity_of_mem_check
    {config : Config}
    {declaration : Declaration}
    {finding : Finding}
    (member : finding ∈ Checker.check { config } declaration) :
    finding.severity = config.severity finding.rule := by
  obtain ⟨found, _, rfl⟩ := List.mem_map.mp member
  exact Settings.severity_resolve config found.rule

namespace LintPlan

variable (plan : LintPlan)
variable (libraries : Libraries)
variable (workspace : Workspace)

theorem findings_result :
    (plan.result libraries workspace).findings =
      (Manifest.loaded libraries.manifests workspace.text
          plan.manifests).flatMap fun manifest =>
        manifest.declarations.flatMap fun declaration =>
          (Checker.check { config := plan.config } declaration).map
            fun finding => (manifest.file, finding) := by
  rw [result, Manifest.checkFiles_eq, CheckResult.findings, List.flatMap_map]
  simp only [Manifest.fileFindings, List.map_flatMap]

theorem scanned_result :
    (plan.result libraries workspace).scanned =
      ((Manifest.loaded libraries.manifests workspace.text
          plan.manifests).map fun manifest =>
        manifest.declarations.length).sum := by
  rw [result, Manifest.checkFiles_eq]

theorem hasErrors_result :
    (plan.result libraries workspace).hasErrors = true ↔
      ∃ manifest ∈ Manifest.loaded libraries.manifests workspace.text
          plan.manifests,
        ∃ declaration ∈ manifest.declarations,
          ∃ finding ∈ Checker.check { config := plan.config } declaration,
            plan.config.severity finding.rule = .error := by
  simp only [CheckResult.hasErrors, findings_result, List.any_flatMap,
    List.any_map, List.any_eq_true, Function.comp_apply, beq_iff_eq]
  constructor
  · rintro ⟨manifest, isLoaded, declaration, declared, finding, found, isError⟩
    rw [Checker.severity_of_mem_check found] at isError
    exact ⟨manifest, isLoaded, declaration, declared, finding, found, isError⟩
  · rintro ⟨manifest, isLoaded, declaration, declared, finding, found, isError⟩
    rw [← Checker.severity_of_mem_check found] at isError
    exact ⟨manifest, isLoaded, declaration, declared, finding, found, isError⟩

/-- A report ends with a line break, so its text is not empty. -/
theorem reportText_ne_empty (color : Bool) (path : String) :
    plan.reportText libraries workspace color path ≠ "" := by
  unfold reportText
  cases plan.format with
  | json => simp
  | pretty => simp [Pretty.resultText]

end LintPlan

/-- What a report says about the verdict can be looked up in its text. -/
theorem Report.fields?_text (report : Report) :
    (Json.parse? (report.toJson.pretty ++ "\n").toList).bind
        (DataFormat.fields? ["passed", "declarations_scanned", "findings"]) =
      some [some (.bool report.passed), some (.natural report.scanned),
        some (.array (report.findings.map Report.findingToJson))] := by
  rw [Json.parse?_pretty_line, Option.bind_some, Report.toJson,
    Json.fields?_object (by split <;> simp)]
  simp [List.lookup_cons]

/-! ## What is reported -/

namespace LintOptions

variable {options : LintOptions}
variable {libraries : Libraries}
variable {workspace : Workspace}

theorem run_of_leadsTo
    {plan : LintPlan}
    (leads : options.LeadsTo libraries workspace plan)
    (found : plan.manifests ≠ [])
    (color : Bool) :
    options.run libraries color workspace =
      { status :=
          if (plan.result libraries workspace).hasErrors then .failed
          else .passed
        output := plan.reportText libraries workspace color options.path } := by
  have notEmpty : ¬ plan.manifests.isEmpty = true := by
    rwa [List.isEmpty_iff]
  unfold LintOptions.run
  rw [plan_of_leadsTo leads]
  exact if_neg notEmpty

/-- A report is written exactly if there is a plan with manifests to check. -/
theorem output_ne_empty_iff (color : Bool) :
    (options.run libraries color workspace).output ≠ "" ↔
      ∃ plan,
        options.LeadsTo libraries workspace plan ∧ plan.manifests ≠ [] := by
  constructor
  · intro written
    unfold LintOptions.run at written
    cases planned : options.plan libraries workspace with
    | error error =>
        rw [planned] at written
        exact absurd rfl written
    | ok plan =>
        refine ⟨plan, leadsTo_of_plan planned, ?_⟩
        intro noManifests
        rw [planned] at written
        simp [noManifests] at written
  · rintro ⟨plan, leads, found⟩
    rw [run_of_leadsTo leads found]
    exact plan.reportText_ne_empty libraries workspace color options.path

/-- The exit code, the report and the findings of a check agree.  If a report is
written, the code is 1 exactly if some declaration of a manifest that was found
and could be loaded has a finding that is configured to be an error, and exactly
if the report says that the check did not pass; otherwise it is 0.  The report
holds the findings of all these declarations, in their order, and their number,
and both formats are written from it. -/
theorem run_verdict
    (options : LintOptions)
    (libraries : Libraries)
    (color : Bool)
    (workspace : Workspace)
    (written : (options.run libraries color workspace).output ≠ "") :
    ∃ plan, options.LeadsTo libraries workspace plan ∧ plan.manifests ≠ [] ∧
      let outcome := options.run libraries color workspace
      let report := plan.report libraries workspace options.path
      let manifests :=
        Manifest.loaded libraries.manifests workspace.text plan.manifests
      let check := Checker.check { config := plan.config }
      (outcome.status.code = 1 ↔
        ∃ manifest ∈ manifests, ∃ declaration ∈ manifest.declarations,
          ∃ finding ∈ check declaration,
            plan.config.severity finding.rule = .error) ∧
      (outcome.status.code = 1 ↔ report.passed = false) ∧
      (outcome.status.code ≠ 1 → outcome.status.code = 0) ∧
      (report.findings =
        manifests.flatMap fun manifest =>
          manifest.declarations.flatMap fun declaration =>
            (check declaration).map fun finding => (manifest.file, finding)) ∧
      (report.scanned =
        (manifests.map fun manifest => manifest.declarations.length).sum) ∧
      (options.format = "json" →
        (Json.parse? outcome.output.toList).bind (DataFormat.fields?
            ["passed", "declarations_scanned", "findings"]) =
          some [some (.bool report.passed), some (.natural report.scanned),
            some (.array (report.findings.map Report.findingToJson))]) ∧
      (options.format = "pretty" →
        outcome.output = Pretty.resultText color options.path plan.configText
          plan.config.style (plan.result libraries workspace)) := by
  obtain ⟨plan, leads, found⟩ := (output_ne_empty_iff color).mp written
  have code : (options.run libraries color workspace).status.code =
      if (plan.result libraries workspace).hasErrors then 1 else 0 := by
    rw [run_of_leadsTo leads found]
    split <;> rfl
  have output : (options.run libraries color workspace).output =
      plan.reportText libraries workspace color options.path := by
    rw [run_of_leadsTo leads found]
  refine ⟨plan, leads, found, ?_, ?_, ?_,
    plan.findings_result libraries workspace,
    plan.scanned_result libraries workspace, ?_, ?_⟩
  · rw [← plan.hasErrors_result libraries workspace, code]
    simp
  · rw [code]
    simp [LintPlan.report, Report.of]
  · rw [code]
    split <;> simp
  · intro isJson
    have format : plan.format = .json := leads.format_eq (by rw [isJson]; rfl)
    rw [output, LintPlan.reportText, format]
    exact Report.fields?_text _
  · intro isPretty
    have format : plan.format = .pretty :=
      leads.format_eq (by rw [isPretty]; rfl)
    rw [output, LintPlan.reportText, format]

/-- A type that cannot be read is an error.  One file beside it is excluded, and
another one is skipped. -/
theorem run_verdict_unreadable_type :
    let manifest :=
      "file: a.rb\n" ++
      "declarations:\n" ++
      "- kind: method\n" ++
      "  comments:\n" ++
      "  - line: 1\n" ++
      "    text: |-\n" ++
      "      # @return [Array<]\n"
    let workspace : Workspace :=
      { tree := .directory
          [("a.decl.yaml", .file manifest), ("b.decl.yaml", .file ""),
            ("c.decl.json", .file "["),
            ("lint.yaml", .file "excluded_paths: ['b*']\n")]
        here := [] }
    let options : LintOptions := ⟨".", some "lint.yaml", "json", none⟩
    (options.run .builtIn false workspace).output ≠ "" ∧
      (options.run .builtIn false workspace).status.code = 1 := by
  intro manifest workspace options
  let config : Config := { excludedPaths := ["b*"] }
  let excluded : String → Bool := fun path =>
    [[Glob.Token.literal 'b', .anyBytes]].any fun pattern =>
      Glob.isMatch pattern path
  let plan : LintPlan :=
    ⟨.json, config, some "lint.yaml", ["/a.decl.yaml", "/c.decl.json"]⟩
  have loads : LintOptions.loadConfig .builtIn workspace (some "lint.yaml") =
      .ok config := by
    have reads : Libraries.builtIn.config "excluded_paths: ['b*']\n" =
        .ok { excludedPaths := ["b*"] } := by
      cbv
    exact congrArg (Except.mapError (LintError.unreadableConfig "lint.yaml"))
      reads
  have excludes :
      config.exclusions Libraries.builtIn.patterns = .ok excluded := by
    have reads : Glob.compiler.read "b*" = .ok [.literal 'b', .anyBytes] := by
      cbv
    show config.exclusions Glob.compiler = _
    rw [Config.exclusions, List.mapM_cons, reads]
    rfl
  have valid : config.error? Libraries.builtIn.patterns = none := by
    rw [Config.error?, excludes]
    rfl
  have search : Manifest.search workspace excluded "/" =
      some plan.manifests := by
    have files : FileTree.visibleFiles workspace.tree =
        [["a.decl.yaml"], ["b.decl.yaml"], ["c.decl.json"], ["lint.yaml"]] := by
      rw [FileTree.visibleFiles_directory_of_sorted (by simp)]
      rfl
    show some ((Manifest.placesIn _ workspace.tree).map _) = _
    rw [Manifest.placesIn, files]
    decide
  have leads : options.LeadsTo .builtIn workspace plan :=
    { format := rfl
      configPath := rfl
      config := ⟨config, loads, valid, rfl⟩
      manifests := ⟨[], excluded, by decide, excludes, search⟩ }
  have written : (options.run .builtIn false workspace).output ≠ "" :=
    (output_ne_empty_iff false).mpr ⟨plan, leads, by simp [plan]⟩
  refine ⟨written, ?_⟩
  obtain ⟨other, otherLeads, _, verdict, _⟩ :=
    run_verdict options .builtIn false workspace written
  obtain rfl : other = plan := leads.unique otherLeads
  let comment : CommentLine := ⟨1, 0, "# @return [Array<]", true⟩
  let declaration : Declaration := ⟨.method, "", 0, 0, [], [comment]⟩
  have isLoaded : Manifest.loaded? Libraries.builtIn.manifests workspace.text
      "/a.decl.yaml" = some ⟨"a.rb", [declaration]⟩ := by
    have reads : Libraries.builtIn.manifests.yaml manifest =
        .ok ⟨"a.rb", [declaration]⟩ := by
      simp only [manifest, declaration, comment]
      cbv
    have text : workspace.text "/a.decl.yaml" = .ok manifest := rfl
    rw [Manifest.loaded?, text, Manifest.toOption_load, if_neg (by decide),
      reads]
    rfl
  have member : ⟨"a.rb", [declaration]⟩ ∈ Manifest.loaded
      Libraries.builtIn.manifests workspace.text plan.manifests :=
    List.mem_filterMap.mpr ⟨"/a.decl.yaml", by simp [plan], isLoaded⟩
  have isError : ∃ finding ∈ Checker.check { config } declaration,
      config.severity finding.rule = .error := by
    decide +kernel
  exact verdict.mpr ⟨_, member, declaration, List.mem_singleton_self _, isError⟩

end LintOptions
end DocLint
