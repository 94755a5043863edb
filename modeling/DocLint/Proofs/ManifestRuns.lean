import Mathlib
import DocLint.Command.BuiltIn

/-!
# Runs over manifest files

A run takes the files one after another and merges what each of them gives.  A
file that cannot be loaded gives nothing but its path; every other file gives
one entry with the findings of all its declarations.  The outcome is therefore
determined by the manifests that are loaded and the paths that are not, each in
the order of the run, and a run over two lists is the two runs merged.

Nothing here depends on how texts are read: the readers of the two formats are
any functions from texts to manifests or to what is wrong with the text.
-/

namespace DocLint

/-! ## Merging results -/

namespace CheckResult

@[simp] theorem empty_merge (result : CheckResult) :
    empty.merge result = result := by
  simp [empty, merge]

@[simp] theorem merge_empty (result : CheckResult) :
    result.merge empty = result := by
  simp [empty, merge]

theorem merge_assoc (first second third : CheckResult) :
    (first.merge second).merge third = first.merge (second.merge third) := by
  simp only [merge, List.append_assoc, Nat.add_assoc]

theorem findings_merge (left right : CheckResult) :
    (left.merge right).findings = left.findings ++ right.findings :=
  List.flatMap_append

theorem hasErrors_merge (left right : CheckResult) :
    (left.merge right).hasErrors = (left.hasErrors || right.hasErrors) := by
  rw [hasErrors, findings_merge, List.any_append]
  rfl

theorem findingCount_merge (left right : CheckResult) :
    (left.merge right).findingCount =
      left.findingCount + right.findingCount := by
  rw [findingCount, findings_merge, List.length_append]
  rfl

end CheckResult

/-- The settings that a checker keeps are the ones it would resolve. -/
theorem Checker.check_remember (checker : Checker) :
    checker.remember.check = checker.check := rfl

/-! ## Errors told in other words -/

section MappedErrors

variable {ε δ α : Type}
variable {outcome : Except ε α}
variable {convert : ε → δ}

theorem mapError_eq_ok_iff {value : α} :
    outcome.mapError convert = .ok value ↔ outcome = .ok value := by
  cases outcome <;> simp [Except.mapError]

theorem mapError_eq_error_iff {error : δ} :
    outcome.mapError convert = .error error ↔
      ∃ cause, outcome = .error cause ∧ convert cause = error := by
  cases outcome <;> simp [Except.mapError]

theorem toOption_mapError :
    (outcome.mapError convert).toOption = outcome.toOption := by
  cases outcome <;> rfl

end MappedErrors

namespace Manifest

section Runs

variable (readers : Readers)
variable (checker : Checker)
variable (contents : String → Except String String)

/-! ## One file -/

/-- What is told about a file that gives no manifest names the file. -/
theorem path_of_load_eq_error
    {readers : Readers}
    {path : String}
    {content : Except String String}
    {error : LoadError}
    (failed : load readers path content = .error error) :
    error.path = path := by
  cases content with
  | error cause =>
      cases failed
      rfl
  | ok text =>
      by_cases isJson : isJsonPath path = true
      · rw [load, if_pos isJson] at failed
        obtain ⟨cause, -, rfl⟩ := mapError_eq_error_iff.mp failed
        rfl
      · rw [load, if_neg isJson] at failed
        obtain ⟨cause, -, rfl⟩ := mapError_eq_error_iff.mp failed
        rfl

/-- A text gives the manifest that the reader of its format finds in it. -/
theorem toOption_load (path text : String) :
    (load readers path (.ok text)).toOption =
      (if isJsonPath path then readers.json text
        else readers.yaml text).toOption := by
  rw [load]
  split
  · exact toOption_mapError
  · exact toOption_mapError

/-- The manifest that is loaded from a path, if there is one. -/
def loaded? (path : String) : Option Manifest :=
  (load readers path (contents path)).toOption

/-- The findings for all declarations of a manifest, in their order. -/
def fileFindings (manifest : Manifest) : FileFindings :=
  ⟨manifest.file, manifest.declarations.flatMap checker.check⟩

theorem check_eq (manifest : Manifest) :
    manifest.check checker =
      ⟨[manifest.fileFindings checker], manifest.declarations.length, []⟩ := by
  rw [check, Checker.checkAll, checker.check_remember, fileFindings,
    List.flatMap_def]

variable {readers contents} in
theorem checkFile_of_loaded
    {path : String}
    {manifest : Manifest}
    (isLoaded : loaded? readers contents path = some manifest) :
    checkFile readers checker contents path =
      ⟨[manifest.fileFindings checker], manifest.declarations.length, []⟩ := by
  unfold loaded? at isLoaded
  unfold checkFile
  cases outcome : load readers path (contents path) with
  | error error =>
      rw [outcome] at isLoaded
      exact absurd isLoaded (by simp [Except.toOption])
  | ok found =>
      rw [outcome] at isLoaded
      cases isLoaded
      exact check_eq checker manifest

variable {readers contents} in
theorem checkFile_of_not_loaded
    {path : String}
    (notLoaded : loaded? readers contents path = none) :
    checkFile readers checker contents path = ⟨[], 0, [path]⟩ := by
  unfold loaded? at notLoaded
  unfold checkFile
  cases outcome : load readers path (contents path) with
  | error error => rfl
  | ok manifest =>
      rw [outcome] at notLoaded
      exact absurd notLoaded (by simp [Except.toOption])

/-! ## Many files -/

/-- The manifests that are loaded from paths, in the order of the paths. -/
def loaded (paths : List String) : List Manifest :=
  paths.filterMap (loaded? readers contents)

/-- The paths from which no manifest is loaded. -/
def notLoaded (paths : List String) : List String :=
  paths.filter fun path => (loaded? readers contents path).isNone

/-- What a run has gathered before does not change what comes behind it. -/
theorem foldl_checkFile (start : CheckResult) (paths : List String) :
    paths.foldl
        (fun result path =>
          result.merge (checkFile readers checker contents path))
        start =
      start.merge (checkFiles readers checker contents paths) := by
  unfold checkFiles
  induction paths generalizing start with
  | nil => exact start.merge_empty.symm
  | cons path paths hypothesis =>
      rw [List.foldl_cons, List.foldl_cons, hypothesis,
        hypothesis (CheckResult.empty.merge _), CheckResult.empty_merge,
        CheckResult.merge_assoc]

theorem checkFiles_append (paths more : List String) :
    checkFiles readers checker contents (paths ++ more) =
      (checkFiles readers checker contents paths).merge
        (checkFiles readers checker contents more) := by
  rw [checkFiles, List.foldl_append]
  exact foldl_checkFile readers checker contents _ more

theorem checkFiles_cons (path : String) (paths : List String) :
    checkFiles readers checker contents (path :: paths) =
      (checkFile readers checker contents path).merge
        (checkFiles readers checker contents paths) := by
  rw [checkFiles, List.foldl_cons, CheckResult.empty_merge]
  exact foldl_checkFile readers checker contents _ paths

/-- A run is determined by the manifests it loads and the paths it cannot
load. -/
theorem checkFiles_eq (paths : List String) :
    checkFiles readers checker contents paths =
      { files := (loaded readers contents paths).map (fileFindings checker)
        scanned := ((loaded readers contents paths).map fun manifest =>
          manifest.declarations.length).sum
        skipped := notLoaded readers contents paths } := by
  induction paths with
  | nil => rfl
  | cons path paths hypothesis =>
      rw [checkFiles_cons, hypothesis]
      unfold loaded notLoaded
      cases outcome : loaded? readers contents path with
      | none =>
          rw [checkFile_of_not_loaded checker outcome,
            List.filterMap_cons_none outcome,
            List.filter_cons_of_pos (by rw [outcome]; rfl)]
          simp [CheckResult.merge]
      | some manifest =>
          rw [checkFile_of_loaded checker outcome,
            List.filterMap_cons_some outcome,
            List.filter_cons_of_neg (by rw [outcome]; exact Bool.false_ne_true)]
          simp [CheckResult.merge]

end Runs

/-- A run over two lists of paths is the two runs merged.  It skips exactly the
paths that cannot be loaded; every other path has one entry, named after its
manifest, with the findings of its declarations in their order; and the number
of declarations is that of all these manifests.  Of two merged results the
errors are those of either one, and the findings add up. -/
theorem checkFiles_compositional
    (readers : Readers)
    (checker : Checker)
    (contents : String → Except String String) :
    (∀ paths more,
      checkFiles readers checker contents (paths ++ more) =
        (checkFiles readers checker contents paths).merge
          (checkFiles readers checker contents more)) ∧
    (∀ paths,
      (checkFiles readers checker contents paths).skipped =
        paths.filter fun path =>
          (load readers path (contents path)).toOption.isNone) ∧
    (∀ paths,
      (checkFiles readers checker contents paths).files =
        (paths.filterMap fun path =>
          (load readers path (contents path)).toOption).map fun manifest =>
            ⟨manifest.file, manifest.declarations.flatMap checker.check⟩) ∧
    (∀ paths,
      (checkFiles readers checker contents paths).scanned =
        ((paths.filterMap fun path =>
          (load readers path (contents path)).toOption).map fun manifest =>
            manifest.declarations.length).sum) ∧
    ∀ left right : CheckResult,
      (left.merge right).hasErrors = (left.hasErrors || right.hasErrors) ∧
        (left.merge right).findingCount =
          left.findingCount + right.findingCount := by
  have outcome := checkFiles_eq readers checker contents
  refine ⟨checkFiles_append readers checker contents, ?_, ?_, ?_, ?_⟩
  · intro paths
    exact congrArg CheckResult.skipped (outcome paths)
  · intro paths
    exact congrArg CheckResult.files (outcome paths)
  · intro paths
    exact congrArg CheckResult.scanned (outcome paths)
  · intro left right
    exact ⟨CheckResult.hasErrors_merge left right,
      CheckResult.findingCount_merge left right⟩

/-- A list that is not closed is skipped, and the file behind it is checked. -/
theorem checkFiles_compositional_unclosed_list :
    let contents : String → Except String String := fun path =>
      if path = "good.decl.yaml" then
        .ok "file: a.rb\ndeclarations:\n- kind: class\n"
      else .ok "declarations: ["
    let result := checkFiles Libraries.builtIn.manifests { config := {} }
      contents ["bad.decl.yaml", "good.decl.yaml"]
    result.skipped = ["bad.decl.yaml"] ∧ result.files = [⟨"a.rb", []⟩] ∧
      result.scanned = 1 := by
  intro contents result
  let manifest : Manifest := ⟨"a.rb", [⟨.classBody, "", 0, 0, [], []⟩]⟩
  have good : (load Libraries.builtIn.manifests "good.decl.yaml"
      (contents "good.decl.yaml")).toOption = some manifest := by
    have reads : Libraries.builtIn.manifests.yaml
        "file: a.rb\ndeclarations:\n- kind: class\n" = .ok manifest := by
      simp only [manifest]
      cbv
    have text : contents "good.decl.yaml" =
        .ok "file: a.rb\ndeclarations:\n- kind: class\n" := rfl
    rw [text, toOption_load, if_neg (by decide), reads]
    rfl
  have bad : (load Libraries.builtIn.manifests "bad.decl.yaml"
      (contents "bad.decl.yaml")).toOption = none := by
    have reads : Libraries.builtIn.manifests.yaml "declarations: [" =
        .error (unexpectedMessage "YAML") := by
      cbv
    have text : contents "bad.decl.yaml" = .ok "declarations: [" := rfl
    rw [text, toOption_load, if_neg (by decide), reads]
    rfl
  obtain ⟨-, skipped, files, scanned, -⟩ :=
    checkFiles_compositional Libraries.builtIn.manifests { config := {} }
      contents
  refine ⟨?_, ?_, ?_⟩
  · simp [result, skipped, good, bad]
  · simp [result, files, good, bad, manifest]
    decide
  · simp [result, scanned, good, bad, manifest]

end Manifest
end DocLint
