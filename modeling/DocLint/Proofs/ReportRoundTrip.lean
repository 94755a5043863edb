import DocLint.Proofs.Json.RoundTrip
import DocLint.Report.Json

/-!
# Reports and results survive their texts

A record is written as an object whose member names are all different, so each
of its fields is looked up by name.  What is left out, a correction or a list of
skipped manifests, is read as absent and gets its default.  Records nest as
their JSON values do, and each of them is read back if the records in it are.
Numbers are the one limit: a reader takes those that fit into 64 bits.
-/

namespace DocLint

open DataFormat

/-! ## What a reader takes -/

/-- All numbers of a span are read. -/
def Span.Fits (span : Span) : Prop :=
  span.line < numberLimit ∧
    span.startColumn < numberLimit ∧ span.endColumn < numberLimit

/-- All numbers of a finding are read. -/
def Finding.Fits (finding : Finding) : Prop :=
  finding.span.Fits ∧
    ∀ correction ∈ finding.correction, correction.span.Fits

/-- All numbers of a result are read. -/
def CheckResult.Fits (result : CheckResult) : Prop :=
  result.scanned < numberLimit ∧
    ∀ file ∈ result.files, ∀ finding ∈ file.findings, finding.Fits

/-- All numbers of a report are read. -/
def Report.Fits (report : Report) : Prop :=
  report.scanned < numberLimit ∧
    ∀ finding ∈ report.findings, finding.2.Fits

instance (span : Span) : Decidable span.Fits :=
  inferInstanceAs (Decidable (_ ∧ _ ∧ _))

instance (finding : Finding) : Decidable finding.Fits :=
  inferInstanceAs (Decidable (_ ∧ _))

instance (result : CheckResult) : Decidable result.Fits :=
  inferInstanceAs (Decidable (_ ∧ _))

/-- The report of a result has no other numbers than the result. -/
theorem Report.of_fits
    {result : CheckResult}
    (fits : result.Fits)
    (path config : String)
    (style : Style) :
    (Report.of path config style result).Fits := by
  refine ⟨fits.1, ?_⟩
  intro finding member
  simp only [Report.of, CheckResult.findings, List.mem_flatMap, List.mem_map]
    at member
  obtain ⟨file, fileMember, other, otherMember, rfl⟩ := member
  exact fits.2 file fileMember other otherMember

/-! ## Fields and lists -/

namespace Json

theorem member?_of_distinct
    {members : List (String × Json)}
    (distinct : (members.map Prod.fst).Nodup)
    (name : String) :
    member? members name = some (List.lookup name members) := by
  induction members with
  | nil => rfl
  | cons first rest hypothesis =>
      obtain ⟨other, value⟩ := first
      obtain ⟨single, restDistinct⟩ := List.nodup_cons.mp distinct
      by_cases same : other = name
      · subst same
        have noneLeft : rest.filter (fun member => member.1 == other) = [] := by
          rw [List.filter_eq_nil_iff]
          intro member isMember isSame
          exact single (List.mem_map.mpr ⟨member, isMember, eq_of_beq isSame⟩)
        simp [member?, noneLeft]
      · have passed : member? ((other, value) :: rest) name = member? rest name := by
          simp [member?, same]
        rw [passed, hypothesis restDistinct, List.lookup_cons,
          beq_false_of_ne (Ne.symm same)]

/-- In an object without repeated names a field is looked up. -/
theorem fields?_object
    {members : List (String × Json)}
    (distinct : (members.map Prod.fst).Nodup)
    (names : List String) :
    DataFormat.fields? names (Json.object members) =
      some (names.map fun name => List.lookup name members) := by
  have looked : member? members =
      fun name => pure (List.lookup name members) :=
    funext (member?_of_distinct distinct)
  show names.mapM (member? members) = _
  rw [looked]
  exact List.mapM_pure

theorem list?_array
    {α : Type}
    {read : Json → Option α}
    {write : α → Json}
    {items : List α}
    (reads : ∀ item ∈ items, read (write item) = some item) :
    DataFormat.list? read (Json.array (items.map write)) = some items := by
  show (items.map write).mapM read = some items
  induction items with
  | nil => rfl
  | cons item rest hypothesis =>
      have restReads := hypothesis fun other member =>
        reads other (List.mem_cons_of_mem item member)
      rw [List.map_cons, List.mapM_cons, reads item List.mem_cons_self, restReads]
      rfl

theorem natural?_natural
    {value : Nat}
    (fits : value < numberLimit) :
    DataFormat.natural? (Json.natural value) = some value :=
  if_pos fits

theorem text?_string (value : String) :
    DataFormat.text? (Json.string value) = some value :=
  rfl

theorem flag?_bool (value : Bool) :
    DataFormat.flag? (Json.bool value) = some value :=
  rfl

/-- A field that is only written when it is there. -/
theorem optional_map
    {α : Type}
    {read : Json → Option α}
    {write : α → Json}
    (written : ∀ item, DataFormat.isNothing (write item) = false)
    {field : Option α}
    (reads : ∀ item ∈ field, read (write item) = some item) :
    DataFormat.optional read (field.map write) = some field := by
  cases field with
  | none => rfl
  | some item =>
      simp [DataFormat.optional, written, reads item rfl]

end Json

/-! ## Records -/

theorem Span.read?_toJson
    {span : Span}
    (fits : span.Fits) :
    Span.read? span.toJson = some span := by
  obtain ⟨line, startColumn, endColumn⟩ := fits
  rw [Span.read?, Span.toJson, Json.fields?_object (by simp)]
  simp [List.lookup_cons, required, Json.natural?_natural, *]

namespace Correction

theorem read?_toJson
    {correction : Correction}
    (fits : correction.span.Fits) :
    Correction.read? correction.toJson = some correction := by
  rw [Correction.read?, Correction.toJson, Json.fields?_object (by simp)]
  simp [List.lookup_cons, required, Span.read?_toJson fits, Json.text?_string]

end Correction

theorem Rule.oneOf?_name (rule : Rule) :
    oneOf? Rule.all Rule.name (Json.string rule.name) = some rule := by
  cases rule <;> rfl

theorem Severity.oneOf?_word (severity : Severity) :
    oneOf? Severity.all Severity.word (Json.string severity.word) =
      some severity := by
  cases severity <;> rfl

theorem Style.oneOf?_word (style : Style) :
    oneOf? Style.all Style.word (Json.string style.word) = some style := by
  cases style <;> rfl

namespace Finding

theorem ofFields?_written
    {finding : Finding}
    (fits : finding.Fits) :
    Finding.ofFields? (some (Json.string finding.rule.name))
      (some (Json.string finding.message)) (some finding.span.toJson)
      (some (Json.string finding.severity.word))
      (finding.correction.map Correction.toJson) = some finding := by
  have correction : DataFormat.optional Correction.read?
      (finding.correction.map Correction.toJson) = some finding.correction :=
    Json.optional_map (fun _ => rfl) fun correction present =>
      Correction.read?_toJson (fits.2 correction present)
  simp [Finding.ofFields?, required, Rule.oneOf?_name, Json.text?_string,
    Span.read?_toJson fits.1, Severity.oneOf?_word, correction]

/-- The members of a finding have different names, none of them `file`. -/
theorem names_members (finding : Finding) :
    ("file" :: finding.members.map Prod.fst).Nodup := by
  cases correction : finding.correction <;> simp [members, correction]

theorem lookup_members (finding : Finding) :
    ["rule", "message", "span", "severity", "correction"].map
        (fun name => List.lookup name finding.members) =
      [some (.string finding.rule.name), some (.string finding.message),
        some finding.span.toJson, some (.string finding.severity.word),
        finding.correction.map Correction.toJson] := by
  cases correction : finding.correction <;>
    simp [members, correction, List.lookup_cons]

theorem read?_toJson
    {finding : Finding}
    (fits : finding.Fits) :
    Finding.read? finding.toJson = some finding := by
  have distinct := (List.nodup_cons.mp finding.names_members).2
  rw [Finding.read?, Finding.toJson, Json.fields?_object distinct, lookup_members]
  exact ofFields?_written fits

end Finding

theorem FileFindings.read?_toJson
    {file : FileFindings}
    (fits : ∀ finding ∈ file.findings, finding.Fits) :
    FileFindings.read? file.toJson = some file := by
  have findings := Json.list?_array fun finding member =>
    Finding.read?_toJson (fits finding member)
  rw [FileFindings.read?, FileFindings.toJson, Json.fields?_object (by simp)]
  simp [List.lookup_cons, required, Json.text?_string, findings]

theorem CheckResult.read?_toJson
    {result : CheckResult}
    (fits : result.Fits) :
    CheckResult.read? result.toJson = some result := by
  have files := Json.list?_array fun file member =>
    FileFindings.read?_toJson (fits.2 file member)
  have skipped := Json.list?_array fun path (_ : path ∈ result.skipped) =>
    Json.text?_string path
  rw [CheckResult.read?, CheckResult.toJson, Json.fields?_object (by simp)]
  simp [List.lookup_cons, required, withDefault, Json.natural?_natural fits.1, files,
    skipped]

namespace Report

theorem readFinding?_findingToJson
    {finding : String × Finding}
    (fits : finding.2.Fits) :
    readFinding? (findingToJson finding) = some finding := by
  obtain ⟨file, finding⟩ := finding
  have fields : ["file", "rule", "message", "span", "severity", "correction"].map
      (fun name => List.lookup name (("file", .string file) :: finding.members)) =
      some (.string file) ::
        ["rule", "message", "span", "severity", "correction"].map
          (fun name => List.lookup name finding.members) := by
    simp [List.lookup_cons]
  have distinct :
      ((("file", Json.string file) :: finding.members).map Prod.fst).Nodup :=
    finding.names_members
  rw [readFinding?, findingToJson, Json.fields?_object distinct, fields,
    Finding.lookup_members]
  simp [entries?, required, Json.text?_string, Finding.ofFields?_written fits]

/-- Skipped manifests are read back, also when none are written. -/
theorem skipped_written (skipped : List String) :
    withDefault [] (list? text?)
      (List.lookup "skipped_manifests" (if skipped.isEmpty then []
        else [("skipped_manifests", Json.array (skipped.map Json.string))])) =
      some skipped := by
  cases skipped with
  | nil => rfl
  | cons path rest =>
      exact Json.list?_array fun path _ => Json.text?_string path

theorem read?_toJson
    {report : Report}
    (fits : report.Fits) :
    Report.read? report.toJson = some report := by
  have findings := Json.list?_array fun finding member =>
    readFinding?_findingToJson (fits.2 finding member)
  have skipped := skipped_written report.skipped
  rw [Report.read?, Report.toJson, Json.fields?_object (by split <;> simp)]
  simp [List.lookup_cons, required, Json.text?_string, Json.flag?_bool,
    Style.oneOf?_word, Json.natural?_natural fits.1, findings, skipped,
    -List.isEmpty_iff]

end Report

/-! ## Texts -/

/-- A value is read back from its compact text, from its text over several
lines, and from the latter with a line break behind it. -/
def ReadBack
    {α : Type}
    (write : α → Json)
    (read : Json → Option α)
    (value : α) : Prop :=
  ∀ text ∈ [(write value).compact, (write value).pretty,
      (write value).pretty ++ "\n"],
    (Json.parse? text.toList).bind read = some value

theorem ReadBack.of_value
    {α : Type}
    {write : α → Json}
    {read : Json → Option α}
    {value : α}
    (reads : read (write value) = some value) :
    ReadBack write read value := by
  intro text member
  have parsed : Json.parse? text.toList = some (write value) := by
    simp only [List.mem_cons, List.not_mem_nil, or_false] at member
    rcases member with rfl | rfl | rfl
    · exact Json.parse?_compact (write value)
    · exact Json.parse?_pretty (write value)
    · exact Json.parse?_pretty_line (write value)
  rw [parsed, Option.bind_some, reads]

/-- The report of a result and the result itself are read back from their texts,
as are the strings and the numbers in them. -/
theorem CheckResult.survives_text
    (path config : String)
    (style : Style)
    {result : CheckResult}
    (fits : result.Fits) :
    ReadBack Report.toJson Report.read? (Report.of path config style result) ∧
    ReadBack CheckResult.toJson CheckResult.read? result ∧
    (∀ text : String, ReadBack Json.string text? text) ∧
    ∀ number < numberLimit, ReadBack Json.natural natural? number := by
  refine ⟨?_, ?_, ?_, ?_⟩
  · exact .of_value (Report.read?_toJson (Report.of_fits fits path config style))
  · exact .of_value (CheckResult.read?_toJson fits)
  · intro text
    exact .of_value (Json.text?_string text)
  · intro number numberFits
    exact .of_value (Json.natural?_natural numberFits)

/-- Two findings, one with a correction, with quotes, control characters and
characters beyond the first plane in their texts, and the greatest number. -/
theorem CheckResult.survives_text_escapes :
    let span : Span := ⟨1, 0, 0xFFFFFFFFFFFFFFFF⟩
    let result : CheckResult :=
      ⟨[⟨"a\\b.rb",
          [⟨.tagTypeSyntax, "\"\n\x00\x1f", span, .error, none⟩,
            ⟨.collectionType, "\u00e9\u2028😀", span, .info,
              some ⟨span, "\t"⟩⟩]⟩],
        2, []⟩
    result.Fits ∧
      ReadBack Report.toJson Report.read?
        (Report.of "." "a \"b\".yaml" .long result) ∧
      ReadBack CheckResult.toJson CheckResult.read? result := by
  intro span result
  have fits : result.Fits := by decide
  have survives := CheckResult.survives_text "." "a \"b\".yaml" .long fits
  exact ⟨fits, survives.1, survives.2.1⟩

end DocLint
