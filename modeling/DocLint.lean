import DocLint.Json.Printer
import DocLint.Main
import DocLint.Report.Pretty
import DocLint.Report.TypeReport
import DocLint.TypeExpr.Json
import DocLint.Proofs.CorrectionFixpoint
import DocLint.Proofs.CorrectionSpan
import DocLint.Proofs.RoundTrip
import DocLint.Proofs.FindingSpans
import DocLint.Proofs.ParameterTags
import DocLint.Proofs.StubInsertion
import DocLint.Proofs.SuggestedTypes
import DocLint.Proofs.CompatibleCorrections
import DocLint.Proofs.IndependentSettings
import DocLint.Proofs.TrailingComments
import DocLint.Proofs.Checked.Findings
import DocLint.Proofs.TypeReports
import DocLint.Proofs.LintVerdict
import DocLint.Proofs.MovedComments
import DocLint.Proofs.SiblingTags
import DocLint.Proofs.TagReading
import DocLint.Proofs.LocatedAlternatives
import DocLint.Proofs.ReportedMismatches
import DocLint.Proofs.SyntaxErrors
import DocLint.Proofs.TagInvariants
import DocLint.Proofs.StyleFindings
import DocLint.Proofs.StableReports
import DocLint.Proofs.NestingLevels
import DocLint.Proofs.Overloads
import DocLint.Proofs.GeneratedLines
import DocLint.Proofs.FindingOrder
import DocLint.Proofs.KeptSettings
import DocLint.Proofs.ManifestSearch
import DocLint.Proofs.NumericRanges
import DocLint.Proofs.QuotedTexts
import DocLint.Proofs.LocatedTexts
import DocLint.Proofs.LosslessTokens
