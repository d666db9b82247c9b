import ScriptTree.Node.Json
import ScriptTree.Parse
import ScriptTree.Summary

/-!
# Results as JSON
-/

namespace ScriptTree

/-- Trivia by its kind and place.  Its text is in the source. -/
def Trivia.toJson (trivia : Trivia) : Json :=
  .object [("kind", .string trivia.kind.name), ("range", trivia.range.toJson)]

/-- The options of a parse by their names. -/
def ParseOptions.toJson (options : ParseOptions) : Json :=
  .object
    [("collect_trivia", .bool options.collectTrivia),
      ("max_diagnostics", .ofOption .ofNat options.maxDiagnostics)]

/-- The statistics of a parse by their names. -/
def ParseStatistics.toJson (statistics : ParseStatistics) : Json :=
  .object
    [("source_len", .ofNat statistics.sourceLength), ("token_count", .ofNat statistics.tokenCount),
      ("trivia_count", .ofNat statistics.triviaCount)]

/-- The whole result of a parse. -/
def ParseResult.toJson (result : ParseResult) : Json :=
  .object
    [("program", result.root.toJson), ("diagnostics", .ofList Diagnostic.toJson result.diagnostics),
      ("trivia", .ofList Trivia.toJson result.trivia), ("stats", result.statistics.toJson),
      ("diagnostics_truncated", .bool result.truncated),
      ("error_count", .ofNat result.errorCount)]

/-- A summary without the members that do not apply to its kind. -/
def DeclarationSummary.toJson (summary : DeclarationSummary) : Json :=
  .object
    ([("kind", .string summary.kind.name), ("name", .string summary.name)] ++
      (summary.parent.map fun parent => ("parent", Json.string parent)).toList ++
      (summary.typeName.map fun typeName => ("type_name", Json.string typeName)).toList ++
      [("range", summary.range.toJson)])

end ScriptTree
