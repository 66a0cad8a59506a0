import PredicateIndex.Analyzer.Reply

/-!
# Notices of the pipeline

What the pipeline reports about its work, for the log. Each notice has a level, an event name and
fields.
-/
namespace PredicateIndex

/-- How an indexing notice is logged: always a warning. -/
def IndexNotice.record : IndexNotice → String × Fields
  | .missingPosition tag => ("node_missing_position", [("node_type", .text tag)])
  | .unsupportedHead file line head =>
    ("head_shape_unsupported",
      [("file", .text file), ("line", .ofInt? line), ("head_type", .ofText? head)])

/-- How an analyzer notice is logged. -/
def AnalyzerNotice.record : AnalyzerNotice → LogLevel × String × Fields
  | .notFound bundled => (.warning, "analyzer_not_found", [("bundled", .ofText? bundled)])
  | .configuredPathInvalid path =>
    (.error, "analyzer_configured_path_invalid", [("path", .text path)])
  | .failed file failure =>
    (.warning, "analyzer_failed",
      [("file", .text file), ("error", .text failure.code.name), ("message", .text failure.message)])
  | .setupFailed file reason =>
    (.error, "analyzer_setup_failed", [("file", .text file), ("error", .text reason)])

/-- What the pipeline reports. -/
inductive Notice where
  /-- A document was opened. -/
  | documentOpened (file : String)
  /-- A run was queued. -/
  | runQueued (file : String) (generation : Int)
  /-- A trigger was dropped because a run is pending. -/
  | alreadyPending (file : String)
  /-- A run began. -/
  | runStarted (file : String) (generation : Option Int)
  /-- The settings of a file could not be had. -/
  | settingsFailed (file reason : String)
  /-- The analyzer reported something. -/
  | analyzer (notice : AnalyzerNotice)
  /-- Indexing reported something. -/
  | indexing (notice : IndexNotice)
  /-- An index was installed. -/
  | cacheUpdated (file : String) (predicates : Nat) (generation : Option Int)
  /-- An index was evicted. -/
  | cacheEvicted (file : String)
  /-- A run installed its index. -/
  | runComplete (file : String) (predicates diagnostics : Nat)
  /-- The analyzer failed. -/
  | toolFailed (file : String) (error : Option String)
  /-- A run was broken off. -/
  | internalError (file : String)
  /-- The pipeline stopped after so many runs. -/
  | stopped (drained : Nat)
  deriving Repr

/-- What is reported when the provider answers for a file. -/
def SettingsAnswer.notices (file : String) : SettingsAnswer → List Notice
  | .given _ => []
  | .failed reason => [.settingsFailed file reason]

/-- The level, the event name and the fields of a notice. -/
def Notice.record : Notice → LogLevel × String × Fields
  | .documentOpened file => (.info, "document_opened", [("file_id", .text file)])
  | .runQueued file generation =>
    (.debug, "analysis_queued", [("file_id", .text file), ("generation", .int generation)])
  | .alreadyPending file => (.debug, "analysis_already_pending", [("file_id", .text file)])
  | .runStarted file generation =>
    (.info, "analysis_started", [("file_id", .text file), ("generation", .ofInt? generation)])
  | .settingsFailed file reason =>
    (.error, "settings_fetch_failed", [("scope", .text file), ("error", .text reason)])
  | .analyzer notice => notice.record
  | .indexing notice => (.warning, notice.record)
  | .cacheUpdated file predicates generation =>
    (.debug, "cache_entry_updated",
      [("file_id", .text file), ("predicates", .int predicates), ("generation", .ofInt? generation)])
  | .cacheEvicted file => (.debug, "cache_entry_deleted", [("file_id", .text file)])
  | .runComplete file predicates diagnostics =>
    (.info, "analysis_complete",
      [("file_id", .text file), ("predicates", .int predicates), ("diagnostics", .int diagnostics)])
  | .toolFailed file error =>
    (.info, "analysis_tool_failed", [("file_id", .text file), ("error", .ofText? error)])
  | .internalError file =>
    (.error, "analysis_internal_error",
      [("file_id", .text file), ("error", .text ErrorCode.internal.name)])
  | .stopped drained => (.info, "pipeline_stopped", [("drained", .int drained)])

end PredicateIndex
