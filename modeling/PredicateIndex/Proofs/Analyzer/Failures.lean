import PredicateIndex.Analyzer.Installed
import PredicateIndex.Pipeline.Run
import PredicateIndex.Proofs.Pipeline.View

/-!
# What breaks an analysis off

Whatever the tool does, an analysis gives an outcome, with a tree or an error but not both, or it is
broken off. It is broken off in four ways only: the home directory of a configured path is not
known; the identifier of the document is a malformed URL or names a file that no system takes; an
argument for the tool is no text that a system takes; and the tool left a text on which decoding
gives up, because of an integer that is too long, lists that nest too deep or a tag that is a list
or an object. The last are tool-level failures like every other malformed output, and yet they reach
the pipeline as crashes, which cost the file its index.
-/
namespace PredicateIndex

namespace Tool

/-! ## Causes -/

/-- An argument that no system takes, and how it is refused. -/
inductive Refused : String → Crash → Prop where
  /-- The argument has no bytes. -/
  | unencodable (text : String) (fault : Utf8.EncodeFault)
    (found : Utf8.nameFault? text = some fault) : Refused text (.encoding fault.message)
  /-- The argument holds a null character. -/
  | null (text : String) (encodable : Utf8.nameFault? text = none) (found : '\x00' ∈ text.toList) :
    Refused text (.conversion nullMessage)

/-- A text on which decoding gives up, and how. -/
inductive GivesUp : String → Crash → Prop where
  /-- An integer is too long. -/
  | literal (text : String) (digits : Nat) (read : Json.read text = .error (.oversized digits)) :
    GivesUp text (.conversion (Numeral.oversizedMessage digits))
  /-- Lists or objects nest too deep. -/
  | nesting (text shape : String) (read : Json.read text = .error (.tooDeep shape)) :
    GivesUp text (.nesting (Json.tooDeepMessage shape))
  /-- A tag is a list or an object. -/
  | tag (text : String) (fields : Fields) (bad : BadTag)
    (read : Json.read text = .ok (.object fields)) (rooted : fields.has "predicates")
    (found : Decode.badTag? fields = some bad) : GivesUp text (.lookup bad.message)

/-- A document is copied under a name. -/
structure Copied (directory file source name : String) : Prop where
  /-- The identifier of the document gives the name. -/
  named : SourceName.ofFile file = .ok name
  /-- The path of the copy has bytes. -/
  encodable : Utf8.nameFault? (inDirectory directory name) = none
  /-- The name holds no null character. -/
  noNull : '\x00' ∉ name.toList
  /-- The name is not that of the directory above. -/
  proper : name ≠ ".."
  /-- The name is not too long. -/
  short : Utf8.byteCount name ≤ nameLimit
  /-- The text has bytes. -/
  text : Utf8.fault? source = none

/-- What breaks an analysis off before the tool is started. -/
inductive Unprepared (directory file source : String) (settings : AnalyzerSettings) :
    Crash → Prop where
  /-- The identifier of the document is a malformed URL. -/
  | identifier (refusal : Url.Refusal) (refused : SourceName.ofFile file = .error refusal) :
    Unprepared directory file source settings (.conversion refusal.message)
  /-- The name of the copy holds a null character. -/
  | name (name : String) (named : SourceName.ofFile file = .ok name)
    (encodable : Utf8.nameFault? (inDirectory directory name) = none)
    (null : '\x00' ∈ name.toList) :
    Unprepared directory file source settings (.conversion nullMessage)
  /-- An argument is refused, and those before it are not. -/
  | argument (name : String) (copied : Copied directory file source name)
    (before : List String) (text : String) (after : List String)
    (given : arguments directory name settings = before ++ text :: after)
    (taken : ∀ earlier ∈ before, ∀ crash, ¬Refused earlier crash) (crash : Crash)
    (refused : Refused text crash) : Unprepared directory file source settings crash

/-- What breaks an analysis off once the executable is found. -/
inductive Breaks (executable directory : String) (program : Program) (file source : String)
    (settings : AnalyzerSettings) : Crash → Prop where
  /-- The tool cannot be started for the document. -/
  | before (crash : Crash) (unprepared : Unprepared directory file source settings crash) :
    Breaks executable directory program file source settings crash
  /-- The tool ran and left a text on which decoding gives up. -/
  | after (name : String) (copied : Copied directory file source name)
    (taken : ∀ text ∈ arguments directory name settings, ∀ crash, ¬Refused text crash)
    (exitCode : Int) (left : RunDirectory)
    (ran : program { executable, arguments := arguments directory name settings, source }
      [(name, .file (Utf8.bytes source))] = .ok (exitCode, left))
    (short : Utf8.byteCount (SourceName.outputOf name) ≤ nameLimit) (bytes : List UInt8)
    (written : left.get? (SourceName.outputOf name) = some (.file bytes)) (text : String)
    (decoded : Utf8.decode bytes = .ok text) (crash : Crash)
    (givesUp : GivesUp (String.ofList (Utf8.unifyNewlines text.toList)) crash) :
    Breaks executable directory program file source settings crash

/-! ## Preparing -/

/-- A name is refused with a crash exactly if it holds a null character. -/
theorem refuseNull_eq (text : String) :
    refuseNull text =
      if '\x00' ∈ text.toList then .error (.crash (.conversion nullMessage)) else .ok () := by
  simp [refuseNull]

/-- An argument that has no bytes is refused before null characters are looked for. -/
theorem refuseArgument_eq (text : String) :
    refuseArgument text = match Utf8.nameFault? text with
      | some fault => .error (.crash (.encoding fault.message))
      | none => refuseNull text := by
  rw [refuseArgument]
  cases Utf8.nameFault? text <;> rfl

/-- An argument that is not taken is refused with a crash. -/
theorem refuseArgument_eq_error {text : String} {stop : Stop} :
    refuseArgument text = .error stop ↔ ∃ crash, stop = .crash crash ∧ Refused text crash := by
  rw [refuseArgument_eq, refuseNull_eq]
  constructor
  · intro failed
    cases found : Utf8.nameFault? text with
    | some fault =>
      rw [found] at failed
      exact ⟨_, (Except.error.inj failed).symm, .unencodable text fault found⟩
    | none =>
      simp only [found] at failed
      split at failed
      · exact ⟨_, (Except.error.inj failed).symm, .null text found ‹_›⟩
      · contradiction
  · rintro ⟨crash, rfl, refused⟩
    cases refused with
    | unencodable fault found => simp [found]
    | null encodable found => simp [encodable, found]

/-- An argument is taken or refused. -/
theorem refuseArgument_eq_ok {text : String} :
    refuseArgument text = .ok () ↔ ∀ crash, ¬Refused text crash := by
  constructor
  · intro taken crash refused
    cases taken.symm.trans (refuseArgument_eq_error.mpr ⟨crash, rfl, refused⟩)
  · intro none
    cases refused : refuseArgument text with
    | ok => rfl
    | error stop =>
      obtain ⟨crash, -, refused⟩ := refuseArgument_eq_error.mp refused
      exact (none crash refused).elim

/-- The first argument that is not taken is the one that counts. -/
theorem forM_refuseArgument_eq_error {list : List String} {stop : Stop} :
    list.forM refuseArgument = .error stop ↔
      ∃ before text after, list = before ++ text :: after ∧
        (∀ earlier ∈ before, ∀ crash, ¬Refused earlier crash) ∧
        ∃ crash, stop = .crash crash ∧ Refused text crash := by
  constructor
  · intro failed
    induction list with
    | nil => contradiction
    | cons first rest ih =>
      rw [List.forM] at failed
      cases taken : refuseArgument first with
      | error other =>
        rw [taken] at failed
        obtain rfl := Except.error.inj failed
        exact ⟨[], first, rest, rfl, by simp, refuseArgument_eq_error.mp taken⟩
      | ok =>
        rw [taken] at failed
        obtain ⟨before, text, after, rfl, earlier, refused⟩ := ih failed
        refine ⟨first :: before, text, after, rfl, ?_, refused⟩
        exact List.forall_mem_cons.mpr ⟨refuseArgument_eq_ok.mp taken, earlier⟩
  · rintro ⟨before, text, after, rfl, earlier, refused⟩
    induction before with
    | nil =>
      rw [List.nil_append, List.forM, refuseArgument_eq_error.mpr refused]
      rfl
    | cons first rest ih =>
      rw [List.forall_mem_cons] at earlier
      rw [List.cons_append, List.forM, refuseArgument_eq_ok.mpr earlier.1]
      exact ih earlier.2

/-- All arguments are taken if each is. -/
theorem forM_refuseArgument_eq_ok {list : List String} :
    list.forM refuseArgument = .ok () ↔ ∀ text ∈ list, ∀ crash, ¬Refused text crash := by
  induction list with
  | nil => exact iff_of_true rfl (by simp)
  | cons text rest ih =>
    rw [List.forM, List.forall_mem_cons, ← refuseArgument_eq_ok, ← ih]
    cases refuseArgument text <;> simp [bind, Except.bind]

/-- A name is checked for its bytes, for null characters, for what it means and for its length. -/
theorem refuseName_eq (directory file name : String) :
    refuseName directory file name =
      match Utf8.nameFault? (inDirectory directory name) with
      | some fault => .error (unencodable file name fault)
      | none =>
        if '\x00' ∈ name.toList then .error (.crash (.conversion nullMessage))
        else if name = ".." then .error (.setup .isDirectory (inDirectory directory name))
        else if nameLimit < Utf8.byteCount name then
          .error (.setup .nameTooLong (inDirectory directory name))
        else .ok () := by
  rw [refuseName, refuseNull_eq]
  cases Utf8.nameFault? (inDirectory directory name) with
  | some fault => rfl
  | none =>
    by_cases null : '\x00' ∈ name.toList
    · simp only [null, if_true]
      rfl
    · by_cases above : name = ".."
      · simp only [above, if_true, beq_self_eq_true] at null ⊢
        rw [if_neg null, if_neg null]
        rfl
      · simp only [null, above, if_false, beq_iff_eq]
        split <;> rfl

/-- A name breaks the analysis off exactly if it has bytes and holds a null character. -/
theorem refuseName_eq_crash {directory file name : String} {crash : Crash} :
    refuseName directory file name = .error (.crash crash) ↔
      Utf8.nameFault? (inDirectory directory name) = none ∧ '\x00' ∈ name.toList ∧
        crash = .conversion nullMessage := by
  rw [refuseName_eq]
  cases Utf8.nameFault? (inDirectory directory name) with
  | some fault => simp [unencodable]
  | none => grind

/-- A name is taken exactly if nothing is wrong with it. -/
theorem refuseName_eq_ok {directory file name : String} :
    refuseName directory file name = .ok () ↔
      Utf8.nameFault? (inDirectory directory name) = none ∧ '\x00' ∉ name.toList ∧ name ≠ ".." ∧
        Utf8.byteCount name ≤ nameLimit := by
  rw [refuseName_eq]
  cases Utf8.nameFault? (inDirectory directory name) with
  | some fault => simp
  | none => grind

/-- The tool is prepared in four steps. -/
theorem prepare_some (executable directory file source : String) (settings : AnalyzerSettings) :
    prepare (some executable) directory file source settings =
      match SourceName.ofFile file with
      | .error refusal => .error (.crash (.conversion refusal.message))
      | .ok name =>
        match refuseName directory file name with
        | .error stop => .error stop
        | .ok () =>
          match Utf8.fault? source with
          | some fault => .error (unencodable file name fault)
          | none =>
            match (arguments directory name settings).forM refuseArgument with
            | .error stop => .error stop
            | .ok () =>
              .ok (name,
                { executable, arguments := arguments directory name settings, source }) := by
  rw [prepare]
  cases SourceName.ofFile file with
  | error refusal => rfl
  | ok name =>
    simp only [Except.mapError, bind, Except.bind, pure, Except.pure]
    cases refuseName directory file name with
    | error stop => rfl
    | ok =>
      cases Utf8.fault? source with
      | some fault => rfl
      | none => cases (arguments directory name settings).forM refuseArgument <;> rfl

/-- A tool that is prepared is given a copy and arguments that the system takes. -/
theorem prepare_eq_ok {executable directory file source name : String} {settings : AnalyzerSettings}
    {invocation : Invocation} :
    prepare (some executable) directory file source settings = .ok (name, invocation) ↔
      Copied directory file source name ∧
        (∀ text ∈ arguments directory name settings, ∀ crash, ¬Refused text crash) ∧
        invocation = { executable, arguments := arguments directory name settings, source } := by
  rw [prepare_some]
  constructor
  · intro prepared
    cases named : SourceName.ofFile file with
    | error refusal => simp [named] at prepared
    | ok own =>
      cases checked : refuseName directory file own with
      | error stop => simp [named, checked] at prepared
      | ok =>
        cases encoded : Utf8.fault? source with
        | some fault => simp [named, checked, encoded] at prepared
        | none =>
          cases taken : (arguments directory own settings).forM refuseArgument with
          | error stop => simp [named, checked, encoded, taken] at prepared
          | ok =>
            simp only [named, checked, encoded, taken, Except.ok.injEq, Prod.mk.injEq] at prepared
            obtain ⟨rfl, rfl⟩ := prepared
            obtain ⟨encodable, noNull, proper, short⟩ := refuseName_eq_ok.mp checked
            exact ⟨⟨named, encodable, noNull, proper, short, encoded⟩,
              forM_refuseArgument_eq_ok.mp taken, rfl⟩
  · rintro ⟨copied, taken, rfl⟩
    have checked : refuseName directory file name = .ok () :=
      refuseName_eq_ok.mpr ⟨copied.encodable, copied.noNull, copied.proper, copied.short⟩
    simp only [copied.named, checked, copied.text, forM_refuseArgument_eq_ok.mpr taken]

/-- Preparing is broken off by the identifier, by the name of the copy or by an argument. -/
theorem prepare_eq_crash {executable directory file source : String}
    {settings : AnalyzerSettings} {crash : Crash} :
    prepare (some executable) directory file source settings = .error (.crash crash) ↔
      Unprepared directory file source settings crash := by
  rw [prepare_some]
  constructor
  · intro failed
    cases named : SourceName.ofFile file with
    | error refusal =>
      simp only [named, Except.error.injEq, Stop.crash.injEq] at failed
      exact failed ▸ .identifier refusal named
    | ok name =>
      cases checked : refuseName directory file name with
      | error stop =>
        simp only [named, checked, Except.error.injEq] at failed
        obtain ⟨encodable, null, rfl⟩ := refuseName_eq_crash.mp (failed ▸ checked)
        exact .name name named encodable null
      | ok =>
        cases encoded : Utf8.fault? source with
        | some fault => simp [named, checked, encoded, unencodable] at failed
        | none =>
          cases taken : (arguments directory name settings).forM refuseArgument with
          | ok => simp [named, checked, encoded, taken] at failed
          | error stop =>
            simp only [named, checked, encoded, taken, Except.error.injEq] at failed
            obtain ⟨before, text, after, given, earlier, own, same, refused⟩ :=
              forM_refuseArgument_eq_error.mp taken
            obtain rfl := Stop.crash.inj (failed.symm.trans same)
            obtain ⟨encodable, noNull, proper, short⟩ := refuseName_eq_ok.mp checked
            exact .argument name ⟨named, encodable, noNull, proper, short, encoded⟩ before text
              after given earlier crash refused
  · intro unprepared
    cases unprepared with
    | identifier refusal refused => simp only [refused]
    | name name named encodable null =>
      have checked : refuseName directory file name = .error (.crash (.conversion nullMessage)) :=
        refuseName_eq_crash.mpr ⟨encodable, null, rfl⟩
      simp only [named, checked]
    | argument name copied before text after given earlier _ refused =>
      have checked : refuseName directory file name = .ok () :=
        refuseName_eq_ok.mpr ⟨copied.encodable, copied.noNull, copied.proper, copied.short⟩
      have broken : (arguments directory name settings).forM refuseArgument =
          .error (.crash crash) :=
        forM_refuseArgument_eq_error.mpr ⟨before, text, after, given, earlier, crash, rfl, refused⟩
      simp only [copied.named, checked, copied.text, broken]

/-! ## Reading the output -/

/-- How an analysis stops on an output that gives no tree. -/
def stopOf : TreeError.Report → Stop
  | .malformed reason => .failure (.analyzerMalformed reason)
  | .conversion message => .crash (.conversion message)
  | .nesting message => .crash (.nesting message)
  | .lookup message => .crash (.lookup message)

/-- Decoding gives up on a text exactly if it stops the analysis with a crash. -/
theorem givesUp_iff {text : String} {crash : Crash} :
    GivesUp text crash ↔
      ∃ error, Tree.ofText text = .error error ∧ stopOf error.report = .crash crash := by
  constructor
  · intro givesUp
    cases givesUp with
    | literal digits read => exact ⟨.oversizedInteger digits, by rw [Tree.ofText, read], rfl⟩
    | nesting shape read => exact ⟨.nesting shape, by rw [Tree.ofText, read], rfl⟩
    | tag fields bad read rooted found =>
      refine ⟨.tag bad, ?_, rfl⟩
      simp [Tree.ofText, read, Tree.ofValue, rooted, found]
  · rintro ⟨error, failed, stopped⟩
    rw [Tree.ofText] at failed
    cases read : Json.read text with
    | error cause =>
      rw [read] at failed
      cases cause with
      | malformed complaint place =>
        obtain rfl := Except.error.inj failed
        simp [TreeError.report, stopOf] at stopped
      | oversized digits =>
        obtain rfl := Except.error.inj failed
        obtain rfl := Stop.crash.inj stopped
        exact .literal text digits read
      | tooDeep shape =>
        obtain rfl := Except.error.inj failed
        obtain rfl := Stop.crash.inj stopped
        exact .nesting text shape read
    | ok value =>
      rw [read] at failed
      cases value with
      | object fields =>
        simp only [Tree.ofValue] at failed
        split at failed
        · obtain rfl := Except.error.inj failed
          simp [TreeError.report, stopOf] at stopped
        · rename_i rooted
          split at failed
          · rename_i bad found
            obtain rfl := Except.error.inj failed
            obtain rfl := Stop.crash.inj stopped
            exact .tag text fields bad read (by simpa using rooted) found
          · cases decoded : Decode.tree fields with
            | ok tree => simp [decoded, Except.mapError] at failed
            | error fault =>
              rw [decoded] at failed
              obtain rfl := Except.error.inj failed
              simp [TreeError.report, stopOf] at stopped
      | _ =>
        obtain rfl := Except.error.inj failed
        simp [TreeError.report, stopOf] at stopped

/-- The text of the output is that of its bytes, with unified ends of lines. -/
theorem outputText_eq_ok {directory output text : String} {exitCode : Int} {left : RunDirectory} :
    outputText directory output exitCode left = .ok text ↔
      ∃ bytes written, left.get? output = some (.file bytes) ∧ Utf8.decode bytes = .ok written ∧
        text = String.ofList (Utf8.unifyNewlines written.toList) := by
  rw [outputText]
  cases left.get? output with
  | none => simp
  | some entry =>
    cases entry with
    | directory => simp
    | file bytes =>
      cases decoded : Utf8.decode bytes <;> simp [decoded, eq_comm]

/-- An output that cannot be read is a failure of the tool. -/
theorem outputText_ne_crash {directory output : String} {exitCode : Int} {left : RunDirectory}
    {crash : Crash} : outputText directory output exitCode left ≠ .error (.crash crash) := by
  rw [outputText]
  cases left.get? output with
  | none => simp
  | some entry =>
    cases entry with
    | directory => simp
    | file bytes => cases decoded : Utf8.decode bytes <;> simp [decoded]

/-- The outcome of a finished tool comes from the text of its output. -/
theorem collect_eq (directory name : String) (exitCode : Int) (left : RunDirectory) :
    collect directory name exitCode left =
      if nameLimit < Utf8.byteCount (SourceName.outputOf name) then
        .error (.setup .nameTooLong (inDirectory directory (SourceName.outputOf name)))
      else match outputText directory (SourceName.outputOf name) exitCode left with
        | .error stop => .error stop
        | .ok text =>
          match Tree.ofText text with
          | .ok tree =>
            .ok (.ok tree (exitWarning exitCode (hasOutput left (SourceName.outputOf name))))
          | .error error => .error (stopOf error.report) := by
  rw [collect]
  split
  · rfl
  · simp only
    cases outputText directory (SourceName.outputOf name) exitCode left with
    | error stop => rfl
    | ok text =>
      simp only [bind, Except.bind]
      cases Tree.ofText text with
      | ok tree => rfl
      | error error =>
        simp only [stopOf]
        cases error.report <;> rfl

/-- Collecting is broken off exactly by a text on which decoding gives up. -/
theorem collect_eq_crash {directory name : String} {exitCode : Int} {left : RunDirectory}
    {crash : Crash} :
    collect directory name exitCode left = .error (.crash crash) ↔
      Utf8.byteCount (SourceName.outputOf name) ≤ nameLimit ∧
        ∃ bytes text, left.get? (SourceName.outputOf name) = some (.file bytes) ∧
          Utf8.decode bytes = .ok text ∧
          GivesUp (String.ofList (Utf8.unifyNewlines text.toList)) crash := by
  rw [collect_eq]
  by_cases long : nameLimit < Utf8.byteCount (SourceName.outputOf name)
  · simp [long, Nat.not_le.mpr long]
  · rw [if_neg long, and_iff_right (Nat.le_of_not_lt long)]
    cases read : outputText directory (SourceName.outputOf name) exitCode left with
    | error stop =>
      constructor
      · intro failed
        obtain rfl := Except.error.inj failed
        exact (outputText_ne_crash read).elim
      · rintro ⟨bytes, text, written, decoded, -⟩
        cases read.symm.trans (outputText_eq_ok.mpr ⟨bytes, text, written, decoded, rfl⟩)
    | ok shown =>
      obtain ⟨bytes, text, written, decoded, rfl⟩ := outputText_eq_ok.mp read
      simp only [written, Option.some.injEq, DirectoryEntry.file.injEq, exists_and_left,
        exists_eq_left', decoded, Except.ok.injEq, givesUp_iff]
      cases Tree.ofText (String.ofList (Utf8.unifyNewlines text.toList)) with
      | ok tree => simp
      | error error => simp

/-- A finished tool that gives an outcome gives one with a tree. -/
theorem collect_eq_ok {directory name : String} {exitCode : Int} {left : RunDirectory}
    {outcome : Outcome} (collected : collect directory name exitCode left = .ok outcome) :
    ∃ tree warning, outcome = .ok tree warning := by
  rw [collect_eq] at collected
  split at collected
  · cases collected
  · split at collected
    · cases collected
    · split at collected
      · exact ⟨_, _, (Except.ok.inj collected).symm⟩
      · cases collected

/-! ## Whole analyses -/

/-- An analysis that stops is broken off only by a crash. -/
theorem result_eq_error {file : String} {stop : Stop} {crash : Crash} :
    stop.result file = .error crash ↔ stop = .crash crash := by
  cases stop <;> simp [Stop.result]

/-- A tool that cannot be started is a failure. -/
theorem launch_ne_crash {program : Program} {name : String} {invocation : Invocation}
    {crash : Crash} : launch program name invocation ≠ .error (.crash crash) := by
  rw [launch]
  cases program invocation [(name, .file (Utf8.bytes invocation.source))] <;> simp [Except.mapError]

/-- A tool that is started leaves its exit code and the directory. -/
theorem launch_eq_ok {program : Program} {name : String} {invocation : Invocation}
    {left : Int × RunDirectory} :
    launch program name invocation = .ok left ↔
      program invocation [(name, .file (Utf8.bytes invocation.source))] = .ok left := by
  rw [launch]
  cases program invocation [(name, .file (Utf8.bytes invocation.source))] <;> simp [Except.mapError]

/-- Without an executable the analysis fails and is not broken off. -/
theorem analyze_none (directory : String) (program : Program) (file source : String)
    (settings : AnalyzerSettings) :
    (analyze none directory program file source settings).reply.result =
      .ok (.failed (Failure.analyzerNotFound settings.path).message) := rfl

/-- An analysis with an executable is broken off exactly by one of the causes. -/
theorem analyze_eq_crash {executable directory : String} {program : Program}
    {file source : String} {settings : AnalyzerSettings} {crash : Crash} :
    (analyze (some executable) directory program file source settings).reply.result =
        .error crash ↔
      Breaks executable directory program file source settings crash := by
  rw [analyze]
  cases prepared : prepare (some executable) directory file source settings with
  | error stop =>
    simp only [Report.stopped, result_eq_error]
    constructor
    · rintro rfl
      exact .before crash (prepare_eq_crash.mp prepared)
    · intro breaks
      cases breaks with
      | before _ unprepared =>
        exact Except.error.inj (prepared.symm.trans (prepare_eq_crash.mpr unprepared))
      | after name copied taken =>
        cases prepared.symm.trans (prepare_eq_ok.mpr ⟨copied, taken, rfl⟩)
  | ok pair =>
    obtain ⟨name, invocation⟩ := pair
    obtain ⟨copied, taken, rfl⟩ := prepare_eq_ok.mp prepared
    -- What breaks the analysis off now is the output, and it is read under this name.
    have late : Breaks executable directory program file source settings crash ↔
        ∃ exitCode left, program
            { executable, arguments := arguments directory name settings, source }
            [(name, .file (Utf8.bytes source))] = .ok (exitCode, left) ∧
          collect directory name exitCode left = .error (.crash crash) := by
      simp only [collect_eq_crash]
      constructor
      · intro breaks
        cases breaks with
        | before _ unprepared =>
          cases prepared.symm.trans (prepare_eq_crash.mpr unprepared)
        | after other copied' taken' exitCode left ran short bytes written text decoded _ givesUp =>
          obtain rfl : name = other := Except.ok.inj (copied.named.symm.trans copied'.named)
          exact ⟨exitCode, left, ran, short, bytes, text, written, decoded, givesUp⟩
      · rintro ⟨exitCode, left, ran, short, bytes, text, written, decoded, givesUp⟩
        exact .after name copied taken exitCode left ran short bytes written text decoded crash
          givesUp
    rw [late]
    cases launched : launch program name
        { executable, arguments := arguments directory name settings, source } with
    | error stop =>
      simp only [launched, Report.stopped, result_eq_error]
      constructor
      · rintro rfl
        exact (launch_ne_crash launched).elim
      · rintro ⟨exitCode, left, ran, -⟩
        cases launched.symm.trans (launch_eq_ok.mpr ran)
    | ok pair =>
      obtain ⟨exitCode, left⟩ := pair
      simp only [launched, launch_eq_ok.mp launched, Except.ok.injEq, Prod.mk.injEq]
      cases collected : collect directory name exitCode left with
      | ok outcome => simp [collected]
      | error stop => simp [Report.stopped, result_eq_error, collected]

/-- The outcome of an analysis has a tree or an error, and not both. -/
theorem analyze_eq_ok {executable : Option String} {directory : String} {program : Program}
    {file source : String} {settings : AnalyzerSettings} {outcome : Outcome}
    (done : (analyze executable directory program file source settings).reply.result =
      .ok outcome) : outcome.tree.isSome ↔ outcome.error = none := by
  have stopped : ∀ {stop : Stop}, stop.result file = .ok outcome →
      (outcome.tree.isSome ↔ outcome.error = none) := by
    intro stop failed
    cases stop with
    | failure cause =>
      obtain rfl := Except.ok.inj failed
      simp [Outcome.failed]
    | setup fault path =>
      obtain rfl := Except.ok.inj failed
      simp [Outcome.failed]
    | crash cause => contradiction
  rw [analyze] at done
  split at done
  · exact stopped done
  · split at done
    · exact stopped done
    · split at done
      · rename_i collected
        obtain ⟨tree, warning, same⟩ := collect_eq_ok collected
        obtain rfl := Except.ok.inj done
        simp [same, Outcome.ok]
      · exact stopped done

end Tool

/-- What breaks an analysis off. -/
inductive BreaksOff (around : Locate.Surroundings) (directory : String) (program : Tool.Program)
    (call : AnalyzerCall) : Crash → Prop where
  /-- The home directory of the configured path is not known. -/
  | home (fault : FilePath.HomeFault) (unknown : Locate.tool around call.settings = .error fault) :
    BreaksOff around directory program call (homeCrash fault)
  /-- The tool was found, and what it is run with or what it leaves breaks the analysis off. -/
  | tool (search : Locate.Search) (located : Locate.tool around call.settings = .ok search)
    (executable : String) (found : search.found = some executable) (crash : Crash)
    (breaks : Tool.Breaks executable directory program call.file call.text call.settings crash) :
    BreaksOff around directory program call crash

/-- Whatever the tool does, an analysis gives an outcome with a tree or an error but not both, or it
is broken off by one of the causes; and a run of the pipeline that is broken off costs the file its
index. -/
theorem outcome_or_broken_off (around : Locate.Surroundings) (directory : String)
    (program : Tool.Program) (call : AnalyzerCall) :
    (∀ outcome, (installedAnalyzer around directory program call).result = .ok outcome →
      (outcome.tree.isSome ↔ outcome.error = none)) ∧
    ∀ crash, ((installedAnalyzer around directory program call).result = .error crash ↔
        BreaksOff around directory program call crash) ∧
      ((installedAnalyzer around directory program call).result = .error crash →
        ∀ (state : Pipeline.State) (generation : Option Int),
          (state.conclude call.file generation
            (installedAnalyzer around directory program call)).2.cache.get? call.file = none) := by
  refine ⟨fun outcome done => ?_, fun crash => ⟨?_, fun broken state generation => ?_⟩⟩
  · rw [installedAnalyzer] at done
    split at done
    · cases done
    · exact Tool.analyze_eq_ok done
  · rw [installedAnalyzer]
    cases located : Locate.tool around call.settings with
    | error fault =>
      simp only [Except.error.injEq]
      constructor
      · rintro rfl
        exact .home fault located
      · intro breaks
        cases breaks with
        | home other unknown => rw [Except.error.inj (located.symm.trans unknown)]
        | tool search found => cases located.symm.trans found
    | ok search =>
      simp only
      constructor
      · intro broken
        cases found : search.found with
        | none =>
          rw [found, Tool.analyze_none] at broken
          cases broken
        | some executable =>
          rw [found] at broken
          exact .tool search located executable found crash (Tool.analyze_eq_crash.mp broken)
      · intro breaks
        cases breaks with
        | home fault unknown => cases located.symm.trans unknown
        | tool other there executable found _ breaks =>
          obtain rfl := Except.ok.inj (located.symm.trans there)
          rw [found]
          exact Tool.analyze_eq_crash.mpr breaks
  · have evicted : ((state.conclude call.file generation
        (installedAnalyzer around directory program call)).2.view call.file).index = none := by
      rw [Pipeline.State.conclude, broken]
      simp only
      rw [Pipeline.State.view_concludeCrash]
      split <;> rfl
    exact evicted

/-- The surroundings of a tool that is on the search path. -/
def onPath : Locate.Surroundings where
  host := { system := "Linux", machine := "x86_64" }
  homes := { own := "/root" }
  bundle := .ofText "/opt"
  onSearchPath := some "/usr/bin/BLint"

/-- A tool that writes an item whose tag is a list. -/
def listTagger : Tool.Program := fun _ directory =>
  .ok (0, directory.put "a.AST.json"
    (.file (Utf8.bytes "\x7b\"predicates\": [\x7b\"type\": []\x7d]\x7d")))

/-- A call for a document. -/
def plainCall : AnalyzerCall := { file := "a.pl", text := "p.", settings := {} }

/-- The tag that is a list breaks the analysis off. -/
theorem listTagger_breaks_off :
    (installedAnalyzer onPath "/tmp/run" listTagger plainCall).result =
      .error (.lookup BadTag.list.message) := by
  -- outcomes cannot be compared, so they are forgotten before the evaluation
  have evaluated : (installedAnalyzer onPath "/tmp/run" listTagger plainCall).result.map
      (fun _ => ()) = .error (.lookup BadTag.list.message) := by decide +kernel
  cases result : (installedAnalyzer onPath "/tmp/run" listTagger plainCall).result with
  | ok outcome => simp [result, Except.map] at evaluated
  | error crash => simpa [result, Except.map] using evaluated

/-- The cause of the break, and what it costs a pipeline in any state. -/
theorem outcome_or_broken_off_listTagger :
    BreaksOff onPath "/tmp/run" listTagger plainCall (.lookup BadTag.list.message) ∧
      ∀ (state : Pipeline.State) (generation : Option Int), (state.conclude "a.pl" generation
        (installedAnalyzer onPath "/tmp/run" listTagger plainCall)).2.cache.get? "a.pl" = none := by
  obtain ⟨-, broken⟩ := outcome_or_broken_off onPath "/tmp/run" listTagger plainCall
  obtain ⟨cause, cost⟩ := broken (.lookup BadTag.list.message)
  exact ⟨cause.mp listTagger_breaks_off, cost listTagger_breaks_off⟩

/-- Not every behaviour of the tool gives an outcome. -/
theorem not_forall_outcome :
    ¬∀ (around : Locate.Surroundings) (directory : String) (program : Tool.Program)
      (call : AnalyzerCall), ∃ outcome,
        (installedAnalyzer around directory program call).result = .ok outcome ∧
          (outcome.tree.isSome ↔ outcome.error = none) := by
  intro always
  obtain ⟨outcome, done, -⟩ := always onPath "/tmp/run" listTagger plainCall
  cases listTagger_breaks_off.symm.trans done

end PredicateIndex
