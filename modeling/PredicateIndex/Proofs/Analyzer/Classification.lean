import PredicateIndex.Proofs.Analyzer.Failures

/-!
# When an analysis gives a tree

The outcome of an analysis is decided by tests at several places: on the executable, on the document
and the arguments, on the start of the tool, on its output and on its exit code. Main result: there
is a tree exactly if the tool was found and started and left a file with a text that can be decoded;
the tree is what that text decodes to; and a warning stands beside it exactly for the exit codes
other than zero and one. An exit code of one is excused only if there is output, and this is no
condition beside a tree, since no tree is decoded from an empty output.
-/
namespace PredicateIndex

namespace Tool

/-- The tool was started for a document and has ended. -/
structure Ran (executable directory : String) (program : Program) (file source : String)
    (settings : AnalyzerSettings) (name : String) (exitCode : Int) (left : RunDirectory) :
    Prop where
  /-- The document was copied. -/
  copied : Copied directory file source name
  /-- The system takes the arguments. -/
  taken : ∀ text ∈ arguments directory name settings, ∀ crash, ¬Refused text crash
  /-- The tool started, ended with the exit code and left the directory. -/
  started : program { executable, arguments := arguments directory name settings, source }
    [(name, .file (Utf8.bytes source))] = .ok (exitCode, left)

/-- The output for a copy is a file that holds a text, with unified ends of lines. -/
structure Wrote (name : String) (left : RunDirectory) (content : String) : Prop where
  /-- The system takes the name of the output. -/
  short : Utf8.byteCount (SourceName.outputOf name) ≤ nameLimit
  /-- The output is there, and its bytes are those of a text. -/
  read : ∃ bytes text, left.get? (SourceName.outputOf name) = some (.file bytes) ∧
    Utf8.decode bytes = .ok text ∧ content = String.ofList (Utf8.unifyNewlines text.toList)

/-! ## The output -/

/-- An output is read exactly if it holds a text. -/
theorem outputText_iff_wrote {directory name content : String} {exitCode : Int}
    {left : RunDirectory} (short : Utf8.byteCount (SourceName.outputOf name) ≤ nameLimit) :
    outputText directory (SourceName.outputOf name) exitCode left = .ok content ↔
      Wrote name left content := by
  rw [outputText_eq_ok]
  exact ⟨fun read => ⟨short, read⟩, Wrote.read⟩

/-- No tree is decoded from nothing. -/
theorem ofText_empty_ne_ok (tree : Tree) : Tree.ofText "" ≠ .ok tree := by
  have failed : (Tree.ofText "").toOption.isNone = true := by decide +kernel
  intro decoded
  rw [decoded] at failed
  cases failed

/-- An output from which a tree is decoded is not empty. -/
theorem Wrote.hasOutput {name content : String} {left : RunDirectory} {tree : Tree}
    (wrote : Wrote name left content) (decoded : Tree.ofText content = .ok tree) :
    hasOutput left (SourceName.outputOf name) = true := by
  obtain ⟨-, bytes, text, written, read, rfl⟩ := wrote
  rw [Tool.hasOutput, written]
  cases bytes with
  | cons byte rest => rfl
  | nil =>
    rw [Utf8.decode, Utf8.decodeFrom] at read
    obtain rfl := Except.ok.inj read
    exact absurd decoded (ofText_empty_ne_ok tree)

/-- With output there is a warning exactly for the exit codes other than zero and one. -/
theorem isSome_exitWarning (exitCode : Int) :
    (exitWarning exitCode true).isSome ↔ exitCode ≠ 0 ∧ exitCode ≠ 1 := by
  by_cases zero : exitCode = 0
  · simp [exitWarning, zero]
  · by_cases one : exitCode = 1 <;> simp [exitWarning, zero, one]

/-- A finished tool gives an outcome exactly if a tree is decoded from its output. -/
theorem collect_eq_ok_iff {directory name : String} {exitCode : Int} {left : RunDirectory}
    {outcome : Outcome} :
    collect directory name exitCode left = .ok outcome ↔
      ∃ content tree, Wrote name left content ∧ Tree.ofText content = .ok tree ∧
        outcome = .ok tree (exitWarning exitCode true) := by
  rw [collect_eq]
  by_cases long : nameLimit < Utf8.byteCount (SourceName.outputOf name)
  · rw [if_pos long]
    constructor
    · intro collected
      cases collected
    · rintro ⟨content, tree, wrote, -⟩
      exact absurd wrote.short (Nat.not_le.mpr long)
  · have short := Nat.le_of_not_lt long
    rw [if_neg long]
    cases read : outputText directory (SourceName.outputOf name) exitCode left with
    | error stop =>
      constructor
      · intro collected
        cases collected
      · rintro ⟨content, tree, wrote, -⟩
        cases read.symm.trans ((outputText_iff_wrote short).mpr wrote)
    | ok content =>
      have wrote := (outputText_iff_wrote short).mp read
      constructor
      · intro collected
        cases decoded : Tree.ofText content with
        | error error =>
          simp only [decoded] at collected
          cases collected
        | ok tree =>
          simp only [decoded, wrote.hasOutput decoded, Except.ok.injEq] at collected
          exact ⟨content, tree, wrote, decoded, collected.symm⟩
      · rintro ⟨other, tree, wrote', decoded, rfl⟩
        obtain rfl : content = other :=
          Except.ok.inj (read.symm.trans ((outputText_iff_wrote short).mpr wrote'))
        simp only [decoded, wrote.hasOutput decoded]

/-! ## Whole analyses -/

section Runs

variable {executable directory : String} {program : Program} {file source : String}
  {settings : AnalyzerSettings} {outcome : Outcome}

/-- An analysis that stopped gives a failed outcome, if it gives one. -/
theorem failed_of_result {stop : Stop} (stopped : stop.result file = .ok outcome) :
    ∃ message, outcome = .failed message := by
  cases stop with
  | failure cause => exact ⟨_, (Except.ok.inj stopped).symm⟩
  | setup fault path => exact ⟨_, (Except.ok.inj stopped).symm⟩
  | crash cause => cases stopped

/-- A document has at most one run of the tool. -/
theorem Ran.unique {name name' : String} {exitCode exitCode' : Int} {left left' : RunDirectory}
    (ran : Ran executable directory program file source settings name exitCode left)
    (ran' : Ran executable directory program file source settings name' exitCode' left') :
    name = name' ∧ exitCode = exitCode' ∧ left = left' := by
  obtain rfl : name = name' := Except.ok.inj (ran.copied.named.symm.trans ran'.copied.named)
  have same := Except.ok.inj (ran.started.symm.trans ran'.started)
  exact ⟨rfl, Prod.mk.inj same⟩

/-- What a file holds is one text. -/
theorem Wrote.unique {name content content' : String} {left : RunDirectory}
    (wrote : Wrote name left content) (wrote' : Wrote name left content') : content = content' := by
  obtain ⟨-, bytes, text, written, read, rfl⟩ := wrote
  obtain ⟨-, bytes', text', written', read', rfl⟩ := wrote'
  obtain rfl : bytes = bytes' :=
    DirectoryEntry.file.inj (Option.some.inj (written.symm.trans written'))
  rw [Except.ok.inj (read.symm.trans read')]

/-- The report of an analysis whose tool ran. -/
theorem report_of_ran {name : String} {exitCode : Int} {left : RunDirectory}
    (ran : Ran executable directory program file source settings name exitCode left) :
    analyze (some executable) directory program file source settings =
      match collect directory name exitCode left with
      | .ok outcome => {
          reply := { result := .ok outcome }
          invocation :=
            some { executable, arguments := arguments directory name settings, source } }
      | .error stop => .stopped file stop
          (some { executable, arguments := arguments directory name settings, source }) := by
  have prepared : prepare (some executable) directory file source settings =
      .ok (name, { executable, arguments := arguments directory name settings, source }) :=
    prepare_eq_ok.mpr ⟨ran.copied, ran.taken, rfl⟩
  have launched : launch program name
      { executable, arguments := arguments directory name settings, source } =
        .ok (exitCode, left) := launch_eq_ok.mpr ran.started
  cases collected : collect directory name exitCode left <;>
    simp only [analyze, prepared, launched, collected]

/-- If the tool ran, the analysis gives what is collected or stops. -/
theorem analyze_of_ran {name : String} {exitCode : Int} {left : RunDirectory}
    (ran : Ran executable directory program file source settings name exitCode left) :
    (analyze (some executable) directory program file source settings).reply.result =
      match collect directory name exitCode left with
      | .ok outcome => .ok outcome
      | .error stop => stop.result file := by
  rw [report_of_ran ran]
  cases collect directory name exitCode left <;> rfl

/-- If the tool did not run, the analysis stops. -/
theorem analyze_of_not_ran (idle : ∀ name exitCode left,
      ¬Ran executable directory program file source settings name exitCode left) :
    ∃ stop : Stop, (analyze (some executable) directory program file source settings).reply.result =
      stop.result file := by
  rw [analyze]
  cases prepared : prepare (some executable) directory file source settings with
  | error stop => exact ⟨stop, rfl⟩
  | ok pair =>
    obtain ⟨name, invocation⟩ := pair
    obtain ⟨copied, taken, rfl⟩ := prepare_eq_ok.mp prepared
    simp only
    cases launched : launch program name
        { executable, arguments := arguments directory name settings, source } with
    | error stop => exact ⟨stop, rfl⟩
    | ok pair => exact absurd ⟨copied, taken, launch_eq_ok.mp launched⟩ (idle name pair.1 pair.2)

/-- An outcome has the tree that is decoded from the output, or it is failed and no tree is decoded
from any output. -/
theorem tree_or_failed
    (done : (analyze (some executable) directory program file source settings).reply.result =
      .ok outcome) :
    (∃ name exitCode left content tree,
      Ran executable directory program file source settings name exitCode left ∧
        Wrote name left content ∧ Tree.ofText content = .ok tree ∧
        outcome = .ok tree (exitWarning exitCode true)) ∨
    (∃ message, outcome = .failed message) ∧
      ∀ name exitCode left content tree,
        Ran executable directory program file source settings name exitCode left →
          Wrote name left content → Tree.ofText content ≠ .ok tree := by
  by_cases idle : ∀ name exitCode left,
      ¬Ran executable directory program file source settings name exitCode left
  · obtain ⟨stop, stopped⟩ := analyze_of_not_ran idle
    exact .inr ⟨failed_of_result (stopped.symm.trans done),
      fun name exitCode left _ _ ran => absurd ran (idle name exitCode left)⟩
  · push Not at idle
    obtain ⟨name, exitCode, left, ran⟩ := idle
    rw [analyze_of_ran ran] at done
    cases collected : collect directory name exitCode left with
    | ok own =>
      rw [collected] at done
      obtain rfl := Except.ok.inj done
      obtain ⟨content, tree, wrote, decoded, same⟩ := collect_eq_ok_iff.mp collected
      exact .inl ⟨name, exitCode, left, content, tree, ran, wrote, decoded, same⟩
    | error stop =>
      rw [collected] at done
      refine .inr ⟨failed_of_result done, ?_⟩
      intro name' exitCode' left' content tree ran' wrote decoded
      obtain ⟨rfl, rfl, rfl⟩ := ran.unique ran'
      cases collected.symm.trans (collect_eq_ok_iff.mpr ⟨content, tree, wrote, decoded, rfl⟩)

end Runs

end Tool

/-- An analysis comes to a text: a tool was found, it was started for the document and ended with an
exit code, and its output holds the text. -/
inductive Delivers (around : Locate.Surroundings) (directory : String) (program : Tool.Program)
    (call : AnalyzerCall) (exitCode : Int) (content : String) : Prop where
  /-- The tool ran and wrote the text. -/
  | intro (search : Locate.Search) (located : Locate.tool around call.settings = .ok search)
    (executable : String) (found : search.found = some executable) (name : String)
    (left : Tool.RunDirectory)
    (ran : Tool.Ran executable directory program call.file call.text call.settings name exitCode
      left)
    (wrote : Tool.Wrote name left content)

section Outcomes

variable {around : Locate.Surroundings} {directory : String} {program : Tool.Program}
  {call : AnalyzerCall} {outcome : Outcome}

/-- An analysis comes to at most one text, with one exit code. -/
theorem Delivers.unique {exitCode exitCode' : Int} {content content' : String}
    (delivers : Delivers around directory program call exitCode content)
    (delivers' : Delivers around directory program call exitCode' content') :
    exitCode = exitCode' ∧ content = content' := by
  obtain ⟨search, located, executable, found, name, left, ran, wrote⟩ := delivers
  obtain ⟨search', located', executable', found', name', left', ran', wrote'⟩ := delivers'
  obtain rfl : search = search' := Except.ok.inj (located.symm.trans located')
  obtain rfl : executable = executable' := Option.some.inj (found.symm.trans found')
  obtain ⟨rfl, rfl, rfl⟩ := ran.unique ran'
  exact ⟨rfl, wrote.unique wrote'⟩

/-- An outcome has the tree that is decoded from the text to which the analysis came, or it is
failed and no tree is decoded from such a text. -/
theorem delivered_or_failed
    (done : (installedAnalyzer around directory program call).result = .ok outcome) :
    (∃ exitCode content tree, Delivers around directory program call exitCode content ∧
      Tree.ofText content = .ok tree ∧ outcome = .ok tree (Tool.exitWarning exitCode true)) ∨
    (∃ message, outcome = .failed message) ∧
      ∀ exitCode content tree, Delivers around directory program call exitCode content →
        Tree.ofText content ≠ .ok tree := by
  rw [installedAnalyzer] at done
  cases located : Locate.tool around call.settings with
  | error fault =>
    rw [located] at done
    cases done
  | ok search =>
    simp only [located] at done
    cases found : search.found with
    | none =>
      rw [found, Tool.analyze_none] at done
      refine .inr ⟨⟨_, (Except.ok.inj done).symm⟩, ?_⟩
      rintro exitCode content tree ⟨search', located', executable, found', -⟩
      obtain rfl : search = search' := Except.ok.inj (located.symm.trans located')
      cases found.symm.trans found'
    | some executable =>
      rw [found] at done
      rcases Tool.tree_or_failed done with
        ⟨name, exitCode, left, content, tree, ran, wrote, decoded, same⟩ | ⟨failed, none⟩
      · exact .inl ⟨exitCode, content, tree,
          ⟨search, located, executable, found, name, left, ran, wrote⟩, decoded, same⟩
      · refine .inr ⟨failed, ?_⟩
        rintro exitCode content tree
          ⟨search', located', executable', found', name, left, ran, wrote⟩
        obtain rfl : search = search' := Except.ok.inj (located.symm.trans located')
        obtain rfl : executable = executable' := Option.some.inj (found.symm.trans found')
        exact none name exitCode left content tree ran wrote

/-- The outcome of an analysis has a tree exactly if the tool delivered a text from which a tree is
decoded, and it is that tree; there is a warning beside it exactly if the exit code is neither zero
nor one; and without a tree there is an error and no warning. -/
theorem outcome_classified
    (done : (installedAnalyzer around directory program call).result = .ok outcome) :
    (∀ tree, outcome.tree = some tree ↔
      ∃ exitCode content, Delivers around directory program call exitCode content ∧
        Tree.ofText content = .ok tree) ∧
    (∀ exitCode content, Delivers around directory program call exitCode content →
      outcome.tree.isSome → (outcome.warning.isSome ↔ exitCode ≠ 0 ∧ exitCode ≠ 1)) ∧
    (outcome.tree = none → outcome.error.isSome ∧ outcome.warning = none) := by
  rcases delivered_or_failed done with
    ⟨exitCode, content, tree, delivers, decoded, rfl⟩ | ⟨⟨message, rfl⟩, none⟩
  · refine ⟨fun other => ⟨?_, ?_⟩, fun exitCode' content' delivers' _ => ?_, nofun⟩
    · intro same
      obtain rfl : tree = other := Option.some.inj same
      exact ⟨exitCode, content, delivers, decoded⟩
    · rintro ⟨exitCode', content', delivers', decoded'⟩
      obtain ⟨rfl, rfl⟩ := delivers.unique delivers'
      exact congrArg some (Except.ok.inj (decoded.symm.trans decoded'))
    · obtain ⟨rfl, rfl⟩ := delivers.unique delivers'
      exact Tool.isSome_exitWarning exitCode
  · refine ⟨fun tree => ⟨nofun, ?_⟩, fun _ _ _ => nofun, fun _ => ⟨rfl, rfl⟩⟩
    rintro ⟨exitCode, content, delivers, decoded⟩
    exact absurd decoded (none exitCode content tree delivers)

end Outcomes

/-- A tool that leaves the tree of an empty file and ends with an exit code. -/
def endingWith (exitCode : Int) : Tool.Program := fun _ directory =>
  .ok (exitCode, directory.put "a.AST.json" (.file (Utf8.bytes "\x7b\"predicates\": []\x7d\r\n")))

/-- The tool that leaves the tree of an empty file delivers it, whatever its exit code. -/
theorem delivers_endingWith (exitCode : Int) :
    Delivers onPath "/tmp/run" (endingWith exitCode) plainCall exitCode
      "\x7b\"predicates\": []\x7d\n" := by
  have copied : Tool.Copied "/tmp/run" "a.pl" "p." "a.pl" :=
    ⟨by decide +kernel, by decide +kernel, by decide, by decide, by decide +kernel,
      by decide +kernel⟩
  have taken : ∀ text ∈ Tool.arguments "/tmp/run" "a.pl" {}, ∀ crash, ¬Tool.Refused text crash :=
    Tool.forM_refuseArgument_eq_ok.mp rfl
  refine .intro (Locate.bundled onPath) rfl "/usr/bin/BLint" (by decide +kernel) "a.pl" _
    ⟨copied, taken, rfl⟩ ⟨by decide +kernel, _, "\x7b\"predicates\": []\x7d\r\n", rfl, ?_, ?_⟩
  · decide +kernel
  · decide +kernel

/-- A tree stands beside no warning with an exit code of one, and beside one with three. -/
theorem outcome_classified_endingWith :
    ∃ one three, (installedAnalyzer onPath "/tmp/run" (endingWith 1) plainCall).result = .ok one ∧
      (installedAnalyzer onPath "/tmp/run" (endingWith 3) plainCall).result = .ok three ∧
      one.tree.isSome ∧ three.tree.isSome ∧ ¬one.warning.isSome ∧ three.warning.isSome := by
  have one :
      (installedAnalyzer onPath "/tmp/run" (endingWith 1) plainCall).result.toOption.isSome =
        true := by decide +kernel
  have three :
      (installedAnalyzer onPath "/tmp/run" (endingWith 3) plainCall).result.toOption.isSome =
        true := by decide +kernel
  have content : (Tree.ofText "\x7b\"predicates\": []\x7d\n").toOption.isSome = true := by
    decide +kernel
  cases decoded : Tree.ofText "\x7b\"predicates\": []\x7d\n" with
  | error fault => simp [decoded, Except.toOption] at content
  | ok tree =>
    have classified : ∀ (exitCode : Int) (outcome : Outcome),
        (installedAnalyzer onPath "/tmp/run" (endingWith exitCode) plainCall).result = .ok outcome →
        outcome.tree.isSome ∧ (outcome.warning.isSome ↔ exitCode ≠ 0 ∧ exitCode ≠ 1) := by
      intro exitCode outcome done
      obtain ⟨treed, warned, -⟩ := outcome_classified done
      have present := (treed tree).mpr ⟨exitCode, _, delivers_endingWith exitCode, decoded⟩
      have isSome : outcome.tree.isSome := by simp [present]
      exact ⟨isSome, warned exitCode _ (delivers_endingWith exitCode) isSome⟩
    cases first : (installedAnalyzer onPath "/tmp/run" (endingWith 1) plainCall).result with
    | error crash => simp [first, Except.toOption] at one
    | ok own =>
      cases second : (installedAnalyzer onPath "/tmp/run" (endingWith 3) plainCall).result with
      | error crash => simp [second, Except.toOption] at three
      | ok other =>
        obtain ⟨ownTree, ownWarning⟩ := classified 1 own first
        obtain ⟨otherTree, otherWarning⟩ := classified 3 other second
        exact ⟨own, other, rfl, rfl, ownTree, otherTree, by simp [ownWarning],
          otherWarning.mpr (by decide)⟩

end PredicateIndex
