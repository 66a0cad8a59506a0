import Mathlib.Data.List.TakeWhile
import PredicateIndex.Proofs.Analyzer.Classification
import PredicateIndex.Proofs.Analyzer.CopyName

/-!
# The output stands apart from the copy

The tool leaves its output in the directory that holds the copy of the document, under the stem of
the copy's name and a fixed ending. The stem is what comes before the last point of the name, and the
whole name if that point is its first or its last character. Main result: the output never has the
name of the copy, so that the text of the document is not taken for a tree. Whatever the tool does to
the copy, the analysis gives the same; and a tool that writes no file is reported to have left no
output, unless the name of the output is one that the system does not take.
-/
namespace PredicateIndex

namespace FilePath

/-- A name has a stem. -/
inductive HasStem : List Char → List Char → Prop where
  /-- The last point is neither the first nor the last character: the stem is what comes before. -/
  | before (stem suffix : List Char) (started : stem ≠ []) (ended : suffix ≠ [])
    (last : '.' ∉ suffix) : HasStem (stem ++ '.' :: suffix) stem
  /-- The only point is the first character: the stem is the whole name. -/
  | leading (suffix : List Char) (last : '.' ∉ suffix) : HasStem ('.' :: suffix) ('.' :: suffix)
  /-- The last character is a point: the stem is the whole name. -/
  | trailing (name : List Char) : HasStem (name ++ ['.']) (name ++ ['.'])
  /-- There is no point: the stem is the whole name. -/
  | pointless (name : List Char) (none : '.' ∉ name) : HasStem name name

/-- Every name has a stem. -/
theorem exists_hasStem (name : List Char) : ∃ stem, HasStem name stem := by
  by_cases pointed : '.' ∈ name
  · -- The last point is the first one from the end.
    obtain ⟨suffix, stem, reversed, last⟩ :=
      List.eq_append_cons_of_mem (List.mem_reverse.mpr pointed)
    have split : name = stem.reverse ++ '.' :: suffix.reverse := by
      rw [← List.reverse_reverse name, reversed]
      simp
    have last : '.' ∉ suffix.reverse := by simpa using last
    subst split
    by_cases ended : suffix = []
    · subst ended
      exact ⟨_, .trailing stem.reverse⟩
    · by_cases started : stem = []
      · subst started
        exact ⟨_, .leading suffix.reverse last⟩
      · exact ⟨stem.reverse, .before _ _ (by simpa using started) (by simpa using ended) last⟩
  · exact ⟨name, .pointless name pointed⟩

/-- The last point of a name is found from its end. -/
theorem span_of_last_point {name : List Char} (stem suffix : List Char)
    (split : name = stem ++ '.' :: suffix) (last : '.' ∉ suffix) :
    name.reverse.takeWhile (· != '.') = suffix.reverse ∧
      name.reverse.dropWhile (· != '.') = '.' :: stem.reverse := by
  have reversed : name.reverse = suffix.reverse ++ '.' :: stem.reverse := by simp [split]
  have plain : ∀ c ∈ suffix.reverse, (c != '.') = true := by
    intro c among
    simp only [bne_iff_ne, ne_eq]
    rintro rfl
    exact last (List.mem_reverse.mp among)
  constructor
  · rw [reversed, List.takeWhile_append_of_pos plain, List.takeWhile_cons_of_neg (by simp),
      List.append_nil]
  · rw [reversed, List.dropWhile_append_of_pos plain, List.dropWhile_cons_of_neg (by simp)]

/-- A name has no other stem than the one that is taken. -/
theorem HasStem.eq_stemOf {name : String} {stem : List Char} (has : HasStem name.toList stem) :
    stem = (stemOf name).toList := by
  generalize spelled : name.toList = characters at has
  cases has with
  | before _ suffix started ended last =>
    obtain ⟨taken, dropped⟩ := span_of_last_point _ suffix rfl last
    cases reversed : stem.reverse with
    | nil => exact absurd (List.reverse_eq_nil_iff.mp reversed) started
    | cons c rest =>
      rw [reversed] at dropped
      have nonempty : suffix.reverse.isEmpty = false := by simpa using ended
      simp only [stemOf, spelled, taken, dropped, nonempty, Bool.false_eq_true, if_false,
        String.toList_ofList]
      rw [← reversed, List.reverse_reverse]
  | leading suffix last =>
    obtain ⟨-, dropped⟩ := span_of_last_point [] suffix rfl last
    simp only [List.nil_append, List.reverse_nil] at dropped
    simp only [stemOf, spelled, dropped]
  | trailing before =>
    obtain ⟨taken, dropped⟩ := span_of_last_point before [] rfl List.not_mem_nil
    simp only [stemOf, spelled, taken, dropped]
    split <;> simp [spelled]
  | pointless _ none =>
    have dropped : stem.reverse.dropWhile (· != '.') = [] := by
      apply List.dropWhile_eq_nil_iff.mpr
      intro c among
      simp only [bne_iff_ne, ne_eq]
      rintro rfl
      exact none (List.mem_reverse.mp among)
    simp only [stemOf, spelled, dropped]

end FilePath

namespace SourceName

/-- What the name of an output ends with. -/
theorem toList_outputOf (name : String) :
    (outputOf name).toList =
      (FilePath.stemOf name).toList ++ ['.', 'A', 'S', 'T', '.', 'j', 's', 'o', 'n'] := by
  simp [outputOf]

/-- The output has another name than the copy. -/
theorem outputOf_ne (name : String) : outputOf name ≠ name := by
  intro same
  have split : name.toList =
      ((FilePath.stemOf name).toList ++ ['.', 'A', 'S', 'T']) ++ '.' :: ['j', 's', 'o', 'n'] := by
    conv_lhs => rw [← same, toList_outputOf]
    simp
  -- A name with the ending keeps a part of it in its stem.
  have stem : FilePath.HasStem name.toList ((FilePath.stemOf name).toList ++ ['.', 'A', 'S', 'T']) :=
    split ▸ .before _ _ (by simp) (by simp) (by decide)
  have lengths := congrArg List.length stem.eq_stemOf
  rw [List.length_append] at lengths
  simp only [List.length_cons, List.length_nil] at lengths
  omega

end SourceName

namespace Tool

open SourceName (outputOf)

/-- Two directories hold the same under all names but one. -/
def AgreeBut (name : String) (left left' : RunDirectory) : Prop :=
  ∀ other, other ≠ name → left'.get? other = left.get? other

/-- What is collected does not depend on what stands under the name of the copy. -/
theorem collect_of_agreeBut {directory name : String} {exitCode : Int} {left left' : RunDirectory}
    (agree : AgreeBut name left left') :
    collect directory name exitCode left' = collect directory name exitCode left := by
  have same : left'.get? (outputOf name) = left.get? (outputOf name) :=
    agree _ (SourceName.outputOf_ne name)
  have text : outputText directory (outputOf name) exitCode left' =
      outputText directory (outputOf name) exitCode left := by
    rw [outputText, outputText, same]
  have present : hasOutput left' (outputOf name) = hasOutput left (outputOf name) := by
    rw [hasOutput, hasOutput, same]
  rw [collect_eq, collect_eq, text, present]

/-- The reply that the tool left no output. -/
def noOutputReply (file output : String) (exitCode : Int) : Reply :=
  let cause := Failure.analyzerNoOutput output (some exitCode)
  { result := .ok (.failed cause.message), notices := [.failed file cause] }

/-- The reply that the system does not take the name of the output. -/
def tooLongReply (directory file output : String) : Reply :=
  let reason := OsFault.nameTooLong.message (inDirectory directory output)
  { result := .ok (.failed s!"Critical error during analyzer setup for {file}: {reason}")
    notices := [.setupFailed file reason] }

section Runs

variable {executable directory : String} {program : Program} {file source : String}
  {settings : AnalyzerSettings} {name : String} {exitCode : Int} {left left' : RunDirectory}

/-- Tools that end alike and leave the same but for the copy have the same report. -/
theorem analyze_of_agreeBut {program' : Program}
    (ran : Ran executable directory program file source settings name exitCode left)
    (ran' : Ran executable directory program' file source settings name exitCode left')
    (agree : AgreeBut name left left') :
    analyze (some executable) directory program' file source settings =
      analyze (some executable) directory program file source settings := by
  rw [report_of_ran ran, report_of_ran ran', collect_of_agreeBut agree]

/-- A tool that writes no file is reported to have left no output, unless the system does not take
the name of the output. -/
theorem reply_of_silent
    (ran : Ran executable directory program file source settings name exitCode left)
    (silent : AgreeBut name [] left) :
    (analyze (some executable) directory program file source settings).reply =
      if nameLimit < Utf8.byteCount (outputOf name) then
        tooLongReply directory file (outputOf name)
      else noOutputReply file (outputOf name) exitCode := by
  have absent : left.get? (outputOf name) = none := silent _ (SourceName.outputOf_ne name)
  have nothing : outputText directory (outputOf name) exitCode left =
      .error (.failure (.analyzerNoOutput (outputOf name) (some exitCode))) := by
    rw [outputText, absent]
  rw [report_of_ran ran, collect_eq, nothing]
  by_cases long : nameLimit < Utf8.byteCount (outputOf name)
  · rw [if_pos long, if_pos long]
    rfl
  · rw [if_neg long, if_neg long]
    rfl

end Runs

/-- The output never has the name of the copy: what comes before the fixed ending is the stem of that
name. So tools that end alike and leave the same but for the copy give the same report, and a tool
that writes no file is reported to have left no output, unless the system does not take the name of
the output. -/
theorem output_apart_from_copy :
    (∀ name : String, outputOf name ≠ name ∧ ∃ stem, FilePath.HasStem name.toList stem ∧
      outputOf name = String.ofList stem ++ ".AST.json") ∧
    (∀ executable directory program program' file source settings name exitCode left left',
      Ran executable directory program file source settings name exitCode left →
      Ran executable directory program' file source settings name exitCode left' →
      AgreeBut name left left' →
      analyze (some executable) directory program' file source settings =
        analyze (some executable) directory program file source settings) ∧
    (∀ executable directory program file source settings name exitCode left,
      Ran executable directory program file source settings name exitCode left →
      AgreeBut name [] left →
      (analyze (some executable) directory program file source settings).reply =
        if nameLimit < Utf8.byteCount (outputOf name) then
          tooLongReply directory file (outputOf name)
        else noOutputReply file (outputOf name) exitCode) := by
  refine ⟨fun name => ⟨SourceName.outputOf_ne name, ?_⟩, ?_, ?_⟩
  · obtain ⟨stem, has⟩ := FilePath.exists_hasStem name.toList
    refine ⟨stem, has, ?_⟩
    rw [has.eq_stemOf, String.ofList_toList]
    rfl
  · intro executable directory program program' file source settings name exitCode left left'
      ran ran' agree
    exact analyze_of_agreeBut ran ran' agree
  · intro executable directory program file source settings name exitCode left ran silent
    exact reply_of_silent ran silent

/-- A tool that does nothing, and ends with an exit code. -/
def idle (exitCode : Int) : Program := fun _ directory => .ok (exitCode, directory)

/-- A tool that writes a tree over the copy, and ends with an exit code. -/
def overwriting (name : String) (exitCode : Int) : Program := fun _ directory =>
  .ok (exitCode, directory.put name (.file (Utf8.bytes "\x7b\"predicates\": []\x7d")))

/-- A document whose name ends like that of an output has an output of another name, and a tree that
is written over its copy is not read. -/
theorem output_apart_from_copy_overwriting :
    outputOf "main.AST.json" = "main.AST.AST.json" ∧
      (analyze (some "/usr/bin/BLint") "/tmp/run" (overwriting "main.AST.json" 3)
        "/work/main.AST.json" "p." {}).reply =
          noOutputReply "/work/main.AST.json" "main.AST.AST.json" 3 ∧
      analyze (some "/usr/bin/BLint") "/tmp/run" (overwriting "main.AST.json" 3)
        "/work/main.AST.json" "p." {} =
      analyze (some "/usr/bin/BLint") "/tmp/run" (idle 3) "/work/main.AST.json" "p." {} := by
  have named : outputOf "main.AST.json" = "main.AST.AST.json" := by decide +kernel
  have copied : Copied "/tmp/run" "/work/main.AST.json" "p." "main.AST.json" :=
    ⟨by decide +kernel, by decide +kernel, by decide, by decide, by decide +kernel,
      by decide +kernel⟩
  have taken : ∀ text ∈ arguments "/tmp/run" "main.AST.json" {}, ∀ crash, ¬Refused text crash :=
    forM_refuseArgument_eq_ok.mp rfl
  have ran : ∀ program : Program, ∀ left,
      program ⟨"/usr/bin/BLint", arguments "/tmp/run" "main.AST.json" {}, "p."⟩
        [("main.AST.json", .file (Utf8.bytes "p."))] = .ok (3, left) →
      Ran "/usr/bin/BLint" "/tmp/run" program "/work/main.AST.json" "p." {} "main.AST.json" 3 left :=
    fun program left started => ⟨copied, taken, started⟩
  have only : ∀ entry entry', AgreeBut "main.AST.json" [("main.AST.json", entry)]
      [("main.AST.json", entry')] := by
    intro entry entry' other apart
    simp [Ledger.get?_cons, apart.symm]
  have silent : ∀ entry, AgreeBut "main.AST.json" [] [("main.AST.json", entry)] := by
    intro entry other apart
    simp [Ledger.get?_cons, apart.symm]
  obtain ⟨-, alike, reported⟩ := output_apart_from_copy
  refine ⟨named, ?_, alike _ _ _ _ _ _ _ _ _ _ _ (ran _ _ rfl) (ran _ _ rfl) (only _ _)⟩
  rw [reported _ _ _ _ _ _ _ _ _ (ran _ _ rfl) (silent _), named, if_neg (by decide +kernel)]

/-- The characters of a name that is short enough for the copy, but not for its output. -/
def longCharacters : List Char := List.replicate 250 'a'

/-- The name of these characters. -/
def longName : String := String.ofList longCharacters

/-- The long name has these characters. -/
theorem toList_longName : longName.toList = longCharacters := String.toList_ofList

/-- The system takes the long name, and what the tool is started with. -/
theorem copied_longName : Copied "/tmp/run" longName "p." longName ∧
    ∀ text ∈ arguments "/tmp/run" longName {}, ∀ crash, ¬Refused text crash := by
  have path : (inDirectory "/tmp/run" longName).toList =
      ['/', 't', 'm', 'p', '/', 'r', 'u', 'n', '/'] ++ longCharacters := by
    simp [inDirectory, toList_longName]
  have encodable : Utf8.nameFault? (inDirectory "/tmp/run" longName) = none := by
    rw [Utf8.nameFault?, Text.codePoints, path]
    decide +kernel
  have named : SourceName.ofFile longName = .ok longName := by
    refine SourceName.ofFile_eq_ok.mpr ⟨longCharacters, ?_, ?_⟩
    · rw [SourceName.pathOf, toList_longName, if_neg (by decide +kernel)]
    · have last : (SourceName.namesIn longCharacters).getLast? = some longCharacters := by
        decide +kernel
      rw [last]
      rfl
  have short : Utf8.byteCount longName ≤ nameLimit := by
    rw [Utf8.byteCount, Utf8.bytes, Text.codePoints, toList_longName]
    decide +kernel
  have noNull : '\x00' ∉ longName.toList := by
    rw [toList_longName]
    decide +kernel
  have proper : longName ≠ ".." := by
    rw [ne_eq, ← String.toList_inj, toList_longName]
    decide +kernel
  refine ⟨⟨named, encodable, noNull, proper, short, by decide +kernel⟩, ?_⟩
  have last : refuseArgument (inDirectory "/tmp/run" longName) = .ok () := by
    rw [refuseArgument_eq, encodable]
    dsimp only
    rw [refuseNull_eq, path, if_neg (by decide +kernel)]
  intro text among
  simp only [arguments, List.append_nil, List.cons_append, List.nil_append, List.mem_cons,
    List.not_mem_nil, or_false] at among
  apply refuseArgument_eq_ok.mp
  rcases among with rfl | rfl | rfl | rfl
  · rfl
  · rfl
  · rfl
  · exact last

/-- The system does not take the name of the output for the long name. -/
theorem outputOf_longName_too_long : nameLimit < Utf8.byteCount (outputOf longName) := by
  have pointless : '.' ∉ longCharacters := by decide +kernel
  have stem : FilePath.HasStem longName.toList longCharacters := by
    rw [toList_longName]
    exact .pointless _ pointless
  rw [Utf8.byteCount, Utf8.bytes, Text.codePoints, SourceName.toList_outputOf, ← stem.eq_stemOf]
  decide +kernel

/-- Not every tool that writes no file is reported to have left no output: the name of the copy can be
short enough where that of the output is too long. -/
theorem not_forall_silent_no_output :
    ¬∀ executable directory program file source settings name exitCode left,
      Ran executable directory program file source settings name exitCode left →
      AgreeBut name [] left →
      (analyze (some executable) directory program file source settings).reply =
        noOutputReply file (outputOf name) exitCode := by
  intro always
  obtain ⟨copied, taken⟩ := copied_longName
  have silent : AgreeBut longName [] [(longName, .file (Utf8.bytes "p."))] := by
    intro other apart
    simp [Ledger.get?_cons, apart.symm]
  have ran : Ran "/usr/bin/BLint" "/tmp/run" (idle 0) longName "p." {} longName 0
      [(longName, .file (Utf8.bytes "p."))] := ⟨copied, taken, rfl⟩
  have claimed := always _ _ _ _ _ _ _ _ _ ran silent
  rw [reply_of_silent ran silent, if_pos outputOf_longName_too_long] at claimed
  cases congrArg Reply.notices claimed

end Tool

end PredicateIndex
