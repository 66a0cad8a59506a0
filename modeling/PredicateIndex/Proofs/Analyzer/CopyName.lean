import PredicateIndex.Proofs.Analyzer.Failures
import PredicateIndex.Proofs.Path

/-!
# Where the copy of a document is put

The copy of a document has the last name of the document's path, and is written into a directory
under that name. Whatever the identifier is, the name is a single one: it is not empty, it holds no
slash and no backslash, and it is not a point. It can be `..`, however, which leads out of the
directory. Main result: this is so exactly if `..` is the last name of the path, and no such
document is ever analyzed.
-/
namespace PredicateIndex.SourceName

/-- Whether a character stands between the names of a path. -/
def isDivider (c : Char) : Bool := c == '/' || c == '\\'

/-- The names of a path: what stands between slashes and backslashes, unless it is empty or a
point. -/
def namesIn (path : List Char) : List (List Char) :=
  (path.splitOnP isDivider).filter FilePath.isName

/-- A path with slashes for backslashes. -/
def slashed (path : List Char) : List Char := path.map fun c => if c == '\\' then '/' else c

/-- Slashes for backslashes divide a path where both divided it before. -/
theorem splitOn_slashed (path : List Char) :
    (slashed path).splitOn '/' = path.splitOnP isDivider := by
  induction path with
  | nil => rfl
  | cons c rest ih =>
    rw [slashed, List.map_cons, List.splitOn_cons_eq_if_modifyHead,
      List.splitOnP_cons_eq_if_modifyHead, ← ih, slashed]
    by_cases backslash : c = '\\'
    · simp [backslash, isDivider]
    · by_cases slash : c = '/' <;> simp [backslash, slash, isDivider]

/-- A name of a path is not empty, not a point, and not divided. -/
theorem proper_of_mem_namesIn {path part : List Char} (among : part ∈ namesIn path) :
    FilePath.ProperName (String.ofList part) ∧ '\\' ∉ (String.ofList part).toList := by
  obtain ⟨split, kept⟩ := List.mem_filter.mp among
  have plain := eq_false_of_mem_splitOnP split
  rw [String.toList_ofList]
  refine ⟨(FilePath.isName_toList ?_).mp ?_, fun backslash => by cases plain _ backslash⟩
  · rw [String.toList_ofList]
    exact fun slash => by cases plain _ slash
  · rwa [String.toList_ofList]

/-- The name of a copy is the last name of the path, or the default if there is none. -/
theorem ofFile_eq_ok {file name : String} :
    ofFile file = .ok name ↔ ∃ path, pathOf file = .ok path ∧
      name = ((namesIn path).getLast?.map String.ofList).getD default := by
  have last : ∀ path, (FilePath.ofText (String.ofList (slashed path))).name =
      ((namesIn path).getLast?.map String.ofList).getD "" := by
    intro path
    rw [FilePath.name, FilePath.names_ofText, String.toList_ofList, splitOn_slashed, ← namesIn,
      List.getLastD_eq_getLast?, List.getLast?_map]
  rw [ofFile]
  cases pathOf file with
  | error refusal => simp [bind, Except.bind]
  | ok path =>
    have taken : (if ((namesIn path).getLast?.map String.ofList).getD "" |>.isEmpty then default
          else ((namesIn path).getLast?.map String.ofList).getD "") =
        ((namesIn path).getLast?.map String.ofList).getD default := by
      cases found : (namesIn path).getLast? with
      | none => rfl
      | some part =>
        have proper := (proper_of_mem_namesIn (List.mem_of_getLast? found)).1
        simp [proper.notEmpty]
    have named := last path
    rw [slashed] at named
    simp only [bind, Except.bind, pure, Except.pure, named, taken, Except.ok.injEq, exists_eq_left']
    exact eq_comm

/-- A name that is put below a directory is one more name. -/
theorem names_inDirectory {name : String} (proper : FilePath.ProperName name) (directory : String) :
    (FilePath.ofText (Tool.inDirectory directory name)).names =
      (FilePath.ofText directory).names ++ [name] := by
  have divided : (Tool.inDirectory directory name).toList =
      directory.toList ++ '/' :: name.toList := by
    simp [Tool.inDirectory]
  have kept := (FilePath.isName_toList proper.undivided).mpr proper
  rw [FilePath.names_ofText, FilePath.names_ofText, divided,
    List.splitOn_append_cons_of_beq _ _ (beq_self_eq_true '/'),
    List.splitOn_eq_singleton proper.undivided, List.filter_append, List.map_append,
    List.filter_cons_of_pos kept]
  simp

/-- A document that would be copied over the directory above is not analyzed. -/
theorem analyze_above {file : String} (named : ofFile file = .ok "..") (executable : Option String)
    (directory : String) (program : Tool.Program) (source : String) (settings : AnalyzerSettings) :
    ∃ message, (Tool.analyze executable directory program file source settings).reply.result =
      .ok (.failed message) := by
  cases executable with
  | none => exact ⟨_, Tool.analyze_none directory program file source settings⟩
  | some executable =>
    rw [Tool.analyze, Tool.prepare_some, named]
    simp only [Tool.refuseName_eq]
    cases Utf8.nameFault? (Tool.inDirectory directory "..") with
    | some fault => exact ⟨_, rfl⟩
    | none => exact ⟨_, rfl⟩

/-- The name of a copy is a single one, which stands below any directory that it is put in. It leads
out of the directory exactly if the last name of the path is `..`, and then the document is not
analyzed. -/
theorem name_single_and_above_iff {file name : String} (named : ofFile file = .ok name) :
    (name ≠ "" ∧ '/' ∉ name.toList ∧ '\\' ∉ name.toList ∧ name ≠ ".") ∧
    (∀ directory, (FilePath.ofText (Tool.inDirectory directory name)).names =
      (FilePath.ofText directory).names ++ [name]) ∧
    (name = ".." ↔ ∃ path, pathOf file = .ok path ∧ (namesIn path).getLast? = some ['.', '.']) ∧
    (name = ".." → ∀ executable directory program source settings, ∃ message,
      (Tool.analyze executable directory program file source settings).reply.result =
        .ok (.failed message)) := by
  obtain ⟨path, read, same⟩ := ofFile_eq_ok.mp named
  have single : FilePath.ProperName name ∧ '\\' ∉ name.toList := by
    cases found : (namesIn path).getLast? with
    | none =>
      rw [found] at same
      subst same
      exact ⟨⟨by decide, by decide, by decide⟩, by decide⟩
    | some part =>
      rw [found] at same
      subst same
      exact proper_of_mem_namesIn (List.mem_of_getLast? found)
  have above : name = ".." ↔ (namesIn path).getLast? = some ['.', '.'] := by
    cases found : (namesIn path).getLast? with
    | none =>
      rw [found] at same
      subst same
      decide
    | some part =>
      rw [found] at same
      subst same
      rw [← String.toList_inj]
      simp
  refine ⟨⟨single.1.notEmpty, single.1.undivided, single.2, single.1.notPoint⟩,
    names_inDirectory single.1, ?_, ?_⟩
  · simp only [read, Except.ok.injEq, exists_eq_left', above]
  · rintro rfl
    exact analyze_above named

/-- Escaped characters of a URL count as what they stand for, here `..`, a backslash and a point. -/
theorem name_single_and_above_iff_escaped :
    ofFile "file:///work/%2E%2E%5C." = .ok ".." ∧
      (∃ path, pathOf "file:///work/%2E%2E%5C." = .ok path ∧
        (namesIn path).getLast? = some ['.', '.']) ∧
      ∀ executable directory program source settings, ∃ message,
        (Tool.analyze executable directory program "file:///work/%2E%2E%5C." source
          settings).reply.result = .ok (.failed message) := by
  have named : ofFile "file:///work/%2E%2E%5C." = .ok ".." := by decide +kernel
  obtain ⟨-, -, above, fails⟩ := name_single_and_above_iff named
  exact ⟨named, above.mp rfl, fails rfl⟩

/-- Not every name of a copy stays inside of the directory. -/
theorem not_forall_name_inside :
    ¬∀ file name, ofFile file = .ok name →
      name ≠ "" ∧ '/' ∉ name.toList ∧ '\\' ∉ name.toList ∧ name ≠ "." ∧ name ≠ ".." := by
  intro always
  have named : ofFile ".." = .ok ".." := by decide +kernel
  exact (always ".." ".." named).2.2.2.2 rfl

end PredicateIndex.SourceName
