import Mathlib.Data.List.Basic
import PredicateIndex.Path.Basic

/-!
# Paths in normal form

The path of a text has a root of no slash, one slash or two, and its names are neither empty nor a
point and hold no slash. Main result: a path of this form is read back from its own text, so a path
that was read and written once is not changed by being read and written again. Replacing a leading
`~` by a home directory keeps the form.
-/
namespace PredicateIndex

/-- No element of a part between separators is a separator. -/
theorem eq_false_of_mem_splitOnP {α : Type} {p : α → Bool} {xs part : List α}
    (among : part ∈ xs.splitOnP p) : ∀ x ∈ part, p x = false := by
  induction xs generalizing part with
  | nil =>
    rw [List.splitOnP_nil, List.mem_singleton] at among
    simp [among]
  | cons x rest ih =>
    rw [List.splitOnP_cons_eq_if_modifyHead] at among
    split at among
    · rcases List.mem_cons.mp among with rfl | among
      · simp
      · exact ih among
    · rename_i plain
      -- The element is put before the first part, and the other parts are those of the rest.
      cases parts : rest.splitOnP p with
      | nil => exact absurd parts (List.splitOnP_ne_nil p rest)
      | cons first others =>
        rw [parts, List.modifyHead_cons] at among
        rcases List.mem_cons.mp among with rfl | among
        · refine List.forall_mem_cons.mpr ⟨by simpa using plain, ih ?_⟩
          simp [parts]
        · exact ih (by simp [parts, among])

/-- The groups between the occurrences of a separator are the parts that it splits off. -/
theorem Numeral.splitAt_eq_splitOn (separator : Char) (cs : List Char) :
    splitAt separator cs = cs.splitOn separator := by
  induction cs with
  | nil => rfl
  | cons c rest ih =>
    rw [splitAt, ih, List.splitOn_cons_eq_if_modifyHead]
    cases parts : rest.splitOn separator with
    | nil => exact absurd parts (List.splitOnP_ne_nil _ rest)
    | cons first others => rfl

namespace FilePath

/-- A text that can be a name of a path. -/
structure ProperName (name : String) : Prop where
  /-- It is not empty. -/
  notEmpty : name ≠ ""
  /-- It is not a point, which stands for the directory itself. -/
  notPoint : name ≠ "."
  /-- It holds no slash. -/
  undivided : '/' ∉ name.toList

/-- A path as it comes from a text. -/
structure Normal (path : FilePath) : Prop where
  /-- The root is nothing, one slash or two. -/
  rooted : path.root = "" ∨ path.root = "/" ∨ path.root = "//"
  /-- The names are proper. -/
  named : ∀ name ∈ path.names, ProperName name

/-- The names of a text are its parts between slashes that are neither empty nor a point. -/
theorem names_ofText (s : String) :
    (ofText s).names = ((s.toList.splitOn '/').filter isName).map String.ofList := by
  rw [ofText, Numeral.splitAt_eq_splitOn]

/-- A part between slashes is a name of a path exactly if it is proper. -/
theorem isName_toList {name : String} (undivided : '/' ∉ name.toList) :
    isName name.toList = true ↔ ProperName name := by
  have point : name.toList = ['.'] ↔ name = "." := by
    rw [← String.toList_inj]
    rfl
  constructor
  · intro kept
    simp only [isName, Bool.and_eq_true, Bool.not_eq_true', List.isEmpty_eq_false_iff, bne_iff_ne,
      ne_eq, String.toList_eq_nil_iff, point] at kept
    exact ⟨kept.1, kept.2, undivided⟩
  · intro proper
    simp [isName, point, proper.notEmpty, proper.notPoint]

/-- A path that is read from a text is normal. -/
theorem normal_ofText (s : String) : (ofText s).Normal where
  rooted := by
    rw [ofText, rootOf]
    split <;> simp
  named := by
    intro name among
    rw [names_ofText] at among
    obtain ⟨part, kept, rfl⟩ := List.mem_map.mp among
    obtain ⟨split, kept⟩ := List.mem_filter.mp kept
    have undivided : '/' ∉ (String.ofList part).toList := by
      intro slash
      rw [String.toList_ofList] at slash
      simpa using eq_false_of_mem_splitOnP split '/' slash
    exact (isName_toList undivided).mp (by simpa using kept)

/-! ## Reading a path back -/

/-- The names of a path with slashes between them. -/
def joined (names : List String) : List Char := ['/'].intercalate (names.map String.toList)

/-- Joined names do not start with a slash, and are empty only if there is no name. -/
theorem joined_cons {name : String} (proper : ProperName name) (rest : List String) :
    ∃ c cs, joined (name :: rest) = c :: cs ∧ c ≠ '/' := by
  cases spelled : name.toList with
  | nil => exact absurd (String.toList_eq_nil_iff.mp spelled) proper.notEmpty
  | cons c cs =>
    refine ⟨c, ['/'].intercalate (cs :: rest.map String.toList), ?_, ?_⟩
    · rw [joined, List.map_cons, spelled, List.intercalate_cons_cons_left]
    · rintro rfl
      exact proper.undivided (by simp [spelled])

/-- Nothing but the root comes before the first name. -/
theorem takeWhile_joined {names : List String} (proper : ∀ name ∈ names, ProperName name) :
    (joined names).takeWhile (· == '/') = [] := by
  cases names with
  | nil => rfl
  | cons name rest =>
    obtain ⟨c, cs, spelled, other⟩ := joined_cons (proper name (by simp)) rest
    rw [spelled, List.takeWhile_cons_of_neg (by simpa using other)]

/-- The names that were joined are read back. -/
theorem filter_splitOn_joined {names : List String} (proper : ∀ name ∈ names, ProperName name) :
    (((joined names).splitOn '/').filter isName).map String.ofList = names := by
  cases names with
  | nil => rfl
  | cons name rest =>
    have undivided : ∀ part ∈ (name :: rest).map String.toList, '/' ∉ part := by
      intro part among
      obtain ⟨other, inside, rfl⟩ := List.mem_map.mp among
      exact (proper other inside).undivided
    have kept : ∀ part ∈ (name :: rest).map String.toList, isName part = true := by
      intro part among
      obtain ⟨other, inside, rfl⟩ := List.mem_map.mp among
      exact (isName_toList (proper other inside).undivided).mpr (proper other inside)
    rw [joined, List.splitOn_intercalate '/' undivided (by simp), List.filter_eq_self.mpr kept,
      List.map_map]
    simp [Function.comp_def]

/-- A normal path is the path of its root and its joined names. -/
theorem ofText_root_joined {path : FilePath} (normal : path.Normal) :
    ofText (String.ofList (path.root.toList ++ joined path.names)) = path := by
  obtain ⟨root, names⟩ := path
  obtain ⟨rooted, named⟩ := normal
  have start := takeWhile_joined named
  have kept := filter_splitOn_joined named
  -- A slash of the root gives an empty part, which is no name.
  have dropped : ∀ cs : List Char, (('/' :: cs).splitOn '/').filter isName =
      (cs.splitOn '/').filter isName := by
    intro cs
    rw [List.splitOn_cons_eq_if_modifyHead, if_pos (by simp), List.filter_cons_of_neg (by decide)]
  rw [FilePath.mk.injEq, names_ofText, ofText, String.toList_ofList]
  rcases rooted with rfl | rfl | rfl
  · exact ⟨by simp [rootOf, start], kept⟩
  · refine ⟨by simp [rootOf, start], ?_⟩
    rw [show "/".toList = ['/'] from rfl, List.singleton_append, dropped, kept]
  · refine ⟨by simp [rootOf, start], ?_⟩
    rw [show "//".toList = ['/', '/'] from rfl, List.cons_append, List.singleton_append, dropped,
      dropped, kept]

/-- A normal path is read back from its text. -/
theorem ofText_text {path : FilePath} (normal : path.Normal) : ofText path.text = path := by
  have body : path.root ++ String.intercalate "/" path.names =
      String.ofList (path.root.toList ++ joined path.names) := by
    rw [← String.toList_inj, String.toList_append, String.toList_intercalate]
    simp [joined]
  rw [text, body]
  split
  · rename_i empty
    -- The path without root and names is written as a point, which is read as no name.
    have read := ofText_root_joined normal
    rw [String.isEmpty_iff.mp empty] at read
    rw [← read]
    rfl
  · exact ofText_root_joined normal

/-! ## Home directories -/

/-- A path with its home directory in place is normal if the path was. -/
theorem Normal.expandHome {path expanded : FilePath} {homes : Homes} (normal : path.Normal)
    (done : path.expandHome homes = .ok expanded) : expanded.Normal := by
  rw [FilePath.expandHome] at done
  split at done
  · rename_i first rest _ named
    split at done
    · cases found : homeOf homes first with
      | error fault =>
        rw [found] at done
        cases done
      | ok directory =>
        rw [found] at done
        obtain rfl := Except.ok.inj done
        refine ⟨(normal_ofText directory).rooted, fun name among => ?_⟩
        rcases List.mem_append.mp among with above | below
        · exact (normal_ofText directory).named name above
        · exact normal.named name (by simp [named, below])
    · obtain rfl := Except.ok.inj done
      exact normal
  · obtain rfl := Except.ok.inj done
    exact normal

/-- An absolute path has no home directory to be put in. -/
theorem expandHome_of_isAbsolute {path : FilePath} (homes : Homes)
    (absolute : path.isAbsolute = true) : path.expandHome homes = .ok path := by
  rw [FilePath.expandHome]
  split
  · rename_i relative _
    simp [isAbsolute, relative] at absolute
  · rfl

end FilePath

end PredicateIndex
