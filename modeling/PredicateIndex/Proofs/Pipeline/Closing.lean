import PredicateIndex.Cache.Navigation
import PredicateIndex.Proofs.Pipeline.Shelf

/-!
# Nothing outlives its document

Whatever the pipeline keeps of a file belongs to an open document: an index, a generation, published
diagnostics or a waiting request. Runs are not stopped when their document is closed, but they look
again whether it is open before they install or publish anything. So from the moment when a document
is closed until its text is set again, its file shows in no answer of the cache, and no work that is
done publishes anything for it.
-/
namespace PredicateIndex

namespace Cache

/-- A file shows in an answer of the cache. -/
inductive Shows (cache : Cache) (file : String) : Prop where
  /-- It is listed. -/
  | listed (inside : file ∈ cache.files)
  /-- It has an index. -/
  | indexed (found : (cache.get? file).isSome)
  /-- A predicate is defined there. -/
  | definition (name : String) (arity : Int) (found : DefinitionMatch)
    (inside : found ∈ cache.definitions name arity) (here : found.file = file)
  /-- A predicate is defined there first. -/
  | firstDefinition (name : String) (arity : Int) (found : DefinitionMatch)
    (first : cache.definition? name arity = some found) (here : found.file = file)
  /-- A predicate is called there. -/
  | reference (name : String) (arity : Int) (found : CallMatch)
    (inside : found ∈ cache.references name arity) (here : found.file = file)
  /-- Something stands under a cursor there. -/
  | element (position : Position) (found : (cache.elementAt? file position).isSome)
  /-- A cursor is led there. -/
  | destination (origin : String) (position : Position) (location : Location)
    (found : cache.gotoDefinition origin position = some location) (here : location.file = file)
  /-- What stands under a cursor is called or declared there. -/
  | mention (origin : String) (position : Position) (withDeclaration : Bool)
    (locations : List Location) (location : Location)
    (found : cache.referencesAt origin position withDeclaration = some locations)
    (inside : location ∈ locations) (here : location.file = file)
  /-- It has an outline. -/
  | outline (found : (cache.outline file).isSome)

variable {cache : Cache} {file name : String} {arity : Int}

/-- A file with an index is listed. -/
theorem mem_files_iff : file ∈ cache.files ↔ (cache.get? file).isSome :=
  Ledger.mem_keys_iff cache.entries file

/-- A definition stands in a listed file. -/
theorem mem_files_of_mem_definitions {found : DefinitionMatch}
    (inside : found ∈ cache.definitions name arity) : found.file ∈ cache.files := by
  obtain ⟨⟨listed, index⟩, entry, matched⟩ := List.mem_filterMap.mp inside
  obtain ⟨record, -, rfl⟩ := Option.map_eq_some_iff.mp matched
  exact List.mem_map.mpr ⟨_, entry, rfl⟩

/-- The first definition is a definition. -/
theorem mem_definitions_of_definition? {found : DefinitionMatch}
    (first : cache.definition? name arity = some found) : found ∈ cache.definitions name arity :=
  List.mem_of_head? first

/-- A call stands in a listed file. -/
theorem mem_files_of_mem_references {found : CallMatch}
    (inside : found ∈ cache.references name arity) : found.file ∈ cache.files := by
  obtain ⟨⟨listed, index⟩, entry, matched⟩ := List.mem_flatMap.mp inside
  obtain ⟨record, -, called⟩ := List.mem_flatMap.mp matched
  obtain ⟨call, -, rfl⟩ := List.mem_map.mp (List.mem_filter.mp called).1
  exact List.mem_map.mpr ⟨_, entry, rfl⟩

/-- What stands under a cursor stands in a listed file. -/
theorem mem_files_of_elementAt? {position : Position} {element : Element}
    (found : cache.elementAt? file position = some element) : file ∈ cache.files := by
  obtain ⟨index, cached, -⟩ := Option.bind_eq_some_iff.mp found
  exact mem_files_iff.mpr (by simp [cached])

/-- A head under a cursor stands in the file of the cursor. -/
theorem file_of_head {position : Position} {definition : DefinitionMatch}
    (found : cache.elementAt? file position = some (.head definition)) :
    definition.file = file := by
  obtain ⟨index, -, found⟩ := Option.bind_eq_some_iff.mp found
  obtain ⟨record, -, inside⟩ := List.mem_flatMap.mp (List.mem_of_find?_eq_some found)
  simp only [PredicateRecord.elements, List.mem_cons, Element.head.injEq, List.mem_map,
    reduceCtorEq, and_false, exists_false, or_false] at inside
  rw [inside]

/-- A file that shows in an answer is listed. -/
theorem Shows.mem_files (shows : cache.Shows file) : file ∈ cache.files := by
  cases shows with
  | listed inside => exact inside
  | indexed found => exact mem_files_iff.mpr found
  | definition name arity found inside here => exact here ▸ mem_files_of_mem_definitions inside
  | firstDefinition name arity found first here =>
    exact here ▸ mem_files_of_mem_definitions (mem_definitions_of_definition? first)
  | reference name arity found inside here => exact here ▸ mem_files_of_mem_references inside
  | element position found =>
    obtain ⟨element, found⟩ := Option.isSome_iff_exists.mp found
    exact mem_files_of_elementAt? found
  | destination origin position location found here =>
    obtain ⟨element, stands, led⟩ := Option.bind_eq_some_iff.mp found
    cases element with
    | head definition =>
      obtain rfl : definition.location = location := Option.some.inj led
      have origin : definition.file = origin := file_of_head stands
      have same : definition.file = file := here
      exact same ▸ origin ▸ mem_files_of_elementAt? stands
    | call reference =>
      obtain ⟨definition, first, led⟩ := Option.bind_eq_some_iff.mp led
      obtain rfl : definition.location = location := Option.some.inj led
      have same : definition.file = file := here
      exact same ▸ mem_files_of_mem_definitions (mem_definitions_of_definition? first)
  | mention origin position withDeclaration locations location found inside here =>
    obtain ⟨element, stands, given⟩ := Option.bind_eq_some_iff.mp found
    obtain rfl := Option.some.inj given
    rcases List.mem_append.mp inside with inside | inside
    · obtain ⟨call, called, rfl⟩ := List.mem_map.mp inside
      exact here ▸ mem_files_of_mem_references called
    · obtain ⟨definition, declared, rfl⟩ := List.mem_map.mp inside
      cases withDeclaration with
      | false => cases declared
      | true =>
        exact here ▸ mem_files_of_mem_definitions
          (mem_definitions_of_definition? (Option.mem_toList.mp declared))
  | outline found =>
    obtain ⟨symbols, found⟩ := Option.isSome_iff_exists.mp found
    obtain ⟨index, cached, -⟩ := Option.bind_eq_some_iff.mp found
    exact mem_files_iff.mpr (by simp [cached])

end Cache

namespace Pipeline

/-- Something is kept of a file. -/
inductive Shelf.Keeps (shelf : Shelf) (file : String) : Prop where
  /-- Its index. -/
  | index (found : (shelf.cache.get? file).isSome)
  /-- The generation of its index. -/
  | generation (found : (shelf.cache.generation? file).isSome)
  /-- Its diagnostics. -/
  | diagnostics (found : (shelf.published.get? file).isSome)
  /-- A waiting request. -/
  | request (found : shelf.debouncer.isWaiting file)

/-- Whatever is kept of a file belongs to an open document. -/
def Shelf.Tidy (shelf : Shelf) : Prop :=
  ∀ file, shelf.Keeps file → (shelf.documents.get? file).isSome

variable {shelf shelf' : Shelf} {file : String}

/-- What is kept after something was published is kept for that file or was kept before. -/
theorem Shelf.Keeps.of_publish {published : String} {diagnostics : List EditorDiagnostic}
    (keeps : (shelf.publish published diagnostics).Keeps file) :
    published = file ∨ shelf.Keeps file := by
  cases keeps with
  | index found => exact .inr (.index found)
  | generation found => exact .inr (.generation found)
  | request found => exact .inr (.request found)
  | diagnostics found =>
    simp only [publish] at found
    split at found
    · exact .inr (.diagnostics (Ledger.isSome_of_remove found).2)
    · rcases Ledger.isSome_of_put found with same | found
      · exact .inl same
      · exact .inr (.diagnostics found)

/-- What is kept after a deed was kept before or belongs to an open document. -/
theorem Deed.keeps (done : Deed shelf shelf') (keeps : shelf'.Keeps file) :
    (shelf.documents.get? file).isSome ∨ shelf.Keeps file := by
  cases done with
  | cancel cancelled =>
    cases keeps with
    | index found => exact .inr (.index found)
    | generation found => exact .inr (.generation found)
    | diagnostics found => exact .inr (.diagnostics found)
    | request found => exact .inr (.request (Ledger.isSome_of_remove found).2)
  | silence =>
    cases keeps with
    | index found => exact .inr (.index found)
    | generation found => exact .inr (.generation found)
    | diagnostics found => exact .inr (.diagnostics found)
    | request found => cases found
  | install installed index generation opened =>
    cases keeps with
    | index found =>
      rcases Ledger.isSome_of_put found with rfl | found
      · exact .inl opened
      · exact .inr (.index found)
    | generation found =>
      cases generation with
      | none => exact .inr (.generation found)
      | some number =>
        rcases Ledger.isSome_of_put found with rfl | found
        · exact .inl opened
        · exact .inr (.generation found)
    | diagnostics found => exact .inr (.diagnostics found)
    | request found => exact .inr (.request found)
  | evict evicted =>
    cases keeps with
    | index found => exact .inr (.index (Ledger.isSome_of_remove found).2)
    | generation found => exact .inr (.generation (Ledger.isSome_of_remove found).2)
    | diagnostics found => exact .inr (.diagnostics found)
    | request found => exact .inr (.request found)
  | publish published diagnostics opened =>
    rcases keeps.of_publish with rfl | keeps
    · exact .inl opened
    · exact .inr keeps

/-- Nothing is kept of a document that is closed. -/
theorem Shelf.Keeps.of_close {closed : String} (keeps : (shelf.close closed).Keeps file) :
    closed ≠ file ∧ shelf.Keeps file := by
  cases keeps with
  | index found => exact (Ledger.isSome_of_remove found).imp_right .index
  | generation found => exact (Ledger.isSome_of_remove found).imp_right .generation
  | diagnostics found => exact (Ledger.isSome_of_remove found).imp_right .diagnostics
  | request found => exact (Ledger.isSome_of_remove found).imp_right .request

/-- A change keeps the shelf tidy. -/
theorem Shelf.Tidy.change (tidy : shelf.Tidy) (changed : Change shelf shelf') : shelf'.Tidy := by
  intro file keeps
  cases changed with
  | deed done =>
    have documents := Deeds.documents (.single done)
    rw [documents]
    exact (done.keeps keeps).elim id (tidy file)
  | write written document =>
    have before : shelf.Keeps file := by
      cases keeps with
      | index found => exact .index found
      | generation found => exact .generation found
      | diagnostics found => exact .diagnostics found
      | request found => exact .request found
    simp only [Ledger.get?_put]
    split
    · rfl
    · exact tidy file before
  | request now requested opened =>
    cases keeps with
    | index found => exact tidy file (.index found)
    | generation found => exact tidy file (.generation found)
    | diagnostics found => exact tidy file (.diagnostics found)
    | request found =>
      simp only [Debouncer.isWaiting, Ledger.has, Debouncer.request, Ledger.get?_append,
        Option.isSome_or, Bool.or_eq_true, Ledger.get?_cons, Ledger.get?_nil] at found
      rcases found with found | found
      · exact tidy file (.request (Ledger.isSome_of_remove found).2)
      · split at found
        · rename_i same
          exact same ▸ opened
        · cases found
  | close closed =>
    obtain ⟨other, before⟩ := keeps.of_close
    have documents : (shelf.close closed).documents = shelf.documents.remove closed := rfl
    rw [documents, Ledger.get?_remove_ne _ other]
    exact tidy file before

namespace State

variable {state : State}

/-- The pipeline with nothing open is tidy. -/
theorem tidy_initial (provider : SettingsProvider) (delay : Nat) :
    (initial provider delay).shelf.Tidy := by
  intro file keeps
  cases keeps with
  | index found | generation found | diagnostics found | request found => cases found

/-- Every interleaving leaves the pipeline tidy. -/
theorem tidy_play (provider : SettingsProvider) (delay : Nat) (actions : List Action) :
    ((initial provider delay).play actions).shelf.Tidy :=
  keep_play _ Shelf.Tidy (fun tidy changed => tidy.change changed) (tidy_initial provider delay)
    actions

/-- A document that is closed is not open. -/
theorem isOpen_act_closed (state : State) (file : String) :
    (state.act (.event (.closed file))).isOpen file = false := by
  have documents : (state.act (.event (.closed file))).documents =
    state.documents.remove file := rfl
  rw [isOpen, documents, Ledger.has, Ledger.get?_remove_self]
  rfl

/-- A closed document stays closed until its text is set. -/
theorem isOpen_play_eq_false (closed : state.isOpen file = false) {actions : List Action}
    (keeps : ∀ action ∈ actions, ¬action.SetsText file) :
    (state.play actions).isOpen file = false := by
  induction actions generalizing state with
  | nil => exact closed
  | cons action rest ih =>
    refine ih (isOpen_act_eq_false state closed (keeps action (by simp))) fun later inside => ?_
    exact keeps later (by simp [inside])

/-- What was published for a file, in order. -/
def publicationsOf (state : State) (file : String) : List (List EditorDiagnostic) :=
  (state.publications.filter fun publication => publication.1 == file).map Prod.snd

/-- Deeds publish nothing for a file that is not open. -/
theorem publicationsOf_eq_of_deeds {after : State} (deeds : Deeds state.shelf after.shelf)
    (closed : state.isOpen file = false) :
    after.publicationsOf file = state.publicationsOf file := by
  have same : ∀ {shelf}, Deeds state.shelf shelf →
      shelf.publications.filter (fun publication => publication.1 == file) =
        state.publications.filter fun publication => publication.1 == file := by
    intro shelf deeds
    induction deeds with
    | refl => rfl
    | tail before done ih =>
      cases done with
      | cancel | silence | install | evict => exact ih
      | publish published diagnostics opened =>
        have other : (published == file) = false := by
          rw [beq_eq_false_iff_ne]
          rintro rfl
          rw [Deeds.documents before] at opened
          exact absurd (opened.symm.trans closed) (by simp)
        simp [Shelf.publish, other, ih]
  exact congrArg (List.map Prod.snd) (same deeds)

/-- Whatever is kept of a file belongs to an open document; and from the moment when a document is
closed until its text is set again, its file shows in no answer of the cache, and no work that is
done publishes anything for it. -/
theorem nothing_outlives_its_document (provider : SettingsProvider) (delay : Nat)
    (actions : List Action) (file : String) :
    (((initial provider delay).play actions).shelf.Keeps file →
      ((initial provider delay).play actions).isOpen file) ∧
    ∀ past rest, actions = past ++ .event (.closed file) :: rest →
      (∀ action ∈ rest, ¬action.SetsText file) →
      ¬((initial provider delay).play actions).cache.Shows file ∧
      ∀ analyzer, ¬(tick analyzer ((initial provider delay).play actions)).cache.Shows file ∧
        (tick analyzer ((initial provider delay).play actions)).publicationsOf file =
          ((initial provider delay).play actions).publicationsOf file := by
  have invisible : ∀ actions : List Action,
      ((initial provider delay).play actions).isOpen file = false →
      ¬((initial provider delay).play actions).cache.Shows file := by
    intro actions closed shows
    have found := Cache.mem_files_iff.mp shows.mem_files
    have opened := tidy_play provider delay actions file (.index found)
    exact absurd (opened.symm.trans closed) (by simp)
  refine ⟨tidy_play provider delay actions file, ?_⟩
  rintro past rest rfl keeps
  generalize split : past ++ .event (.closed file) :: rest = actions
  have closed : ((initial provider delay).play actions).isOpen file = false := by
    rw [← split, play_append, play_cons]
    exact isOpen_play_eq_false (isOpen_act_closed _ file) keeps
  refine ⟨invisible actions closed, fun analyzer => ⟨?_, ?_⟩⟩
  · have still := isOpen_act_eq_false _ closed (id : ¬(Action.tick analyzer).SetsText file)
    rw [← play_snoc] at still
    have hidden := invisible _ still
    rwa [play_snoc] at hidden
  · exact publicationsOf_eq_of_deeds (deeds_tick _ analyzer) closed

/-- A document is analyzed, and it is closed while the analyzer is held back for a second
analysis. -/
def closing : List Action :=
  [.event (.opened "a.pl" "p." 0), .tick fun _ => { result := .ok { tree := some {} } },
    .tick fun _ => { result := .ok { tree := some {} } }, .hold "a.pl",
    .event (.saved "a.pl" none), .tick fun _ => { result := .ok { tree := some {} } },
    .event (.closed "a.pl"), .release "a.pl"]

/-- While the document is open its index is kept, and the run that ends after it was closed brings
nothing back. -/
theorem nothing_outlives_its_document_closing :
    ((initial (.fixed {}) 500).play (closing.take 6)).shelf.Keeps "a.pl" ∧
      ((initial (.fixed {}) 500).play (closing.take 6)).isOpen "a.pl" ∧
      ((initial (.fixed {}) 500).play closing).queue = [.step 1] ∧
      ¬(tick (fun _ => { result := .ok { tree := some {} } })
        ((initial (.fixed {}) 500).play closing)).cache.Shows "a.pl" := by
  have keeps : ((initial (.fixed {}) 500).play (closing.take 6)).shelf.Keeps "a.pl" :=
    .index rfl
  have untouched : ∀ action ∈ [Action.release "a.pl"], ¬action.SetsText "a.pl" := by
    simp [Action.SetsText]
  have opened :=
    (nothing_outlives_its_document (.fixed {}) 500 (closing.take 6) "a.pl").1 keeps
  obtain ⟨-, silent⟩ := (nothing_outlives_its_document (.fixed {}) 500 closing "a.pl").2
    (closing.take 6) _ rfl untouched
  exact ⟨keeps, opened, rfl, (silent _).1⟩

end State

end Pipeline

end PredicateIndex
