import PredicateIndex.Cache.Navigation
import PredicateIndex.Proofs.Cache.Chronicle

/-!
# What stands under a cursor

An editor asks about a position of a file, and the cache answers in three steps: it looks for the
element under the position, takes the name and the arity that the element speaks of, and goes through
its files for the calls and the definitions of that predicate. Main results: the element is the first
one under the position, a head before the calls of its record; a call under the cursor is among the
references that are told, and leads to the first file that defines what it calls; and the answer about
references depends on the predicate alone, not on where it was asked. The declaration that is told
with the references is the first definition in the order of the files, also where the cursor is on
another head of the same predicate.
-/
namespace PredicateIndex

/-! ## First elements -/

section First

variable {α β : Type} {l : List α} {a : α}

/-- An element is the first one of a list with a property. -/
def IsFirst (p : α → Prop) (l : List α) (a : α) : Prop :=
  ∃ before after, l = before ++ a :: after ∧ p a ∧ ∀ b ∈ before, ¬p b

/-- A search by a test finds the first element that passes it. -/
theorem find?_eq_some_iff_isFirst {p : α → Bool} :
    l.find? p = some a ↔ IsFirst (fun b => p b = true) l a := by
  rw [List.find?_eq_some_iff_append]
  constructor
  · rintro ⟨passes, before, after, split, fail⟩
    exact ⟨before, after, split, passes, fun b inside => by simpa using fail b inside⟩
  · rintro ⟨before, after, split, passes, fail⟩
    exact ⟨passes, before, after, split, fun b inside => by simpa using fail b inside⟩

/-- A search by a function finds its value at the first element that has one. -/
theorem findSome?_eq_some_iff_isFirst {f : α → Option β} {b : β} :
    l.findSome? f = some b ↔ ∃ a, IsFirst (fun a => (f a).isSome) l a ∧ f a = some b := by
  rw [List.findSome?_eq_some_iff]
  constructor
  · rintro ⟨before, a, after, split, value, fail⟩
    exact ⟨a, ⟨before, after, split, by simp [value], fun c inside => by simp [fail c inside]⟩, value⟩
  · rintro ⟨a, ⟨before, after, split, -, fail⟩, value⟩
    exact ⟨before, a, after, split, value, fun c inside => by simpa using fail c inside⟩

/-- If the first element with one property has another, and the first with that has the one, then the
two are the same element at the same place. -/
theorem first_eq_first {p q : α → Prop} {b : α} {before before' after after' : List α}
    (split : l = before ++ a :: after) (fail : ∀ c ∈ before, ¬p c)
    (split' : l = before' ++ b :: after') (fail' : ∀ c ∈ before', ¬q c) (has : p b) (has' : q a) :
    before = before' ∧ a = b := by
  rcases List.append_eq_append_iff.mp (split.symm.trans split') with ⟨c, rfl, rest⟩ | ⟨c, rfl, rest⟩
  · cases c with
    | nil => exact ⟨by simp, (List.cons.inj rest).1⟩
    | cons first others =>
      obtain ⟨rfl, -⟩ := List.cons.inj rest
      exact absurd has' (fail' a (by simp))
  · cases c with
    | nil => exact ⟨by simp, (List.cons.inj rest).1.symm⟩
    | cons first others =>
      obtain ⟨rfl, -⟩ := List.cons.inj rest
      exact absurd has (fail b (by simp))

/-- Properties that agree have the same first element. -/
theorem isFirst_congr {p q : α → Prop} (same : ∀ b, p b ↔ q b) : IsFirst p l a ↔ IsFirst q l a := by
  obtain rfl : p = q := funext fun b => propext (same b)
  exact Iff.rfl

end First

/-! ## The element under a position -/

namespace PredicateRecord

/-- A position is on the head of a record or on one of its calls. -/
def Touches (record : PredicateRecord) (position : Position) : Prop :=
  record.definition.contains position = true ∨
    ∃ call ∈ record.calls, call.location.contains position = true

/-- The element of a record under a position: the head if the position is on it, and else the first
call that it is on. -/
inductive Under (record : PredicateRecord) (file : String) (position : Position) : Element → Prop where
  /-- The position is on the head. -/
  | head (on : record.definition.contains position = true) :
    Under record file position (.head { file, record })
  /-- The position is on a call but not on the head. -/
  | call {call : CallSite} (off : ¬record.definition.contains position = true)
    (first : IsFirst (fun call => call.location.contains position = true) record.calls call) :
    Under record file position (.call { file, call, caller := record })

variable {record : PredicateRecord} {file : String} {position : Position} {element : Element}

/-- The search in a record finds the element under the position. -/
theorem find?_elements_eq_some_iff :
    (record.elements file).find? (fun element => element.location.contains position) =
      some element ↔ record.Under file position element := by
  have calls : ((record.callMatches file).map Element.call).find?
      (fun element => element.location.contains position) =
      (record.calls.find? fun call => call.location.contains position).map fun call =>
        .call { file, call, caller := record } := by
    rw [callMatches, List.map_map, List.find?_map]
    rfl
  rw [elements, List.find?_cons]
  split
  · rename_i on
    constructor
    · rintro ⟨⟩
      exact .head on
    · rintro (_ | ⟨off, _⟩)
      · rfl
      · exact absurd on off
  · rename_i off
    rw [calls, Option.map_eq_some_iff]
    have off : ¬record.definition.contains position = true := by
      simpa [Element.location] using off
    constructor
    · rintro ⟨call, found, rfl⟩
      exact .call off (find?_eq_some_iff_isFirst.mp found)
    · rintro (on | ⟨-, first⟩)
      · exact absurd on off
      · exact ⟨_, find?_eq_some_iff_isFirst.mpr first, rfl⟩

/-- The search in a record finds nothing if the position touches nothing of it. -/
theorem find?_elements_eq_none_iff :
    (record.elements file).find? (fun element => element.location.contains position) = none ↔
      ¬record.Touches position := by
  simp [List.find?_eq_none, elements, callMatches, Element.location, Touches]

end PredicateRecord

namespace FileIndex

variable {index : FileIndex} {name : String} {arity : Int}

/-- An index has a record of a predicate. -/
def Defines (index : FileIndex) (name : String) (arity : Int) : Prop :=
  ∃ record ∈ index.predicates, record.name = name ∧ record.arity = arity

instance : Decidable (index.Defines name arity) :=
  inferInstanceAs (Decidable (∃ record ∈ index.predicates, record.name = name ∧ record.arity = arity))

/-- The record that is looked up is the first one of the predicate. -/
theorem predicate?_eq_some_iff {record : PredicateRecord} :
    index.predicate? name arity = some record ↔
      IsFirst (fun record => record.name = name ∧ record.arity = arity) index.predicates record := by
  rw [predicate?, find?_eq_some_iff_isFirst]
  exact isFirst_congr fun record => by simp

/-- A record is found exactly if the index has one. -/
theorem isSome_predicate?_iff :
    (index.predicate? name arity).isSome ↔ index.Defines name arity := by
  simp [predicate?, Defines, List.find?_isSome]

end FileIndex

namespace Cache

variable {cache : Cache} {file name : String} {arity : Int} {position : Position}
  {element : Element}

/-- The element that is found stands in the first record that the position touches. -/
theorem elementAt?_eq_some_iff :
    cache.elementAt? file position = some element ↔
      ∃ index record, cache.get? file = some index ∧
        IsFirst (fun record => record.Touches position) index.predicates record ∧
        record.Under file position element := by
  have touched : ∀ record : PredicateRecord, ((record.elements file).find? fun element =>
      element.location.contains position).isSome ↔ record.Touches position := by
    intro record
    rw [← not_iff_not, Option.not_isSome_iff_eq_none]
    exact PredicateRecord.find?_elements_eq_none_iff
  rw [elementAt?, Option.bind_eq_bind, Option.bind_eq_some_iff]
  refine exists_congr fun index => ?_
  rw [exists_and_left]
  refine and_congr_right fun _ => ?_
  rw [FileIndex.elements, List.find?_flatMap, findSome?_eq_some_iff_isFirst]
  exact exists_congr fun record =>
    and_congr (isFirst_congr touched) PredicateRecord.find?_elements_eq_some_iff

/-- No element is found exactly if the file has no index or the position touches nothing of it. -/
theorem elementAt?_eq_none_iff :
    cache.elementAt? file position = none ↔
      ∀ index, cache.get? file = some index →
        ∀ record ∈ index.predicates, ¬record.Touches position := by
  rw [elementAt?, Option.bind_eq_bind, Option.bind_eq_none_iff]
  refine forall_congr' fun index => imp_congr_right fun _ => ?_
  rw [FileIndex.elements, List.find?_flatMap, List.findSome?_eq_none_iff]
  exact forall_congr' fun record =>
    imp_congr_right fun _ => PredicateRecord.find?_elements_eq_none_iff

/-! ## The first definition of a predicate -/

/-- The first definition of a predicate: the first record of it in the first file that has one. The
entries of a cache stand in the order of its files. -/
def FirstDefinition (cache : Cache) (name : String) (arity : Int) (found : DefinitionMatch) : Prop :=
  ∃ index, IsFirst (fun entry : String × FileIndex => entry.2.Defines name arity) cache.entries
      (found.file, index) ∧
    IsFirst (fun record => record.name = name ∧ record.arity = arity) index.predicates found.record

/-- The definition that is looked up is the first one. -/
theorem definition?_eq_some_iff {found : DefinitionMatch} :
    cache.definition? name arity = some found ↔ cache.FirstDefinition name arity found := by
  have defines : ∀ entry : String × FileIndex,
      ((entry.2.predicate? name arity).map fun record =>
        (⟨entry.1, record⟩ : DefinitionMatch)).isSome ↔ entry.2.Defines name arity := by
    intro entry
    rw [Option.isSome_map, FileIndex.isSome_predicate?_iff]
  rw [definition?, definitions, List.head?_filterMap, findSome?_eq_some_iff_isFirst]
  constructor
  · rintro ⟨⟨listed, index⟩, first, value⟩
    obtain ⟨record, looked, rfl⟩ := Option.map_eq_some_iff.mp value
    exact ⟨index, (isFirst_congr defines).mp first, FileIndex.predicate?_eq_some_iff.mp looked⟩
  · rintro ⟨index, first, record⟩
    refine ⟨(found.file, index), (isFirst_congr defines).mpr first, ?_⟩
    exact Option.map_eq_some_iff.mpr
      ⟨found.record, FileIndex.predicate?_eq_some_iff.mpr record, rfl⟩

/-- No definition is found exactly if no file defines the predicate. -/
theorem definition?_eq_none_iff :
    cache.definition? name arity = none ↔ ∀ entry ∈ cache.entries, ¬entry.2.Defines name arity := by
  rw [definition?, List.head?_eq_none_iff, definitions, List.filterMap_eq_nil_iff]
  refine forall_congr' fun entry => imp_congr_right fun _ => ?_
  rw [Option.map_eq_none_iff, ← Option.not_isSome_iff_eq_none, FileIndex.isSome_predicate?_iff]

/-! ## Answers about the element under a cursor -/

/-- The references that are told are the calls of the predicate under the cursor, followed on request
by its first definition. -/
theorem referencesAt_eq (stands : cache.elementAt? file position = some element)
    (withDeclaration : Bool) :
    cache.referencesAt file position withDeclaration =
      some ((cache.references element.subject.1 element.subject.2).map CallMatch.location ++
        (if withDeclaration then (cache.definition? element.subject.1 element.subject.2).toList
          else []).map DefinitionMatch.location) := by
  rw [referencesAt, stands]
  rfl

/-- A call under the cursor leads to the first definition of what it calls. -/
theorem gotoDefinition_of_call {reference : CallMatch}
    (stands : cache.elementAt? file position = some (.call reference)) :
    cache.gotoDefinition file position =
      (cache.definition? reference.call.name reference.call.arity).map DefinitionMatch.location := by
  rw [gotoDefinition, stands, Option.map_eq_bind]
  rfl

/-- A head under the cursor is its own definition. -/
theorem gotoDefinition_of_head {definition : DefinitionMatch}
    (stands : cache.elementAt? file position = some (.head definition)) :
    cache.gotoDefinition file position = some definition.location := by
  rw [gotoDefinition, stands]
  rfl

/-- A call under the cursor is among the calls of what it calls. -/
theorem mem_references_of_call {reference : CallMatch}
    (stands : cache.elementAt? file position = some (.call reference)) :
    reference ∈ cache.references reference.call.name reference.call.arity := by
  obtain ⟨index, record, cached, ⟨before, after, split, -⟩, under⟩ :=
    elementAt?_eq_some_iff.mp stands
  cases under with
  | call off first =>
    obtain ⟨earlier, later, calls, -⟩ := first
    refine List.mem_flatMap.mpr ⟨(file, index), Ledger.mem_of_get? cached, ?_⟩
    refine List.mem_flatMap.mpr ⟨record, by simp [split], ?_⟩
    refine List.mem_filter.mpr ⟨List.mem_map.mpr ⟨_, by simp [calls], rfl⟩, ?_⟩
    simp [CallSite.calls]

/-- The element under a cursor is the first one in the order of the records, a head before the calls
of its record, and there is none exactly if the file has no index or the cursor is on none of its
heads and calls. A call under the cursor is among the references that are told there, and it leads to
the first definition of what it calls; it leads nowhere exactly if no file defines that. At any two
cursors on elements of one predicate the same references are told. -/
theorem navigation_agrees (cache : Cache) :
    (∀ file position, cache.elementAt? file position = none ↔
      ∀ index, cache.get? file = some index →
        ∀ record ∈ index.predicates, ¬record.Touches position) ∧
    (∀ file position element, cache.elementAt? file position = some element ↔
      ∃ index record, cache.get? file = some index ∧
        IsFirst (fun record => record.Touches position) index.predicates record ∧
        record.Under file position element) ∧
    (∀ file position reference, cache.elementAt? file position = some (.call reference) →
      (∀ withDeclaration, ∃ locations,
        cache.referencesAt file position withDeclaration = some locations ∧
        reference.location ∈ locations) ∧
      (∀ location, cache.gotoDefinition file position = some location ↔
        ∃ found, cache.FirstDefinition reference.call.name reference.call.arity found ∧
          found.location = location) ∧
      (cache.gotoDefinition file position = none ↔
        ∀ entry ∈ cache.entries, ¬entry.2.Defines reference.call.name reference.call.arity)) ∧
    ∀ file position element file' position' element',
      cache.elementAt? file position = some element →
      cache.elementAt? file' position' = some element' →
      element.subject = element'.subject →
      ∀ withDeclaration, ∃ locations,
        cache.referencesAt file position withDeclaration = some locations ∧
        cache.referencesAt file' position' withDeclaration = some locations := by
  refine ⟨fun _ _ => elementAt?_eq_none_iff, fun _ _ _ => elementAt?_eq_some_iff, ?_, ?_⟩
  · intro file position reference stands
    refine ⟨fun withDeclaration => ⟨_, referencesAt_eq stands withDeclaration, ?_⟩, ?_, ?_⟩
    · exact List.mem_append_left _ (List.mem_map_of_mem (mem_references_of_call stands))
    · intro location
      rw [gotoDefinition_of_call stands, Option.map_eq_some_iff]
      exact exists_congr fun found => and_congr_left fun _ => definition?_eq_some_iff
    · rw [gotoDefinition_of_call stands, Option.map_eq_none_iff, definition?_eq_none_iff]
  · intro file position element file' position' element' stands stands' same withDeclaration
    refine ⟨_, referencesAt_eq stands withDeclaration, ?_⟩
    rw [referencesAt_eq stands' withDeclaration, same]

/-- One file calls `greet/1` twice and `missing/0` once, and another one defines `greet/1`. -/
def greeting : List Operation :=
  let main : PredicateRecord := {
    name := "main", arity := 0, definition := .ofCoordinates 1 0 1 4, full := .ofCoordinates 1 0 2 12
    calls := [⟨"greet", 1, .ofCoordinates 1 8 1 13⟩, ⟨"greet", 1, .ofCoordinates 1 22 1 27⟩,
      ⟨"missing", 0, .ofCoordinates 2 4 2 11⟩] }
  let greet : PredicateRecord := {
    name := "greet", arity := 1, definition := .ofCoordinates 3 0 3 5
    full := .ofCoordinates 3 0 4 20 }
  [.install "main.pl" { filePath := "main.pl", predicates := [main] } none,
    .install "lib.pl" { filePath := "lib.pl", predicates := [greet] } none]

/-- The first call and the head of the other file tell of the same two calls, and nobody defines what
the last call calls. -/
theorem navigation_agrees_greeting :
    (∃ reference definition locations,
      (ofOperations greeting).elementAt? "main.pl" ⟨0, 10⟩ = some (.call reference) ∧
      (ofOperations greeting).elementAt? "lib.pl" ⟨2, 3⟩ = some (.head definition) ∧
      reference.location ∈ locations ∧
      (ofOperations greeting).referencesAt "main.pl" ⟨0, 10⟩ false = some locations ∧
      (ofOperations greeting).referencesAt "lib.pl" ⟨2, 3⟩ false = some locations) ∧
    (ofOperations greeting).gotoDefinition "main.pl" ⟨1, 6⟩ = none := by
  obtain ⟨-, -, call, same⟩ := navigation_agrees (ofOperations greeting)
  constructor
  · obtain ⟨locations, told, told'⟩ := same "main.pl" ⟨0, 10⟩ _ "lib.pl" ⟨2, 3⟩ _ rfl rfl rfl false
    obtain ⟨again, toldAgain, among⟩ := (call "main.pl" ⟨0, 10⟩ _ rfl).1 false
    obtain rfl : again = locations := Option.some.inj (toldAgain.symm.trans told)
    exact ⟨_, _, again, rfl, rfl, among, told, told'⟩
  · exact (call "main.pl" ⟨1, 6⟩ _ rfl).2.2.mpr (by decide)

/-! ## The declaration that is told with the references -/

/-- Ranges that are the same in an editor are the same. -/
theorem toEditor_injective : Function.Injective SourceRange.toEditor := by
  rintro ⟨⟨line, character⟩, ⟨line', character'⟩⟩ ⟨⟨line₂, character₂⟩, ⟨line₂', character₂'⟩⟩ same
  simp only [SourceRange.toEditor, EditorRange.mk.injEq, Position.mk.injEq] at same
  obtain ⟨⟨starts, rfl⟩, stops, rfl⟩ := same
  obtain rfl : line = line₂ := by omega
  obtain rfl : line' = line₂' := by omega
  rfl

/-- Two definitions stand at one location exactly if they stand at one place of one file. -/
theorem location_eq_location_iff {first second : DefinitionMatch} :
    first.location = second.location ↔
      first.file = second.file ∧ first.record.definition = second.record.definition := by
  rw [DefinitionMatch.location, DefinitionMatch.location, Location.mk.injEq,
    toEditor_injective.eq_iff]

/-- A head under the cursor is that of a record in the index of the file. -/
theorem exists_of_head {definition : DefinitionMatch}
    (stands : cache.elementAt? file position = some (.head definition)) :
    definition.file = file ∧ ∃ index, cache.get? file = some index ∧
      index.Defines definition.record.name definition.record.arity := by
  obtain ⟨index, record, cached, ⟨before, after, split, -⟩, under⟩ :=
    elementAt?_eq_some_iff.mp stands
  cases under with
  | head on => exact ⟨rfl, index, cached, record, by simp [split], rfl, rfl⟩

/-- Of a file that defines a predicate comes its first definition exactly if no file before it defines
the predicate. -/
theorem FirstDefinition.file_eq_iff {found : DefinitionMatch} {index : FileIndex}
    (first : cache.FirstDefinition name arity found) (cached : cache.get? file = some index)
    (defines : index.Defines name arity) :
    found.file = file ↔ ∀ entry ∈ cache.entries.takeWhile fun entry => entry.1 != file,
      ¬entry.2.Defines name arity := by
  obtain ⟨before, after, split, others⟩ := List.lookup_eq_some_iff.mp cached
  have others : ∀ entry ∈ before, ¬entry.1 = file := fun entry inside =>
    Ne.symm (bne_iff_ne.mp (others entry inside))
  have earlier : cache.entries.takeWhile (fun entry => entry.1 != file) = before := by
    rw [split, List.takeWhile_append_of_pos (by simpa using others)]
    simp
  obtain ⟨index', ⟨before', after', split', has, fail⟩, -⟩ := first
  rw [earlier]
  constructor
  · intro same
    obtain ⟨rfl, -⟩ := first_eq_first split' fail split others defines same
    exact fail
  · intro none
    obtain ⟨-, same⟩ := first_eq_first split' fail split none defines has
    exact congrArg Prod.fst same

/-- Where the predicate under the cursor has a definition, the first one follows the calls if the
declaration is asked for. -/
theorem referencesAt_of_definition? {declaration : DefinitionMatch}
    (stands : cache.elementAt? file position = some element)
    (looked : cache.definition? element.subject.1 element.subject.2 = some declaration) :
    ∃ calls, cache.referencesAt file position false = some calls ∧
      cache.referencesAt file position true = some (calls ++ [declaration.location]) := by
  refine ⟨_, referencesAt_eq stands false, ?_⟩
  rw [referencesAt_eq stands true, looked]
  simp

/-- Where a cursor is led to a location, the references with the declaration are those without it and
the first definition of the predicate. On a call that is the location; on a head it is the location
exactly if no file before that of the cursor defines the predicate and the first definition has its
head at the same place. -/
theorem declaration_is_first_definition {location : Location}
    (led : cache.gotoDefinition file position = some location) :
    ∃ element calls declaration,
      cache.elementAt? file position = some element ∧
      cache.FirstDefinition element.subject.1 element.subject.2 declaration ∧
      cache.referencesAt file position false = some calls ∧
      cache.referencesAt file position true = some (calls ++ [declaration.location]) ∧
      (∀ reference, element = .call reference → declaration.location = location) ∧
      ∀ definition, element = .head definition →
        (declaration.location = location ↔
          (∀ entry ∈ cache.entries.takeWhile fun entry => entry.1 != file,
            ¬entry.2.Defines definition.record.name definition.record.arity) ∧
          declaration.record.definition = definition.record.definition) := by
  obtain ⟨element, stands, -⟩ := Option.bind_eq_some_iff.mp led
  cases element with
  | call reference =>
    rw [gotoDefinition_of_call stands] at led
    obtain ⟨declaration, looked, rfl⟩ := Option.map_eq_some_iff.mp led
    obtain ⟨calls, without, including⟩ := referencesAt_of_definition? stands looked
    refine ⟨_, calls, declaration, stands, definition?_eq_some_iff.mp looked, without, including,
      fun _ _ => rfl, ?_⟩
    rintro definition ⟨⟩
  | head definition =>
    rw [gotoDefinition_of_head stands] at led
    obtain rfl := Option.some.inj led
    obtain ⟨here, index, cached, defines⟩ := exists_of_head stands
    have listed : (file, index) ∈ cache.entries := Ledger.mem_of_get? cached
    have found : cache.definition? definition.record.name definition.record.arity ≠ none :=
      fun absent => definition?_eq_none_iff.mp absent _ listed defines
    obtain ⟨declaration, looked⟩ := Option.ne_none_iff_exists'.mp found
    obtain ⟨calls, without, including⟩ := referencesAt_of_definition? stands looked
    have first := definition?_eq_some_iff.mp looked
    refine ⟨_, calls, declaration, stands, first, without, including, ?_, ?_⟩
    · rintro reference ⟨⟩
    · rintro _ ⟨⟩
      rw [location_eq_location_iff, here, first.file_eq_iff cached defines]

/-- Two files define `p/0`, and the second one also calls it. -/
def twiceDefined : List Operation :=
  let own : PredicateRecord := {
    name := "p", arity := 0, definition := .ofCoordinates 1 0 1 1, full := .ofCoordinates 1 0 1 1 }
  let caller : PredicateRecord := {
    name := "q", arity := 0, definition := .ofCoordinates 2 0 2 1, full := .ofCoordinates 2 0 2 1
    calls := [⟨"p", 0, .ofCoordinates 2 5 2 6⟩] }
  [.install "a.pl" { filePath := "a.pl", predicates := [own] } none,
    .install "b.pl" { filePath := "b.pl", predicates := [own, caller] } none]

/-- On the head in the second file, the head in the first one is told as the declaration. -/
theorem declaration_is_first_definition_twiceDefined :
    ∃ location calls declaration,
      (ofOperations twiceDefined).gotoDefinition "b.pl" ⟨0, 0⟩ = some location ∧
      (ofOperations twiceDefined).referencesAt "b.pl" ⟨0, 0⟩ true =
        some (calls ++ [declaration]) ∧
      declaration ≠ location := by
  have led : (ofOperations twiceDefined).gotoDefinition "b.pl" ⟨0, 0⟩ =
      some ⟨"b.pl", (SourceRange.ofCoordinates 1 0 1 1).toEditor⟩ := rfl
  obtain ⟨element, calls, declaration, stands, -, -, including, -, head⟩ :=
    declaration_is_first_definition led
  obtain rfl := Option.some.inj stands
  refine ⟨_, calls, declaration.location, led, including, fun same => ?_⟩
  exact absurd ((head _ rfl).mp same).1 (by decide)

/-- The declaration that is told with the references is not always the one that the cursor is led
to. -/
theorem not_forall_declaration_eq_destination :
    ¬∀ (history : List Operation) (file : String) (position : Position) (location : Location),
      (ofOperations history).gotoDefinition file position = some location →
      ∃ calls, (ofOperations history).referencesAt file position false = some calls ∧
        (ofOperations history).referencesAt file position true = some (calls ++ [location]) := by
  intro agree
  obtain ⟨calls, without, including⟩ := agree twiceDefined "b.pl" ⟨0, 0⟩ _ rfl
  obtain rfl := Option.some.inj without
  exact absurd including (by decide)

end Cache

end PredicateIndex
