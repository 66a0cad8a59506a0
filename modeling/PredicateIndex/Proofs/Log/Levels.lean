import Mathlib.Data.List.Basic
import PredicateIndex.Log.Delivery

/-!
# Outputs by level

Logging one record leaves the gates as they are, and adds that record or nothing to what an output was
handed, whatever the other outputs are. Main result: when records are logged, every output is handed
exactly those that have both the level of all logging and the level of the output, in their order; and
an output that shares its destination with no other writes these there, as far as they can be written.
The level of all logging is a bound for every output: one with a lower level of its own is not handed
more.
-/
namespace PredicateIndex

namespace Logging

/-- What the output at a position was handed. -/
def receivedAt (logging : Logging) (position : Nat) : List LogRecord :=
  (logging.journal.filter (·.position == position)).map Handover.record

/-- Whether the gates let a record through to an output. -/
def admits (logging : Logging) (handler : LogHandler) (record : LogRecord) : Bool :=
  record.reaches logging.called && record.reaches logging.root && record.reaches handler.least

variable {logging : Logging} {position : Nat} {handler : LogHandler}

/-! ## One record -/

/-- Only one output stands at a position. -/
theorem zipIdx_filter_position {handlers : List LogHandler}
    (placed : handlers[position]? = some handler) :
    handlers.zipIdx.filter (·.2 == position) = [(handler, position)] := by
  obtain ⟨inside, rfl⟩ := List.getElem?_eq_some_iff.mp placed
  have split : handlers.take position ++ handlers[position] :: handlers.drop (position + 1) =
      handlers := by
    rw [List.getElem_cons_drop, List.take_append_drop]
  have before : (handlers.take position).length = position := by
    rw [List.length_take]
    omega
  -- The outputs before it have smaller positions, those after it have greater ones.
  have smaller : ((handlers.take position).zipIdx).filter (·.2 == position) = [] := by
    rw [List.filter_eq_nil_iff]
    intro other among
    have bound := List.snd_lt_of_mem_zipIdx among
    simp only [beq_iff_eq]
    omega
  have greater : ((handlers.drop (position + 1)).zipIdx (position + 1)).filter (·.2 == position) =
      [] := by
    rw [List.filter_eq_nil_iff]
    intro other among
    have bound := List.le_snd_of_mem_zipIdx among
    simp only [beq_iff_eq]
    omega
  conv_lhs => rw [← split]
  rw [List.zipIdx_append, List.zipIdx_cons, List.filter_append, smaller, before, Nat.zero_add,
    List.nil_append, List.filter_cons_of_pos (by simp), greater]

/-- Of a record, the output at a position is handed one copy if it has the level of that output, and
none otherwise. -/
theorem handedOver_filter_position (record : LogRecord) {handlers : List LogHandler}
    (placed : handlers[position]? = some handler) :
    (handedOver handlers record).filter (·.position == position) =
      if record.reaches handler.least then [⟨position, handler.output, record⟩] else [] := by
  have here : (handedOver handlers record).filter (·.position == position) =
      (((handlers.zipIdx.filter (·.2 == position)).filter fun entry =>
        record.reaches entry.1.least).map
          fun entry => ⟨entry.2, entry.1.output, record⟩) := by
    rw [handedOver, List.filter_map, List.filter_filter, List.filter_filter]
    congr 2
    funext entry
    exact Bool.and_comm _ _
  rw [here, zipIdx_filter_position placed]
  by_cases reached : record.reaches handler.least = true
  · simp [reached]
  · simp [reached]

/-- Logging a record leaves the gates as they are. -/
theorem gates_log (logging : Logging) (record : LogRecord) :
    (logging.log record).called = logging.called ∧ (logging.log record).root = logging.root ∧
      (logging.log record).handlers = logging.handlers := by
  unfold log
  split <;> exact ⟨rfl, rfl, rfl⟩

/-- The gates let through after a record what they let through before. -/
theorem admits_log (logging : Logging) (record : LogRecord) :
    (logging.log record).admits = logging.admits := by
  obtain ⟨called, root, -⟩ := gates_log logging record
  unfold admits
  rw [called, root]

/-- Logging a record adds it to what an output was handed if all gates let it through, and nothing
otherwise. -/
theorem receivedAt_log (record : LogRecord) (placed : logging.handlers[position]? = some handler) :
    (logging.log record).receivedAt position =
      logging.receivedAt position ++ [record].filter (logging.admits handler) := by
  by_cases passed : (record.reaches logging.called && record.reaches logging.root) = true
  · rw [log, if_pos passed, receivedAt, List.filter_append, handedOver_filter_position record placed,
      List.map_append]
    congr 1
    by_cases reached : record.reaches handler.least = true
    · simp [admits, passed, reached]
    · simp [admits, reached]
  · have refused : logging.admits handler record = false := by simp [admits, passed]
    rw [log, if_neg passed, List.filter_cons_of_neg (by simp [refused]), List.filter_nil,
      List.append_nil]

/-- Every handover is to the output at its position. -/
def Placed (logging : Logging) : Prop :=
  ∀ handover ∈ logging.journal, ∃ handler,
    logging.handlers[handover.position]? = some handler ∧ handler.output = handover.output

/-- Logging a record keeps handovers at their outputs. -/
theorem Placed.log (placed : logging.Placed) (record : LogRecord) : (logging.log record).Placed := by
  unfold Logging.log
  split
  · intro handover among
    rcases List.mem_append.mp among with earlier | now
    · exact placed handover earlier
    · obtain ⟨entry, kept, rfl⟩ := List.mem_map.mp now
      exact ⟨entry.1, List.mem_zipIdx_iff_getElem?.mp (List.mem_of_mem_filter kept), rfl⟩
  · exact placed

/-! ## All records -/

/-- Logging records leaves the outputs as they are, and keeps handovers at their outputs. -/
theorem Placed.logAll (records : List LogRecord) (placed : logging.Placed) :
    (logging.logAll records).Placed ∧ (logging.logAll records).handlers = logging.handlers := by
  induction records generalizing logging with
  | nil => exact ⟨placed, rfl⟩
  | cons record rest ih =>
    obtain ⟨-, -, handlers⟩ := gates_log logging record
    obtain ⟨kept, same⟩ := ih (placed.log record)
    exact ⟨kept, same.trans handlers⟩

/-- Logging records adds to what an output was handed those that all gates let through, in their
order. -/
theorem receivedAt_logAll (records : List LogRecord)
    (placed : logging.handlers[position]? = some handler) :
    (logging.logAll records).receivedAt position =
      logging.receivedAt position ++ records.filter (logging.admits handler) := by
  induction records generalizing logging with
  | nil => rw [List.filter_nil, List.append_nil]; rfl
  | cons record rest ih =>
    obtain ⟨-, -, handlers⟩ := gates_log logging record
    have placed' : (logging.log record).handlers[position]? = some handler := by
      rw [handlers, placed]
    change ((logging.log record).logAll rest).receivedAt position = _
    rw [ih placed', receivedAt_log record placed, admits_log, List.append_assoc,
      ← List.filter_append, List.singleton_append]

end Logging

namespace LogSettings

open Logging (start)

variable {settings : LogSettings} {position : Nat} {output : LogOutput}

/-- Whether a record has both the level of all logging and that of an output. -/
def covers (settings : LogSettings) (output : LogOutput) (record : LogRecord) : Bool :=
  settings.level.number ≤ record.level.number &&
    (output.level.getD settings.level).number ≤ record.level.number

/-- An output of the settings is set up at its position. -/
theorem handlers_start (placed : settings.outputs[position]? = some output) :
    (start settings).handlers[position]? = some ⟨output, output.threshold settings⟩ := by
  rw [start, List.getElem?_map, placed]
  rfl

/-- An output is handed the records that have both levels. -/
theorem receivedAt_start (records : List LogRecord)
    (placed : settings.outputs[position]? = some output) :
    ((start settings).logAll records).receivedAt position = records.filter (settings.covers output) := by
  rw [Logging.receivedAt_logAll records (handlers_start placed)]
  change [] ++ _ = _
  rw [List.nil_append]
  congr 1
  funext record
  exact congrArg (· && _) (Bool.and_self _)

/-- What stands in the journal for an output at a position is for that output. -/
theorem output_of_mem_journal {records : List LogRecord} {handover : Handover}
    (among : handover ∈ ((start settings).logAll records).journal) :
    settings.outputs[handover.position]? = some handover.output := by
  have fresh : (start settings).Placed := nofun
  obtain ⟨placed, handlers⟩ := fresh.logAll records
  obtain ⟨handler, here, same⟩ := placed handover among
  rw [handlers, start, List.getElem?_map] at here
  obtain ⟨output, found, rfl⟩ := Option.map_eq_some_iff.mp here
  rw [found]
  exact congrArg some same

/-- An output that shares its destination with no other writes there what it is handed. -/
theorem writtenTo_of_alone (records : List LogRecord)
    (placed : settings.outputs[position]? = some output)
    (alone : ∀ other, (settings.outputs[other]?).map LogOutput.destination =
      some output.destination → other = position)
    (kept : FilePath.ofText output.destination ≠ LogFile.nullDevice) :
    settings.writtenTo output.destination records =
      (((start settings).logAll records).receivedAt position).filterMap output.write? := by
  have here : ∀ handover ∈ ((start settings).logAll records).journal,
      (handover.output.destination == output.destination) = (handover.position == position) := by
    intro handover among
    have found := output_of_mem_journal among
    by_cases same : handover.position = position
    · rw [same, placed] at found
      rw [← Option.some.inj found, same, beq_self_eq_true, beq_self_eq_true]
    · have other : handover.output.destination ≠ output.destination := by
        intro shared
        apply same
        apply alone
        rw [found, Option.map_some, shared]
      rw [beq_false_of_ne same, beq_false_of_ne other]
  have own : ∀ handover ∈ ((start settings).logAll records).journal.filter (·.position == position),
      handover.written? = output.write? handover.record := by
    intro handover among
    obtain ⟨among, same⟩ := List.mem_filter.mp among
    have found := output_of_mem_journal among
    rw [beq_iff_eq.mp same, placed] at found
    rw [Handover.written?, ← Option.some.inj found]
  rw [writtenTo, if_neg (by simpa using kept)]
  dsimp only
  rw [List.filter_congr here, List.filterMap_congr own, Logging.receivedAt, List.filterMap_map]
  rfl

/-! ## Main result -/

/-- Every output is handed exactly the records that have the level of all logging and its own level, in
their order. The other outputs make no difference, nor does the place of the output among them. An
output that shares its destination with no other writes these there, as far as they can be
written. -/
theorem delivery_by_levels (settings : LogSettings) (records : List LogRecord) (position : Nat)
    (output : LogOutput) (placed : settings.outputs[position]? = some output) :
    ((start settings).logAll records).receivedAt position =
        records.filter (settings.covers output) ∧
    (∀ settings' position' output', settings'.level = settings.level →
      settings'.outputs[position']? = some output' → output'.level = output.level →
      ((start settings').logAll records).receivedAt position' =
        ((start settings).logAll records).receivedAt position) ∧
    ((∀ other, (settings.outputs[other]?).map LogOutput.destination = some output.destination →
        other = position) →
      FilePath.ofText output.destination ≠ LogFile.nullDevice →
      settings.writtenTo output.destination records =
        (records.filter (settings.covers output)).filterMap output.write?) := by
  have received := receivedAt_start records placed
  refine ⟨received, ?_, ?_⟩
  · intro settings' position' output' level placed' least
    have same : settings'.covers output' = settings.covers output := by
      unfold covers
      rw [level, least]
    rw [received, receivedAt_start records placed', same]
  · intro alone kept
    rw [writtenTo_of_alone records placed alone kept, received]

/-- An output for everything beside one for what is important. -/
def twoFiles : LogSettings :=
  { level := .debug
    outputs := [{ format := .json, destination := "/tmp/info.log", level := some .info },
      { format := .json, destination := "/tmp/debug.log" }] }

/-- A record of each of the two lowest levels. -/
def twoRecords : List LogRecord :=
  [{ level := .debug, event := "debug only" }, { level := .info, event := "info msg" }]

/-- The first of the two files has the important record, and the second has both. -/
theorem delivery_by_levels_twoFiles :
    twoFiles.writtenTo "/tmp/info.log" twoRecords =
        [.object (.object [("event", .text "info msg"), ("level", .text "info")])] ∧
      twoFiles.writtenTo "/tmp/debug.log" twoRecords =
        [.object (.object [("event", .text "debug only"), ("level", .text "debug")]),
          .object (.object [("event", .text "info msg"), ("level", .text "info")])] := by
  constructor
  · obtain ⟨-, -, written⟩ := delivery_by_levels twoFiles twoRecords 0 _ rfl
    refine written (fun other same => ?_) (by decide +kernel)
    match other with
    | 0 => rfl
    | 1 => exact absurd same (by decide)
    | _ + 2 => cases same
  · obtain ⟨-, -, written⟩ := delivery_by_levels twoFiles twoRecords 1 _ rfl
    refine written (fun other same => ?_) (by decide +kernel)
    match other with
    | 0 => exact absurd same (by decide)
    | 1 => rfl
    | _ + 2 => cases same

/-- An output is not handed all records that have its own level: the level of all logging can be
higher. -/
theorem not_forall_own_level :
    ¬∀ settings : LogSettings, ∀ records position output,
      settings.outputs[position]? = some output →
      ((start settings).logAll records).receivedAt position =
        records.filter fun record =>
          (output.level.getD settings.level).number ≤ record.level.number := by
  intro always
  let record : LogRecord := { level := .debug, event := "m" }
  let output : LogOutput := { format := .json, destination := "/tmp/a.log", level := some .debug }
  have claimed := always { level := .info, outputs := [output] } [record] 0 output rfl
  have nothing : ((start { level := .info, outputs := [output] }).logAll [record]).receivedAt 0 = [] :=
    rfl
  rw [nothing] at claimed
  exact List.cons_ne_nil _ _ claimed.symm

end LogSettings

end PredicateIndex
