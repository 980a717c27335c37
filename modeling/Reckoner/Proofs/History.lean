import Mathlib.Data.List.Induction
import Reckoner.History

/-!
# What a history holds

However entries are recorded and forgotten, a history holds the entries that were recorded since it
was last cleared, newest first, as many of them as it has room for. An entry goes only when the
history is cleared, or when as many newer entries are recorded as there is room.
-/

namespace Reckoner.History

/-! ## Operations -/

/-- What can be done to a history. -/
inductive Operation where
  | record (input output : Text)
  | clear
  deriving DecidableEq

/-- The entry that an operation puts into a history. -/
def Operation.recorded? : Operation → Option HistoryEntry
  | record input output => some ⟨input, output⟩
  | clear => none

/-- The history after an operation. -/
def apply (h : History) : Operation → History
  | .record input output => h.record input output
  | .clear => h.clear

/-- The history after operations, one after the other. -/
def run (h : History) (operations : List Operation) : History :=
  operations.foldl apply h

@[simp]
theorem limit_apply (h : History) (operation : Operation) :
    (h.apply operation).limit = h.limit := by
  cases operation <;> rfl

@[simp]
theorem limit_run (h : History) (operations : List Operation) :
    (h.run operations).limit = h.limit := by
  induction operations generalizing h with
  | nil => rfl
  | cons operation operations ih => exact (ih (h.apply operation)).trans (limit_apply h operation)

/-! ## What was recorded -/

variable {operations : List Operation} {operation : Operation} {age : Nat} {entry : HistoryEntry}

/-- The entries that were recorded since the last clear, newest first. -/
def recordedSinceClear (operations : List Operation) : List HistoryEntry :=
  (operations.reverse.takeWhile (· ≠ .clear)).filterMap Operation.recorded?

@[simp]
theorem recordedSinceClear_nil : recordedSinceClear [] = [] :=
  rfl

@[simp]
theorem recordedSinceClear_concat_record (operations : List Operation) (input output : Text) :
    recordedSinceClear (operations ++ [.record input output]) =
      ⟨input, output⟩ :: recordedSinceClear operations := by
  simp [recordedSinceClear, Operation.recorded?]

@[simp]
theorem recordedSinceClear_concat_clear (operations : List Operation) :
    recordedSinceClear (operations ++ [.clear]) = [] := by
  simp [recordedSinceClear]

theorem recordedSinceClear_eq_nil_iff :
    recordedSinceClear operations = [] ↔ ∀ last ∈ operations.getLast?, last = .clear := by
  induction operations using List.reverseRecOn with
  | nil => simp
  | append_singleton operations operation => cases operation <;> simp

/-- The entry was recorded, and `age` operations followed, none of which was to clear. -/
def Recorded (operations : List Operation) (age : Nat) (entry : HistoryEntry) : Prop :=
  ∃ before after, operations = before ++ .record entry.input entry.output :: after ∧
    .clear ∉ after ∧ after.length = age

theorem not_recorded_nil : ¬ Recorded [] age entry := by
  rintro ⟨before, after, whole, _⟩
  exact List.append_ne_nil_of_right_ne_nil before (List.cons_ne_nil _ after) whole.symm

theorem recorded_concat_zero_iff :
    Recorded (operations ++ [operation]) 0 entry ↔
      operation = .record entry.input entry.output := by
  constructor
  · rintro ⟨before, after, whole, _, newest⟩
    cases List.eq_nil_of_length_eq_zero newest
    exact List.singleton_inj.mp (List.append_inj' whole rfl).2
  · rintro rfl
    exact ⟨operations, [], rfl, List.not_mem_nil, rfl⟩

theorem recorded_concat_succ_iff :
    Recorded (operations ++ [operation]) (age + 1) entry ↔
      operation ≠ .clear ∧ Recorded operations age entry := by
  constructor
  · rintro ⟨before, after, whole, uncleared, older⟩
    -- the operations that followed the entry end in the last one of all
    rcases List.eq_nil_or_concat after with rfl | ⟨others, last, rfl⟩
    · contradiction
    · rw [List.concat_eq_append] at whole uncleared older
      rw [← List.cons_append, ← List.append_assoc] at whole
      rcases List.append_inj' whole rfl with ⟨rfl, same⟩
      cases same
      rw [List.mem_append, not_or, List.mem_singleton] at uncleared
      rw [List.length_append, List.length_singleton, Nat.add_right_cancel_iff] at older
      exact ⟨Ne.symm uncleared.2, before, others, rfl, uncleared.1, older⟩
  · rintro ⟨kept, before, after, rfl, uncleared, rfl⟩
    refine ⟨before, after ++ [operation], by simp, ?_, List.length_append⟩
    rw [List.mem_append, not_or, List.mem_singleton]
    exact ⟨uncleared, Ne.symm kept⟩

/-- What was recorded since the last clear stands in the order of age. -/
theorem getElem?_recordedSinceClear_eq_some_iff :
    (recordedSinceClear operations)[age]? = some entry ↔ Recorded operations age entry := by
  induction operations using List.reverseRecOn generalizing age with
  | nil => simp [not_recorded_nil]
  | append_singleton operations operation ih =>
      cases operation with
      | record input output =>
          cases age with
          | zero => rcases entry; simp [recorded_concat_zero_iff]
          | succ age => simp [recorded_concat_succ_iff, ih]
      | clear =>
          cases age with
          | zero => simp [recorded_concat_zero_iff]
          | succ age => simp [recorded_concat_succ_iff]

/-! ## What is kept -/

/-- The history holds what was recorded since the last clear, as far as it has room. -/
def Reflects (operations : List Operation) (h : History) : Prop :=
  h.entries = (recordedSinceClear operations).take h.limit

theorem reflects_withLimit (n : Nat) : Reflects [] (withLimit n) :=
  List.take_nil.symm

/-- What there is no room for is not missed when one more is put in front. -/
theorem take_cons_take {α : Type} (n : Nat) (a : α) (l : List α) :
    (a :: l.take n).take n = (a :: l).take n := by
  cases n with
  | zero => rfl
  | succ n =>
      rw [List.take_succ_cons, List.take_succ_cons, List.take_take, Nat.min_eq_left n.le_succ]

namespace Reflects

variable {h : History}

theorem apply (reflects : Reflects operations h) (operation : Operation) :
    Reflects (operations ++ [operation]) (h.apply operation) := by
  rw [Reflects, limit_apply]
  cases operation with
  | record input output =>
      calc
        (h.record input output).entries = (⟨input, output⟩ :: h.entries).take h.limit :=
          entries_record h input output
        _ = (⟨input, output⟩ :: recordedSinceClear operations).take h.limit := by
          rw [reflects, take_cons_take]
        _ = (recordedSinceClear (operations ++ [.record input output])).take h.limit := by
          rw [recordedSinceClear_concat_record]
  | clear => rw [recordedSinceClear_concat_clear, List.take_nil]; exact entries_clear h

theorem run {before : List Operation} (reflects : Reflects before h) (after : List Operation) :
    Reflects (before ++ after) (h.run after) := by
  induction after generalizing before h with
  | nil => rwa [List.append_nil]
  | cons operation after ih =>
      have later := ih (reflects.apply operation)
      rwa [List.append_assoc] at later

theorem getElem?_entries_eq_some_iff (reflects : Reflects operations h) :
    h.entries[age]? = some entry ↔ age < h.limit ∧ Recorded operations age entry := by
  rw [reflects, List.getElem?_take]
  by_cases room : age < h.limit
  · rw [if_pos room, getElem?_recordedSinceClear_eq_some_iff, and_iff_right room]
  · simp [room]

theorem size_eq (reflects : Reflects operations h) :
    h.size = min h.limit (recordedSinceClear operations).length := by
  rw [size, reflects, List.length_take]

theorem isEmpty_iff (reflects : Reflects operations h) :
    h.isEmpty = true ↔ ∀ last ∈ operations.getLast?, last = .clear := by
  rw [isEmpty, List.isEmpty_iff, reflects, List.take_eq_nil_iff, recordedSinceClear_eq_nil_iff,
    or_iff_right (Nat.ne_of_gt h.limit_pos)]

end Reflects

/-! ## Histories that are made -/

/-- The history holds the newest of the entries recorded since the last clear, `n` of them or one if
`n` is zero. -/
structure Retains (n : Nat) (operations : List Operation) (h : History) : Prop where
  entries_eq : h.entries = (recordedSinceClear operations).take (max n 1)
  /-- Each entry is as it was recorded, and in the place of its age. -/
  getElem?_entries_iff : ∀ age entry, h.entries[age]? = some entry ↔
    age < max n 1 ∧ Recorded operations age entry
  size_eq : h.size = h.entries.length
  size_eq_min : h.size = min (max n 1) (recordedSinceClear operations).length
  isEmpty_iff : h.isEmpty = true ↔ h.entries = []
  isEmpty_iff_cleared : h.isEmpty = true ↔ ∀ last ∈ operations.getLast?, last = .clear

theorem retains_run (n : Nat) (operations : List Operation) :
    Retains n operations ((withLimit n).run operations) := by
  have reflects : Reflects operations ((withLimit n).run operations) :=
    (reflects_withLimit n).run operations
  have room : ((withLimit n).run operations).limit = max n 1 := limit_run (withLimit n) operations
  constructor
  · rw [← room]
    exact reflects
  · intro age entry
    rw [← room]
    exact reflects.getElem?_entries_eq_some_iff
  · rfl
  · rw [← room]
    exact reflects.size_eq
  · exact List.isEmpty_iff
  · exact reflects.isEmpty_iff

/-- Where the memory for `n` entries can be reserved, a history is made, and whatever is recorded
and cleared in it, it holds the newest of the entries recorded since the last clear, `n` of them or
one if `n` is zero. Where the memory cannot be reserved, no history is made: `n` entries are more
than any block of memory holds, or more than the machine has left. -/
theorem create_run_retains (available n : Nat) (operations : List Operation) :
    (n * entryBytes ≤ maxBlockBytes → n * entryBytes ≤ available →
      ∃ h, create available n = .ok h ∧ Retains n operations (h.run operations)) ∧
    (maxBlockBytes < n * entryBytes → create available n = .error .capacityOverflow) ∧
    (n * entryBytes ≤ maxBlockBytes → available < n * entryBytes →
      create available n = .error .outOfMemory) := by
  refine ⟨?_, ?_, ?_⟩
  · intro small granted
    exact ⟨withLimit n, create_of_fits small granted, retains_run n operations⟩
  · exact fun large => create_of_overflow large available
  · exact create_of_exhausted

/-- A history of two entries on a machine with a kilobyte left, and two that cannot be made. -/
theorem create_run_retains_two :
    (∃ h, create 1024 2 = .ok h ∧
      (h.run [.record "1 + 1".toList "2".toList, .record "2 + 2".toList "4".toList,
        .record "e".toList "2.71828182845905".toList]).entries =
          [⟨"e".toList, "2.71828182845905".toList⟩, ⟨"2 + 2".toList, "4".toList⟩]) ∧
    create 1024 (Nat.pow 2 63) = .error .capacityOverflow ∧
    create 1024 22 = .error .outOfMemory := by
  refine ⟨?_, (create_run_retains 1024 (Nat.pow 2 63) []).2.1 (by decide),
    (create_run_retains 1024 22 []).2.2 (by decide) (by decide)⟩
  rcases (create_run_retains 1024 2 [.record "1 + 1".toList "2".toList,
    .record "2 + 2".toList "4".toList, .record "e".toList "2.71828182845905".toList]).1
      (by decide) (by decide) with ⟨h, made, retains⟩
  exact ⟨h, made, retains.entries_eq⟩

/-- No history has room for as many entries as a machine word counts, not even with more memory
left than a word can address. -/
theorem create_largest :
    create (Nat.pow 2 70) (Nat.pow 2 64 - 1) = .error .capacityOverflow ∧
      ¬ ∃ h, create (Nat.pow 2 70) (Nat.pow 2 64 - 1) = .ok h := by
  have refused : create (Nat.pow 2 70) (Nat.pow 2 64 - 1) = .error .capacityOverflow :=
    create_of_overflow (by decide) _
  refine ⟨refused, ?_⟩
  rintro ⟨h, made⟩
  rw [refused] at made
  contradiction

/-- A history that is asked for no room has room for the newest entry, also after a clear. -/
example :
    ((withLimit 0).run [.record "1 + 1".toList "2".toList, .clear,
      .record "2 + 2".toList "4".toList, .record "e".toList "2.71828182845905".toList]).entries =
        [⟨"e".toList, "2.71828182845905".toList⟩] :=
  rfl

end Reckoner.History
