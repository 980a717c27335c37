import Reckoner.Text.Blank

/-!
# History

The last answers of a session, newest first. A history has room for a fixed number of entries, at
least one; a new entry pushes the oldest out once there is no room. The memory for all the entries
is reserved when the history is made, which fails where there is not so much memory.
-/

namespace Reckoner

/-- An input with its answer as printed. -/
structure HistoryEntry where
  input : Text
  output : Text
  deriving DecidableEq, Repr

/-- A bounded list of entries, newest first. -/
structure History where
  limit : Nat
  entries : List HistoryEntry
  limit_pos : 0 < limit
  length_le : entries.length ≤ limit

namespace History

/-- The room that sessions have. -/
def defaultLimit : Nat :=
  20

/-- An empty history with room for `n` entries, or for one if `n` is zero. It stands for the history
that `create` makes once the memory is reserved. -/
def withLimit (n : Nat) : History where
  limit := max n 1
  entries := []
  limit_pos := by omega
  length_le := Nat.zero_le _

/-- Why no history is made. -/
inductive ReservationError where
  /-- No block of memory is as large as that. -/
  | capacityOverflow
  /-- The machine has not as much memory left. -/
  | outOfMemory
  deriving DecidableEq, Repr

/-- The bytes that an entry takes: two texts, each by its address, its length and its room. -/
def entryBytes : Nat :=
  48

/-- The bytes of the largest block of memory that can be asked for. -/
def maxBlockBytes : Nat :=
  Nat.pow 2 63 - 1

/-- Makes an empty history and reserves memory for `n` entries in one block. The machine has
`available` bytes left. -/
def create (available n : Nat) : Except ReservationError History :=
  if maxBlockBytes < n * entryBytes then .error .capacityOverflow
  else if available < n * entryBytes then .error .outOfMemory
  else .ok (withLimit n)

/-- The empty history that sessions start with. -/
def empty : History :=
  withLimit defaultLimit

/-- Puts an entry in front. -/
def record (h : History) (input output : Text) : History where
  limit := h.limit
  entries := (⟨input, output⟩ :: h.entries).take h.limit
  limit_pos := h.limit_pos
  length_le := by
    simp only [List.length_take]
    omega

/-- Forgets all entries. -/
def clear (h : History) : History where
  limit := h.limit
  entries := []
  limit_pos := h.limit_pos
  length_le := Nat.zero_le _

/-- The number of entries. -/
def size (h : History) : Nat :=
  h.entries.length

/-- There are no entries. -/
def isEmpty (h : History) : Bool :=
  h.entries.isEmpty

@[simp]
theorem entries_withLimit (n : Nat) : (withLimit n).entries = [] :=
  rfl

@[simp]
theorem limit_withLimit (n : Nat) : (withLimit n).limit = max n 1 :=
  rfl

theorem create_of_fits {available n : Nat} (small : n * entryBytes ≤ maxBlockBytes)
    (granted : n * entryBytes ≤ available) : create available n = .ok (withLimit n) := by
  rw [create, if_neg (Nat.not_lt.mpr small), if_neg (Nat.not_lt.mpr granted)]

theorem create_of_overflow {n : Nat} (large : maxBlockBytes < n * entryBytes) (available : Nat) :
    create available n = .error .capacityOverflow :=
  if_pos large

theorem create_of_exhausted {available n : Nat} (small : n * entryBytes ≤ maxBlockBytes)
    (exhausted : available < n * entryBytes) : create available n = .error .outOfMemory := by
  rw [create, if_neg (Nat.not_lt.mpr small), if_pos exhausted]

/-- A session's history is made where there are 960 bytes left. -/
theorem create_defaultLimit {available : Nat} (granted : 960 ≤ available) :
    create available defaultLimit = .ok empty :=
  create_of_fits (by decide) granted

@[simp]
theorem entries_record (h : History) (input output : Text) :
    (h.record input output).entries = (⟨input, output⟩ :: h.entries).take h.limit :=
  rfl

@[simp]
theorem limit_record (h : History) (input output : Text) :
    (h.record input output).limit = h.limit :=
  rfl

@[simp]
theorem entries_clear (h : History) : h.clear.entries = [] :=
  rfl

@[simp]
theorem limit_clear (h : History) : h.clear.limit = h.limit :=
  rfl

end History

end Reckoner
