/-
An overwriting ring buffer and the bounded queue it implements.

`Ring` is the machine: slots, two cursors that only grow, and a count.
A cursor addresses slot `i &&& (capacity - 1)`, so the capacity is a
power of two, and the two facts every proof needs (`tail` runs `pending`
ahead of `head`, `pending` never exceeds the capacity) are fields: a
ring with crossed cursors cannot be built.

`contents` is the abstraction: the queue the ring stands for, oldest
first. Each operation is one line on it:

- `contents_store`: storing appends, and drops the oldest exactly when
  the ring was full;
- `taken_eq`, `contents_claim`: claiming `n` hands out the first `n` and
  keeps the rest.

Cursors are never reduced, so `head` and `tail` are positions in the
history of everything ever stored, not only slot numbers.
-/
import Mathlib

namespace Exolon

universe u

/-- Slot a cursor addresses: the low bits of the cursor. -/
def Ring.slot (capacity i : Nat) : Nat := i &&& (capacity - 1)

/-- A ring of `capacity` slots with its reading and writing cursor. -/
structure Ring (α : Type u) (capacity : Nat) where
  slots : Vector α capacity
  head : Nat
  tail : Nat
  pending : Nat
  pow : capacity.isPowerOfTwo
  tail_eq : tail = head + pending
  pending_le : pending ≤ capacity

namespace Ring

variable {α : Type u} {capacity : Nat}

-- =============================================================== slots

/-- For a power of two, masking is reduction. -/
theorem slot_eq_mod (hpow : capacity.isPowerOfTwo) (i : Nat) :
    slot capacity i = i % capacity := by
  obtain ⟨k, rfl⟩ := hpow
  exact Nat.and_two_pow_sub_one_eq_mod i k

theorem slot_lt (hpow : capacity.isPowerOfTwo) (i : Nat) :
    slot capacity i < capacity := by
  rw [slot_eq_mod hpow]
  exact Nat.mod_lt i (Nat.pos_of_isPowerOfTwo hpow)

/-- Two cursors less than a lap apart address different slots. -/
theorem slot_ne (hpow : capacity.isPowerOfTwo) {i j : Nat} (hij : i < j)
    (hlap : j < i + capacity) : slot capacity i ≠ slot capacity j := by
  rw [slot_eq_mod hpow, slot_eq_mod hpow]
  intro heq
  have hdvd : capacity ∣ j - i := (Nat.modEq_iff_dvd' hij.le).mp heq
  have := Nat.le_of_dvd (by omega) hdvd
  omega

-- ========================================================== operations

/-- The record a cursor addresses. -/
def get (r : Ring α capacity) (i : Nat) : α :=
  have hslot := slot_lt r.pow i
  r.slots[slot capacity i]

/-- The queue the ring stands for, oldest first. -/
def contents (r : Ring α capacity) : List α :=
  (List.range r.pending).map fun i => r.get (r.head + i)

/-- A ring that has stored nothing. -/
def empty (fill : α) (hpow : capacity.isPowerOfTwo) : Ring α capacity where
  slots := Vector.replicate capacity fill
  head := 0
  tail := 0
  pending := 0
  pow := hpow
  tail_eq := rfl
  pending_le := Nat.zero_le _

/-- Every slot is taken: the next store laps the oldest record. -/
def full (r : Ring α capacity) : Bool := decide (r.pending ≥ capacity)

/-- Forget the oldest record. -/
def lap (r : Ring α capacity) : Ring α capacity where
  slots := r.slots
  head := if r.pending = 0 then r.head else r.head + 1
  tail := r.tail
  pending := r.pending - 1
  pow := r.pow
  tail_eq := by
    have := r.tail_eq
    split <;> omega
  pending_le := by
    have := r.pending_le
    omega

/-- Write at the tail. Only a ring with room is written to. -/
def append (r : Ring α capacity) (x : α) (hroom : r.pending < capacity) :
    Ring α capacity where
  slots := r.slots.set (slot capacity r.tail) x (slot_lt r.pow _)
  head := r.head
  tail := r.tail + 1
  pending := r.pending + 1
  pow := r.pow
  tail_eq := by
    have := r.tail_eq
    omega
  pending_le := hroom

theorem lap_room (r : Ring α capacity) : r.lap.pending < capacity := by
  have hle := r.pending_le
  have hpos := Nat.pos_of_isPowerOfTwo r.pow
  show r.pending - 1 < capacity
  omega

/-- Store a record, lapping the oldest one when every slot is taken. -/
def store (r : Ring α capacity) (x : α) : Ring α capacity :=
  if hroom : r.pending < capacity then r.append x hroom
  else r.lap.append x r.lap_room

/-- The first `n` records, handed out by `claim`. -/
def taken (r : Ring α capacity) (n : Nat) : List α :=
  (List.range (min r.pending n)).map fun i => r.get (r.head + i)

/-- Move the reading cursor past the first `n` records. -/
def claim (r : Ring α capacity) (n : Nat) : Ring α capacity where
  slots := r.slots
  head := r.head + min r.pending n
  tail := r.tail
  pending := r.pending - min r.pending n
  pow := r.pow
  tail_eq := by
    have := r.tail_eq
    omega
  pending_le := by
    have := r.pending_le
    omega

/-- The newest `n` records, read from the tail backwards. -/
def newest (r : Ring α capacity) (n : Nat) : List α :=
  (List.range (min r.pending n)).map fun i =>
    r.get (r.tail - min r.pending n + i)

-- ========================================== what each operation does

@[simp] theorem length_contents (r : Ring α capacity) :
    r.contents.length = r.pending := by
  simp [contents]

@[simp] theorem length_taken (r : Ring α capacity) (n : Nat) :
    (r.taken n).length = min r.pending n := by
  simp [taken]

@[simp] theorem full_iff (r : Ring α capacity) :
    r.full = true ↔ r.pending = capacity := by
  have := r.pending_le
  simp only [full, decide_eq_true_eq]
  omega

@[simp] theorem claim_pending (r : Ring α capacity) (n : Nat) :
    (r.claim n).pending = r.pending - min r.pending n := rfl

@[simp] theorem claim_head (r : Ring α capacity) (n : Nat) :
    (r.claim n).head = r.head + min r.pending n := rfl

@[simp] theorem claim_tail (r : Ring α capacity) (n : Nat) :
    (r.claim n).tail = r.tail := rfl

@[simp] theorem store_tail (r : Ring α capacity) (x : α) :
    (r.store x).tail = r.tail + 1 := by
  unfold store
  split <;> rfl

/-- A store fills one more slot until every slot is taken. -/
theorem store_pending (r : Ring α capacity) (x : α) :
    (r.store x).pending = if r.full then r.pending else r.pending + 1 := by
  have hpos := Nat.pos_of_isPowerOfTwo r.pow
  have hle := r.pending_le
  unfold store
  split
  case isTrue hroom =>
    rw [if_neg (by simp; omega)]
    rfl
  case isFalse hfull =>
    rw [if_pos (by simp; omega)]
    show r.pending - 1 + 1 = r.pending
    omega

/-- After a store something is pending. -/
theorem store_pos (r : Ring α capacity) (x : α) :
    0 < (r.store x).pending := by
  have hpos := Nat.pos_of_isPowerOfTwo r.pow
  rw [store_pending]
  split
  case isTrue hfull =>
    rw [full_iff] at hfull
    omega
  case isFalse => omega

/-- A store moves the reading cursor exactly when it laps. -/
theorem store_head (r : Ring α capacity) (x : α) :
    (r.store x).head = if r.full then r.head + 1 else r.head := by
  have h := (r.store x).tail_eq
  rw [store_tail, store_pending, r.tail_eq] at h
  split at h <;> simp_all <;> omega

@[simp] theorem contents_empty (fill : α) (hpow : capacity.isPowerOfTwo) :
    (empty fill hpow).contents = [] := rfl

/-- Writing at the tail leaves the readable slots alone. -/
theorem get_append (r : Ring α capacity) (x : α) (hroom : r.pending < capacity)
    {i : Nat} (hi : i < r.pending) :
    (r.append x hroom).get (r.head + i) = r.get (r.head + i) := by
  unfold get append
  have hne : slot capacity r.tail ≠ slot capacity (r.head + i) := by
    refine (slot_ne r.pow ?_ ?_).symm
    · rw [r.tail_eq]
      omega
    · rw [r.tail_eq]
      omega
  exact Vector.getElem_set_ne (slot_lt r.pow _) (slot_lt r.pow _) hne

theorem contents_append (r : Ring α capacity) (x : α)
    (hroom : r.pending < capacity) :
    (r.append x hroom).contents = r.contents ++ [x] := by
  have hlast : (r.append x hroom).get (r.head + r.pending) = x := by
    unfold get append
    simp [r.tail_eq]
  unfold contents
  show (List.range (r.pending + 1)).map _ = _
  rw [List.range_succ, List.map_append, List.map_singleton]
  congr 1
  · refine List.map_congr_left fun i hi => ?_
    exact r.get_append x hroom (List.mem_range.mp hi)
  · exact congrArg (fun y => [y]) hlast

theorem contents_lap (r : Ring α capacity) :
    r.lap.contents = r.contents.tail := by
  unfold contents
  show (List.range (r.pending - 1)).map _ = _
  cases hp : r.pending with
  | zero => rfl
  | succ n =>
      rw [List.range_succ_eq_map, List.map_cons, List.tail_cons,
        List.map_map, Nat.add_sub_cancel]
      refine List.map_congr_left fun i _ => ?_
      have hhead : r.lap.head = r.head + 1 := by simp [lap, hp]
      show r.get (r.lap.head + i) = r.get (r.head + (i + 1))
      rw [hhead]
      congr 1
      omega

/-- Storing appends, and drops the oldest exactly when the ring was
full. -/
theorem contents_store (r : Ring α capacity) (x : α) :
    (r.store x).contents
      = (if r.full then r.contents.tail else r.contents) ++ [x] := by
  have hle := r.pending_le
  unfold store
  split
  case isTrue hroom =>
    rw [if_neg (by simp; omega)]
    exact r.contents_append x hroom
  case isFalse hfull =>
    rw [if_pos (by simp; omega), contents_append, contents_lap]

/-- Claiming hands out the oldest records in order. -/
theorem taken_eq (r : Ring α capacity) (n : Nat) :
    r.taken n = r.contents.take n := by
  unfold taken contents
  rw [← List.map_take, List.take_range, Nat.min_comm]

/-- Claiming keeps the records it did not hand out. -/
theorem contents_claim (r : Ring α capacity) (n : Nat) :
    (r.claim n).contents = r.contents.drop n := by
  refine List.ext_getElem ?_ fun i h₁ h₂ => ?_
  · simp
    omega
  · simp only [contents, List.getElem_map, List.getElem_range,
      List.getElem_drop, claim_head]
    simp only [length_contents, claim_pending] at h₁
    show r.get _ = r.get _
    congr 1
    omega

/-- The newest records are the last ones of the queue. -/
theorem newest_eq (r : Ring α capacity) (n : Nat) :
    r.newest n = r.contents.drop (r.pending - min r.pending n) := by
  refine List.ext_getElem ?_ fun i h₁ h₂ => ?_
  · simp only [newest, List.length_map, List.length_range, List.length_drop,
      length_contents]
    omega
  · simp only [newest, contents, List.getElem_map, List.getElem_range,
      List.getElem_drop]
    have htail := r.tail_eq
    congr 1
    omega

end Ring

end Exolon
