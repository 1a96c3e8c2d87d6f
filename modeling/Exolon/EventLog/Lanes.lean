/-
What goes into a lane comes back out.

One lemma for each way a value travels: a truncated number, a quantized
coordinate, a 32-bit value over two lanes, a bit pattern, a flag, and a
field of a packed word.

# Packed words

A word is built field by field from the low end, each above all bits set
so far. Then `|||` is addition (`toNat_or_field`, `toNat_or_bit`), and
reading a field is division and remainder (`toNat_bits`), so what one
field reads is arithmetic on the word's number, and no field reads
another's bits.
-/
import Exolon.EventLog.Format

namespace Exolon

namespace GameplayEvent

-- =============================================================== numbers

/-- A number a signed lane holds. -/
def FitsLane (n : Int) : Prop := -32768 ≤ n ∧ n ≤ 32767

/-- A number an unsigned lane holds. -/
def FitsWord (n : Int) : Prop := 0 ≤ n ∧ n ≤ 65535

/-- A number two lanes hold. -/
def FitsTwoLanes (n : Int) : Prop := 0 ≤ n ∧ n ≤ 2147483647

/-- A number a field of `width` bits holds. -/
def FitsField (width : Nat) (n : Int) : Prop := 0 ≤ n ∧ n < 2 ^ width

/-- A coordinate the quarter-pixel lane holds. -/
def FitsPixels (x : Rat) : Prop := FitsLane (rounded (4 * x))

theorem toInt_truncating {n : Int} (h : FitsLane n) :
    (truncating n).toInt = n := by
  apply Int16.toInt_ofInt_of_le
  · exact h.1
  · have := h.2
    omega

theorem toNat_truncatingWord {n : Int} (h : FitsWord n) :
    ((truncatingWord n).toNat : Int) = n := by
  obtain ⟨hlow, hhigh⟩ := h
  unfold truncatingWord UInt16.ofInt
  rw [UInt16.toNat_ofNat', Nat.mod_eq_of_lt (by omega)]
  omega

/-- A 32-bit value is read back from its halves. -/
theorem join_split32 (value : Int32) :
    join (split32 value).1 (split32 value).2 = value := by
  apply Int32.toBitVec_inj.mp
  unfold join split32
  ext i hi
  have hmask : (65535#32)[i] = decide (i < 16) := by
    rw [← BitVec.getLsbD_eq_getElem, BitVec.getLsbD_ofNat,
      show 65535 = 2 ^ 16 - 1 from rfl, Nat.testBit_two_pow_sub_one]
    simp [hi]
  by_cases hlow : i < 16
  · simp [hi, hlow, hmask, BitVec.getElem_signExtend]
  · have hshift : ¬ 32 ≤ i - 16 := by omega
    simp [hlow, hmask, BitVec.getElem_signExtend,
      BitVec.getElem_sshiftRight, show i - 16 < 16 by omega,
      show 16 + (i - 16) = i by omega, hi, hshift]

/-- A non-negative 32-bit number is read back from its two lanes. -/
theorem joined_split {n : Int} (h : FitsTwoLanes n) :
    joined (split n).1 (split n).2 = n := by
  obtain ⟨hlow, hhigh⟩ := h
  unfold joined split
  rw [join_split32, min_eq_right hhigh, max_eq_right hlow]
  apply Int32.toInt_ofInt_of_le
  · omega
  · omega

/-- A counter below the 32-bit range is read back from its two lanes. -/
theorem joined_split32 {n : Nat} (h : FitsTwoLanes n) :
    joined (split32 (Int32.ofNat n)).1 (split32 (Int32.ofNat n)).2 = n := by
  have hhigh := h.2
  unfold joined
  rw [join_split32]
  apply Int32.toInt_ofNat_of_lt
  omega

/-- A quantized coordinate is the rounded quarter pixel. -/
theorem toInt_q {x : Rat} (h : FitsPixels x) :
    (q x).toInt = rounded (4 * x) := by
  obtain ⟨hlow, hhigh⟩ := h
  unfold q
  rw [mul_comm x 4]
  by_cases habove : 4 * x ≥ 32767
  · -- the lane's upper end, and the coordinate rounds to it
    have hround : 32767 ≤ rounded (4 * x) := by
      unfold rounded
      rw [if_pos (by linarith), Rat.le_floor_iff]
      push_cast
      linarith
    rw [if_pos habove, le_antisymm hhigh hround]
    rfl
  rw [if_neg habove]
  by_cases hbelow : 4 * x ≤ -32768
  · have hround : rounded (4 * x) ≤ -32768 := by
      have hfloor : 32768 ≤ (-(4 * x) + 1 / 2).floor := by
        rw [Rat.le_floor_iff]
        push_cast
        linarith
      unfold rounded
      rw [if_neg (by linarith)]
      omega
    rw [if_pos hbelow, le_antisymm hround hlow]
    rfl
  rw [if_neg hbelow]
  exact Int16.toInt_ofInt_of_le hlow (by omega)

@[simp] theorem word_lane (bits : UInt16) : word (lane bits) = bits := by
  simp [word, lane]

/-- A flag lane is read back. -/
@[simp] theorem flagLane_ne_zero (b : Bool) :
    ((if b then 1 else 0 : Int16) != 0) = b := by
  cases b <;> rfl

@[simp] theorem flagWord_ne_zero (b : Bool) :
    ((if b then 1 else 0 : UInt16) != 0) = b := by
  cases b <;> rfl

/-- A step count in microseconds is the rounded quotient. -/
theorem microseconds_eq {steps : Int} (h : 0 ≤ steps) :
    microseconds steps = rounded (steps * 1000000 / 60) := by
  have hsteps : (0 : Rat) ≤ steps := by exact_mod_cast h
  have hsum : (steps : Rat) * 1000000 / 60 + 1 / 2
      = ((steps * 1000000 + 30 : Int) : Rat) / ((60 : Nat) : Rat) := by
    push_cast
    ring
  unfold rounded microseconds
  rw [if_pos (by positivity), hsum, Int.tdiv_eq_ediv_of_nonneg (by omega)]
  exact (Rat.floor_intCast_div_natCast _ 60).symm

-- ========================================================== packed words

section Packed

variable {k w : Nat} {mask offset : UInt16}

/-- A field is read as a quotient's remainder. -/
theorem toNat_bits (subject : UInt16) (hoffset : offset.toNat = k)
    (hk : k < 16) (hmask : mask.toNat = 2 ^ w - 1) :
    (bits subject offset mask).toNat = subject.toNat / 2 ^ k % 2 ^ w := by
  unfold bits
  rw [UInt16.toNat_and, UInt16.toNat_shiftRight, hmask,
    Nat.and_two_pow_sub_one_eq_mod, Nat.shiftRight_eq_div_pow, hoffset,
    Nat.mod_eq_of_lt hk]

/-- What a field reads, from the word's number. -/
theorem bits_eq {subject value : UInt16} (hoffset : offset.toNat = k)
    (hk : k < 16) (hmask : mask.toNat = 2 ^ w - 1)
    (hvalue : subject.toNat / 2 ^ k % 2 ^ w = value.toNat) :
    bits subject offset mask = value := by
  apply UInt16.toNat_inj.mp
  rw [toNat_bits subject hoffset hk hmask, hvalue]

/-- What a field reads as a number. -/
theorem number_bits {subject : UInt16} {n : Int} (hoffset : offset.toNat = k)
    (hk : k < 16) (hmask : mask.toNat = 2 ^ w - 1)
    (hvalue : ((subject.toNat / 2 ^ k % 2 ^ w : Nat) : Int) = n) :
    number (bits subject offset mask) = n := by
  rw [number, toNat_bits subject hoffset hk hmask, hvalue]

/-- A bit is read as a quotient's parity. -/
theorem bitAt_eq {subject : UInt16} {b : Bool} (hoffset : offset.toNat = k)
    (hk : k < 16)
    (hvalue : subject.toNat / 2 ^ k % 2 = if b then 1 else 0) :
    bitAt subject offset = b := by
  have hmask : (1 : UInt16).toNat = 2 ^ 1 - 1 := rfl
  have hbits := toNat_bits subject hoffset hk hmask
  rw [Nat.pow_one, hvalue] at hbits
  cases b with
  | true =>
      have hone : bits subject offset 1 = 1 := UInt16.toNat_inj.mp hbits
      rw [bitAt, hone]
      rfl
  | false =>
      have hzero : bits subject offset 1 = 0 := UInt16.toNat_inj.mp hbits
      rw [bitAt, hzero]
      rfl

/-- Above what a word holds so far, or-ing a field adds it. -/
theorem toNat_or_field (low value : UInt16) (hoffset : offset.toNat = k)
    (hk : k < 16) (hkw : k + w ≤ 16) (hmask : mask.toNat = 2 ^ w - 1)
    (hlow : low.toNat < 2 ^ k) :
    (low ||| GameplayPack.field value mask offset).toNat
      = low.toNat + value.toNat % 2 ^ w * 2 ^ k := by
  have hfits : value.toNat % 2 ^ w * 2 ^ k < 2 ^ 16 := by
    calc value.toNat % 2 ^ w * 2 ^ k
        < 2 ^ w * 2 ^ k := by
          apply Nat.mul_lt_mul_of_pos_right
          · exact Nat.mod_lt _ (Nat.two_pow_pos w)
          · exact Nat.two_pow_pos k
      _ = 2 ^ (k + w) := by rw [Nat.add_comm, Nat.pow_add]
      _ ≤ 2 ^ 16 := Nat.pow_le_pow_right (by decide) hkw
  unfold GameplayPack.field
  rw [UInt16.toNat_or, UInt16.toNat_shiftLeft, UInt16.toNat_and, hmask,
    Nat.and_two_pow_sub_one_eq_mod, hoffset, Nat.mod_eq_of_lt hk,
    Nat.shiftLeft_eq, Nat.mod_eq_of_lt hfits, Nat.or_comm,
    ← Nat.shiftLeft_eq, ← Nat.shiftLeft_add_eq_or_of_lt hlow, Nat.add_comm,
    Nat.shiftLeft_eq]

/-- Above what a word holds so far, or-ing a flag's bit adds it. -/
theorem toNat_or_bit (low : UInt16) (b : Bool) (hmask : mask.toNat = 2 ^ k)
    (hlow : low.toNat < 2 ^ k) :
    (low ||| GameplayPack.bit b mask).toNat
      = low.toNat + (if b then 2 ^ k else 0) := by
  cases b with
  | false => simp [GameplayPack.bit]
  | true =>
      have hadd := Nat.shiftLeft_add_eq_or_of_lt hlow 1
      rw [Nat.shiftLeft_eq, Nat.one_mul] at hadd
      simp only [GameplayPack.bit, if_true]
      rw [UInt16.toNat_or, hmask, Nat.or_comm, ← hadd, Nat.add_comm]

/-- The lowest field of a word is masked. -/
theorem toNat_and_mask (value : UInt16) (hmask : mask.toNat = 2 ^ w - 1) :
    (value &&& mask).toNat = value.toNat % 2 ^ w := by
  rw [UInt16.toNat_and, hmask, Nat.and_two_pow_sub_one_eq_mod]

end Packed

end GameplayEvent

-- ============================================================== subjects

namespace GameplayPack

open GameplayEvent

section FieldAndFlag

variable {k : Nat} {mask flagMask offset : UInt16}

/-- A field and the flag right above it. -/
theorem toNat_field_flag (value : UInt16) (flag : Bool)
    (hmask : mask.toNat = 2 ^ k - 1) (hflag : flagMask.toNat = 2 ^ k) :
    ((value &&& mask) ||| bit flag flagMask).toNat
      = value.toNat % 2 ^ k + (if flag then 2 ^ k else 0) := by
  have hlow := toNat_and_mask value hmask
  rw [toNat_or_bit _ flag hflag, hlow]
  rw [hlow]
  exact Nat.mod_lt _ (Nat.two_pow_pos k)

/-- The field reads its value. -/
theorem bits_field_flag {value : UInt16} (flag : Bool)
    (hmask : mask.toNat = 2 ^ k - 1) (hflag : flagMask.toNat = 2 ^ k)
    (hvalue : value.toNat < 2 ^ k) :
    bits ((value &&& mask) ||| bit flag flagMask) 0 mask = value := by
  apply bits_eq (k := 0) rfl (by decide) hmask
  rw [toNat_field_flag value flag hmask hflag, Nat.pow_zero, Nat.div_one,
    Nat.mod_eq_of_lt hvalue]
  cases flag with
  | false => simpa using Nat.mod_eq_of_lt hvalue
  | true => simpa using Nat.mod_eq_of_lt hvalue

/-- The flag reads itself. -/
theorem bitAt_field_flag (value : UInt16) (flag : Bool)
    (hmask : mask.toNat = 2 ^ k - 1) (hflag : flagMask.toNat = 2 ^ k)
    (hoffset : offset.toNat = k) (hk : k < 16) :
    bitAt ((value &&& mask) ||| bit flag flagMask) offset = flag := by
  have hpos := Nat.two_pow_pos k
  have hlow := Nat.mod_lt value.toNat hpos
  apply bitAt_eq hoffset hk
  rw [toNat_field_flag value flag hmask hflag]
  cases flag with
  | false => simp [Nat.div_eq_of_lt hlow]
  | true => simp [Nat.add_div_right _ hpos, Nat.div_eq_of_lt hlow]

end FieldAndFlag

/-- The one-flag words. -/
theorem bitAt_bit (flag : Bool) : bitAt (bit flag 1) 0 = flag := by
  cases flag <;> decide

theorem bitAt_two_flags (low high : Bool) :
    bitAt (bit low 1 ||| bit high 2) 0 = low
      ∧ bitAt (bit low 1 ||| bit high 2) 1 = high := by
  cases low <;> cases high <;> decide

theorem toNat_motion (state facing : UInt16) (grounded exoskeleton : Bool) :
    (motion state grounded facing exoskeleton).toNat
      = state.toNat % 8 + (if grounded then 8 else 0)
        + facing.toNat % 2 * 16 + (if exoskeleton then 32 else 0) := by
  have hstate : ((state &&& 7) ||| bit grounded 8).toNat
      = state.toNat % 2 ^ 3 + (if grounded then 2 ^ 3 else 0) :=
    toNat_field_flag state grounded rfl rfl
  have hfacing : ((state &&& 7) ||| bit grounded 8 ||| field facing 1 4).toNat
      = ((state &&& 7) ||| bit grounded 8).toNat
        + facing.toNat % 2 ^ 1 * 2 ^ 4 := by
    apply toNat_or_field (k := 4) _ facing rfl (by decide) (by decide) rfl
    rw [hstate]
    split <;> omega
  have hsuit : (motion state grounded facing exoskeleton).toNat
      = ((state &&& 7) ||| bit grounded 8 ||| field facing 1 4).toNat
        + (if exoskeleton then 2 ^ 5 else 0) := by
    apply toNat_or_bit (k := 5) _ exoskeleton rfl
    rw [hfacing, hstate]
    split <;> omega
  simp only [hsuit, hfacing, hstate, Nat.reducePow]

theorem toNat_edge (action source : UInt16) :
    (edge action source).toNat
      = action.toNat % 64 + source.toNat % 4 * 64 := by
  have hlow : (action &&& 63).toNat = action.toNat % 2 ^ 6 :=
    toNat_and_mask action rfl
  have hsource : (edge action source).toNat
      = (action &&& 63).toNat + source.toNat % 2 ^ 2 * 2 ^ 6 := by
    apply toNat_or_field (k := 6) _ source rfl (by decide) (by decide) rfl
    omega
  simp only [hsource, hlow, Nat.reducePow]

theorem toNat_hit (cause before after : UInt16) :
    (hit cause before after).toNat
      = cause.toNat % 64 + before.toNat % 8 * 64
        + after.toNat % 8 * 512 := by
  have hcause : (cause &&& 63).toNat = cause.toNat % 2 ^ 6 :=
    toNat_and_mask cause rfl
  have hbefore : ((cause &&& 63) ||| field before 7 6).toNat
      = (cause &&& 63).toNat + before.toNat % 2 ^ 3 * 2 ^ 6 := by
    apply toNat_or_field (k := 6) _ before rfl (by decide) (by decide) rfl
    omega
  have hafter : (hit cause before after).toNat
      = ((cause &&& 63) ||| field before 7 6).toNat
        + after.toNat % 2 ^ 3 * 2 ^ 9 := by
    apply toNat_or_field (k := 9) _ after rfl (by decide) (by decide) rfl
    omega
  simp only [hafter, hbefore, hcause, Nat.reducePow]

theorem toNat_checkpoint (ammo grenades lives : Int) :
    (checkpoint ammo grenades lives).toNat
      = (truncatingWord ammo).toNat % 128
        + (truncatingWord grenades).toNat % 32 * 128
        + (truncatingWord lives).toNat % 16 * 4096 := by
  have hammo : (truncatingWord ammo &&& 127).toNat
      = (truncatingWord ammo).toNat % 2 ^ 7 := toNat_and_mask _ rfl
  have hgrenades : ((truncatingWord ammo &&& 127)
      ||| field (truncatingWord grenades) 31 7).toNat
      = (truncatingWord ammo &&& 127).toNat
        + (truncatingWord grenades).toNat % 2 ^ 5 * 2 ^ 7 := by
    apply toNat_or_field (k := 7) _ _ rfl (by decide) (by decide) rfl
    omega
  have hlives : (checkpoint ammo grenades lives).toNat
      = ((truncatingWord ammo &&& 127)
        ||| field (truncatingWord grenades) 31 7).toNat
        + (truncatingWord lives).toNat % 2 ^ 4 * 2 ^ 12 := by
    apply toNat_or_field (k := 12) _ _ rfl (by decide) (by decide) rfl
    omega
  simp only [hlives, hgrenades, hammo, Nat.reducePow]

theorem toNat_stagePoints (livesBefore livesAfter : Int) (ammoReset : Bool) :
    (stagePoints livesBefore livesAfter ammoReset).toNat
      = (truncatingWord livesBefore).toNat % 16
        + (truncatingWord livesAfter).toNat % 16 * 16
        + (if ammoReset then 256 else 0) := by
  have hbefore : (truncatingWord livesBefore &&& 15).toNat
      = (truncatingWord livesBefore).toNat % 2 ^ 4 := toNat_and_mask _ rfl
  have hafter : ((truncatingWord livesBefore &&& 15)
      ||| field (truncatingWord livesAfter) 15 4).toNat
      = (truncatingWord livesBefore &&& 15).toNat
        + (truncatingWord livesAfter).toNat % 2 ^ 4 * 2 ^ 4 := by
    apply toNat_or_field (k := 4) _ _ rfl (by decide) (by decide) rfl
    omega
  have hreset : (stagePoints livesBefore livesAfter ammoReset).toNat
      = ((truncatingWord livesBefore &&& 15)
        ||| field (truncatingWord livesAfter) 15 4).toNat
        + (if ammoReset then 2 ^ 8 else 0) := by
    apply toNat_or_bit (k := 8) _ ammoReset rfl
    omega
  simp only [hreset, hafter, hbefore, Nat.reducePow]

end GameplayPack

end Exolon
