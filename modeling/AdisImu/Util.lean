/-
# The bit-field helpers of `no_os_util`

`adis.c` reads and writes every register field through `no_os_field_get`,
`no_os_field_prep`, `no_os_find_first_set_bit`, `no_os_find_last_set_bit` and
`no_os_sign_extend32`, and assembles register words with
`no_os_get_unaligned_be16` and `no_os_get_unaligned_be32`.  None of them is
under `src/`: they are modelled here from the spec's bitfield codec (§4.2) —
a field is right-justified out of its mask, left-justified into it, and
sign-extended from the highest set bit of the mask — and from its big-endian
reading of register bytes.  All values are `uint32_t` words as `Nat`.

The device's fields are contiguous runs of bits.  `contigMask w c` is the run
of `w` ones from bit `c`; on such a mask the scans find `c` and `c + w - 1`
(`noOsFindFirstSetBit_contigMask`, `noOsFindLastSetBit_contigMask`), the field
read is `x / 2^c % 2^w` (`noOsFieldGet_contigMask`), and the read-modify-write
value of `adis_update_bits_base` carries the new field inside the mask and the
old bits outside it (`testBit_maskedUpdate`).
-/

import Mathlib.Algebra.Group.Int
import Mathlib.Algebra.Order.Ring.Nat
import Mathlib.Data.Nat.Bitwise

namespace AdisImu

/-- Modelled from the spec: `no_os_find_first_set_bit`, the position of the
lowest set bit of a 32-bit word (`32` when there is none). -/
def noOsFindFirstSetBit (word : Nat) : Nat :=
  ((List.range 32).find? word.testBit).getD 32

/-- Modelled from the spec: `no_os_find_last_set_bit`, the position of the
highest set bit of a 32-bit word (`32` when there is none). -/
def noOsFindLastSetBit (word : Nat) : Nat :=
  ((List.range 32).reverse.find? word.testBit).getD 32

/-- Modelled from the spec: `no_os_field_get`, the masked bits right-justified. -/
def noOsFieldGet (mask word : Nat) : Nat :=
  (word &&& mask) >>> noOsFindFirstSetBit mask

/-- Modelled from the spec: `no_os_field_prep`, a value left-justified into the
mask's position. -/
def noOsFieldPrep (mask val : Nat) : Nat :=
  (val <<< noOsFindFirstSetBit mask) &&& mask

/-- Modelled from the spec: `no_os_sign_extend32`, the two's-complement value of
bits `0 … index` of `value`, bit `index` being the sign. -/
def noOsSignExtend32 (value index : Nat) : Int :=
  if value.testBit index then ((value % 2 ^ (index + 1) : Nat) : Int) - 2 ^ (index + 1)
  else (value % 2 ^ (index + 1) : Nat)

/-- Modelled from the spec: `no_os_get_unaligned_be16`, two bytes read
big-endian. -/
def noOsGetUnalignedBe16 (buf : List Nat) : Nat :=
  buf.getD 0 0 * 2 ^ 8 + buf.getD 1 0

/-- Modelled from the spec: `no_os_get_unaligned_be32`, four bytes read
big-endian. -/
def noOsGetUnalignedBe32 (buf : List Nat) : Nat :=
  buf.getD 0 0 * 2 ^ 24 + buf.getD 1 0 * 2 ^ 16 + buf.getD 2 0 * 2 ^ 8 + buf.getD 3 0

/-- The new register value of `adis_update_bits_base`:
`(__val & ~mask) | no_os_field_prep(mask, val)`, with `~` on `uint32_t`. -/
def maskedUpdate (mask old val : Nat) : Nat :=
  (old &&& (mask ^^^ (2 ^ 32 - 1))) ||| noOsFieldPrep mask val

/-- A contiguous field mask: `w` ones from bit `c` up. -/
def contigMask (w c : Nat) : Nat := (2 ^ w - 1) <<< c

@[simp] theorem testBit_contigMask (w c i : Nat) :
    (contigMask w c).testBit i = decide (c ≤ i ∧ i < c + w) := by
  rw [contigMask, Nat.testBit_shiftLeft, Nat.testBit_two_pow_sub_one]
  by_cases h : c ≤ i
  · simp only [ge_iff_le, h, decide_True, Bool.true_and, true_and, decide_eq_decide]
    omega
  · simp [h]

theorem contigMask_lt (hcw : c + w ≤ n) : contigMask w c < 2 ^ n :=
  Nat.lt_pow_two_of_testBit _ fun i hi => by simp; omega

/-- The first index of `List.range n` where `p` holds is the least one. -/
theorem find?_range_of_least {p : Nat → Bool} {c n : Nat} (hcn : c < n) (hc : p c = true)
    (hlt : ∀ i < c, p i = false) : (List.range n).find? p = some c := by
  induction n with
  | zero => omega
  | succ n ih =>
    rw [List.range_succ, List.find?_append]
    rcases Nat.lt_or_ge c n with h | h
    · rw [ih h]; rfl
    · obtain rfl : c = n := by omega
      rw [List.find?_eq_none.2 fun i hi => by simp [hlt i (List.mem_range.1 hi)]]
      simp [hc]

/-- Scanning `List.range n` downwards finds the greatest index where `p` holds. -/
theorem find?_range_reverse_of_greatest {p : Nat → Bool} {m n : Nat} (hmn : m < n)
    (hm : p m = true) (hgt : ∀ i, m < i → i < n → p i = false) :
    (List.range n).reverse.find? p = some m := by
  induction n with
  | zero => omega
  | succ n ih =>
    rw [List.range_succ, List.reverse_append]
    rcases Nat.lt_or_ge m n with h | h
    · simp [hgt n h (by omega), ih h fun i h₁ h₂ => hgt i h₁ (by omega)]
    · obtain rfl : m = n := by omega
      simp [hm]

section Contig

variable {w c : Nat}

theorem noOsFindFirstSetBit_contigMask (hw : 0 < w) (hcw : c + w ≤ 32) :
    noOsFindFirstSetBit (contigMask w c) = c := by
  rw [noOsFindFirstSetBit, @find?_range_of_least _ c 32 (by omega) (by simp; omega)
    fun i hi => by simp; omega]
  rfl

theorem noOsFindLastSetBit_contigMask (hw : 0 < w) (hcw : c + w ≤ 32) :
    noOsFindLastSetBit (contigMask w c) = c + w - 1 := by
  rw [noOsFindLastSetBit, @find?_range_reverse_of_greatest _ (c + w - 1) 32 (by omega)
    (by simp; omega) fun i h₁ h₂ => by simp; omega]
  rfl

/-- **Reading a contiguous field** takes bits `c … c + w - 1` of the word. -/
theorem noOsFieldGet_contigMask (hw : 0 < w) (hcw : c + w ≤ 32) (x : Nat) :
    noOsFieldGet (contigMask w c) x = x / 2 ^ c % 2 ^ w := by
  rw [noOsFieldGet, noOsFindFirstSetBit_contigMask hw hcw, ← Nat.shiftRight_eq_div_pow]
  refine Nat.eq_of_testBit_eq fun i => ?_
  simp only [Nat.testBit_shiftRight, Nat.testBit_and, testBit_contigMask, Nat.testBit_mod_two_pow]
  by_cases h : i < w <;> simp [h]

/-- The largest value a contiguous field holds, `no_os_field_get(mask, mask)`. -/
theorem noOsFieldGet_contigMask_self (hw : 0 < w) (hcw : c + w ≤ 32) :
    noOsFieldGet (contigMask w c) (contigMask w c) = 2 ^ w - 1 := by
  rw [noOsFieldGet, Nat.and_self, noOsFindFirstSetBit_contigMask hw hcw, contigMask,
    Nat.shiftLeft_shiftRight]

/-- **The read-modify-write value, bit by bit**: the new field inside the mask,
the old word's bits outside it, nothing above bit 31. -/
theorem testBit_maskedUpdate (hw : 0 < w) (hcw : c + w ≤ 32) (old v i : Nat) :
    (maskedUpdate (contigMask w c) old v).testBit i =
      if c ≤ i ∧ i < c + w then v.testBit (i - c) else decide (i < 32) && old.testBit i := by
  rw [maskedUpdate, noOsFieldPrep, noOsFindFirstSetBit_contigMask hw hcw]
  simp only [Nat.testBit_or, Nat.testBit_and, Nat.testBit_xor, testBit_contigMask,
    Nat.testBit_two_pow_sub_one, Nat.testBit_shiftLeft]
  by_cases h : c ≤ i ∧ i < c + w
  · simp [h, show i < 32 by omega, show c ≤ i by omega]
  · by_cases h32 : i < 32 <;> simp [h, h32]

/-- **Pack, then read back**: whatever the old word, the field read out of the
updated word is the value packed, when it fits the field. -/
theorem noOsFieldGet_maskedUpdate (hw : 0 < w) (hcw : c + w ≤ 32) {v : Nat} (hv : v < 2 ^ w)
    (old : Nat) : noOsFieldGet (contigMask w c) (maskedUpdate (contigMask w c) old v) = v := by
  rw [noOsFieldGet_contigMask hw hcw, ← Nat.shiftRight_eq_div_pow]
  refine Nat.eq_of_testBit_eq fun i => ?_
  simp only [Nat.testBit_mod_two_pow, Nat.testBit_shiftRight, testBit_maskedUpdate hw hcw]
  by_cases h : i < w
  · simp [h, show c ≤ c + i by omega]
  · simp [h, Nat.testBit_lt_two_pow (lt_of_lt_of_le hv (Nat.pow_le_pow_right (by omega)
      (Nat.le_of_not_lt h)))]

end Contig

end AdisImu
