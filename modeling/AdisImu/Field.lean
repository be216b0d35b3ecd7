/-
# Register fields: `adis_read_field_u32`, `adis_read_field_s32`,
# `adis_write_field_u32` and `adis_update_bits_base`

`src/drivers/imu/adis.c`, lines 402-486.  A field is read by reading its whole
register and extracting the masked bits; it is written by a read-modify-write
of the register, after a range check against the mask's capacity.

`adis_update_bits_base` reads before it writes, and `adis_read_reg` accepts
only 2- and 4-byte registers, so a field of a 1-byte register is rejected with
`-EINVAL` by both paths (`adisWriteFieldU32_one_byte`).  For 2- and 4-byte
registers a value that fits the field reads back unchanged, and the write
leaves every other bit and every other register alone
(`adisWriteFieldU32_roundtrip`).
-/

import AdisImu.Transport

namespace AdisImu

open Drv

/-- `adis_read_field_u32`. -/
def adisReadFieldU32 (field : AdisField) : Drv Nat := do
  let regVal ← adisReadReg field.regAddr field.regSize
  pure (noOsFieldGet field.fieldMask regVal)

/-- `adis_read_field_s32`: the field, sign-extended from the highest set bit of its
mask. -/
def adisReadFieldS32 (field : AdisField) : Drv Int := do
  let regVal ← adisReadReg field.regAddr field.regSize
  pure (noOsSignExtend32 (noOsFieldGet field.fieldMask regVal) (noOsFindLastSetBit field.fieldMask))

/-- `adis_update_bits_base`. -/
def adisUpdateBitsBase (reg mask val size : Nat) : Drv Unit := do
  let old ← adisReadReg reg size
  adisWriteReg reg (maskedUpdate mask old val) size

/-- `adis_write_field_u32`: a value wider than the field is `-EINVAL` before any
transfer; `field.reg_size` reaches `adis_update_bits_base` as its `uint8_t`
`size`. -/
def adisWriteFieldU32 (field : AdisField) (fieldVal : Nat) : Drv Unit :=
  if fieldVal > noOsFieldGet field.fieldMask field.fieldMask then Drv.fail (-EINVAL)
  else adisUpdateBitsBase field.regAddr field.fieldMask fieldVal (field.regSize % 256)

/-- The two's-complement value of a `w`-bit field: the spec's reading of a signed
field. -/
def twosComplement (w f : Nat) : Int := if f.testBit (w - 1) then (f : Int) - 2 ^ w else f

theorem adisWriteFieldU32_reject {f : AdisField} {v : Nat}
    (h : v > noOsFieldGet f.fieldMask f.fieldMask) (w : World) :
    adisWriteFieldU32 f v w = (.error (-EINVAL), w) := by
  rw [adisWriteFieldU32, if_pos h]
  rfl

/-! ### What the field operations keep

An invariant of both transport functions is one of every field operation. -/

section Keeps

variable {P : World → Prop}

theorem adisReadFieldU32_keeps {field : AdisField}
    (hr : Keeps P (adisReadReg field.regAddr field.regSize)) : Keeps P (adisReadFieldU32 field) :=
  hr.bind fun _ => Keeps.pure _

theorem adisReadFieldS32_keeps {field : AdisField}
    (hr : Keeps P (adisReadReg field.regAddr field.regSize)) : Keeps P (adisReadFieldS32 field) :=
  hr.bind fun _ => Keeps.pure _

theorem adisUpdateBitsBase_keeps {reg mask val size : Nat} (hr : Keeps P (adisReadReg reg size))
    (hw : ∀ val, Keeps P (adisWriteReg reg val size)) :
    Keeps P (adisUpdateBitsBase reg mask val size) :=
  hr.bind fun _ => hw _

theorem adisWriteFieldU32_keeps {field : AdisField} {val : Nat}
    (hr : Keeps P (adisReadReg field.regAddr (field.regSize % 256)))
    (hw : ∀ val, Keeps P (adisWriteReg field.regAddr val (field.regSize % 256))) :
    Keeps P (adisWriteFieldU32 field val) :=
  Keeps.ite (Keeps.fail _) (adisUpdateBitsBase_keeps hr hw)

end Keeps

/-! ### Writing a field and reading it back -/

/-- Reading a contiguous field ignores the bits above the register. -/
theorem noOsFieldGet_mod_two_pow {w c N : Nat} (hw : 0 < w) (hcw : c + w ≤ N) (hN : N ≤ 32) (x : Nat) :
    noOsFieldGet (contigMask w c) (x % 2 ^ N) = noOsFieldGet (contigMask w c) x := by
  rw [noOsFieldGet_contigMask hw (by omega), noOsFieldGet_contigMask hw (by omega),
    ← Nat.shiftRight_eq_div_pow, ← Nat.shiftRight_eq_div_pow]
  refine Nat.eq_of_testBit_eq fun i => ?_
  simp only [Nat.testBit_mod_two_pow, Nat.testBit_shiftRight]
  by_cases h : i < w
  · simp [h, show c + i < N by omega]
  · simp [h]

/-- Writing the bytes of `x` into a 2- or 4-byte register makes it read `x`
modulo its width. -/
theorem regVal_of_bytes {d : Imu} {reg size x : Nat} (hsize : size = 2 ∨ size = 4)
    (hmem : ∀ a, reg ≤ a → a < reg + size → d.mem a = x / 256 ^ (a - reg) % 256) :
    d.regVal reg size = x % 2 ^ (8 * size) := by
  rcases hsize with rfl | rfl
  · simp only [Imu.regVal, if_neg (show (2 : Nat) ≠ 4 by decide), Imu.word,
      hmem reg le_rfl (by omega), hmem (reg + 1) (by omega) (by omega),
      Nat.sub_self, Nat.add_sub_cancel_left, Nat.pow_zero, Nat.pow_one, Nat.div_one]
    omega
  · simp only [Imu.regVal, if_true, Imu.word, hmem reg le_rfl (by omega),
      hmem (reg + 1) (by omega) (by omega), hmem (reg + 2) (by omega) (by omega),
      hmem (reg + 2 + 1) (by omega) (by omega),
      Nat.sub_self, Nat.add_sub_cancel_left, Nat.pow_zero, Nat.pow_one, Nat.div_one,
      show reg + 2 + 1 - reg = 3 by omega, Nat.reducePow]
    omega

theorem regVal_lt (d : Imu) (reg : Nat) {size : Nat} (hsize : size = 2 ∨ size = 4) :
    d.regVal reg size < 2 ^ (8 * size) := by
  have := d.mem_lt reg
  have := d.mem_lt (reg + 1)
  have := d.mem_lt (reg + 2)
  have := d.mem_lt (reg + 2 + 1)
  rcases hsize with rfl | rfl <;> simp only [Imu.regVal, Imu.word] <;> split <;> omega

/-- Outside the mask, the value `adis_update_bits_base` writes back keeps the old
register's bits. -/
theorem testBit_maskedUpdate_of_not {mask old val size i : Nat} (hsize : size = 2 ∨ size = 4)
    (hold : old < 2 ^ (8 * size)) (hi : mask.testBit i = false) :
    (maskedUpdate mask old val % 2 ^ (8 * size)).testBit i = old.testBit i := by
  simp only [Nat.testBit_mod_two_pow, maskedUpdate, noOsFieldPrep, Nat.testBit_or,
    Nat.testBit_and, Nat.testBit_xor, hi, Nat.testBit_two_pow_sub_one, Bool.and_false,
    Bool.or_false]
  by_cases h : i < 8 * size
  · simp [h, show i < 32 by omega]
  · simp [h, Nat.testBit_lt_two_pow (lt_of_lt_of_le hold
      (Nat.pow_le_pow_right (by omega) (Nat.le_of_not_lt h)))]

/-- **`adis_update_bits_base` on a healthy bus** returns `0` and leaves the bytes of
the updated value in the register window, the device and the handle on its page. -/
theorem adisUpdateBitsBase_ok {reg mask val size : Nat} {w : World} (hsize : size = 2 ∨ size = 4)
    (hwin : InPage reg size) (hcache : w.dev.currentPage = -1 ∨ w.dev.currentPage = w.imu.page)
    (hbus : w.Healthy) :
    (adisUpdateBitsBase reg mask val size w).1 = .ok () ∧
    (∀ a, (adisUpdateBitsBase reg mask val size w).2.imu.mem a =
      if reg ≤ a ∧ a < reg + size then
        maskedUpdate mask (w.imu.regVal reg size) val / 256 ^ (a - reg) % 256
      else w.imu.mem a) ∧
    (adisUpdateBitsBase reg mask val size w).2.imu.page = reg / 128 ∧
    (adisUpdateBitsBase reg mask val size w).2.dev.currentPage = ((reg / 128 : Nat) : Int) ∧
    (adisUpdateBitsBase reg mask val size w).2.Healthy := by
  obtain ⟨⟨data, hn⟩, -⟩ := hbus.next
  obtain ⟨v, hv⟩ := adisReadReg_succeeds hsize hn
  obtain ⟨rfl, hmem, hpage, hcur⟩ := adisReadReg_ok hwin hcache hv
  have hbus₁ : (adisReadReg reg size w).2.Healthy := adisReadReg_busAll _ reg size w hbus
  obtain ⟨⟨data₁, hn₁⟩, -⟩ := hbus₁.next
  have hok := @adisWriteReg_succeeds reg (maskedUpdate mask (w.imu.regVal reg size) val) size _ _
    (by omega) hn₁
  obtain ⟨hmem₁, hpage₁, hcur₁⟩ := adisWriteReg_ok hwin (Or.inr (by rw [hcur, hpage])) hok
  rw [adisUpdateBitsBase, bind_of_fst_ok hv]
  exact ⟨hok, fun a => by rw [hmem₁, hmem], hpage₁, hcur₁, adisWriteReg_busAll _ _ _ _ _ hbus₁⟩

/-- **A field write reads back.**  For a contiguous mask inside a 2- or 4-byte
register window, on a healthy bus, `adis_write_field_u32` of a value that fits
returns `0`; `adis_read_field_u32` then returns the value; no other register and
no bit of the register outside the mask has changed. -/
theorem adisWriteFieldU32_roundtrip {reg size w c v : Nat} {wd : World}
    (hsize : size = 2 ∨ size = 4) (hw : 0 < w) (hcw : c + w ≤ 8 * size) (hwin : InPage reg size)
    (hcache : wd.dev.currentPage = -1 ∨ wd.dev.currentPage = wd.imu.page) (hbus : wd.Healthy)
    (hv : v ≤ contigMask w c >>> c) :
    (adisWriteFieldU32 ⟨reg, size, contigMask w c⟩ v wd).1 = .ok () ∧
    (adisReadFieldU32 ⟨reg, size, contigMask w c⟩
      (adisWriteFieldU32 ⟨reg, size, contigMask w c⟩ v wd).2).1 = .ok v ∧
    (∀ a, (a < reg ∨ reg + size ≤ a) →
      (adisWriteFieldU32 ⟨reg, size, contigMask w c⟩ v wd).2.imu.mem a = wd.imu.mem a) ∧
    (∀ i, (contigMask w c).testBit i = false →
      ((adisWriteFieldU32 ⟨reg, size, contigMask w c⟩ v wd).2.imu.regVal reg size).testBit i =
        (wd.imu.regVal reg size).testBit i) := by
  have h32 : c + w ≤ 32 := by omega
  have hv' : v < 2 ^ w := by
    rw [contigMask, Nat.shiftLeft_shiftRight] at hv
    have := @Nat.one_le_two_pow w
    omega
  have hfit : ¬ v > noOsFieldGet (contigMask w c) (contigMask w c) := by
    rw [noOsFieldGet_contigMask_self hw h32]; omega
  simp only [adisWriteFieldU32, if_neg hfit, Nat.mod_eq_of_lt (show size < 256 by omega)]
  obtain ⟨hok, hmem, hpage, hcur, hbus₁⟩ := @adisUpdateBitsBase_ok reg (contigMask w c)
    v size wd hsize hwin hcache hbus
  set w₁ := (adisUpdateBitsBase reg (contigMask w c) v size wd).2
  have hval : w₁.imu.regVal reg size =
      maskedUpdate (contigMask w c) (wd.imu.regVal reg size) v % 2 ^ (8 * size) :=
    regVal_of_bytes hsize fun a h₁ h₂ => by rw [hmem, if_pos ⟨h₁, h₂⟩]
  refine ⟨hok, ?_, fun a ha => by rw [hmem, if_neg (by omega)], fun i hi => ?_⟩
  · obtain ⟨⟨data, hn⟩, -⟩ := hbus₁.next
    obtain ⟨r, hr⟩ := adisReadReg_succeeds hsize hn
    obtain ⟨rfl, -⟩ := adisReadReg_ok hwin (Or.inr (by rw [hcur, hpage])) hr
    rw [adisReadFieldU32, bind_of_fst_ok hr, hval, noOsFieldGet_mod_two_pow hw hcw (by omega),
      noOsFieldGet_maskedUpdate hw h32 hv']
    rfl
  · rw [hval, testBit_maskedUpdate_of_not hsize (regVal_lt wd.imu reg hsize) hi]

/-- The hypotheses of `adisWriteFieldU32_roundtrip` hold of bits 4..11 of the 2-byte
register at `0x82` of a blank device, written with `5`. -/
theorem adisWriteFieldU32_roundtrip_blank :
    (adisWriteFieldU32 ⟨130, 2, contigMask 8 4⟩ 5 World.blank).1 = .ok () ∧
    (adisReadFieldU32 ⟨130, 2, contigMask 8 4⟩
      (adisWriteFieldU32 ⟨130, 2, contigMask 8 4⟩ 5 World.blank).2).1 = .ok 5 :=
  have h := adisWriteFieldU32_roundtrip (Or.inl rfl) (by decide) (by decide)
    ⟨by decide, by decide, by decide⟩ (Or.inr rfl) (fun _ hx => absurd hx (List.not_mem_nil _))
    (show 5 ≤ contigMask 8 4 >>> 4 by decide)
  ⟨h.1, h.2.1⟩

/-- **A 1-byte field can be neither written nor read**: `adis_write_field_u32`
returns `-EINVAL` with the world untouched, from the range check or from
`adis_read_reg`'s size check. -/
theorem adisWriteFieldU32_one_byte (reg mask v : Nat) (w : World) :
    adisWriteFieldU32 ⟨reg, 1, mask⟩ v w = (.error (-EINVAL), w) := by
  unfold adisWriteFieldU32
  split
  · rfl
  · simp [adisUpdateBitsBase, adisReadReg, adisReadRegMsgs, bind_apply]

/-- A 1-byte field: bit 0 of the register at `0x82`, written with `1`,
is rejected. -/
theorem adisWriteFieldU32_one_byte_blank :
    (adisWriteFieldU32 ⟨130, 1, contigMask 1 0⟩ 1 World.blank).1 = .error (-EINVAL) := by
  rw [adisWriteFieldU32_one_byte]

/-! ### Signed fields -/

/-- **What `adis_read_field_s32` makes of a contiguous field**: the field's two's
complement when the mask starts at bit `0`; otherwise the unsigned field, since
the sign is looked for at the mask's highest bit in a value already shifted down
by `c`. -/
theorem noOsSignExtend32_fieldGet {w c : Nat} (hw : 0 < w) (hcw : c + w ≤ 32) (r : Nat) :
    noOsSignExtend32 (noOsFieldGet (contigMask w c) r) (noOsFindLastSetBit (contigMask w c)) =
      if c = 0 then twosComplement w (noOsFieldGet (contigMask w c) r)
      else noOsFieldGet (contigMask w c) r := by
  rw [noOsFindLastSetBit_contigMask hw hcw]
  have hf : noOsFieldGet (contigMask w c) r < 2 ^ w := by
    rw [noOsFieldGet_contigMask hw hcw]; exact Nat.mod_lt _ (Nat.two_pow_pos w)
  generalize noOsFieldGet (contigMask w c) r = f at hf ⊢
  have hmod : f % 2 ^ (c + w - 1 + 1) = f :=
    Nat.mod_eq_of_lt (lt_of_lt_of_le hf (Nat.pow_le_pow_right (by omega) (by omega)))
  unfold noOsSignExtend32
  rw [hmod]
  by_cases hc : c = 0
  · subst hc
    rw [if_pos rfl, twosComplement, Nat.zero_add, Nat.sub_add_cancel hw]
  · rw [if_neg hc, Nat.testBit_lt_two_pow (lt_of_lt_of_le hf (Nat.pow_le_pow_right (by omega)
      (by omega))), if_neg (by decide)]

/-- The failing input of the signed read: the mask `0xFF00` over a register
holding `0xFF00` is the 8-bit field `0xFF`, which is `-1`; the code returns `255`. -/
theorem adisReadFieldS32_offset_mask :
    (adisReadFieldS32 ⟨130, 2, 0xFF00⟩
      { World.blank with imu := ⟨0, fun a => if a = 131 then 0xFF else 0, 0, fun a => by
        dsimp only; split <;> decide⟩ }).1 = .ok 255 ∧
    twosComplement 8 (noOsFieldGet 0xFF00 0xFF00) = -1 :=
  ⟨rfl, by decide⟩

end AdisImu
