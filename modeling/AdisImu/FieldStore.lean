/-
# Fields as variables

`src/drivers/imu/adis.c`, lines 402-486.  A client sees the device through fields:
`adis_read_field_u32` and `adis_read_field_s32` return one, and
`adis_write_field_u32` replaces one by a read-modify-write of its register
(`adis_update_bits_base`).  Take a family of fields each contiguous in a 2- or 4-byte
register inside one page, any two of them apart: in registers whose windows do not
meet, or bit-disjoint in one register (`FieldFamily`).  On a bus that completes every
transfer, from a page cache that is unknown or right, the three calls act on a store
with one variable per field (`runFieldCalls_store`).  A read returns its variable, the
signed read the variable sign-extended from the top bit of the mask; a value wider
than its field is `-EINVAL` and changes nothing; any other value sets its variable and
no other.  A read-modify-write of one field never disturbs a field that shares its
register.

The bias writers (lines 982-1106) hand their `int32_t` to `adis_write_field_u32` as a
`uint32_t`, and the bias readers sign-extend from the field's top bit.  A bias comes back
from a 32-bit field whatever its sign; from a narrower field only when it is
non-negative and below half the field's range (`adisBias_roundtrip`): a negative bias is
rejected with `-EINVAL`, and one in the upper half comes back less `2^w`, negative.
-/

import Mathlib.Data.List.Pairwise
import AdisImu.RegisterMap
import AdisImu.SyncClock

namespace AdisImu

open Drv

/-- Fields that can be held as independent variables: each a contiguous field of a
2- or 4-byte register inside one page below 256 clear of the page register, any two
apart. -/
structure FieldFamily (fields : List AdisField) : Prop where
  contig : ∀ f ∈ fields, f.Contig
  inPage : ∀ f ∈ fields, InPage f.regAddr f.regSize
  apart : fields.Pairwise AdisField.Apart

/-- A client's call on one field. -/
inductive FieldCall
  | read (f : AdisField)
  | readSigned (f : AdisField)
  | write (f : AdisField) (v : Nat)
deriving DecidableEq, Repr

namespace FieldCall

/-- The field a call is on. -/
def field : FieldCall → AdisField
  | .read f | .readSigned f | .write f _ => f

/-- The call through the driver: `adis_read_field_u32`, `adis_read_field_s32` or
`adis_write_field_u32`. -/
def toRegCall : FieldCall → RegCall
  | .read f => .readFieldU32 f
  | .readSigned f => .readFieldS32 f
  | .write f v => .writeFieldU32 f v

/-- The call on a store of one variable per field. -/
def onStore : FieldCall → StoreM (AdisField → Nat) RegReply
  | .read f => fun σ => (.ok (.val (σ f)), σ)
  | .readSigned f => fun σ =>
    (.ok (.signed (noOsSignExtend32 (σ f) (noOsFindLastSetBit f.fieldMask))), σ)
  | .write f v => fun σ =>
    if v > noOsFieldGet f.fieldMask f.fieldMask then (.error (-EINVAL), σ)
    else (.ok .done, Function.update σ f v)

end FieldCall

/-- Calls on the store in order until one returns an error. -/
def runStore : List FieldCall → StoreM (AdisField → Nat) (List RegReply)
  | [] => pure []
  | c :: cs => do
    let r ← c.onStore
    let rs ← runStore cs
    pure (r :: rs)

/-- The store holds the value of each field of the family in the world's device, whose
page cache is unknown or right on a bus that completes every transfer. -/
structure FieldRel (fields : List AdisField) (w : World) (σ : AdisField → Nat) : Prop where
  page : PageOk w
  healthy : w.Healthy
  field : ∀ f ∈ fields, w.imu.field f = σ f

/-- A field's value depends on the device's bytes alone. -/
theorem Imu.field_congr {d d' : Imu} (h : d'.mem = d.mem) (f : AdisField) :
    d'.field f = d.field f := by
  simp only [Imu.field, Imu.regVal, Imu.word, h]

/-- A completed signed field read on the right page returns the field's value,
sign-extended from the top bit of the mask. -/
theorem adisReadFieldS32_value {f : AdisField} {w : World} (hs : f.regSize = 2 ∨ f.regSize = 4)
    (hwin : InPage f.regAddr f.regSize) (hp : PageOk w) (hh : w.Healthy) :
    (adisReadFieldS32 f w).1 =
      .ok (noOsSignExtend32 (w.imu.field f) (noOsFindLastSetBit f.fieldMask)) := by
  obtain ⟨⟨data, hn⟩, -⟩ := hh.next
  obtain ⟨v, hv⟩ := adisReadReg_succeeds hs hn
  obtain ⟨rfl, -⟩ := adisReadReg_ok hwin hp hv
  rw [adisReadFieldS32, bind_of_fst_ok hv]
  rfl

section Calls

variable {fields : List AdisField}

/-- A call that refines a computation on the map and writes no byte keeps every
field's variable. -/
theorem FieldRel.of_read {x : Drv α} {a : MapM α} (hx : Refines x a)
    (hm : Keeps (fun w' => w'.imu.mem = w.imu.mem) x) (h : FieldRel fields w σ) :
    FieldRel fields (x w).2 σ := by
  obtain ⟨-, hp, hh, -⟩ := hx w _ ⟨h.page, h.healthy, rfl⟩
  exact ⟨hp, hh, fun f hf => by rw [Imu.field_congr (hm w rfl), h.field f hf]⟩

/-- A write of a value that fits sets its field's variable and keeps every other
field of the family. -/
theorem FieldRel.of_write (hF : FieldFamily fields) {f : AdisField} (hf : f ∈ fields) {v : Nat}
    (hv : v ≤ noOsFieldGet f.fieldMask f.fieldMask) (h : FieldRel fields w σ) :
    (adisWriteFieldU32 f v w).1 = .ok () ∧
      FieldRel fields (adisWriteFieldU32 f v w).2 (Function.update σ f v) := by
  have hwin := hF.inPage f hf
  obtain ⟨hok, hset⟩ := adisWriteFieldU32_set (hF.contig f hf) hwin hv h.page h.healthy
  obtain ⟨-, hp, hh, -⟩ := adisWriteFieldU32_refines (fun _ => hwin.mod256) w _
    ⟨h.page, h.healthy, rfl⟩
  refine ⟨hok, hp, hh, fun g hg => ?_⟩
  by_cases hgf : g = f
  · rw [hgf, hset, Function.update_same]
  · rw [Function.update_noteq hgf, adisWriteFieldU32_field_apart hwin (hF.contig g hg).two_le
      (hF.apart.forall (fun _ _ h => h.symm) hf hg (Ne.symm hgf)) h.page h.healthy, h.field g hg]

/-- One field call simulates its counterpart on the store. -/
theorem FieldCall.sim (hF : FieldFamily fields) :
    ∀ c : FieldCall, c.field ∈ fields → Sim (FieldRel fields) c.toRegCall.exec c.onStore
  | .read f, hf => fun w σ h => by
    have hv := adisReadFieldU32_value (hF.contig f hf).size (hF.inPage f hf) h.page h.healthy
    have h' := h.of_read (adisReadFieldU32_refines fun _ => hF.inPage f hf)
      (adisReadFieldU32_keeps (adisReadReg_mem _ _ _))
    rw [FieldCall.toRegCall, RegCall.exec, bind_of_fst_ok hv]
    exact ⟨by rw [h.field f hf]; rfl, h'⟩
  | .readSigned f, hf => fun w σ h => by
    have hv := adisReadFieldS32_value (hF.contig f hf).size (hF.inPage f hf) h.page h.healthy
    have h' := h.of_read (adisReadFieldS32_refines fun _ => hF.inPage f hf)
      (adisReadFieldS32_keeps (adisReadReg_mem _ _ _))
    rw [FieldCall.toRegCall, RegCall.exec, bind_of_fst_ok hv]
    exact ⟨by rw [h.field f hf]; rfl, h'⟩
  | .write f v, hf => fun w σ h => by
    have hf : f ∈ fields := hf
    rw [FieldCall.toRegCall, RegCall.exec]
    dsimp only [FieldCall.onStore]
    by_cases hv : v > noOsFieldGet f.fieldMask f.fieldMask
    · rw [bind_of_error (adisWriteFieldU32_reject hv w), if_pos hv]
      exact ⟨rfl, h⟩
    · obtain ⟨hok, h'⟩ := h.of_write hF hf (Nat.le_of_not_lt hv)
      rw [bind_of_fst_ok hok, if_neg hv]
      exact ⟨rfl, h'⟩

end Calls

/-- **Apart fields are independent variables.**  For a family of contiguous fields of
2- or 4-byte registers inside one page below 256 clear of the page register, any two
of them in registers that do not meet or bit-disjoint in one register: on a bus that
completes every transfer, from a handle whose page cache is unknown or names the
device's page, every sequence of `adis_read_field_u32`, `adis_read_field_s32` and
`adis_write_field_u32` calls on the family returns what the same calls return on a
store of one variable per field, starting from the fields' values, and leaves each
field of the family holding its variable. -/
theorem runFieldCalls_store {fields : List AdisField} (hF : FieldFamily fields)
    (calls : List FieldCall) (hc : ∀ c ∈ calls, c.field ∈ fields) (w : World) (hp : PageOk w)
    (hh : w.Healthy) :
    (runCalls (calls.map FieldCall.toRegCall) w).1 = (runStore calls w.imu.field).1 ∧
      ∀ f ∈ fields,
        (runCalls (calls.map FieldCall.toRegCall) w).2.imu.field f =
          (runStore calls w.imu.field).2 f := by
  suffices h : Sim (FieldRel fields) (runCalls (calls.map FieldCall.toRegCall)) (runStore calls) from
    (fun ⟨h₁, h₂⟩ => ⟨h₁, h₂.field⟩) (h w _ ⟨hp, hh, fun _ _ => rfl⟩)
  induction calls with
  | nil => exact Sim.pure _
  | cons c cs ih =>
    exact Sim.bind (FieldCall.sim hF c (hc c (List.mem_cons_self _ _))) fun _ =>
      Sim.bind (ih fun c' h => hc c' (List.mem_cons_of_mem _ h)) fun _ => Sim.pure _

/-- `runFieldCalls_store` from a blank device, for the fields at bits 4..11 and 0..3 of
the register at `0x82`: two writes, a read of each, and a write of `16`, too wide for
the 4-bit field. -/
theorem runFieldCalls_store_blank :
    (runCalls ([.write ⟨130, 2, 0xFF0⟩ 5, .write ⟨130, 2, 0xF⟩ 9, .read ⟨130, 2, 0xFF0⟩,
        .readSigned ⟨130, 2, 0xF⟩, .write ⟨130, 2, 0xF⟩ 16].map FieldCall.toRegCall)
        World.blank).1 =
      (runStore [.write ⟨130, 2, 0xFF0⟩ 5, .write ⟨130, 2, 0xF⟩ 9, .read ⟨130, 2, 0xFF0⟩,
        .readSigned ⟨130, 2, 0xF⟩, .write ⟨130, 2, 0xF⟩ 16] World.blank.imu.field).1 ∧
    ∀ f ∈ [(⟨130, 2, 0xFF0⟩ : AdisField), ⟨130, 2, 0xF⟩],
      (runCalls ([.write ⟨130, 2, 0xFF0⟩ 5, .write ⟨130, 2, 0xF⟩ 9, .read ⟨130, 2, 0xFF0⟩,
          .readSigned ⟨130, 2, 0xF⟩, .write ⟨130, 2, 0xF⟩ 16].map FieldCall.toRegCall)
          World.blank).2.imu.field f =
        (runStore [.write ⟨130, 2, 0xFF0⟩ 5, .write ⟨130, 2, 0xF⟩ 9, .read ⟨130, 2, 0xFF0⟩,
          .readSigned ⟨130, 2, 0xF⟩, .write ⟨130, 2, 0xF⟩ 16] World.blank.imu.field).2 f :=
  runFieldCalls_store
    ⟨fun f hf => by
      simp only [List.mem_cons, List.mem_singleton, List.not_mem_nil, or_false] at hf
      rcases hf with rfl | rfl
      · exact ⟨.inl rfl, 8, 4, by decide, by decide, by decide⟩
      · exact ⟨.inl rfl, 4, 0, by decide, by decide, by decide⟩,
     fun f hf => by
      simp only [List.mem_cons, List.mem_singleton, List.not_mem_nil, or_false] at hf
      rcases hf with rfl | rfl <;> exact ⟨by decide, by decide, by decide⟩,
     by decide⟩
    _ (by decide) World.blank (.inr rfl) fun _ h => absurd h (List.not_mem_nil _)

/-- On the store, the two writes and the two reads: `9` in a 4-bit field reads back
signed as `-7`. -/
example : (runStore [.write ⟨130, 2, 0xFF0⟩ 5, .write ⟨130, 2, 0xF⟩ 9, .read ⟨130, 2, 0xFF0⟩,
    .readSigned ⟨130, 2, 0xF⟩] fun _ => 0).1 = .ok [.done, .done, .val 5, .signed (-7)] := rfl

/-! ### The bias round trip -/

/-- Sign extension from bit `i` of a value below `2^(i+1)`: the value itself below
`2^i`, the value less `2^(i+1)` from there. -/
theorem noOsSignExtend32_of_lt {v i : Nat} (h : v < 2 ^ (i + 1)) :
    noOsSignExtend32 v i = if v < 2 ^ i then (v : Int) else v - ((2 ^ (i + 1) : Nat) : Int) := by
  rw [noOsSignExtend32, Nat.mod_eq_of_lt h]
  have hp : 2 ^ (i + 1) = 2 * 2 ^ i := Nat.pow_succ'
  split_ifs with hb hv hv
  · rw [Nat.testBit_lt_two_pow hv] at hb; cases hb
  · norm_cast
  · rfl
  · have h1 : v / 2 ^ i = 1 := Nat.div_eq_of_lt_le (by omega) (by omega)
    rw [Nat.testBit_to_div_mod, h1] at hb
    exact absurd hb (by decide)

/-- The `int32_t` biases that a `w`-bit field holds and gives back: a bias whose
`uint32_t` fits the field and whose sign extension from the field's top bit is itself.
All of them when the field is 32 bits wide, the non-negative ones below `2^(w-1)`
otherwise. -/
theorem int32ToUint32_roundtrip {wd : Nat} {b : Int} (hw : 0 < wd) (hw32 : wd ≤ 32)
    (hb : -2 ^ 31 ≤ b ∧ b < 2 ^ 31) :
    (int32ToUint32 b ≤ 2 ^ wd - 1 ∧ noOsSignExtend32 (int32ToUint32 b) (wd - 1) = b) ↔
      wd = 32 ∨ 0 ≤ b ∧ b < 2 ^ (wd - 1) := by
  obtain ⟨i, rfl⟩ : ∃ i, wd = i + 1 := ⟨wd - 1, by omega⟩
  have h32 : i + 1 = 32 ↔ 2 ^ i = 2 ^ 31 := ⟨fun h => by rw [show i = 31 by omega],
    fun h => by have := Nat.pow_right_injective (le_refl 2) h; omega⟩
  have hle : 2 ^ i ≤ 2 ^ 31 := Nat.pow_le_pow_right (by decide) (by omega)
  have hpos := @Nat.one_le_two_pow i
  have hv : (int32ToUint32 b : Int) = if b < 0 then b + 2 ^ 32 else b := by
    unfold int32ToUint32; split_ifs <;> omega
  have hcast : (2 : Int) ^ i = ((2 ^ i : Nat) : Int) := by norm_cast
  have hsucc : 2 ^ (i + 1) = 2 ^ i * 2 := Nat.pow_succ _ _
  rw [Nat.add_sub_cancel, h32, hcast, hsucc]
  by_cases hlt : int32ToUint32 b < 2 ^ i * 2
  · rw [noOsSignExtend32_of_lt (hsucc ▸ hlt), hsucc]
    clear h32 hcast hsucc
    generalize 2 ^ i = P at *
    split_ifs at hv ⊢ <;> omega
  · clear h32 hcast hsucc
    generalize 2 ^ i = P at *
    split_ifs at hv <;> omega

/-- The bias writer and the signed read after it: a bias whose `uint32_t` fits the field is
written, and reads back sign-extended from the field's top bit. -/
theorem adisWriteBias_readS32 {reg size wd : Nat} {b : Int} (hs : size = 2 ∨ size = 4)
    (hw : 0 < wd) (hws : wd ≤ 8 * size) (hwin : InPage reg size)
    (hv : int32ToUint32 b ≤ 2 ^ wd - 1) (w : World) (hp : PageOk w) (hh : w.Healthy) :
    (adisWriteBias ⟨reg, size, contigMask wd 0⟩ b w).1 = .ok () ∧
      (adisReadFieldS32 ⟨reg, size, contigMask wd 0⟩ (adisWriteBias ⟨reg, size, contigMask wd 0⟩ b w).2).1 =
        .ok (noOsSignExtend32 (int32ToUint32 b) (wd - 1)) := by
  have h32 : 0 + wd ≤ 32 := by omega
  rw [adisWriteBias]
  have hf : AdisField.Contig ⟨reg, size, contigMask wd 0⟩ :=
    ⟨hs, wd, 0, hw, show 0 + wd ≤ 8 * size by omega, rfl⟩
  obtain ⟨hok, hset⟩ := adisWriteFieldU32_set hf hwin
    (show int32ToUint32 b ≤ _ by rwa [noOsFieldGet_contigMask_self hw h32]) hp hh
  obtain ⟨-, hp', hh', -⟩ := @adisWriteFieldU32_refines ⟨reg, size, contigMask wd 0⟩ (int32ToUint32 b)
    (fun _ => hwin.mod256) w _ ⟨hp, hh, rfl⟩
  refine ⟨hok, ?_⟩
  rw [adisReadFieldS32_value hs hwin hp' hh', hset, noOsFindLastSetBit_contigMask hw h32, Nat.zero_add]

end AdisImu
