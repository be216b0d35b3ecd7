/-
# The register map behind the transport

`src/drivers/imu/adis.c`, lines 224-486.  Above `adis_read_reg` and `adis_write_reg`
the driver treats the device as byte registers: `adis_update_bits_base` reads a
register and writes it back with the bits of a mask replaced, `adis_read_field_u32`
and `adis_read_field_s32` extract a field from a register read, and
`adis_write_field_u32` checks a value against its field and updates the field.  The
page register, the page cache, the frames and the device's registered read port are
the transport's business.

This module states that view as an abstract machine, `MapM`: a byte store
`Nat → Nat` on which a register read returns the word at `reg` (2 bytes) or the word
at `reg + 2` over it (4 bytes), a write stores byte `i` of its value at `reg + i`,
and the only errors are the transport's size checks and the field's range check, all
`-EINVAL`.  `Sim R x a` says that the driver call `x` returns what the abstract
computation `a` returns and keeps the relation `R` between world and abstract state;
it composes through `bind`.  `Refines` is `Sim` under `MapRel`: the map is the device's
bytes, the bus completes every transfer, and the page cache is unknown or right.  The
two transport functions refine the map's read and write (`adisReadReg_refines`,
`adisWriteReg_refines`), and from them every register and field call
(`RegCall.refines`) and every sequence of them (`runCalls_refine_map`), for register
windows inside one page below 256 clear of the page register.
-/

import AdisImu.PageCache

namespace AdisImu

open Drv

/-- A computation on an abstract state: what it returns, and the state after it; an
error leaves the state as it was at the failure. -/
def StoreM (σ α : Type) : Type := σ → Except Int α × σ

namespace StoreM

instance : Monad (StoreM σ) where
  pure a s := (.ok a, s)
  bind x f s :=
    match x s with
    | (.ok a, s') => f a s'
    | (.error e, s') => (.error e, s')

/-- `return -e;` on the abstract state. -/
def fail (e : Int) : StoreM σ α := fun s => (.error e, s)

theorem bind_apply (x : StoreM σ α) (f : α → StoreM σ β) (s : σ) :
    (x >>= f) s = match x s with
      | (.ok a, s') => f a s'
      | (.error e, s') => (.error e, s') := rfl

theorem bind_of_fst_ok {x : StoreM σ α} {f : α → StoreM σ β} {s : σ} {a : α}
    (h : (x s).1 = .ok a) : (x >>= f) s = f a (x s).2 := by
  rw [bind_apply]
  generalize x s = p at h ⊢
  obtain ⟨r, s'⟩ := p
  dsimp only at h
  subst h
  rfl

end StoreM

/-- A computation on the register map, a store of bytes. -/
abbrev MapM := StoreM (Nat → Nat)

namespace RegMap

/-- The 16-bit word at byte address `a`, low byte first. -/
def word (m : Nat → Nat) (a : Nat) : Nat := 256 * m (a + 1) + m a

/-- A register read: the word at `reg` for 2 bytes, the word at `reg + 2` over the word
at `reg` for 4 bytes, `-EINVAL` for any other size. -/
def readReg (reg size : Nat) : MapM Nat := fun m =>
  (if size = 2 then .ok (word m reg)
    else if size = 4 then .ok (word m (reg + 2) * 2 ^ 16 + word m reg)
    else .error (-EINVAL), m)

/-- A register write: byte `i` of `val` at `reg + i` for `i < size`, for sizes 4, 2 and
1; `-EINVAL` for any other size. -/
def writeReg (reg val size : Nat) : MapM Unit := fun m =>
  if size = 4 ∨ size = 2 ∨ size = 1 then
    (.ok (), fun a => if reg ≤ a ∧ a < reg + size then val / 256 ^ (a - reg) % 256 else m a)
  else (.error (-EINVAL), m)

/-- A read-modify-write: the register with the bits of `mask` replaced by `val`. -/
def updateBitsBase (reg mask val size : Nat) : MapM Unit := do
  let old ← readReg reg size
  writeReg reg (maskedUpdate mask old val) size

/-- A field's bits of its register. -/
def readFieldU32 (field : AdisField) : MapM Nat := do
  let regVal ← readReg field.regAddr field.regSize
  pure (noOsFieldGet field.fieldMask regVal)

/-- A field's bits, sign-extended from the highest bit of its mask. -/
def readFieldS32 (field : AdisField) : MapM Int := do
  let regVal ← readReg field.regAddr field.regSize
  pure (noOsSignExtend32 (noOsFieldGet field.fieldMask regVal) (noOsFindLastSetBit field.fieldMask))

/-- A value wider than the field is `-EINVAL`; any other replaces the field's bits. -/
def writeFieldU32 (field : AdisField) (val : Nat) : MapM Unit :=
  if val > noOsFieldGet field.fieldMask field.fieldMask then StoreM.fail (-EINVAL)
  else updateBitsBase field.regAddr field.fieldMask val (field.regSize % 256)

theorem readReg_mem {d : Imu} {reg size : Nat} (hs : size = 2 ∨ size = 4) :
    readReg reg size d.mem = (.ok (d.regVal reg size), d.mem) := by
  rcases hs with rfl | rfl <;> rfl

theorem readReg_bad {reg size : Nat} (hs : ¬(size = 2 ∨ size = 4)) (m : Nat → Nat) :
    readReg reg size m = (.error (-EINVAL), m) := by
  rw [readReg, if_neg (by omega), if_neg (by omega)]

end RegMap

/-! ### Simulation -/

/-- `x` simulates `a` under `R`: from a world and a state that `R` relates, `x` returns
what `a` returns, and the world and the state after them are related again. -/
def Sim (R : World → σ → Prop) (x : Drv α) (a : StoreM σ α) : Prop :=
  ∀ w s, R w s → (x w).1 = (a s).1 ∧ R (x w).2 (a s).2

namespace Sim

variable {R : World → σ → Prop}

theorem pure (v : α) : Sim R (Pure.pure v : Drv α) (Pure.pure v) := fun _ _ h => ⟨rfl, h⟩

theorem fail (e : Int) : Sim R (Drv.fail e : Drv α) (StoreM.fail e) := fun _ _ h => ⟨rfl, h⟩

/-- `bind` at one pair of states: where `x` and `a` agree and leave related states,
so do `x >>= f` and `a >>= b`. -/
theorem bind_at {x : Drv α} {a : StoreM σ α} {f : α → Drv β} {b : α → StoreM σ β} {w : World}
    {s : σ} (h₁ : (x w).1 = (a s).1) (h₂ : R (x w).2 (a s).2) (hf : ∀ v, Sim R (f v) (b v)) :
    ((x >>= f) w).1 = ((a >>= b) s).1 ∧ R ((x >>= f) w).2 ((a >>= b) s).2 := by
  rw [Drv.bind_apply, StoreM.bind_apply]
  generalize x w = p at h₁ h₂ ⊢
  generalize a s = q at h₁ h₂ ⊢
  obtain ⟨r, w'⟩ := p
  obtain ⟨r', s'⟩ := q
  dsimp only at h₁ h₂
  subst h₁
  cases r with
  | error e => exact ⟨rfl, h₂⟩
  | ok v => exact hf v w' s' h₂

theorem bind {x : Drv α} {a : StoreM σ α} {f : α → Drv β} {b : α → StoreM σ β} (hx : Sim R x a)
    (hf : ∀ v, Sim R (f v) (b v)) : Sim R (x >>= f) (a >>= b) := fun w s h =>
  bind_at (hx w s h).1 (hx w s h).2 hf

theorem ite {c : Prop} [Decidable c] {x y : Drv α} {a b : StoreM σ α} (hx : Sim R x a)
    (hy : Sim R y b) : Sim R (if c then x else y) (if c then a else b) := by
  split <;> assumption

end Sim

/-- The map is the device's bytes, the page cache is unknown or right, and the bus
completes every transfer. -/
structure MapRel (w : World) (m : Nat → Nat) : Prop where
  page : PageOk w
  healthy : w.Healthy
  mem : w.imu.mem = m

/-- `x` refines `a`: it simulates `a` on the device's bytes. -/
def Refines (x : Drv α) (a : MapM α) : Prop := Sim MapRel x a

/-! ### The transport and the field calls -/

/-- **`adis_read_reg` refines the map's read**, a rejected size included. -/
theorem adisReadReg_refines {reg size : Nat} (hwin : size = 2 ∨ size = 4 → InPage reg size) :
    Refines (adisReadReg reg size) (RegMap.readReg reg size) := fun w _ h => by
  obtain ⟨hp, hh, rfl⟩ := h
  by_cases hs : size = 2 ∨ size = 4
  · obtain ⟨⟨data, hn⟩, -⟩ := hh.next
    obtain ⟨v, hv⟩ := adisReadReg_succeeds hs hn
    obtain ⟨rfl, hmem, hpage, hcur⟩ := adisReadReg_ok (hwin hs) hp hv
    rw [RegMap.readReg_mem hs, hv]
    exact ⟨rfl, .inr (by rw [hcur, hpage]), adisReadReg_busAll _ _ _ w hh, hmem⟩
  · rw [adisReadReg_bad_size hs, RegMap.readReg_bad hs]
    exact ⟨rfl, hp, hh, rfl⟩

/-- **`adis_write_reg` refines the map's write**, a rejected size included. -/
theorem adisWriteReg_refines {reg val size : Nat}
    (hwin : size = 1 ∨ size = 2 ∨ size = 4 → InPage reg size) :
    Refines (adisWriteReg reg val size) (RegMap.writeReg reg val size) := fun w _ h => by
  obtain ⟨hp, hh, rfl⟩ := h
  by_cases hs : size = 1 ∨ size = 2 ∨ size = 4
  · obtain ⟨⟨data, hn⟩, -⟩ := hh.next
    have hok := @adisWriteReg_succeeds reg val size w data hs hn
    obtain ⟨hmem, hpage, hcur⟩ := adisWriteReg_ok (hwin hs) hp hok
    rw [RegMap.writeReg, if_pos (by omega), hok]
    exact ⟨rfl, .inr (by rw [hcur, hpage]), adisWriteReg_busAll _ _ _ _ w hh, funext hmem⟩
  · rw [adisWriteReg_bad_size hs, RegMap.writeReg, if_neg (by omega)]
    exact ⟨rfl, hp, hh, rfl⟩

/-- The read-modify-write: its write is reached only after a read of an accepted size. -/
theorem adisUpdateBitsBase_refines {reg mask val size : Nat}
    (hwin : size = 2 ∨ size = 4 → InPage reg size) :
    Refines (adisUpdateBitsBase reg mask val size) (RegMap.updateBitsBase reg mask val size) := by
  by_cases hs : size = 2 ∨ size = 4
  · exact Sim.bind (adisReadReg_refines hwin) fun _ => adisWriteReg_refines fun _ => hwin hs
  · intro w _ h
    rw [adisUpdateBitsBase, bind_of_error (adisReadReg_bad_size hs w), RegMap.updateBitsBase,
      StoreM.bind_apply, RegMap.readReg_bad hs]
    exact ⟨rfl, h⟩

section Fields

variable {f : AdisField}

theorem adisReadFieldU32_refines (hwin : f.regSize = 2 ∨ f.regSize = 4 → InPage f.regAddr f.regSize) :
    Refines (adisReadFieldU32 f) (RegMap.readFieldU32 f) :=
  Sim.bind (adisReadReg_refines hwin) fun _ => Sim.pure _

theorem adisReadFieldS32_refines (hwin : f.regSize = 2 ∨ f.regSize = 4 → InPage f.regAddr f.regSize) :
    Refines (adisReadFieldS32 f) (RegMap.readFieldS32 f) :=
  Sim.bind (adisReadReg_refines hwin) fun _ => Sim.pure _

theorem adisWriteFieldU32_refines {v : Nat}
    (hwin : f.regSize % 256 = 2 ∨ f.regSize % 256 = 4 → InPage f.regAddr (f.regSize % 256)) :
    Refines (adisWriteFieldU32 f v) (RegMap.writeFieldU32 f v) :=
  Sim.ite (Sim.fail _) (adisUpdateBitsBase_refines hwin)

end Fields

/-! ### Calls and runs of calls -/

/-- What a register or field call hands back to its client. -/
inductive RegReply
  | val (v : Nat)
  | signed (v : Int)
  | done
deriving DecidableEq, Repr

/-- A client's call on the registers. -/
inductive RegCall
  | readReg (reg size : Nat)
  | writeReg (reg val size : Nat)
  | updateBitsBase (reg mask val size : Nat)
  | readFieldU32 (field : AdisField)
  | readFieldS32 (field : AdisField)
  | writeFieldU32 (field : AdisField) (val : Nat)
deriving DecidableEq, Repr

/-- The register window of a call lies inside one page below 256, clear of the page
register, whenever the transport accepts the call's size. -/
def RegCall.Windowed : RegCall → Prop
  | .readReg reg size | .updateBitsBase reg _ _ size => size = 2 ∨ size = 4 → InPage reg size
  | .writeReg reg _ size => size = 1 ∨ size = 2 ∨ size = 4 → InPage reg size
  | .readFieldU32 f | .readFieldS32 f =>
    f.regSize = 2 ∨ f.regSize = 4 → InPage f.regAddr f.regSize
  | .writeFieldU32 f _ =>
    f.regSize % 256 = 2 ∨ f.regSize % 256 = 4 → InPage f.regAddr (f.regSize % 256)

/-- The call through the driver. -/
def RegCall.exec : RegCall → Drv RegReply
  | .readReg reg size => do let v ← adisReadReg reg size; pure (.val v)
  | .writeReg reg val size => do adisWriteReg reg val size; pure .done
  | .updateBitsBase reg mask val size => do adisUpdateBitsBase reg mask val size; pure .done
  | .readFieldU32 f => do let v ← adisReadFieldU32 f; pure (.val v)
  | .readFieldS32 f => do let v ← adisReadFieldS32 f; pure (.signed v)
  | .writeFieldU32 f val => do adisWriteFieldU32 f val; pure .done

/-- The call on the register map. -/
def RegCall.onMap : RegCall → MapM RegReply
  | .readReg reg size => do let v ← RegMap.readReg reg size; pure (.val v)
  | .writeReg reg val size => do RegMap.writeReg reg val size; pure .done
  | .updateBitsBase reg mask val size => do RegMap.updateBitsBase reg mask val size; pure .done
  | .readFieldU32 f => do let v ← RegMap.readFieldU32 f; pure (.val v)
  | .readFieldS32 f => do let v ← RegMap.readFieldS32 f; pure (.signed v)
  | .writeFieldU32 f val => do RegMap.writeFieldU32 f val; pure .done

/-- Calls in order until one returns an error, as a client that checks every return
does; the replies of the calls made. -/
def runCalls : List RegCall → Drv (List RegReply)
  | [] => pure []
  | c :: cs => do
    let r ← c.exec
    let rs ← runCalls cs
    pure (r :: rs)

/-- The same calls on the register map. -/
def runOnMap : List RegCall → MapM (List RegReply)
  | [] => pure []
  | c :: cs => do
    let r ← c.onMap
    let rs ← runOnMap cs
    pure (r :: rs)

/-- One call refines its counterpart on the map. -/
theorem RegCall.refines : ∀ c : RegCall, c.Windowed → Refines c.exec c.onMap
  | .readReg _ _, h => Sim.bind (adisReadReg_refines h) fun _ => Sim.pure _
  | .writeReg _ _ _, h => Sim.bind (adisWriteReg_refines h) fun _ => Sim.pure _
  | .updateBitsBase _ _ _ _, h => Sim.bind (adisUpdateBitsBase_refines h) fun _ => Sim.pure _
  | .readFieldU32 _, h => Sim.bind (adisReadFieldU32_refines h) fun _ => Sim.pure _
  | .readFieldS32 _, h => Sim.bind (adisReadFieldS32_refines h) fun _ => Sim.pure _
  | .writeFieldU32 _ _, h => Sim.bind (adisWriteFieldU32_refines h) fun _ => Sim.pure _

/-- A run of calls inside their windows refines the same calls on the map. -/
theorem runCalls_refines : ∀ calls : List RegCall, (∀ c ∈ calls, c.Windowed) →
    Refines (runCalls calls) (runOnMap calls)
  | [], _ => Sim.pure _
  | c :: cs, hwin => Sim.bind (c.refines (hwin c (List.mem_cons_self _ _))) fun _ =>
    Sim.bind (runCalls_refines cs fun c' hc => hwin c' (List.mem_cons_of_mem _ hc)) fun _ =>
      Sim.pure _

/-- **The driver's register and field calls refine the register map.**  On a bus that
completes every transfer, from a handle whose page cache is unknown or names the
device's page, every sequence of `adis_read_reg`, `adis_write_reg`,
`adis_update_bits_base`, `adis_read_field_u32`, `adis_read_field_s32` and
`adis_write_field_u32` calls whose windows lie inside one page below 256 clear of the
page register returns what the same calls return on the device's bytes taken as a
register map, `-EINVAL` rejections included, leaves the device's bytes equal to the
map's, and leaves the cache right. -/
theorem runCalls_refine_map (calls : List RegCall) (hwin : ∀ c ∈ calls, c.Windowed) (w : World)
    (hp : PageOk w) (hh : w.Healthy) :
    (runCalls calls w).1 = (runOnMap calls w.imu.mem).1 ∧
      (runCalls calls w).2.imu.mem = (runOnMap calls w.imu.mem).2 ∧
      PageOk (runCalls calls w).2 := by
  obtain ⟨h₁, h₂⟩ := runCalls_refines calls hwin w _ ⟨hp, hh, rfl⟩
  exact ⟨h₁, h₂.mem, h₂.page⟩

/-- `runCalls_refine_map` from a blank device: a write of `5` to the field at bits 4..11
of the register at `0x82`, its read back, and a 3-byte read the transport rejects. -/
theorem runCalls_refine_map_blank :
    (runCalls [.writeFieldU32 ⟨130, 2, 0xFF0⟩ 5, .readFieldU32 ⟨130, 2, 0xFF0⟩, .readReg 130 3]
        World.blank).1 =
      (runOnMap [.writeFieldU32 ⟨130, 2, 0xFF0⟩ 5, .readFieldU32 ⟨130, 2, 0xFF0⟩, .readReg 130 3]
        World.blank.imu.mem).1 ∧
    (runCalls [.writeFieldU32 ⟨130, 2, 0xFF0⟩ 5, .readFieldU32 ⟨130, 2, 0xFF0⟩, .readReg 130 3]
        World.blank).2.imu.mem =
      (runOnMap [.writeFieldU32 ⟨130, 2, 0xFF0⟩ 5, .readFieldU32 ⟨130, 2, 0xFF0⟩, .readReg 130 3]
        World.blank.imu.mem).2 ∧
    PageOk (runCalls [.writeFieldU32 ⟨130, 2, 0xFF0⟩ 5, .readFieldU32 ⟨130, 2, 0xFF0⟩,
        .readReg 130 3] World.blank).2 :=
  runCalls_refine_map _ (fun c hc => by
    simp only [List.mem_cons, List.mem_singleton, List.not_mem_nil, or_false] at hc
    rcases hc with rfl | rfl | rfl <;> exact fun _ => ⟨by decide, by decide, by decide⟩)
    World.blank (.inr rfl) fun _ h => absurd h (List.not_mem_nil _)

/-- On the map, the field write then read gives back `5`; the 3-byte read is `-EINVAL`. -/
example : (runOnMap [.writeFieldU32 ⟨130, 2, 0xFF0⟩ 5, .readFieldU32 ⟨130, 2, 0xFF0⟩]
    Imu.blank.mem).1 = .ok [.done, .val 5] := rfl

end AdisImu
