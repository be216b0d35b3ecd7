/-
# Settle delays come last, and only after a write went through

`src/drivers/imu/adis.c`.  The setters of fields that the device takes time to apply
(`adis_write_filt_size_var_b`, `adis_write_dr_polarity`, `adis_write_sens_bw`, … ) and
the self-test and reset commands wait with `no_os_udelay` or `no_os_mdelay` after their
write has returned `0`, and return before waiting when it has not.  So every call a
client makes, the start-up apart, hands the bus its transfers and then waits at most
once, at the very end and only when it succeeds (`SettlesLast`); and the settled and
bounded setters wait exactly when they succeed (`calls_settle`).  A rejected value and
a failed transfer cost no delay.
-/

import AdisImu.Lifecycle

namespace AdisImu

open Drv

/-- An event on the bus: a frame of a register transfer or a burst exchange. -/
def Event.onBus : Event → Bool
  | .frame _ | .burst _ => true
  | _ => false

/-- A delay. -/
def Event.isDelay : Event → Bool
  | .mdelay _ | .udelay _ => true
  | _ => false

/-- `x` issues bus events only. -/
def BusOnly (x : Drv α) : Prop := ∀ w, ∃ l, (∀ e ∈ l, e.onBus) ∧ (x w).2.log = w.log ++ l

/-- `x` issues bus events and then waits with `d` exactly when it succeeds. -/
def SettlesWith (d : Event) (x : Drv α) : Prop :=
  ∀ w, ∃ l, (∀ e ∈ l, e.onBus) ∧
    (x w).2.log = w.log ++ l ++ (match (x w).1 with | .ok _ => [d] | .error _ => [])

/-- `x` issues bus events and then at most one delay, which it issues only when it
succeeds. -/
def SettlesLast (x : Drv α) : Prop :=
  ∀ w, ∃ l, (∀ e ∈ l, e.onBus) ∧ ((x w).2.log = w.log ++ l ∨
    ∃ d a, d.isDelay ∧ (x w).1 = .ok a ∧ (x w).2.log = w.log ++ l ++ [d])

/-! ### The combinators -/

namespace BusOnly

theorem of_log {x : Drv α} (h : ∀ w, (x w).2.log = w.log) : BusOnly x :=
  fun w => ⟨[], fun _ h => absurd h (List.not_mem_nil _), by rw [h, List.append_nil]⟩

theorem pure (a : α) : BusOnly (Pure.pure a : Drv α) := of_log fun _ => rfl

theorem fail (e : Int) : BusOnly (Drv.fail e : Drv α) := of_log fun _ => rfl

theorem dev : BusOnly Drv.dev := of_log fun _ => rfl

theorem udiv (a b : Nat) : BusOnly (Drv.udiv a b) := of_log fun _ => rfl

theorem setDev (f : AdisDev → AdisDev) : BusOnly (Drv.setDev f) := of_log fun _ => rfl

theorem bind {x : Drv α} {f : α → Drv β} (hx : BusOnly x) (hf : ∀ a, BusOnly (f a)) :
    BusOnly (x >>= f) := fun w => by
  obtain ⟨l₁, hb₁, hl₁⟩ := hx w
  rw [bind_apply]
  split <;> rename_i hr <;> rw [hr] at hl₁
  · obtain ⟨l₂, hb₂, hl₂⟩ := hf _ _
    exact ⟨l₁ ++ l₂, List.forall_mem_append.2 ⟨hb₁, hb₂⟩, by rw [hl₂, hl₁, List.append_assoc]⟩
  · exact ⟨l₁, hb₁, hl₁⟩

theorem ite {c : Prop} [Decidable c] {x y : Drv α} (hx : BusOnly x) (hy : BusOnly y) :
    BusOnly (if c then x else y) := by
  split <;> assumption

end BusOnly

namespace SettlesLast

theorem of_busOnly {x : Drv α} (h : BusOnly x) : SettlesLast x := fun w =>
  let ⟨l, hb, hl⟩ := h w
  ⟨l, hb, .inl hl⟩

end SettlesLast

namespace SettlesWith

variable {d : Event}

theorem fail (e : Int) : SettlesWith d (Drv.fail e : Drv α) :=
  fun _ => ⟨[], fun _ h => absurd h (List.not_mem_nil _), by simp⟩

theorem delay (d : Event) : SettlesWith d (Drv.emit d) :=
  fun _ => ⟨[], fun _ h => absurd h (List.not_mem_nil _), by simp⟩

/-- Bus events first, then a call that waits with `d` exactly when it succeeds. -/
theorem bind_busOnly {x : Drv α} {f : α → Drv β} (hx : BusOnly x) (hf : ∀ a, SettlesWith d (f a)) :
    SettlesWith d (x >>= f) := fun w => by
  obtain ⟨l₁, hb₁, hl₁⟩ := hx w
  rw [bind_apply]
  split <;> rename_i hr <;> rw [hr] at hl₁
  · obtain ⟨l₂, hb₂, hl₂⟩ := hf _ _
    exact ⟨l₁ ++ l₂, List.forall_mem_append.2 ⟨hb₁, hb₂⟩, by
      rw [hl₂, hl₁]; simp only [List.append_assoc]⟩
  · exact ⟨l₁, hb₁, by rw [hl₁, List.append_nil]⟩

theorem ite {c : Prop} [Decidable c] {x y : Drv α} (hx : SettlesWith d x) (hy : SettlesWith d y) :
    SettlesWith d (if c then x else y) := by
  split <;> assumption

/-- A call that waits with a delay exactly when it succeeds waits at most once, last. -/
theorem settlesLast {x : Drv α} (hd : d.isDelay) (h : SettlesWith d x) : SettlesLast x := fun w => by
  obtain ⟨l, hb, hl⟩ := h w
  refine ⟨l, hb, ?_⟩
  revert hl
  cases (x w).1 with
  | ok a => exact fun hl => .inr ⟨d, a, hd, rfl, hl⟩
  | error e => exact fun hl => .inl (by rw [hl, List.append_nil])

end SettlesWith

/-! ### The transfers and the calls that only transfer -/

theorem noOsSpiTransfer_busOnly (msgs : List SpiMsg) : BusOnly (noOsSpiTransfer msgs) :=
  fun w => ⟨msgs.map fun m => Event.frame m.tx, by simp [Event.onBus], by
    unfold noOsSpiTransfer; split <;> rfl⟩

theorem noOsSpiWriteAndRead_busOnly (len : Nat) : BusOnly (noOsSpiWriteAndRead len) :=
  fun w => ⟨[.burst len], by simp [Event.onBus], by unfold noOsSpiWriteAndRead; split <;> rfl⟩

section Calls

variable (info : AdisChipInfo)

theorem adisReadReg_busOnly (reg size : Nat) : BusOnly (adisReadReg reg size) :=
  BusOnly.dev.bind fun _ => by
    split
    · exact .fail _
    · exact (noOsSpiTransfer_busOnly _).bind fun _ => (BusOnly.setDev _).bind fun _ => by
        split <;> exact .pure _

theorem adisWriteReg_busOnly (reg val size : Nat) : BusOnly (adisWriteReg reg val size) :=
  BusOnly.dev.bind fun _ => by
    split
    · exact .fail _
    · exact (noOsSpiTransfer_busOnly _).bind fun _ => .setDev _

theorem adisReadFieldU32_busOnly (field : AdisField) : BusOnly (adisReadFieldU32 field) :=
  (adisReadReg_busOnly _ _).bind fun _ => .pure _

theorem adisWriteFieldU32_busOnly (field : AdisField) (val : Nat) :
    BusOnly (adisWriteFieldU32 field val) :=
  .ite (.fail _) ((adisReadReg_busOnly _ _).bind fun _ => adisWriteReg_busOnly _ _ _)

theorem adisReadDiagStat_busOnly : BusOnly (adisReadDiagStat info) :=
  (adisReadReg_busOnly _ _).bind fun _ => (BusOnly.setDev _).bind fun _ =>
    BusOnly.dev.bind fun _ => .pure _

theorem adisReadBurstData_busOnly (n : Nat) (buf : List Nat) (sel : Fin 2) :
    BusOnly (adisReadBurstData info n buf sel) :=
  (noOsSpiWriteAndRead_busOnly _).bind fun _ => .ite ((BusOnly.setDev _).bind fun _ => .fail _)
    ((BusOnly.setDev _).bind fun _ => (BusOnly.setDev _).bind fun _ => .pure _)

theorem adisReadFlsMemWrCntr_busOnly : BusOnly (adisReadFlsMemWrCntr info) :=
  (adisReadFieldU32_busOnly _).bind fun _ =>
    .ite ((BusOnly.setDev _).bind fun _ => .pure _) ((BusOnly.pure _).bind fun _ => .pure _)

theorem adisWriteUpScale_busOnly (upScale : Nat) : BusOnly (adisWriteUpScale info upScale) :=
  (adisReadFieldU32_busOnly _).bind fun _ => BusOnly.dev.bind fun _ =>
    .ite (.fail _) (adisWriteFieldU32_busOnly _ _)

theorem adisWriteSyncMode_busOnly (syncMode extClk : Nat) :
    BusOnly (adisWriteSyncMode info syncMode extClk) :=
  have hF := adisWriteFieldU32_busOnly (info.fieldMap .syncMode) syncMode
  .ite (.fail _) <| .ite (.ite (.fail _) <| (BusOnly.setDev _).bind fun _ =>
      .ite (BusOnly.dev.bind fun _ => (BusOnly.udiv _ _).bind fun _ =>
          (adisWriteUpScale_busOnly info _).bind fun _ => hF)
        ((BusOnly.pure _).bind fun _ => hF))
    ((BusOnly.setDev _).bind fun _ => hF)

/-! ### The calls that wait -/

theorem adisWriteSettled_settlesWith (field : AdisField) (d : Event) (val : Nat) :
    SettlesWith d (adisWriteSettled field (Drv.emit d) val) :=
  .bind_busOnly (adisWriteFieldU32_busOnly _ _) fun _ => .delay d

theorem adisWriteBounded_settlesWith (field : AdisField) (max : Nat) (d : Event) (val : Nat) :
    SettlesWith d (adisWriteBounded field max (Drv.emit d) val) :=
  .ite (.fail _) (adisWriteSettled_settlesWith field d val)

theorem adisCmdSnsrSelfTest_settlesWith :
    SettlesWith (.mdelay info.timeouts.selfTestMs) (adisCmdSnsrSelfTest info) :=
  .bind_busOnly (adisWriteReg_busOnly _ _ _) fun _ => .delay _

theorem adisCmdSwRes_settlesWith : SettlesWith (.mdelay info.timeouts.swResetMs) (adisCmdSwRes info) :=
  .bind_busOnly (adisWriteReg_busOnly _ _ _) fun _ =>
    .bind_busOnly (.of_log fun _ => rfl) fun _ => .delay _

theorem ConfigOp.run_settlesLast : ∀ op : ConfigOp, SettlesLast (op.run info)
  | .writeXgBias _ | .writeYgBias _ | .writeZgBias _ | .writeXaBias _ | .writeYaBias _
  | .writeZaBias _ | .writeUsrScr1 _ | .writeUsrScr2 _ | .writeUsrScr3 _ =>
    .of_busOnly (adisWriteFieldU32_busOnly _ _)
  | .writeFiltSizeVarB _ | .writeDrPolarity _ | .writeSyncPolarity _ | .writeDecRate _ =>
    (adisWriteBounded_settlesWith _ _ _ _).settlesLast (by rfl)
  | .writeSensBw _ | .writePtOfPercAlgnmt _ | .writeLinearAcclComp _ | .writeBurstSel _
  | .writeBurst32 _ => (adisWriteSettled_settlesWith _ _ _).settlesLast (by rfl)
  | .writeSyncMode _ _ => .of_busOnly (adisWriteSyncMode_busOnly info _ _)
  | .writeUpScale _ => .of_busOnly (adisWriteUpScale_busOnly info _)
  | .updateExtClkFreq _ =>
    .of_busOnly ((adisReadFieldU32_busOnly _).bind fun _ => .ite (.fail _) (.setDev _))

theorem Op.exec_settlesLast : ∀ op : Op, op ≠ .initialStartup → SettlesLast (op.exec info)
  | .readReg _ _, _ => .of_busOnly ((adisReadReg_busOnly _ _).bind fun _ => .pure _)
  | .writeReg _ _ _, _ => .of_busOnly (adisWriteReg_busOnly _ _ _)
  | .updateBitsBase _ _ _ _, _ =>
    .of_busOnly ((adisReadReg_busOnly _ _).bind fun _ => adisWriteReg_busOnly _ _ _)
  | .readFieldU32 _, _ => .of_busOnly ((adisReadFieldU32_busOnly _).bind fun _ => .pure _)
  | .readFieldS32 _, _ =>
    .of_busOnly (((adisReadReg_busOnly _ _).bind fun _ => .pure _).bind fun _ => .pure _)
  | .readDiagStat, _ => .of_busOnly ((adisReadDiagStat_busOnly info).bind fun _ => .pure _)
  | .readBurstData _ _ _, _ =>
    .of_busOnly ((adisReadBurstData_busOnly info _ _ _).bind fun _ => .pure _)
  | .readFlsMemWrCntr, _ => .of_busOnly ((adisReadFlsMemWrCntr_busOnly info).bind fun _ => .pure _)
  | .config op, _ => ConfigOp.run_settlesLast info op
  | .cmdFactCalibRestore, _ | .cmdFlsMemTest, _ => .of_busOnly (adisWriteReg_busOnly _ _ _)
  | .cmdSnsrSelfTest, _ => (adisCmdSnsrSelfTest_settlesWith info).settlesLast (by rfl)
  | .cmdFlsMemUpdate, _ => .of_busOnly ((adisWriteReg_busOnly _ _ _).bind fun _ =>
    (adisReadFlsMemWrCntr_busOnly info).bind fun _ => .pure _)
  | .cmdSwRes, _ => (adisCmdSwRes_settlesWith info).settlesLast (by rfl)
  | .initialStartup, h => absurd rfl h

end Calls

/-- **Settle delays come last, and only after a write went through.**  Every call a client
makes but the start-up, from any handle and device state and whatever the bus does,
hands the bus its transfers and then waits at most once, last, and only when it
succeeds.  The settled and bounded setters and the self-test and reset commands wait
with their own delay exactly when they succeed. -/
theorem calls_settle (info : AdisChipInfo) :
    (∀ op : Op, op ≠ .initialStartup → SettlesLast (op.exec info)) ∧
      (∀ (field : AdisField) (max val : Nat) (d : Event),
        SettlesWith d (adisWriteSettled field (Drv.emit d) val) ∧
          SettlesWith d (adisWriteBounded field max (Drv.emit d) val)) ∧
      SettlesWith (.mdelay info.timeouts.selfTestMs) (adisCmdSnsrSelfTest info) ∧
      SettlesWith (.mdelay info.timeouts.swResetMs) (adisCmdSwRes info) :=
  ⟨Op.exec_settlesLast info, fun field max val d =>
    ⟨adisWriteSettled_settlesWith field d val, adisWriteBounded_settlesWith field max d val⟩,
    adisCmdSnsrSelfTest_settlesWith info, adisCmdSwRes_settlesWith info⟩

end AdisImu
