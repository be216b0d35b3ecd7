/-
# A failure ends the call, and its code is what the call returns

`src/drivers/imu/adis.c` tests `ret` after every transfer, every platform call and
every call it makes, and returns it at once when it is not `0`; the only codes it makes
up itself are `-EINVAL`, from an argument check or a bad checksum, and `adis_init`'s
`-ENOMEM` when the allocation fails.  So, whatever the bus and the platform do, what a
call takes off them and what it returns agree (`Propagates`):

- a call that returns a value took only transfers that completed and platform codes
  that are `0`;
- a call that returns an error either took only those and returns `-EINVAL`, or
  stopped right after a transfer that failed and returns that transfer's code, or
  stopped right after a platform call that failed and returns that call's code.

No failure is swallowed, no transfer follows a failed one, and no other code is made
up: every call a client makes propagates, and so does `adis_init` but for a failed
allocation, which takes nothing else and returns `-ENOMEM` (`calls_propagate`).  On a
bus that completes every transfer and a platform whose calls succeed, the only error
left is `-EINVAL`.
-/

import AdisImu.Lifecycle

namespace AdisImu

open Drv

/-- A transfer that completed. -/
def Xfer.Done (t : Xfer) : Prop := ∃ data, t = .ok data

/-- Transfers that all completed and platform codes that are all `0`. -/
structure Clean (l : List Xfer) (cs : List Int) : Prop where
  done : ∀ t ∈ l, t.Done
  zero : ∀ c ∈ cs, c = 0

/-- The transfers `l` and the platform codes `cs` a call took agree with its result `r`:
all of them clean, save that a call that fails may have stopped right after a transfer
that failed or a platform call that failed, with that code; a call that fails after
clean ones only returns `-EINVAL`. -/
def Taken (l : List Xfer) (cs : List Int) : Except Int α → Prop
  | .ok _ => Clean l cs
  | .error e => (e = -EINVAL ∧ Clean l cs) ∨
      (∃ l₀ n h, l = l₀ ++ [.fail e n h] ∧ Clean l₀ cs) ∨
      (∃ cs₀, cs = cs₀ ++ [e] ∧ e ≠ 0 ∧ Clean l cs₀)

/-- `x` hands on what the bus and the platform do: it takes transfers off the front of
the bus and codes off the front of the platform, and they agree with what it returns. -/
def Propagates (x : Drv α) : Prop :=
  ∀ w, ∃ l cs, w.bus = l ++ (x w).2.bus ∧ w.platform = cs ++ (x w).2.platform ∧ Taken l cs (x w).1

theorem Clean.nil : Clean [] [] := ⟨List.forall_mem_nil _, List.forall_mem_nil _⟩

theorem Clean.append {l₁ l₂ : List Xfer} {cs₁ cs₂ : List Int} (h₁ : Clean l₁ cs₁)
    (h₂ : Clean l₂ cs₂) : Clean (l₁ ++ l₂) (cs₁ ++ cs₂) :=
  ⟨List.forall_mem_append.2 ⟨h₁.done, h₂.done⟩, List.forall_mem_append.2 ⟨h₁.zero, h₂.zero⟩⟩

/-- What a call takes off a bus that completes every transfer and a platform whose calls
succeed is clean. -/
theorem Clean.of_front {w : World} {l b : List Xfer} {cs p : List Int} (hh : w.Healthy)
    (hc : w.PlatformOk) (hb : w.bus = l ++ b) (hp : w.platform = cs ++ p) : Clean l cs :=
  ⟨fun t ht => hh t (hb ▸ List.mem_append_left _ ht), fun c hcs => hc c (hp ▸ List.mem_append_left _ hcs)⟩

theorem Taken.append_clean {l₁ l₂ : List Xfer} {cs₁ cs₂ : List Int} {r : Except Int α}
    (h₂ : Taken l₂ cs₂ r) (h₁ : Clean l₁ cs₁) : Taken (l₁ ++ l₂) (cs₁ ++ cs₂) r := by
  cases r with
  | ok _ => exact h₁.append h₂
  | error e =>
    rcases h₂ with ⟨he, h₂⟩ | ⟨l₀, n, hc, rfl, h₀⟩ | ⟨cs₀, rfl, he, h₀⟩
    · exact .inl ⟨he, h₁.append h₂⟩
    · exact .inr (.inl ⟨l₁ ++ l₀, n, hc, (List.append_assoc _ _ _).symm, h₁.append h₀⟩)
    · exact .inr (.inr ⟨cs₁ ++ cs₀, (List.append_assoc _ _ _).symm, he, h₁.append h₀⟩)

/-- A healthy bus and platform leave a failing call one code: `-EINVAL`. -/
theorem Taken.einval_of_clean {l : List Xfer} {cs : List Int} {e : Int}
    (h : Taken l cs (.error e : Except Int α)) (hl : Clean l cs) : e = -EINVAL := by
  rcases h with ⟨he, -⟩ | ⟨l₀, n, hc, rfl, -⟩ | ⟨cs₀, rfl, he, -⟩
  · exact he
  · obtain ⟨_, hd⟩ := hl.done _ (List.mem_append_right _ (List.mem_singleton_self _))
    cases hd
  · exact absurd (hl.zero _ (List.mem_append_right _ (List.mem_singleton_self _))) he

/-- The code a platform call takes: none from an exhausted oracle, whose code is `0`, or
the oracle's head. -/
theorem World.nextCode_taken (w : World) : ∃ cs, w.platform = cs ++ w.nextCode.2.platform ∧
    (cs = [w.nextCode.1] ∨ cs = [] ∧ w.nextCode.1 = 0) := by
  unfold World.nextCode
  split
  · exact ⟨[], by simp_all, .inr ⟨rfl, rfl⟩⟩
  · exact ⟨[_], by simp_all, .inl rfl⟩

/-- A platform call whose code is `0` took only clean codes. -/
theorem Clean.of_code {cs : List Int} {c : Int} (hc : cs = [c] ∨ cs = [] ∧ c = 0) (h0 : c = 0) :
    Clean [] cs := by
  rcases hc with rfl | ⟨rfl, -⟩
  · exact ⟨List.forall_mem_nil _, fun _ h => (List.mem_singleton.1 h).trans h0⟩
  · exact Clean.nil

/-! ### The combinators -/

namespace Propagates

/-- A call that returns a value and leaves the bus and the platform alone. -/
theorem of_ok {x : Drv α}
    (h : ∀ w, (∃ a, (x w).1 = .ok a) ∧ (x w).2.bus = w.bus ∧ (x w).2.platform = w.platform) :
    Propagates x := fun w => by
  obtain ⟨⟨a, ha⟩, hb, hp⟩ := h w
  refine ⟨[], [], hb.symm, hp.symm, ?_⟩
  rw [ha]
  exact Clean.nil

/-- A platform call: it takes the platform's next code and returns it when it is not `0`. -/
theorem of_code {x : Drv Unit}
    (h : ∀ w, (x w).1 = (if w.nextCode.1 = 0 then .ok () else .error w.nextCode.1) ∧
      (x w).2.bus = w.bus ∧ (x w).2.platform = w.nextCode.2.platform) :
    Propagates x := fun w => by
  obtain ⟨hr, hb, hp⟩ := h w
  obtain ⟨cs, hcs, hc⟩ := w.nextCode_taken
  refine ⟨[], cs, hb.symm, hp ▸ hcs, ?_⟩
  rw [hr]
  split_ifs with h0
  · exact Clean.of_code hc h0
  · rcases hc with rfl | ⟨-, h0'⟩
    · exact .inr (.inr ⟨[], rfl, h0, Clean.nil⟩)
    · exact absurd h0' h0

theorem pure (a : α) : Propagates (Pure.pure a : Drv α) := of_ok fun _ => ⟨⟨a, rfl⟩, rfl, rfl⟩

theorem dev : Propagates Drv.dev := of_ok fun w => ⟨⟨w.dev, rfl⟩, rfl, rfl⟩

theorem setDev (f : AdisDev → AdisDev) : Propagates (Drv.setDev f) :=
  of_ok fun _ => ⟨⟨(), rfl⟩, rfl, rfl⟩

theorem emit (e : Event) : Propagates (Drv.emit e) := of_ok fun _ => ⟨⟨(), rfl⟩, rfl, rfl⟩

theorem udiv (a b : Nat) : Propagates (Drv.udiv a b) := of_ok fun _ => ⟨⟨_, rfl⟩, rfl, rfl⟩

theorem einval : Propagates (Drv.fail (-EINVAL) : Drv α) :=
  fun _ => ⟨[], [], rfl, rfl, .inl ⟨rfl, Clean.nil⟩⟩

theorem bind {x : Drv α} {f : α → Drv β} (hx : Propagates x) (hf : ∀ a, Propagates (f a)) :
    Propagates (x >>= f) := fun w => by
  obtain ⟨l₁, cs₁, hb₁, hp₁, ht₁⟩ := hx w
  cases hr : (x w).1 with
  | ok a =>
    rw [hr] at ht₁
    obtain ⟨l₂, cs₂, hb₂, hp₂, ht₂⟩ := hf a (x w).2
    rw [bind_of_fst_ok hr]
    exact ⟨l₁ ++ l₂, cs₁ ++ cs₂, by rw [hb₁, hb₂, List.append_assoc],
      by rw [hp₁, hp₂, List.append_assoc], ht₂.append_clean ht₁⟩
  | error e =>
    rw [bind_of_error (Prod.ext hr rfl)]
    rw [hr] at ht₁
    exact ⟨l₁, cs₁, hb₁, hp₁, ht₁⟩

theorem ite {c : Prop} [Decidable c] {x y : Drv α} (hx : Propagates x) (hy : Propagates y) :
    Propagates (if c then x else y) := by
  split <;> assumption

/-- On a bus that completes every transfer and a platform whose calls succeed, a call's
only error is `-EINVAL`. -/
theorem einval_of_healthy {x : Drv α} (hx : Propagates x) {w : World} (hh : w.Healthy)
    (hc : w.PlatformOk) {e : Int} (he : (x w).1 = .error e) : e = -EINVAL := by
  obtain ⟨l, cs, hb, hp, ht⟩ := hx w
  rw [he] at ht
  exact ht.einval_of_clean (.of_front hh hc hb hp)

end Propagates

/-! ### The transfers and the platform calls -/

theorem noOsSpiTransfer_propagates (msgs : List SpiMsg) : Propagates (noOsSpiTransfer msgs) := by
  rintro ⟨dev, imu, g, _ | ⟨_ | ⟨code, n, hc⟩, bus⟩, log, platform, gok, dz⟩
  · exact ⟨[], [], rfl, rfl, Clean.nil⟩
  · exact ⟨[_], [], rfl, rfl, fun _ ht => ⟨_, List.mem_singleton.1 ht⟩, List.forall_mem_nil _⟩
  · exact ⟨[_], [], rfl, rfl, .inr (.inl ⟨[], n, hc, rfl, Clean.nil⟩)⟩

theorem noOsSpiWriteAndRead_propagates (len : Nat) : Propagates (noOsSpiWriteAndRead len) := by
  rintro ⟨dev, imu, g, _ | ⟨_ | ⟨code, n, hc⟩, bus⟩, log, platform, gok, dz⟩
  · exact ⟨[], [], rfl, rfl, Clean.nil⟩
  · exact ⟨[_], [], rfl, rfl, fun _ ht => ⟨_, List.mem_singleton.1 ht⟩, List.forall_mem_nil _⟩
  · exact ⟨[_], [], rfl, rfl, .inr (.inl ⟨[], n, hc, rfl, Clean.nil⟩)⟩

theorem noOsSpiInit_propagates : Propagates noOsSpiInit :=
  .of_code fun w => ⟨rfl, World.nextCode_bus w, rfl⟩

theorem noOsGpioGetOptional_propagates (described : Bool) :
    Propagates (noOsGpioGetOptional described) :=
  .of_ok fun _ => ⟨⟨(), rfl⟩, rfl, rfl⟩

theorem noOsGpioDirectionOutputLow_propagates : Propagates noOsGpioDirectionOutputLow :=
  .of_code fun w => by
    unfold noOsGpioDirectionOutputLow
    split_ifs with h <;> exact ⟨by simp only [h, if_true, if_false], World.nextCode_bus w, rfl⟩

theorem noOsGpioSetValueHigh_propagates : Propagates noOsGpioSetValueHigh :=
  .of_code fun w => by
    unfold noOsGpioSetValueHigh
    split_ifs with h <;> exact ⟨by simp only [h, if_true, if_false], World.nextCode_bus w, rfl⟩

/-! ### The calls -/

section Calls

variable (info : AdisChipInfo)

theorem adisReadReg_propagates (reg size : Nat) : Propagates (adisReadReg reg size) :=
  Propagates.dev.bind fun _ => by
    split
    · exact .einval
    · exact (noOsSpiTransfer_propagates _).bind fun _ => (Propagates.setDev _).bind fun _ => by
        split <;> exact .pure _

theorem adisWriteReg_propagates (reg val size : Nat) : Propagates (adisWriteReg reg val size) :=
  Propagates.dev.bind fun _ => by
    split
    · exact .einval
    · exact (noOsSpiTransfer_propagates _).bind fun _ => .setDev _

theorem adisReadFieldU32_propagates (field : AdisField) : Propagates (adisReadFieldU32 field) :=
  (adisReadReg_propagates _ _).bind fun _ => .pure _

theorem adisWriteFieldU32_propagates (field : AdisField) (val : Nat) :
    Propagates (adisWriteFieldU32 field val) :=
  .ite .einval ((adisReadReg_propagates _ _).bind fun _ => adisWriteReg_propagates _ _ _)

theorem adisReadDiagStat_propagates : Propagates (adisReadDiagStat info) :=
  (adisReadReg_propagates _ _).bind fun _ => (Propagates.setDev _).bind fun _ =>
    Propagates.dev.bind fun _ => .pure _

theorem adisReadBurstData_propagates (n : Nat) (buf : List Nat) (sel : Fin 2) :
    Propagates (adisReadBurstData info n buf sel) :=
  (noOsSpiWriteAndRead_propagates _).bind fun _ => .ite
    ((Propagates.setDev _).bind fun _ => .einval)
    ((Propagates.setDev _).bind fun _ => (Propagates.setDev _).bind fun _ => .pure _)

theorem adisReadFlsMemWrCntr_propagates : Propagates (adisReadFlsMemWrCntr info) :=
  (adisReadFieldU32_propagates _).bind fun _ =>
    .ite ((Propagates.setDev _).bind fun _ => .pure _) ((Propagates.pure _).bind fun _ => .pure _)

theorem adisWriteSettled_propagates {field : AdisField} {delay : Drv Unit} (val : Nat)
    (hd : Propagates delay) : Propagates (adisWriteSettled field delay val) :=
  (adisWriteFieldU32_propagates _ _).bind fun _ => hd

theorem adisWriteUpScale_propagates (upScale : Nat) : Propagates (adisWriteUpScale info upScale) :=
  (adisReadFieldU32_propagates _).bind fun _ => Propagates.dev.bind fun _ =>
    .ite .einval (adisWriteFieldU32_propagates _ _)

theorem adisWriteSyncMode_propagates (syncMode extClk : Nat) :
    Propagates (adisWriteSyncMode info syncMode extClk) :=
  have hF := adisWriteFieldU32_propagates (info.fieldMap .syncMode) syncMode
  .ite .einval <| .ite (.ite .einval <| (Propagates.setDev _).bind fun _ =>
      .ite (Propagates.dev.bind fun _ => (Propagates.udiv _ _).bind fun _ =>
          (adisWriteUpScale_propagates info _).bind fun _ => hF)
        ((Propagates.pure _).bind fun _ => hF))
    ((Propagates.setDev _).bind fun _ => hF)

theorem ConfigOp.run_propagates : ∀ op : ConfigOp, Propagates (op.run info)
  | .writeXgBias _ | .writeYgBias _ | .writeZgBias _ | .writeXaBias _ | .writeYaBias _
  | .writeZaBias _ | .writeUsrScr1 _ | .writeUsrScr2 _ | .writeUsrScr3 _ =>
    adisWriteFieldU32_propagates _ _
  | .writeFiltSizeVarB _ | .writeDrPolarity _ | .writeSyncPolarity _ | .writeDecRate _ =>
    .ite .einval (adisWriteSettled_propagates _ (.emit _))
  | .writeSensBw _ | .writePtOfPercAlgnmt _ | .writeLinearAcclComp _ | .writeBurstSel _
  | .writeBurst32 _ => adisWriteSettled_propagates _ (.emit _)
  | .writeSyncMode _ _ => adisWriteSyncMode_propagates info _ _
  | .writeUpScale _ => adisWriteUpScale_propagates info _
  | .updateExtClkFreq _ =>
    (adisReadFieldU32_propagates _).bind fun _ => .ite .einval (.setDev _)

theorem adisCmdSwRes_propagates : Propagates (adisCmdSwRes info) :=
  (adisWriteReg_propagates _ _ _).bind fun _ =>
    (Propagates.of_ok fun _ => ⟨⟨(), rfl⟩, rfl, rfl⟩).bind fun _ => .emit _

theorem adisInitialStartup_propagates : Propagates (adisInitialStartup info) :=
  (Propagates.dev.bind fun _ => .ite
    (noOsGpioSetValueHigh_propagates.bind fun _ => .emit _)
    (adisCmdSwRes_propagates info)).bind fun _ =>
  ((adisWriteReg_propagates _ _ _).bind fun _ => .emit _).bind fun _ =>
  (adisWriteReg_propagates _ _ _).bind fun _ =>
  (adisReadDiagStat_propagates info).bind fun _ =>
  (adisReadFieldU32_propagates _).bind fun _ => .pure _

theorem Op.exec_propagates : ∀ op : Op, Propagates (op.exec info)
  | .readReg _ _ => (adisReadReg_propagates _ _).bind fun _ => .pure _
  | .writeReg _ _ _ => adisWriteReg_propagates _ _ _
  | .updateBitsBase _ _ _ _ => (adisReadReg_propagates _ _).bind fun _ => adisWriteReg_propagates _ _ _
  | .readFieldU32 _ => (adisReadFieldU32_propagates _).bind fun _ => .pure _
  | .readFieldS32 _ => ((adisReadReg_propagates _ _).bind fun _ => .pure _).bind fun _ => .pure _
  | .readDiagStat => (adisReadDiagStat_propagates info).bind fun _ => .pure _
  | .readBurstData _ _ _ => (adisReadBurstData_propagates info _ _ _).bind fun _ => .pure _
  | .readFlsMemWrCntr => (adisReadFlsMemWrCntr_propagates info).bind fun _ => .pure _
  | .config op => ConfigOp.run_propagates info op
  | .cmdFactCalibRestore | .cmdFlsMemTest => adisWriteReg_propagates _ _ _
  | .cmdSnsrSelfTest => (adisWriteReg_propagates _ _ _).bind fun _ => .emit _
  | .cmdFlsMemUpdate => (adisWriteReg_propagates _ _ _).bind fun _ =>
    (adisReadFlsMemWrCntr_propagates info).bind fun _ => .pure _
  | .cmdSwRes => adisCmdSwRes_propagates info
  | .initialStartup => adisInitialStartup_propagates info

theorem adisInitSetup_propagates : Propagates (adisInitSetup info) :=
  noOsSpiInit_propagates.bind fun _ => (Propagates.setDev _).bind fun _ =>
    noOsGpioGetOptional_propagates _

theorem adisInitResetLine_propagates : Propagates adisInitResetLine :=
  Propagates.dev.bind fun _ => .ite noOsGpioDirectionOutputLow_propagates (.pure _)

/-- `adis_init` propagates but for a failed allocation, which takes one nonzero code and
nothing else and returns `-ENOMEM`. -/
theorem adisInit_propagates (w : World) :
    ∃ l cs, w.bus = l ++ (adisInit info w).2.bus ∧ w.platform = cs ++ (adisInit info w).2.platform ∧
      (Taken l cs (adisInit info w).1 ∨
        (adisInit info w).1 = .error (-ENOMEM) ∧ l = [] ∧ ∃ c, c ≠ 0 ∧ cs = [c]) := by
  obtain ⟨cs₁, hp₁, hc₁⟩ := w.nextCode_taken
  unfold adisInit
  rw [bind_of_ok (rfl : noOsCalloc w = (.ok _, _))]
  by_cases hc : w.nextCode.1 = 0
  · simp only [hc, decide_True, Bool.not_true, Bool.false_eq_true, ite_false]
    have h₁ : Clean [] cs₁ := Clean.of_code hc₁ hc
    obtain ⟨l, cs₂, hb, hp, ht⟩ := ((adisInitSetup_propagates info).bind fun _ =>
      adisInitResetLine_propagates.bind fun _ => (adisInitialStartup_propagates info).bind fun _ =>
        adisWriteSyncMode_propagates info _ _) { w.nextCode.2 with dev := AdisDev.calloc }
    exact ⟨l, cs₁ ++ cs₂, (World.nextCode_bus w).symm.trans hb,
      by rw [hp₁, List.append_assoc]; exact congrArg (cs₁ ++ ·) hp, .inl (ht.append_clean h₁)⟩
  · simp only [hc, decide_False, Bool.not_false, ite_true]
    rcases hc₁ with rfl | ⟨-, h0⟩
    · exact ⟨[], [_], (World.nextCode_bus w).symm, hp₁, .inr ⟨rfl, rfl, _, hc, rfl⟩⟩
    · exact absurd h0 hc

end Calls

/-- **A failure ends the call, and its code is what the call returns.**  Every call a
client makes, from any handle and device state and whatever the bus and the platform do:
a call that returns a value took only completed transfers off the bus and only codes `0`
off the platform; one that returns an error took only those and returns `-EINVAL`, or
stopped right after a failed transfer or a failed platform call and returns its code.
`adis_init` does the same, or its allocation failed: then it took one nonzero code and
nothing else and returns `-ENOMEM`.  On a bus that completes every transfer and a platform
whose calls succeed, the only error of `adis_init` and of a call is `-EINVAL`. -/
theorem calls_propagate (info : AdisChipInfo) :
    (∀ w, ∃ l cs, w.bus = l ++ (adisInit info w).2.bus ∧
      w.platform = cs ++ (adisInit info w).2.platform ∧
      (Taken l cs (adisInit info w).1 ∨
        (adisInit info w).1 = .error (-ENOMEM) ∧ l = [] ∧ ∃ c, c ≠ 0 ∧ cs = [c])) ∧
      (∀ op : Op, Propagates (op.exec info)) ∧
      ∀ (w : World) (e : Int), w.Healthy → w.PlatformOk →
        ((adisInit info w).1 = .error e → e = -EINVAL) ∧
        ∀ op : Op, (op.exec info w).1 = .error e → e = -EINVAL := by
  refine ⟨adisInit_propagates info, Op.exec_propagates info, fun w e hh hc => ⟨fun he => ?_,
    fun op he => (Op.exec_propagates info op).einval_of_healthy hh hc he⟩⟩
  obtain ⟨l, cs, hb, hp, ht | ⟨-, -, c, hc₀, rfl⟩⟩ := adisInit_propagates info w
  · rw [he] at ht
    exact ht.einval_of_clean (.of_front hh hc hb hp)
  · exact absurd (hc c (hp ▸ List.mem_cons_self _ _)) hc₀

end AdisImu
