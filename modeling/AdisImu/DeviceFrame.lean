/-
# Which registers a call writes

`src/drivers/imu/adis.c`.  The device's registers change only through the write frames
of `adis_write_reg`.  So:

- The calls that only read, `adis_read_reg`, the field readers, `adis_read_diag_stat`,
  the burst read, `adis_read_fls_mem_wr_cntr` and `adis_update_ext_clk_freq`, write no
  register and send only read frames, page selects and burst exchanges, whatever the
  bus does, a transfer that fails half-way included (`readOps_write_nothing`).
- Every other call writes only the registers it names (`Op.windows`): a raw write its
  window, a setter its field's register, `adis_write_sync_mode` the sync-mode and
  up-scale registers, a command its command register, and the start-up the reset,
  self-test and flash-test registers.  That needs the page cache to be right and the
  reset line, if the handle has one, high (a rising edge restarts the device), which
  `AdisImu.PageCache` keeps for a page-safe descriptor on a bus none of whose failing
  transfers delivers the page select it opens with; a failing write delivers a prefix
  of its own frames at most (`adisWriteReg_error_mem`).  From any such state a run
  leaves every byte outside its calls' windows as it was (`runOps_writes_only`).
-/

import AdisImu.SyncClock

namespace AdisImu

open Drv

/-! ### Calls that only read -/

/-- The calls a client makes that only read the device. -/
inductive Op.ReadsOnly : Op → Prop
  | readReg (reg size : Nat) : Op.ReadsOnly (.readReg reg size)
  | readFieldU32 (f : FieldId) : Op.ReadsOnly (.readFieldU32 f)
  | readFieldS32 (f : FieldId) : Op.ReadsOnly (.readFieldS32 f)
  | readDiagStat : Op.ReadsOnly .readDiagStat
  | readBurstData (n : Nat) (buf : List Nat) (sel : Fin 2) : Op.ReadsOnly (.readBurstData n buf sel)
  | readFlsMemWrCntr : Op.ReadsOnly .readFlsMemWrCntr
  | updateExtClkFreq (c : Nat) : Op.ReadsOnly (.config (.updateExtClkFreq c))

theorem noOsSpiWriteAndRead_imu (len : Nat) (w : World) :
    (noOsSpiWriteAndRead len w).2.imu = w.imu := by
  unfold noOsSpiWriteAndRead
  split <;> exact World.next_imu w

theorem noOsSpiWriteAndRead_quiet (len : Nat) : Quiet (noOsSpiWriteAndRead len) := fun w =>
  ⟨[.burst len], by unfold noOsSpiWriteAndRead; split <;> rfl, by simp [Event.quiet]⟩

theorem Quiet.ite {c : Prop} [Decidable c] {x y : Drv α} (hx : Quiet x) (hy : Quiet y) :
    Quiet (if c then x else y) := by
  split <;> assumption

theorem adisReadFieldU32_quiet (field : AdisField) : Quiet (adisReadFieldU32 field) :=
  (adisReadReg_quiet _ _).bind fun _ => Quiet.pure _

section Reads

variable (info : AdisChipInfo) (m : Nat → Nat)

theorem noOsSpiWriteAndRead_mem (len : Nat) :
    Keeps (fun w => w.imu.mem = m) (noOsSpiWriteAndRead len) :=
  fun w h => (congrArg Imu.mem (noOsSpiWriteAndRead_imu len w)).trans h

theorem setDev_mem (f : AdisDev → AdisDev) : Keeps (fun w => w.imu.mem = m) (setDev f) :=
  fun _ h => h

theorem adisReadDiagStat_mem : Keeps (fun w => w.imu.mem = m) (adisReadDiagStat info) :=
  (adisReadReg_mem _ _ m).bind fun _ => (setDev_mem m _).bind fun _ =>
    Keeps.dev.bind fun _ => Keeps.pure _

theorem adisReadBurstData_mem (n : Nat) (buf : List Nat) (sel : Fin 2) :
    Keeps (fun w => w.imu.mem = m) (adisReadBurstData info n buf sel) :=
  (noOsSpiWriteAndRead_mem m _).bind fun _ =>
    Keeps.ite ((setDev_mem m _).bind fun _ => Keeps.fail _)
      ((setDev_mem m _).bind fun _ => (setDev_mem m _).bind fun _ => Keeps.pure _)

theorem adisReadFlsMemWrCntr_mem : Keeps (fun w => w.imu.mem = m) (adisReadFlsMemWrCntr info) :=
  (adisReadFieldU32_keeps (adisReadReg_mem _ _ m)).bind fun _ =>
    Keeps.ite ((setDev_mem m _).bind fun _ => Keeps.pure _) ((Keeps.pure _).bind fun _ => Keeps.pure _)

theorem adisUpdateExtClkFreq_mem (c : Nat) :
    Keeps (fun w => w.imu.mem = m) (adisUpdateExtClkFreq info c) :=
  (adisReadFieldU32_keeps (adisReadReg_mem _ _ m)).bind fun _ =>
    Keeps.ite (Keeps.fail _) (setDev_mem m _)

theorem Op.ReadsOnly.mem {op : Op} : op.ReadsOnly → Keeps (fun w => w.imu.mem = m) (op.exec info)
  | .readReg _ _ => (adisReadReg_mem _ _ m).bind fun _ => Keeps.pure _
  | .readFieldU32 _ => (adisReadFieldU32_keeps (adisReadReg_mem _ _ m)).bind fun _ => Keeps.pure _
  | .readFieldS32 _ => (adisReadFieldS32_keeps (adisReadReg_mem _ _ m)).bind fun _ => Keeps.pure _
  | .readDiagStat => (adisReadDiagStat_mem info m).bind fun _ => Keeps.pure _
  | .readBurstData _ _ _ => (adisReadBurstData_mem info m _ _ _).bind fun _ => Keeps.pure _
  | .readFlsMemWrCntr => (adisReadFlsMemWrCntr_mem info m).bind fun _ => Keeps.pure _
  | .updateExtClkFreq c => adisUpdateExtClkFreq_mem info m c

theorem Op.ReadsOnly.quiet {op : Op} : op.ReadsOnly → Quiet (op.exec info)
  | .readReg _ _ => (adisReadReg_quiet _ _).bind fun _ => Quiet.pure _
  | .readFieldU32 _ => (adisReadFieldU32_quiet _).bind fun _ => Quiet.pure _
  | .readFieldS32 _ => ((adisReadReg_quiet _ _).bind fun _ => Quiet.pure _).bind fun _ => Quiet.pure _
  | .readDiagStat => ((adisReadReg_quiet _ _).bind fun _ => (Quiet.setDev _).bind fun _ =>
      Quiet.dev.bind fun _ => Quiet.pure _).bind fun _ => Quiet.pure _
  | .readBurstData _ _ _ => ((noOsSpiWriteAndRead_quiet _).bind fun _ =>
      Quiet.ite ((Quiet.setDev _).bind fun _ => Quiet.fail _)
        ((Quiet.setDev _).bind fun _ => (Quiet.setDev _).bind fun _ => Quiet.pure _)).bind fun _ =>
      Quiet.pure _
  | .readFlsMemWrCntr => ((adisReadFieldU32_quiet _).bind fun _ =>
      Quiet.ite ((Quiet.setDev _).bind fun _ => Quiet.pure _)
        ((Quiet.pure _).bind fun _ => Quiet.pure _)).bind fun _ => Quiet.pure _
  | .updateExtClkFreq c => adisUpdateExtClkFreq_quiet info c

end Reads

/-- **Reads write nothing.**  A run of calls that only read, `adis_read_reg`, the field
readers, `adis_read_diag_stat`, the burst read, `adis_read_fls_mem_wr_cntr` and
`adis_update_ext_clk_freq`, from any handle and device state and whatever the bus does,
leaves every register byte of the device as it was, and sends only read frames, page
selects and burst exchanges: no register write and no delay. -/
theorem readOps_write_nothing (info : AdisChipInfo) (ops : List Op)
    (hops : ∀ op ∈ ops, op.ReadsOnly) (w : World) :
    (runOps info ops w).imu.mem = w.imu.mem ∧ QuietSince w (runOps info ops w) :=
  ⟨runOps_keeps (fun op hop => (hops op hop).mem info w.imu.mem) rfl,
    runOps_keeps (fun op hop w' h => h.trans ((hops op hop).quiet info w')) (.of_log rfl)⟩

/-- `readOps_write_nothing` on `sampleChip` over a bus whose first transfer fails after
one frame: a register read, a status read and a clock update. -/
theorem readOps_write_nothing_failing :
    (runOps sampleChip [.readReg 130 2, .readDiagStat, .config (.updateExtClkFreq 50)]
        { World.blank with bus := [.fail 5 1 (by decide)] }).imu.mem =
      ({ World.blank with bus := [.fail 5 1 (by decide)] } : World).imu.mem ∧
    QuietSince { World.blank with bus := [.fail 5 1 (by decide)] }
      (runOps sampleChip [.readReg 130 2, .readDiagStat, .config (.updateExtClkFreq 50)]
        { World.blank with bus := [.fail 5 1 (by decide)] }) :=
  readOps_write_nothing sampleChip _ (fun op hop => by
    simp only [List.mem_cons, List.mem_singleton, List.not_mem_nil, or_false] at hop
    rcases hop with rfl | rfl | rfl
    exacts [.readReg _ _, .readDiagStat, .updateExtClkFreq _]) _

/-! ### Every call writes the registers it names -/

/-- Byte `a` lies in one of the register windows `(reg, size)` of `ws`. -/
def Covered (ws : List (Nat × Nat)) (a : Nat) : Prop := ∃ r ∈ ws, r.1 ≤ a ∧ a < r.1 + r.2

instance (ws : List (Nat × Nat)) (a : Nat) : Decidable (Covered ws a) :=
  inferInstanceAs (Decidable (∃ r ∈ ws, _))

theorem Covered.sub {ws ws' : List (Nat × Nat)} {a : Nat} (h : ∀ r ∈ ws, r ∈ ws')
    (hc : Covered ws a) : Covered ws' a :=
  let ⟨r, hr, ha⟩ := hc
  ⟨r, h r hr, ha⟩

/-- A field's register window. -/
def AdisField.window (f : AdisField) : Nat × Nat := (f.regAddr, f.regSize)

/-- The fields whose registers a configuration operation may write: the scaled sync
mode writes the up-scale before the mode. -/
def ConfigOp.fields : ConfigOp → List FieldId
  | .writeXgBias _ => [.xgBias]
  | .writeYgBias _ => [.ygBias]
  | .writeZgBias _ => [.zgBias]
  | .writeXaBias _ => [.xaBias]
  | .writeYaBias _ => [.yaBias]
  | .writeZaBias _ => [.zaBias]
  | .writeUsrScr1 _ => [.usrScr1]
  | .writeUsrScr2 _ => [.usrScr2]
  | .writeUsrScr3 _ => [.usrScr3]
  | .writeFiltSizeVarB _ => [.filtSizeVarB]
  | .writeDrPolarity _ => [.drPolarity]
  | .writeSyncPolarity _ => [.syncPolarity]
  | .writeSyncMode _ _ => [.syncMode, .upScale]
  | .writeSensBw _ => [.sensBw]
  | .writePtOfPercAlgnmt _ => [.ptOfPercAlgnmt]
  | .writeLinearAcclComp _ => [.linearAcclComp]
  | .writeBurstSel _ => [.burstSel]
  | .writeBurst32 _ => [.burst32]
  | .writeUpScale _ => [.upScale]
  | .writeDecRate _ => [.decRate]
  | .updateExtClkFreq _ => []

/-- The register windows a call may write: a raw write's window, the registers of a
setter's fields, a command's register, and for the start-up the software-reset,
self-test and flash-test registers. -/
def Op.windows (info : AdisChipInfo) : Op → List (Nat × Nat)
  | .writeReg reg _ size | .updateBitsBase reg _ _ size => [(reg, size)]
  | .config op => op.fields.map fun k => (info.fieldMap k).window
  | .cmdFactCalibRestore => [(info.fieldMap .factCalibRestore).window]
  | .cmdSnsrSelfTest => [(info.fieldMap .snsrSelfTest).window]
  | .cmdFlsMemUpdate => [(info.fieldMap .flsMemUpdate).window]
  | .cmdFlsMemTest => [(info.fieldMap .flsMemTest).window]
  | .cmdSwRes => [(info.fieldMap .swRes).window]
  | .initialStartup => [.swRes, .snsrSelfTest, .flsMemTest].map fun k => (info.fieldMap k).window
  | _ => []

/-- The page invariant holds, and the device's bytes outside `A` are those of `m`. -/
def Outside (A : Nat → Prop) (m : Nat → Nat) (w : World) : Prop :=
  PageInv w ∧ ∀ a, ¬A a → w.imu.mem a = m a

/-- `x` keeps the page invariant and writes no byte outside `A`. -/
def WritesIn (A : Nat → Prop) (x : Drv α) : Prop := ∀ m, Keeps (Outside A m) x

namespace WritesIn

variable {A B : Nat → Prop}

/-- A call that keeps the page invariant and writes no byte at all. -/
theorem of_keeps {x : Drv α} (hp : Keeps PageInv x) (hm : ∀ m, Keeps (fun w => w.imu.mem = m) x) :
    WritesIn A x := fun _ w h => ⟨hp w h.1, fun a ha => by rw [hm w.imu.mem w rfl]; exact h.2 a ha⟩

theorem pure (a : α) : WritesIn A (Pure.pure a : Drv α) := fun _ => Keeps.pure a

theorem fail (e : Int) : WritesIn A (Drv.fail e : Drv α) := fun _ => Keeps.fail e

theorem dev : WritesIn A Drv.dev := fun _ => Keeps.dev

theorem udiv (a b : Nat) : WritesIn A (Drv.udiv a b) := fun _ => Keeps.udiv a b

theorem bind {x : Drv α} {f : α → Drv β} (hx : WritesIn A x) (hf : ∀ a, WritesIn A (f a)) :
    WritesIn A (x >>= f) := fun m => (hx m).bind fun a => hf a m

theorem ite {c : Prop} [Decidable c] {x y : Drv α} (hx : WritesIn A x) (hy : WritesIn A y) :
    WritesIn A (if c then x else y) := fun m => Keeps.ite (hx m) (hy m)

theorem mono {x : Drv α} (h : WritesIn A x) (hAB : ∀ a, A a → B a) : WritesIn B x := fun _ w hw =>
  have h' := h w.imu.mem w ⟨hw.1, fun _ _ => rfl⟩
  ⟨h'.1, fun a ha => (h'.2 a (mt (hAB a) ha)).trans (hw.2 a ha)⟩

theorem sub {x : Drv α} {ws ws' : List (Nat × Nat)} (h : WritesIn (Covered ws) x)
    (hsub : ∀ r ∈ ws, r ∈ ws') : WritesIn (Covered ws') x :=
  h.mono fun _ => Covered.sub hsub

end WritesIn

theorem emit_writesIn {A : Nat → Prop} (e : Event) : WritesIn A (emit e) :=
  .of_keeps (emit_pageInv e) fun _ _ h => h

/-- Raising a reset line that is already high writes no byte. -/
theorem noOsGpioSetValueHigh_outside {A : Nat → Prop} {m : Nat → Nat} :
    Keeps (fun w => Outside A m w ∧ w.gpioHigh = true) noOsGpioSetValueHigh := fun w ⟨h, hg⟩ =>
  have hp := noOsGpioSetValueHigh_pageInv w ⟨h.1, hg⟩
  ⟨⟨hp.1, by rw [noOsGpioSetValueHigh_of_high hg]; simpa only [World.nextCode_imu] using h.2⟩, hp.2⟩

theorem setDev_writesIn {A : Nat → Prop} {g : AdisDev → AdisDev}
    (hg : ∀ d, (g d).currentPage = d.currentPage ∧ (g d).gpioReset = d.gpioReset) :
    WritesIn A (setDev g) :=
  .of_keeps (setDev_pageInv hg) fun m => setDev_mem m g

/-- A failing write stores bytes of its own window only: its page select, if it has one,
is not delivered, and without one its frames run on the register's page. -/
theorem adisWriteReg_error_mem {reg val size : Nat} {w : World} {e : Int} (hwin : InPage reg size)
    (hs : w.SelectsAtomic) (hp : PageOk w) (h : (adisWriteReg reg val size w).1 = .error e)
    {a : Nat} (ha : ¬(reg ≤ a ∧ a < reg + size)) :
    (adisWriteReg reg val size w).2.imu.mem a = w.imu.mem a := by
  rcases adisWriteReg_error_cases h with hw | ⟨msgs, hm, ht, hw⟩ <;> rw [hw]
  obtain ⟨k, hc, hn, himu⟩ := noOsSpiTransfer_error_cases ht
  rw [himu]
  unfold adisWriteRegMsgs pageSelectMsgs at hm
  split at hm
  · cases hm
    split
    · rw [World.BusAll.of_next_fail hs hn _ (pageSelect_opens _ _), List.take_zero, Imu.xfer_nil]
    · rename_i hcur
      have hpage : w.imu.page = reg / 128 := by
        rcases hp with hp | hp <;> simp only [ADIS_PAGE_SIZE] at hcur <;> omega
      rw [List.nil_append, ← List.map_take, List.take_range,
        (xfer_writeMsgs w.imu reg val _ hwin.off_pos (by have := hwin.fits; omega) hpage).2 a,
        if_neg (by omega)]
  · cases hm

/-- **`adis_write_reg` writes its window only**, whatever the bus does once none of its
failing transfers delivers the page select it opens with. -/
theorem adisWriteReg_writesIn {reg val size : Nat} (hwin : InPage reg size) :
    WritesIn (Covered [(reg, size)]) (adisWriteReg reg val size) := fun m w h => by
  refine ⟨adisWriteReg_pageInv hwin w h.1, fun a ha => ?_⟩
  rcases hres : (adisWriteReg reg val size w).1 with e | _
  · rw [adisWriteReg_error_mem hwin h.1.selects h.1.page hres
      fun h' => ha ⟨_, List.mem_singleton_self _, h'⟩]
    exact h.2 a ha
  · rw [(adisWriteReg_ok hwin h.1.page hres).1 a,
      if_neg fun h' => ha ⟨_, List.mem_singleton_self _, h'⟩]
    exact h.2 a ha

theorem adisReadReg_writesIn {A : Nat → Prop} {reg size : Nat} (hp : reg / 128 < 256) :
    WritesIn A (adisReadReg reg size) :=
  .of_keeps (adisReadReg_pageInv hp) (adisReadReg_mem _ _)

theorem adisUpdateBitsBase_writesIn {reg mask val size : Nat} (hwin : InPage reg size) :
    WritesIn (Covered [(reg, size)]) (adisUpdateBitsBase reg mask val size) :=
  (adisReadReg_writesIn hwin.page_lt).bind fun _ => adisWriteReg_writesIn hwin

theorem adisWriteFieldU32_writesIn {f : AdisField} {v : Nat} (hwin : InPage f.regAddr f.regSize) :
    WritesIn (Covered [f.window]) (adisWriteFieldU32 f v) :=
  .ite (.fail _) ((adisUpdateBitsBase_writesIn hwin.mod256).mono fun _ ⟨_, hr, h⟩ =>
    ⟨f.window, List.mem_singleton_self _, by
      rw [List.mem_singleton.1 hr] at h
      exact ⟨h.1, lt_of_lt_of_le h.2 (Nat.add_le_add_left (Nat.mod_le _ _) _)⟩⟩)

theorem adisWriteSettled_writesIn {f : AdisField} {e : Event} {v : Nat}
    (hwin : InPage f.regAddr f.regSize) :
    WritesIn (Covered [f.window]) (adisWriteSettled f (emit e) v) :=
  (adisWriteFieldU32_writesIn hwin).bind fun _ => emit_writesIn e

section Safe

variable {info : AdisChipInfo} (hinfo : PageSafe info)
include hinfo

theorem Op.ReadsOnly.writesIn {A : Nat → Prop} {op : Op} (h : op.ReadsOnly) (hw : op.Windowed) :
    WritesIn A (op.exec info) :=
  .of_keeps (Op.exec_pageInv hinfo op hw) fun m => h.mem info m

theorem adisReadFieldU32_writesIn {A : Nat → Prop} (k : FieldId) :
    WritesIn A (adisReadFieldU32 (info.fieldMap k)) :=
  .of_keeps (adisReadFieldU32_pageInv (hinfo.inPage k).page_lt) fun m =>
    adisReadFieldU32_keeps (adisReadReg_mem _ _ m)

theorem adisReadDiagStat_writesIn {A : Nat → Prop} : WritesIn A (adisReadDiagStat info) :=
  .of_keeps (adisReadDiagStat_pageInv hinfo) (adisReadDiagStat_mem info)

theorem adisReadFlsMemWrCntr_writesIn {A : Nat → Prop} : WritesIn A (adisReadFlsMemWrCntr info) :=
  .of_keeps (adisReadFlsMemWrCntr_pageInv hinfo) (adisReadFlsMemWrCntr_mem info)

theorem adisWriteUpScale_writesIn (u : Nat) :
    WritesIn (Covered [(info.fieldMap .upScale).window]) (adisWriteUpScale info u) :=
  (adisReadFieldU32_writesIn hinfo .syncMode).bind fun _ =>
    WritesIn.dev.bind fun _ => .ite (.fail _) (adisWriteFieldU32_writesIn (hinfo.inPage _))

theorem adisWriteSyncMode_writesIn (m e : Nat) :
    WritesIn (Covered [(info.fieldMap .syncMode).window, (info.fieldMap .upScale).window])
      (adisWriteSyncMode info m e) :=
  have hF : WritesIn (Covered [(info.fieldMap .syncMode).window, (info.fieldMap .upScale).window])
      (adisWriteFieldU32 (info.fieldMap .syncMode) m) :=
    (adisWriteFieldU32_writesIn (hinfo.inPage .syncMode)).sub fun _ h =>
      List.mem_cons.2 (.inl (List.mem_singleton.1 h))
  have hU : ∀ u, WritesIn (Covered [(info.fieldMap .syncMode).window,
      (info.fieldMap .upScale).window]) (adisWriteUpScale info u) := fun u =>
    (adisWriteUpScale_writesIn hinfo u).sub fun _ h => List.mem_cons_of_mem _ h
  .ite (.fail _) <| .ite (.ite (.fail _) <| (setDev_writesIn fun _ => by exact ⟨rfl, rfl⟩).bind fun _ =>
      .ite (WritesIn.dev.bind fun _ => (WritesIn.udiv _ _).bind fun _ => (hU _).bind fun _ => hF) ((WritesIn.pure _).bind fun _ => hF))
    ((setDev_writesIn fun _ => by exact ⟨rfl, rfl⟩).bind fun _ => hF)

theorem ConfigOp.run_writesIn : ∀ op : ConfigOp,
    WritesIn (Covered (op.fields.map fun k => (info.fieldMap k).window)) (op.run info)
  | .writeXgBias _ | .writeYgBias _ | .writeZgBias _ | .writeXaBias _ | .writeYaBias _
  | .writeZaBias _ | .writeUsrScr1 _ | .writeUsrScr2 _ | .writeUsrScr3 _ =>
    adisWriteFieldU32_writesIn (hinfo.inPage _)
  | .writeFiltSizeVarB _ | .writeDrPolarity _ | .writeSyncPolarity _ | .writeDecRate _ =>
    .ite (.fail _) (adisWriteSettled_writesIn (hinfo.inPage _))
  | .writeSensBw _ | .writePtOfPercAlgnmt _ | .writeLinearAcclComp _ | .writeBurstSel _
  | .writeBurst32 _ => adisWriteSettled_writesIn (hinfo.inPage _)
  | .writeSyncMode m e => adisWriteSyncMode_writesIn hinfo m e
  | .writeUpScale u => adisWriteUpScale_writesIn hinfo u
  | .updateExtClkFreq c => (Op.ReadsOnly.updateExtClkFreq c).writesIn hinfo trivial

theorem adisCmd_writesIn (k : FieldId) :
    WritesIn (Covered [(info.fieldMap k).window]) (adisCmd (info.fieldMap k)) :=
  adisWriteReg_writesIn (hinfo.inPage k)

/-- The software reset writes its command register only: the restart that follows moves
the device's page, not its bytes. -/
theorem adisCmdSwRes_writesIn :
    WritesIn (Covered [(info.fieldMap .swRes).window]) (adisCmdSwRes info) := fun m w h => by
  refine ⟨adisCmdSwRes_pageInv hinfo w h.1, fun a ha => ?_⟩
  have hmem : (adisCmdSwRes info w).2.imu.mem = (adisCmd (info.fieldMap .swRes) w).2.imu.mem := by
    unfold adisCmdSwRes
    rw [bind_apply]
    split <;> rename_i hc
    · rw [hc]
      rfl
    · rw [hc]
  rw [hmem]
  exact (adisCmd_writesIn hinfo .swRes m w h).2 a ha

theorem adisStartupReset_writesIn :
    WritesIn (Covered [(info.fieldMap .swRes).window]) (adisStartupReset info) := fun m =>
  Keeps.dev_bind fun w h => by
    split
    · exact Keeps.bind_into noOsGpioSetValueHigh_outside (fun _ h => h.1) (fun _ => emit_writesIn _ m)
        w ⟨h, h.1.line ‹_›⟩
    · exact adisCmdSwRes_writesIn hinfo m w h

theorem adisInitialStartup_writesIn :
    WritesIn (Covered (Op.windows info .initialStartup)) (adisInitialStartup info) :=
  have hsub : ∀ k ∈ [FieldId.swRes, .snsrSelfTest, .flsMemTest], ∀ r ∈ [(info.fieldMap k).window],
      r ∈ Op.windows info .initialStartup := fun _ hk _ hr =>
    List.mem_map.2 ⟨_, hk, (List.mem_singleton.1 hr).symm⟩
  ((adisStartupReset_writesIn hinfo).sub (hsub _ (by simp))).bind fun _ =>
    (((adisCmd_writesIn hinfo _).sub (hsub _ (by simp))).bind fun _ => emit_writesIn _).bind
      fun _ => ((adisCmd_writesIn hinfo _).sub (hsub _ (by simp))).bind fun _ =>
        (adisReadDiagStat_writesIn hinfo).bind fun _ =>
          (adisReadFieldU32_writesIn hinfo _).bind fun _ => .pure _

theorem Op.exec_writesIn :
    ∀ op : Op, op.Windowed → WritesIn (Covered (op.windows info)) (op.exec info)
  | .readReg r s, h => (Op.ReadsOnly.readReg r s).writesIn hinfo h
  | .writeReg _ _ _, h => adisWriteReg_writesIn h
  | .updateBitsBase _ _ _ _, h => adisUpdateBitsBase_writesIn h
  | .readFieldU32 f, h => (Op.ReadsOnly.readFieldU32 f).writesIn hinfo h
  | .readFieldS32 f, h => (Op.ReadsOnly.readFieldS32 f).writesIn hinfo h
  | .readDiagStat, h => Op.ReadsOnly.readDiagStat.writesIn hinfo h
  | .readBurstData n buf sel, h => (Op.ReadsOnly.readBurstData n buf sel).writesIn hinfo h
  | .readFlsMemWrCntr, h => Op.ReadsOnly.readFlsMemWrCntr.writesIn hinfo h
  | .config op, _ => ConfigOp.run_writesIn hinfo op
  | .cmdFactCalibRestore, _ => adisCmd_writesIn hinfo _
  | .cmdSnsrSelfTest, _ => (adisCmd_writesIn hinfo _).bind fun _ => emit_writesIn _
  | .cmdFlsMemUpdate, _ => (adisCmd_writesIn hinfo _).bind fun _ =>
    (adisReadFlsMemWrCntr_writesIn hinfo).bind fun _ => .pure _
  | .cmdFlsMemTest, _ => adisCmd_writesIn hinfo _
  | .cmdSwRes, _ => adisCmdSwRes_writesIn hinfo
  | .initialStartup, _ => adisInitialStartup_writesIn hinfo

end Safe

/-- **Every call writes the registers it names.**  For a descriptor whose fields sit
inside one page below 256 clear of the page register and whose software reset is on
page `0`, from a state whose page cache is unknown or right and whose reset line, if the
handle has one, is high, on a bus none of whose failing transfers delivers the page select
it opens with: a run of calls whose raw register calls address such
windows leaves every byte of the device that none of its calls names as it was,
whatever each call returns. -/
theorem runOps_writes_only {info : AdisChipInfo} (hinfo : PageSafe info) (ops : List Op)
    (hwin : ∀ op ∈ ops, op.Windowed) (w : World) (hw : PageInv w) (a : Nat)
    (ha : ∀ op ∈ ops, ¬Covered (op.windows info) a) :
    (runOps info ops w).imu.mem a = w.imu.mem a :=
  have hk : ∀ op ∈ ops, Keeps (Outside (fun b => ∃ op ∈ ops, Covered (op.windows info) b)
      w.imu.mem) (op.exec info) := fun op hop =>
    (Op.exec_writesIn hinfo op (hwin op hop)).mono (fun _ hb => ⟨op, hop, hb⟩) _
  (runOps_keeps hk ⟨hw, fun _ _ => rfl⟩).2 a fun ⟨op, hop, hc⟩ => ha op hop hc

/-- `runOps_writes_only` on `sampleChip` from a blank device: a decimation-rate write, a
flash test and a raw write to `0x82` leave the status register's byte at `2`. -/
theorem runOps_writes_only_blank :
    (runOps sampleChip [.config (.writeDecRate 4), .cmdFlsMemTest, .writeReg 130 7 2]
      World.blank).imu.mem 2 = World.blank.imu.mem 2 :=
  runOps_writes_only PageSafe.sampleChip _ (fun op hop => by
      simp only [List.mem_cons, List.mem_singleton, List.not_mem_nil, or_false] at hop
      rcases hop with rfl | rfl | rfl
      exacts [trivial, trivial, ⟨by decide, by decide, by decide⟩])
    World.blank ⟨.inr rfl, fun h => absurd h (by decide), fun _ h => absurd h (List.not_mem_nil _)⟩ 2
    (by decide)

end AdisImu
