/-
# The handle's moves

`src/drivers/imu/adis.c` changes its handle `struct adis_dev` in seven kinds of move
only: the page cache (`adis_read_reg`, `adis_write_reg`); the ten status flags
(`adis_update_diag_flags`); `checksum_err` (`adis_read_burst_data`);
`fls_mem_wr_cnt_exceed`, only ever set (`adis_read_fls_mem_wr_cntr`); `ext_clk` alone
(`adis_update_ext_clk_freq`); and the two assignments of `adis_write_sync_mode`:
`ext_clk` and `clk_freq` from an external clock its checks admit, or `clk_freq` from
the internal clock.  The transfers, delays and the reset line leave the handle.

`HandleMove` lists the moves by kind and `Op.kinds` the kinds each call can make: its
footprint on the handle.  A property of the handle that the moves of those kinds keep
is kept by the call, whatever the bus does (`Op.exec_keptBy`), and `adis_init` ends in
it once the handle it allocates has it (`adisInit_keptBy`).  `HandleStep` and
`HandleInv` are the coarse form, with the three diagnostic kinds merged: a property
every move keeps.  The statements say nothing of the device or the bus; they are about
which values the handle's members can take.
-/

import AdisImu.Lifecycle

namespace AdisImu

open Drv

/-- The five ways `adis.c` changes its handle, each a `setDev` of the model. -/
inductive HandleStep (info : AdisChipInfo) : AdisDev → AdisDev → Prop
  | page (d : AdisDev) (p : Int) : HandleStep info d { d with currentPage := p }
  | diag (d : AdisDev) (flags : AdisDiagFlags) : HandleStep info d { d with diagFlags := flags }
  | extClk (d : AdisDev) (e : Nat) : HandleStep info d { d with extClk := e }
  | syncExt (d : AdisDev) (m e : Nat) (hv : SyncModeValid info m e)
      (hext : m ≠ ADIS_SYNC_DEFAULT ∧ m ≠ ADIS_SYNC_OUTPUT) :
      HandleStep info d { d with extClk := e, clkFreq := e }
  | syncInt (d : AdisDev) : HandleStep info d { d with clkFreq := info.intClk }

/-- A property of the handle that each of the driver's moves keeps. -/
structure HandleInv (info : AdisChipInfo) where
  holds : AdisDev → Prop
  step : ∀ d d', HandleStep info d d' → holds d → holds d'

/-- The kinds of move `adis.c` makes on its handle. -/
inductive MoveKind
  | page
  | stat
  | checksumErr
  | flsExceed
  | extClk
  | syncExt
  | syncInt
deriving DecidableEq, Repr

/-- The moves of each kind, each a `setDev` of the model. -/
inductive HandleMove (info : AdisChipInfo) : MoveKind → AdisDev → AdisDev → Prop
  | page (d : AdisDev) (p : Int) : HandleMove info .page d { d with currentPage := p }
  | stat (d : AdisDev) (s : DiagFlag → Bool) :
      HandleMove info .stat d { d with diagFlags := { d.diagFlags with stat := s } }
  | checksumErr (d : AdisDev) (b : Bool) :
      HandleMove info .checksumErr d { d with diagFlags := { d.diagFlags with checksumErr := b } }
  | flsExceed (d : AdisDev) :
      HandleMove info .flsExceed d
        { d with diagFlags := { d.diagFlags with flsMemWrCntExceed := true } }
  | extClk (d : AdisDev) (e : Nat) : HandleMove info .extClk d { d with extClk := e }
  | syncExt (d : AdisDev) (m e : Nat) (hv : SyncModeValid info m e)
      (hext : m ≠ ADIS_SYNC_DEFAULT ∧ m ≠ ADIS_SYNC_OUTPUT) :
      HandleMove info .syncExt d { d with extClk := e, clkFreq := e }
  | syncInt (d : AdisDev) : HandleMove info .syncInt d { d with clkFreq := info.intClk }

/-- Every move is one of the coarse steps. -/
theorem HandleMove.step {info : AdisChipInfo} {k : MoveKind} {d d' : AdisDev}
    (h : HandleMove info k d d') : HandleStep info d d' := by
  cases h with
  | page d p => exact .page d p
  | stat | checksumErr | flsExceed => exact .diag _ _
  | extClk d e => exact .extClk d e
  | syncExt d m e hv hext => exact .syncExt d m e hv hext
  | syncInt d => exact .syncInt d

/-- The kinds of move each call can make: its footprint on the handle. -/
def Op.kinds : Op → List MoveKind
  | .readDiagStat | .initialStartup => [.page, .stat]
  | .readBurstData _ _ _ => [.checksumErr, .stat]
  | .readFlsMemWrCntr | .cmdFlsMemUpdate => [.page, .flsExceed]
  | .config (.writeSyncMode _ _) => [.page, .syncExt, .syncInt]
  | .config (.updateExtClkFreq _) => [.page, .extClk]
  | _ => [.page]

/-- A property of the handle that every move of the kinds `ks` keeps. -/
def KeptBy (info : AdisChipInfo) (ks : List MoveKind) (P : AdisDev → Prop) : Prop :=
  ∀ k ∈ ks, ∀ d d', HandleMove info k d d' → P d → P d'

/-- A handle invariant is kept by the moves of every kind. -/
theorem HandleInv.keptBy {info : AdisChipInfo} (Q : HandleInv info) (ks : List MoveKind) :
    KeptBy info ks Q.holds :=
  fun _ _ d d' h => Q.step d d' h.step

section Moves

variable {info : AdisChipInfo} {P : AdisDev → Prop}

theorem KeptBy.mono {ks ks' : List MoveKind} (h : KeptBy info ks P) (hsub : ∀ k ∈ ks', k ∈ ks) :
    KeptBy info ks' P :=
  fun k hk => h k (hsub k hk)

theorem KeptBy.of_mem {ks : List MoveKind} (h : KeptBy info ks P) {k : MoveKind} (hk : k ∈ ks) :
    KeptBy info [k] P :=
  h.mono fun k' hk' => by rw [List.mem_singleton.1 hk']; exact hk

theorem KeptBy.keeps_setDev {k : MoveKind} {f : AdisDev → AdisDev} (hP : KeptBy info [k] P)
    (hf : ∀ d, HandleMove info k d (f d)) : Keeps (fun w => P w.dev) (Drv.setDev f) :=
  fun w h => hP k (List.mem_singleton_self k) _ _ (hf w.dev) h

/-- A call that changes the handle in its page alone keeps what the page moves keep. -/
theorem KeptBy.keeps_of_handleIs {x : Drv α} (hP : KeptBy info [.page] P)
    (hx : ∀ d, Keeps (HandleIs d) x) : Keeps (fun w => P w.dev) x := fun w h => by
  obtain ⟨p, hp⟩ := hx w.dev w (HandleIs.self w)
  rw [hp]
  exact hP .page (List.mem_singleton_self _) _ _ (.page _ p) h

end Moves

/-! ### Calls that change the handle in its page alone -/

section Page

variable (d : AdisDev)

theorem emit_handleIs (e : Event) : Keeps (HandleIs d) (emit e) := fun _ h => h

theorem imuSwReset_handleIs : Keeps (HandleIs d) imuSwReset := fun _ h => h

theorem noOsGpioSetValueHigh_handleIs : Keeps (HandleIs d) noOsGpioSetValueHigh :=
  fun w h => by simpa only [HandleIs, noOsGpioSetValueHigh_dev] using h

theorem noOsGpioDirectionOutputLow_handleIs : Keeps (HandleIs d) noOsGpioDirectionOutputLow :=
  fun w h => by simpa only [HandleIs, noOsGpioDirectionOutputLow_dev] using h

theorem noOsSpiWriteAndRead_handleIs (len : Nat) : Keeps (HandleIs d) (noOsSpiWriteAndRead len) :=
  fun w h => by simpa only [HandleIs, noOsSpiWriteAndRead_dev] using h

theorem adisReadFieldU32_handleIs (field : AdisField) : Keeps (HandleIs d) (adisReadFieldU32 field) :=
  adisReadFieldU32_keeps (adisReadReg_handleIs d _ _)

theorem adisWriteSettled_handleIs {field : AdisField} {delay : Drv Unit} {val : Nat}
    (hd : Keeps (HandleIs d) delay) : Keeps (HandleIs d) (adisWriteSettled field delay val) :=
  (adisWriteFieldU32_handleIs d field val).bind fun _ => hd

theorem adisWriteBounded_handleIs {field : AdisField} {max : Nat} {delay : Drv Unit} {val : Nat}
    (hd : Keeps (HandleIs d) delay) : Keeps (HandleIs d) (adisWriteBounded field max delay val) :=
  Keeps.ite (Keeps.fail _) (adisWriteSettled_handleIs d hd)

theorem adisCmd_handleIs (field : AdisField) : Keeps (HandleIs d) (adisCmd field) :=
  adisWriteReg_handleIs d _ _ _

theorem adisCmdSwRes_handleIs (info : AdisChipInfo) : Keeps (HandleIs d) (adisCmdSwRes info) :=
  (adisCmd_handleIs d _).bind fun _ => (imuSwReset_handleIs d).bind fun _ => emit_handleIs d _

end Page

/-! ### Every call -/

section Calls

variable {info : AdisChipInfo} {P : AdisDev → Prop}

theorem adisReadDiagStat_keptBy (hP : KeptBy info [.page, .stat] P) :
    Keeps (fun w => P w.dev) (adisReadDiagStat info) :=
  ((hP.of_mem (by decide)).keeps_of_handleIs fun d => adisReadReg_handleIs d _ _).bind fun _ =>
    ((hP.of_mem (by decide)).keeps_setDev fun d => .stat d _).bind fun _ =>
      Keeps.dev.bind fun _ => Keeps.pure _

theorem adisReadBurstData_keptBy (hP : KeptBy info [.checksumErr, .stat] P) (n : Nat)
    (buf : List Nat) (sel : Fin 2) : Keeps (fun w => P w.dev) (adisReadBurstData info n buf sel) :=
  have hc := hP.of_mem (show MoveKind.checksumErr ∈ _ by decide)
  have hs : ∀ x, Keeps (fun w => P w.dev) (adisUpdateDiagFlags info x) := fun _ =>
    (hP.of_mem (show MoveKind.stat ∈ _ by decide)).keeps_setDev fun d => .stat d _
  (show Keeps _ (noOsSpiWriteAndRead _) from fun w h => by
    rwa [noOsSpiWriteAndRead_dev]).bind fun _ =>
      Keeps.ite ((hc.keeps_setDev fun d => .checksumErr d _).bind fun _ => Keeps.fail _)
        ((hc.keeps_setDev fun d => .checksumErr d _).bind fun _ => (hs _).bind fun _ => Keeps.pure _)

theorem adisReadFlsMemWrCntr_keptBy (hP : KeptBy info [.page, .flsExceed] P) :
    Keeps (fun w => P w.dev) (adisReadFlsMemWrCntr info) :=
  ((hP.of_mem (by decide)).keeps_of_handleIs fun d => adisReadFieldU32_handleIs d _).bind fun _ =>
    Keeps.ite (((hP.of_mem (by decide)).keeps_setDev fun d => .flsExceed d).bind fun _ =>
      Keeps.pure _) ((Keeps.pure _).bind fun _ => Keeps.pure _)

/-- `adis_write_sync_mode` assigns the clocks only once its checks have passed. -/
theorem adisWriteSyncMode_keptBy (hP : KeptBy info [.page, .syncExt, .syncInt] P)
    (syncMode extClk : Nat) : Keeps (fun w => P w.dev) (adisWriteSyncMode info syncMode extClk) :=
  have hp := hP.of_mem (show MoveKind.page ∈ _ by decide)
  have hF := hp.keeps_of_handleIs fun d =>
    adisWriteFieldU32_handleIs d (info.fieldMap .syncMode) syncMode
  Keeps.ite_of (fun _ => Keeps.fail _) fun hmax => Keeps.ite_of
    (fun hext => Keeps.ite_of (fun _ => Keeps.fail _) fun hrange =>
      ((hP.of_mem (by decide)).keeps_setDev fun d => .syncExt d syncMode extClk
        ⟨by omega, fun _ => ⟨by omega, by omega⟩⟩ hext).bind fun _ =>
        Keeps.ite (Keeps.dev.bind fun _ => (Keeps.udiv _ _).bind fun _ =>
            (hp.keeps_of_handleIs fun d => adisWriteUpScale_handleIs d info _).bind fun _ => hF)
          ((Keeps.pure _).bind fun _ => hF))
    fun _ => ((hP.of_mem (by decide)).keeps_setDev fun d => .syncInt d).bind fun _ => hF

theorem ConfigOp.run_keptBy : ∀ op : ConfigOp, KeptBy info (Op.config op).kinds P →
    Keeps (fun w => P w.dev) (op.run info)
  | .writeXgBias _, hP | .writeYgBias _, hP | .writeZgBias _, hP | .writeXaBias _, hP
  | .writeYaBias _, hP | .writeZaBias _, hP | .writeUsrScr1 _, hP | .writeUsrScr2 _, hP
  | .writeUsrScr3 _, hP => hP.keeps_of_handleIs fun d => adisWriteFieldU32_handleIs d _ _
  | .writeFiltSizeVarB _, hP | .writeDrPolarity _, hP | .writeSyncPolarity _, hP
  | .writeDecRate _, hP => hP.keeps_of_handleIs fun d => adisWriteBounded_handleIs d (emit_handleIs d _)
  | .writeSensBw _, hP | .writePtOfPercAlgnmt _, hP | .writeLinearAcclComp _, hP
  | .writeBurstSel _, hP | .writeBurst32 _, hP =>
    hP.keeps_of_handleIs fun d => adisWriteSettled_handleIs d (emit_handleIs d _)
  | .writeSyncMode _ _, hP => adisWriteSyncMode_keptBy hP _ _
  | .writeUpScale _, hP => hP.keeps_of_handleIs fun d => adisWriteUpScale_handleIs d info _
  | .updateExtClkFreq _, hP =>
    ((hP.of_mem (List.mem_cons_self _ _)).keeps_of_handleIs fun d =>
      adisReadSyncMode_handleIs d info).bind fun _ => Keeps.ite (Keeps.fail _)
        ((hP.of_mem (List.mem_cons_of_mem _ (List.mem_cons_self _ _))).keeps_setDev fun d =>
          .extClk d _)

theorem adisInitialStartup_keptBy (hP : KeptBy info [.page, .stat] P) :
    Keeps (fun w => P w.dev) (adisInitialStartup info) :=
  have hp := hP.of_mem (show MoveKind.page ∈ _ by decide)
  (hp.keeps_of_handleIs fun d => Keeps.dev.bind fun _ => Keeps.ite
    ((noOsGpioSetValueHigh_handleIs d).bind fun _ => emit_handleIs d _)
    (adisCmdSwRes_handleIs d info)).bind fun _ =>
    (hp.keeps_of_handleIs fun d => (adisCmd_handleIs d _).bind fun _ => emit_handleIs d _).bind
      fun _ => (hp.keeps_of_handleIs fun d => adisCmd_handleIs d _).bind fun _ =>
        (adisReadDiagStat_keptBy hP).bind fun _ =>
          (hp.keeps_of_handleIs fun d => adisReadFieldU32_handleIs d _).bind fun _ => Keeps.pure _

/-- **Every call keeps what the moves of its kinds keep**, whatever the bus does. -/
theorem Op.exec_keptBy : ∀ op : Op, KeptBy info op.kinds P → Keeps (fun w => P w.dev) (op.exec info)
  | .readReg _ _, hP =>
    (hP.keeps_of_handleIs fun d => adisReadReg_handleIs d _ _).bind fun _ => Keeps.pure _
  | .writeReg _ _ _, hP => hP.keeps_of_handleIs fun d => adisWriteReg_handleIs d _ _ _
  | .updateBitsBase _ _ _ _, hP => hP.keeps_of_handleIs fun d =>
    adisUpdateBitsBase_keeps (adisReadReg_handleIs d _ _) fun _ => adisWriteReg_handleIs d _ _ _
  | .readFieldU32 _, hP =>
    (hP.keeps_of_handleIs fun d => adisReadFieldU32_handleIs d _).bind fun _ => Keeps.pure _
  | .readFieldS32 _, hP => (hP.keeps_of_handleIs fun d =>
    adisReadFieldS32_keeps (adisReadReg_handleIs d _ _)).bind fun _ => Keeps.pure _
  | .readDiagStat, hP => (adisReadDiagStat_keptBy hP).bind fun _ => Keeps.pure _
  | .readBurstData _ _ _, hP => (adisReadBurstData_keptBy hP _ _ _).bind fun _ => Keeps.pure _
  | .readFlsMemWrCntr, hP => (adisReadFlsMemWrCntr_keptBy hP).bind fun _ => Keeps.pure _
  | .config op, hP => ConfigOp.run_keptBy op hP
  | .cmdFactCalibRestore, hP | .cmdFlsMemTest, hP => hP.keeps_of_handleIs fun d => adisCmd_handleIs d _
  | .cmdSnsrSelfTest, hP =>
    hP.keeps_of_handleIs fun d => (adisCmd_handleIs d _).bind fun _ => emit_handleIs d _
  | .cmdFlsMemUpdate, hP =>
    ((hP.of_mem (by decide)).keeps_of_handleIs fun d => adisCmd_handleIs d _).bind fun _ =>
      (adisReadFlsMemWrCntr_keptBy hP).bind fun _ => Keeps.pure _
  | .cmdSwRes, hP => hP.keeps_of_handleIs fun d => adisCmdSwRes_handleIs d info
  | .initialStartup, hP => adisInitialStartup_keptBy hP

/-- A run keeps what the moves of its calls' kinds keep. -/
theorem runOps_keptBy {ops : List Op} (h : ∀ op ∈ ops, KeptBy info op.kinds P) {w : World}
    (hw : P w.dev) : P (runOps info ops w).dev :=
  @runOps_keeps info (fun w => P w.dev) ops (fun op hop => Op.exec_keptBy op (h op hop)) _ hw

/-- The handles `adis_init` starts from: `no_os_calloc`'s zeros, with the reset line the
platform gives or none. -/
def initHandle (g : Bool) : AdisDev := { AdisDev.calloc with gpioReset := g }

/-- A handle as the set-up of `adis_init` leaves it: allocated, its page set, its reset
line taken or not. -/
def FreshDev (w : World) : Prop := ∃ g p, w.dev = { initHandle g with currentPage := p }

theorem adisInitSetup_fresh : Keeps FreshDev (adisInitSetup info) :=
  (show Keeps FreshDev noOsSpiInit from fun w h => by simpa only [FreshDev, noOsSpiInit_dev] using h).bind
    fun _ => (show Keeps FreshDev (Drv.setDev _) from fun _ ⟨g, _, h⟩ =>
      ⟨g, if info.hasPaging then -1 else 0, by simp only [setDev_apply, h]⟩).bind fun _ =>
    fun w ⟨_, p, h⟩ => ⟨info.ip.gpioReset && w.gpioGetOk, p, by
      simp only [noOsGpioGetOptional, h]; rfl⟩

theorem adisInitResetLine_keptBy (hP : KeptBy info [.page] P) :
    Keeps (fun w => P w.dev) adisInitResetLine :=
  Keeps.dev.bind fun _ =>
    Keeps.ite (hP.keeps_of_handleIs noOsGpioDirectionOutputLow_handleIs) (Keeps.pure _)

/-- **`adis_init` ends in every property of the handle that its allocated handles have
and the moves of its start-up and sync-mode write keep**, whatever it returns. -/
theorem adisInit_keptBy (hP : KeptBy info [.page, .stat, .syncExt, .syncInt] P)
    (h0 : ∀ g, P (initHandle g)) (w : World) : P (adisInit info w).2.dev := by
  have hfresh : ∀ w, FreshDev w → P w.dev := fun w ⟨g, p, h⟩ =>
    h ▸ hP .page (by decide) _ _ (.page _ p) (h0 g)
  have hw₁ : FreshDev (noOsCalloc w).2 := ⟨false, 0, rfl⟩
  unfold adisInit
  rw [bind_of_ok (rfl : noOsCalloc w = (.ok _, _))]
  split
  · exact hfresh _ hw₁
  · exact Keeps.bind_into adisInitSetup_fresh hfresh (fun _ =>
      (adisInitResetLine_keptBy (hP.mono (by decide))).bind fun _ =>
        (adisInitialStartup_keptBy (hP.mono (by decide))).bind fun _ =>
          adisWriteSyncMode_keptBy (hP.mono (by decide)) _ _) _ hw₁

theorem adisInit_handleInv (Q : HandleInv info) (h0 : ∀ g, Q.holds (initHandle g)) (w : World) :
    Q.holds (adisInit info w).2.dev :=
  adisInit_keptBy (Q.keptBy _) h0 w

/-- **A handle invariant holds after `adis_init` and any calls**, whatever the bus
does at each transfer. -/
theorem runOps_handleInv (Q : HandleInv info) (h0 : ∀ g, Q.holds (initHandle g)) (w : World)
    (ops : List Op) : Q.holds (runOps info ops (adisInit info w).2).dev :=
  runOps_keptBy (fun _ _ => Q.keptBy _) (adisInit_handleInv Q h0 w)

end Calls

end AdisImu
