/-
# The configuration setters

`src/drivers/imu/adis.c`, lines 1114-1530 and 1816-1842.  Each setter writes one
field with `adis_write_field_u32`; most then wait a settle time, and four first
check their argument against a bound (`filt_size_var_b_max`, `1` for the two
polarities, `dec_rate_max`).  Those are the two family members
`adisWriteSettled` and `adisWriteBounded`.

Three setters touch the handle's clocks.  `adis_write_sync_mode` checks the mode
and, for an externally clocked mode, the clock against the mode's range; it then
records the clock in `ext_clk` and `clk_freq` (the internal clock in `clk_freq`
otherwise), in scaled mode programs the up-scale `2100 / clk_freq`, and writes
the mode last.  `adis_write_up_scale` checks the `uint32_t` product
`clk_freq * up_scale` against 1900..2100 while the device is in scaled mode.
`adis_update_ext_clk_freq` checks the clock against the device's current mode
and records it in `ext_clk` only.

The clocks are assigned before any transfer, so a call that fails after its
checks keeps them: on any nonzero return `adis_write_sync_mode` leaves the clocks
as they were or as its checks allowed (`adisWriteSyncMode_clocks`).
-/

import AdisImu.Accessors

namespace AdisImu

open Drv

/-- A setter with a settle delay: the field write, then `delay`. -/
def adisWriteSettled (field : AdisField) (delay : Drv Unit) (val : Nat) : Drv Unit := do
  adisWriteFieldU32 field val
  delay

/-- A bounded setter: `-EINVAL` above `max` before any transfer, else a settled write. -/
def adisWriteBounded (field : AdisField) (max : Nat) (delay : Drv Unit) (val : Nat) :
    Drv Unit :=
  if val > max then Drv.fail (-EINVAL) else adisWriteSettled field delay val

section Setters

variable (info : AdisChipInfo)

/-- `adis_write_filt_size_var_b`. -/
def adisWriteFiltSizeVarB (filtSizeVarB : Nat) : Drv Unit :=
  adisWriteBounded (info.fieldMap .filtSizeVarB) info.filtSizeVarBMax
    (noOsUdelay info.timeouts.filtSizeVarBUpdateUs) filtSizeVarB

/-- `adis_write_dr_polarity`. -/
def adisWriteDrPolarity (drPolarity : Nat) : Drv Unit :=
  adisWriteBounded (info.fieldMap .drPolarity) 1 (noOsUdelay info.timeouts.mscRegUpdateUs)
    drPolarity

/-- `adis_write_sync_polarity`. -/
def adisWriteSyncPolarity (syncPolarity : Nat) : Drv Unit :=
  adisWriteBounded (info.fieldMap .syncPolarity) 1 (noOsUdelay info.timeouts.mscRegUpdateUs)
    syncPolarity

/-- `adis_write_sens_bw`. -/
def adisWriteSensBw (sensBw : Nat) : Drv Unit :=
  adisWriteSettled (info.fieldMap .sensBw) (noOsMdelay info.timeouts.sensBwUpdateMs) sensBw

/-- `adis_write_pt_of_perc_algnmt`. -/
def adisWritePtOfPercAlgnmt (ptOfPercAlgnmt : Nat) : Drv Unit :=
  adisWriteSettled (info.fieldMap .ptOfPercAlgnmt) (noOsUdelay info.timeouts.mscRegUpdateUs)
    ptOfPercAlgnmt

/-- `adis_write_linear_accl_comp`. -/
def adisWriteLinearAcclComp (linearAcclComp : Nat) : Drv Unit :=
  adisWriteSettled (info.fieldMap .linearAcclComp) (noOsUdelay info.timeouts.mscRegUpdateUs)
    linearAcclComp

/-- `adis_write_burst_sel`. -/
def adisWriteBurstSel (burstSel : Nat) : Drv Unit :=
  adisWriteSettled (info.fieldMap .burstSel) (noOsUdelay info.timeouts.mscRegUpdateUs) burstSel

/-- `adis_write_burst32`. -/
def adisWriteBurst32 (burst32 : Nat) : Drv Unit :=
  adisWriteSettled (info.fieldMap .burst32) (noOsUdelay info.timeouts.mscRegUpdateUs) burst32

/-- `adis_write_dec_rate`. -/
def adisWriteDecRate (decRate : Nat) : Drv Unit :=
  adisWriteBounded (info.fieldMap .decRate) info.decRateMax
    (noOsUdelay info.timeouts.decRateUpdateUs) decRate

/-- `adis_write_up_scale`: in scaled mode the `uint32_t` product
`clk_freq * up_scale` must lie in 1900..2100. -/
def adisWriteUpScale (upScale : Nat) : Drv Unit := do
  let syncMode ← adisReadSyncMode info
  let adis ← Drv.dev
  if syncMode = ADIS_SYNC_SCALED ∧
      (adis.clkFreq * upScale % 2 ^ 32 > 2100 ∨ adis.clkFreq * upScale % 2 ^ 32 < 1900) then
    Drv.fail (-EINVAL)
  else
    adisWriteFieldU32 (info.fieldMap .upScale) upScale

/-- `adis_write_sync_mode`.  The up-scale `2100 / clk_freq` is a `uint32_t` quotient,
which C leaves undefined for a clock of `0` that a range starting at `0` admits
(`Drv.udiv`). -/
def adisWriteSyncMode (syncMode extClk : Nat) : Drv Unit :=
  if syncMode > info.syncModeMax then Drv.fail (-EINVAL)
  else if syncMode ≠ ADIS_SYNC_DEFAULT ∧ syncMode ≠ ADIS_SYNC_OUTPUT then
    if extClk < (info.syncClkFreqLimits syncMode).minFreq ∨
        extClk > (info.syncClkFreqLimits syncMode).maxFreq then Drv.fail (-EINVAL)
    else do
      Drv.setDev fun d => { d with extClk := extClk, clkFreq := extClk }
      if syncMode = ADIS_SYNC_SCALED then
        let adis ← Drv.dev
        let upScale ← Drv.udiv 2100 adis.clkFreq
        adisWriteUpScale info upScale
      adisWriteFieldU32 (info.fieldMap .syncMode) syncMode
  else do
    Drv.setDev fun d => { d with clkFreq := info.intClk }
    adisWriteFieldU32 (info.fieldMap .syncMode) syncMode

/-- `adis_update_ext_clk_freq`. -/
def adisUpdateExtClkFreq (clkFreq : Nat) : Drv Unit := do
  let syncMode ← adisReadSyncMode info
  if syncMode ≠ ADIS_SYNC_DEFAULT ∧ syncMode ≠ ADIS_SYNC_OUTPUT ∧
      (clkFreq < (info.syncClkFreqLimits syncMode).minFreq ∨
        clkFreq > (info.syncClkFreqLimits syncMode).maxFreq) then
    Drv.fail (-EINVAL)
  else
    Drv.setDev fun d => { d with extClk := clkFreq }

end Setters

/-- The configuration operations of `adis.c`, each with its argument. -/
inductive ConfigOp
  | writeXgBias (xgBias : Int)
  | writeYgBias (ygBias : Int)
  | writeZgBias (zgBias : Int)
  | writeXaBias (xaBias : Int)
  | writeYaBias (yaBias : Int)
  | writeZaBias (zaBias : Int)
  | writeUsrScr1 (usrScr1 : Nat)
  | writeUsrScr2 (usrScr2 : Nat)
  | writeUsrScr3 (usrScr3 : Nat)
  | writeFiltSizeVarB (filtSizeVarB : Nat)
  | writeDrPolarity (drPolarity : Nat)
  | writeSyncPolarity (syncPolarity : Nat)
  | writeSyncMode (syncMode extClk : Nat)
  | writeSensBw (sensBw : Nat)
  | writePtOfPercAlgnmt (ptOfPercAlgnmt : Nat)
  | writeLinearAcclComp (linearAcclComp : Nat)
  | writeBurstSel (burstSel : Nat)
  | writeBurst32 (burst32 : Nat)
  | writeUpScale (upScale : Nat)
  | writeDecRate (decRate : Nat)
  | updateExtClkFreq (clkFreq : Nat)
deriving DecidableEq, Repr

/-- The call a configuration operation makes. -/
def ConfigOp.run (info : AdisChipInfo) : ConfigOp → Drv Unit
  | .writeXgBias b => adisWriteXgBias info b
  | .writeYgBias b => adisWriteYgBias info b
  | .writeZgBias b => adisWriteZgBias info b
  | .writeXaBias b => adisWriteXaBias info b
  | .writeYaBias b => adisWriteYaBias info b
  | .writeZaBias b => adisWriteZaBias info b
  | .writeUsrScr1 v => adisWriteUsrScr1 info v
  | .writeUsrScr2 v => adisWriteUsrScr2 info v
  | .writeUsrScr3 v => adisWriteUsrScr3 info v
  | .writeFiltSizeVarB v => adisWriteFiltSizeVarB info v
  | .writeDrPolarity v => adisWriteDrPolarity info v
  | .writeSyncPolarity v => adisWriteSyncPolarity info v
  | .writeSyncMode m e => adisWriteSyncMode info m e
  | .writeSensBw v => adisWriteSensBw info v
  | .writePtOfPercAlgnmt v => adisWritePtOfPercAlgnmt info v
  | .writeLinearAcclComp v => adisWriteLinearAcclComp info v
  | .writeBurstSel v => adisWriteBurstSel info v
  | .writeBurst32 v => adisWriteBurst32 info v
  | .writeUpScale v => adisWriteUpScale info v
  | .writeDecRate v => adisWriteDecRate info v
  | .updateExtClkFreq v => adisUpdateExtClkFreq info v

/-! ### The clocks on every outcome -/

/-- The argument checks of `adis_write_sync_mode`. -/
def SyncModeValid (info : AdisChipInfo) (syncMode extClk : Nat) : Prop :=
  syncMode ≤ info.syncModeMax ∧
    (syncMode ≠ ADIS_SYNC_DEFAULT ∧ syncMode ≠ ADIS_SYNC_OUTPUT →
      (info.syncClkFreqLimits syncMode).minFreq ≤ extClk ∧
        extClk ≤ (info.syncClkFreqLimits syncMode).maxFreq)

instance (info : AdisChipInfo) (syncMode extClk : Nat) :
    Decidable (SyncModeValid info syncMode extClk) :=
  inferInstanceAs (Decidable (_ ∧ (_ → _)))

/-- The handle's `(ext_clk, clk_freq)`. -/
def AdisDev.clocks (d : AdisDev) : Nat × Nat := (d.extClk, d.clkFreq)

/-- `(ext_clk, clk_freq)` once `adis_write_sync_mode`'s checks have passed. -/
def syncClocks (info : AdisChipInfo) (syncMode extClk : Nat) (d : AdisDev) : Nat × Nat :=
  if syncMode ≠ ADIS_SYNC_DEFAULT ∧ syncMode ≠ ADIS_SYNC_OUTPUT then (extClk, extClk)
  else (d.extClk, info.intClk)

theorem HandleIs.clocks {d : AdisDev} {w : World} (h : HandleIs d w) : w.dev.clocks = d.clocks := by
  obtain ⟨_, hp⟩ := h
  rw [hp]
  rfl

theorem setDev_bind_apply (f : AdisDev → AdisDev) (g : Unit → Drv α) (w : World) :
    (setDev f >>= g) w = g () { w with dev := f w.dev } := rfl

theorem adisWriteUpScale_keeps {P : World → Prop} {info : AdisChipInfo} {upScale : Nat}
    (hm : Keeps P (adisReadSyncMode info))
    (hr : Keeps P (adisReadReg (info.fieldMap .upScale).regAddr
      ((info.fieldMap .upScale).regSize % 256)))
    (hw : ∀ val, Keeps P (adisWriteReg (info.fieldMap .upScale).regAddr val
      ((info.fieldMap .upScale).regSize % 256))) :
    Keeps P (adisWriteUpScale info upScale) :=
  hm.bind fun _ => Keeps.dev.bind fun _ => Keeps.ite (Keeps.fail _) (adisWriteFieldU32_keeps hr hw)

theorem adisReadSyncMode_handleIs (d : AdisDev) (info : AdisChipInfo) :
    Keeps (HandleIs d) (adisReadSyncMode info) :=
  adisReadFieldU32_keeps (adisReadReg_handleIs d _ _)

theorem adisWriteFieldU32_handleIs (d : AdisDev) (field : AdisField) (val : Nat) :
    Keeps (HandleIs d) (adisWriteFieldU32 field val) :=
  adisWriteFieldU32_keeps (adisReadReg_handleIs d _ _) fun _ => adisWriteReg_handleIs d _ _ _

theorem adisWriteUpScale_handleIs (d : AdisDev) (info : AdisChipInfo) (upScale : Nat) :
    Keeps (HandleIs d) (adisWriteUpScale info upScale) :=
  adisWriteUpScale_keeps (adisReadSyncMode_handleIs d info) (adisReadReg_handleIs d _ _)
    fun _ => adisWriteReg_handleIs d _ _ _

theorem HandleIs.keeps_clocks {x : Drv α} {w : World} (hx : Keeps (HandleIs w.dev) x) :
    (x w).2.dev.clocks = w.dev.clocks :=
  (hx w (HandleIs.self w)).clocks

theorem adisWriteSyncMode_invalid {info : AdisChipInfo} {syncMode extClk : Nat}
    (h : ¬ SyncModeValid info syncMode extClk) (w : World) :
    adisWriteSyncMode info syncMode extClk w = (.error (-EINVAL), w) := by
  unfold SyncModeValid at h
  unfold adisWriteSyncMode
  by_cases hmax : syncMode > info.syncModeMax
  · rw [if_pos hmax]; rfl
  rw [if_neg hmax, if_pos (by omega), if_pos (by omega)]
  rfl

/-- **The clocks `adis_write_sync_mode` leaves, whatever it returns**: those its
checks admit once they pass, the old ones otherwise. -/
theorem adisWriteSyncMode_clocks (info : AdisChipInfo) (syncMode extClk : Nat) (w : World) :
    (adisWriteSyncMode info syncMode extClk w).2.dev.clocks =
      if SyncModeValid info syncMode extClk then syncClocks info syncMode extClk w.dev
      else w.dev.clocks := by
  split_ifs with hv
  · obtain ⟨hmax, hrange⟩ := hv
    unfold adisWriteSyncMode syncClocks
    rw [if_neg (by omega)]
    by_cases hext : syncMode ≠ ADIS_SYNC_DEFAULT ∧ syncMode ≠ ADIS_SYNC_OUTPUT
    · rw [if_pos hext, if_pos hext, if_neg (by omega), setDev_bind_apply]
      have hF := fun d => adisWriteFieldU32_handleIs d (info.fieldMap .syncMode) syncMode
      exact HandleIs.keeps_clocks (Keeps.ite (Keeps.dev.bind fun _ => (Keeps.udiv _ _).bind fun _ =>
        (adisWriteUpScale_handleIs _ _ _).bind fun _ => hF _) ((Keeps.pure _).bind fun _ => hF _))
    · rw [if_neg hext, if_neg hext, setDev_bind_apply]
      exact HandleIs.keeps_clocks (adisWriteFieldU32_handleIs _ _ _)
  · rw [adisWriteSyncMode_invalid hv]

theorem adisUpdateExtClkFreq_error_clocks {info : AdisChipInfo} {clkFreq : Nat} {w : World}
    {c : Int} (h : (adisUpdateExtClkFreq info clkFreq w).1 = .error c) :
    (adisUpdateExtClkFreq info clkFreq w).2.dev.clocks = w.dev.clocks := by
  have hk := (adisReadSyncMode_handleIs w.dev info) w (HandleIs.self w)
  unfold adisUpdateExtClkFreq at h ⊢
  rw [bind_apply] at h ⊢
  split at h
  · rename_i hm
    rw [hm] at hk
    split_ifs at h ⊢
    · exact hk.clocks
    · simp at h
  · rename_i hm
    rw [hm] at hk
    exact hk.clocks

/-- **What a failed clock update leaves.**  `adis_update_ext_clk_freq` keeps
`ext_clk` and `clk_freq` on any nonzero return.  `adis_write_sync_mode` keeps them
when its argument checks reject the call, with `-EINVAL`; once they pass it has
assigned them, and a later failure (a transfer, or a check of the up-scale or of
the field) leaves them as a successful call would. -/
theorem adisClocks_on_error (info : AdisChipInfo) (syncMode extClk : Nat) (w : World) (c : Int) :
    ((adisUpdateExtClkFreq info extClk w).1 = .error c →
      (adisUpdateExtClkFreq info extClk w).2.dev.clocks = w.dev.clocks) ∧
    ((adisWriteSyncMode info syncMode extClk w).1 = .error c →
      (¬ SyncModeValid info syncMode extClk ∧ c = -EINVAL ∧
        (adisWriteSyncMode info syncMode extClk w).2.dev.clocks = w.dev.clocks) ∨
      (SyncModeValid info syncMode extClk ∧
        (adisWriteSyncMode info syncMode extClk w).2.dev.clocks =
          syncClocks info syncMode extClk w.dev)) := by
  refine ⟨adisUpdateExtClkFreq_error_clocks, fun h => ?_⟩
  by_cases hv : SyncModeValid info syncMode extClk
  · exact .inr ⟨hv, by rw [adisWriteSyncMode_clocks, if_pos hv]⟩
  · rw [adisWriteSyncMode_invalid hv] at h ⊢
    exact .inl ⟨hv, (Except.error.inj h).symm, rfl⟩

/-- `adisClocks_on_error` on the failing run below: the checks passed. -/
theorem adisClocks_on_error_failing :
    (adisWriteSyncMode sampleChip ADIS_SYNC_DEFAULT 0 (World.failing 5 (by decide))).1 =
        .error 5 ∧
      ((¬ SyncModeValid sampleChip ADIS_SYNC_DEFAULT 0 ∧ (5 : Int) = -EINVAL ∧
        (adisWriteSyncMode sampleChip ADIS_SYNC_DEFAULT 0 (World.failing 5 (by decide))).2.dev.clocks =
          (World.failing 5 (by decide)).dev.clocks) ∨
      (SyncModeValid sampleChip ADIS_SYNC_DEFAULT 0 ∧
        (adisWriteSyncMode sampleChip ADIS_SYNC_DEFAULT 0 (World.failing 5 (by decide))).2.dev.clocks =
          syncClocks sampleChip ADIS_SYNC_DEFAULT 0 (World.failing 5 (by decide)).dev)) :=
  ⟨rfl, (adisClocks_on_error sampleChip ADIS_SYNC_DEFAULT 0 _ 5).2 rfl⟩

/-- A failed call that moved the clocks: switching `sampleChip` to its internal clock
over a bus whose first transfer fails returns the bus's code with `clk_freq`
already moved from `0` to `int_clk`. -/
theorem adisWriteSyncMode_failed_moves_clock :
    (adisWriteSyncMode sampleChip ADIS_SYNC_DEFAULT 0 (World.failing 5 (by decide))).1 =
        .error 5 ∧
      (adisWriteSyncMode sampleChip ADIS_SYNC_DEFAULT 0 (World.failing 5 (by decide))).2.dev.clkFreq =
        2000 ∧
      (World.failing 5 (by decide)).dev.clkFreq = 0 :=
  ⟨rfl, rfl, rfl⟩

end AdisImu
