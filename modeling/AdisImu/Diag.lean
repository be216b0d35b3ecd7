/-
# The diagnostics tracker

`src/drivers/imu/adis.c`, lines 505-781.  `adis_update_diag_flags` decodes a
16-bit status word into the ten status flags of the handle, each flag set iff
the word meets its device-specific mask; `adis_read_diag_stat` reads the status
register, decodes it, and returns the handle's flags.  The ten
`adis_read_diag_<flag>` read the status register and project one flag; the
checksum and flash-counter flags are read from the handle without a transfer.

A completed status read stores the decode of the register's low 16 bits
(`adisReadDiagStat_stat`); the burst read of `Burst.lean` is compared with it.
-/

import AdisImu.Accessors

namespace AdisImu

open Drv

/-- The decode of a status word: flag `f` is set iff the word meets its mask. -/
def decodeDiag (info : AdisChipInfo) (diagStat : Nat) (f : DiagFlag) : Bool :=
  diagStat &&& info.diagMask f != 0

section Tracker

variable (info : AdisChipInfo)

/-- `adis_update_diag_flags`; `diag_stat` is a `uint16_t` parameter. -/
def adisUpdateDiagFlags (diagStat : Nat) : Drv Unit :=
  Drv.setDev fun d =>
    { d with diagFlags := { d.diagFlags with stat := decodeDiag info (diagStat % 2 ^ 16) } }

/-- `adis_read_diag_stat`: the whole status register, its mask not applied. -/
def adisReadDiagStat : Drv AdisDiagFlags := do
  let field := info.fieldMap .diagStat
  let fieldVal ← adisReadReg field.regAddr field.regSize
  adisUpdateDiagFlags info fieldVal
  let adis ← Drv.dev
  pure adis.diagFlags

/-- An `adis_read_diag_<flag>`: a status read, projected on one flag. -/
def adisReadDiag (f : DiagFlag) : Drv Bool := do
  let diagFlags ← adisReadDiagStat info
  pure (diagFlags.stat f)

/-- `adis_read_diag_data_path_overrun`. -/
def adisReadDiagDataPathOverrun : Drv Bool := adisReadDiag info .dataPathOverrun
/-- `adis_read_diag_fls_mem_update_failure`. -/
def adisReadDiagFlsMemUpdateFailure : Drv Bool := adisReadDiag info .flsMemUpdateFailure
/-- `adis_read_diag_spi_comm_err`. -/
def adisReadDiagSpiCommErr : Drv Bool := adisReadDiag info .spiCommErr
/-- `adis_read_diag_standby_mode`. -/
def adisReadDiagStandbyMode : Drv Bool := adisReadDiag info .diagStandbyMode
/-- `adis_read_diag_snsr_failure`. -/
def adisReadDiagSnsrFailure : Drv Bool := adisReadDiag info .snsrFailure
/-- `adis_read_diag_mem_failure`. -/
def adisReadDiagMemFailure : Drv Bool := adisReadDiag info .memFailure
/-- `adis_read_diag_clk_err`. -/
def adisReadDiagClkErr : Drv Bool := adisReadDiag info .clkErr
/-- `adis_read_diag_gyro1_failure`. -/
def adisReadDiagGyro1Failure : Drv Bool := adisReadDiag info .gyro1Failure
/-- `adis_read_diag_gyro2_failure`. -/
def adisReadDiagGyro2Failure : Drv Bool := adisReadDiag info .gyro2Failure
/-- `adis_read_diag_accl_failure`. -/
def adisReadDiagAcclFailure : Drv Bool := adisReadDiag info .acclFailure

end Tracker

/-- `adis_read_diag_checksum_err`: the handle's flag, no transfer. -/
def adisReadDiagChecksumErr : Drv Bool := do
  let adis ← Drv.dev
  pure adis.diagFlags.checksumErr

/-- `adis_read_diag_fls_mem_wr_cnt_exceed`: the handle's flag, no transfer. -/
def adisReadDiagFlsMemWrCntExceed : Drv Bool := do
  let adis ← Drv.dev
  pure adis.diagFlags.flsMemWrCntExceed

/-- **A completed status read stores the decode of the register's low 16 bits.** -/
theorem adisReadDiagStat_stat {info : AdisChipInfo} {w : World} {flags : AdisDiagFlags}
    (h : (adisReadDiagStat info w).1 = .ok flags) :
    ∃ v, (adisReadReg (info.fieldMap .diagStat).regAddr (info.fieldMap .diagStat).regSize w).1 = .ok v ∧
      (adisReadDiagStat info w).2.dev.diagFlags.stat = decodeDiag info (v % 2 ^ 16) ∧
      flags = (adisReadDiagStat info w).2.dev.diagFlags := by
  unfold adisReadDiagStat at h ⊢
  simp only [bind_apply] at h ⊢
  split at h
  · rename_i v w' hv
    simp only [hv, adisUpdateDiagFlags, setDev_apply, dev_apply, pure_apply, Except.ok.injEq] at h ⊢
    exact ⟨v, rfl, rfl, h.symm⟩
  · simp at h

end AdisImu
