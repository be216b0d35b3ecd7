/-
# Commands, bring-up and runs

`src/drivers/imu/adis.c`, lines 104-222 and 1531-1778.  A command writes its
descriptor's mask to the whole command register with `adis_write_reg`; the
self test and the software reset then wait their settle times, and the flash
update reads the flash write counter, whose excess over `fls_mem_wr_cntr_max`
sets `fls_mem_wr_cnt_exceed`.  A completed software reset restarts the device
on page `0` (`imuSwReset`, the device's side of the command).

`adis_initial_startup` resets the device (a rising edge on the reset line if
the handle has one, the software reset otherwise), runs the self test and the
flash test, reads the status and the product ID (a mismatch is only
printed); `adis_init` allocates a handle (`-ENOMEM` if it cannot), sets up the
SPI descriptor, sets the page to unknown (`-1`) on a paged device and `0`
otherwise, gets the reset line the descriptor describes (going on without one
when the platform does not give it), holds that line low, and then runs the
start-up and programs the descriptor's sync mode.  Each platform call's failure
ends `adis_init` with its code, save the line lookup's, which is only printed.

After `adis_init` a client makes any sequence of calls, each of which may
fail; an `Op` is one of them, and `runOps` runs a list of them from a world,
whatever each returns.
-/

import AdisImu.Config
import AdisImu.Burst

namespace AdisImu

open Drv

section Lifecycle

variable (info : AdisChipInfo)

/-- `adis_read_fls_mem_wr_cntr`. -/
def adisReadFlsMemWrCntr : Drv Nat := do
  let flsMemWrCntr ← adisReadFieldU32 (info.fieldMap .flsMemWrCntr)
  if flsMemWrCntr > info.flsMemWrCntrMax then
    Drv.setDev fun d => { d with diagFlags := { d.diagFlags with flsMemWrCntExceed := true } }
  pure flsMemWrCntr

/-- A command: the descriptor's mask written to the whole command register. -/
def adisCmd (field : AdisField) : Drv Unit :=
  adisWriteReg field.regAddr field.fieldMask field.regSize

/-- `adis_cmd_fact_calib_restore`. -/
def adisCmdFactCalibRestore : Drv Unit := adisCmd (info.fieldMap .factCalibRestore)

/-- `adis_cmd_snsr_self_test`. -/
def adisCmdSnsrSelfTest : Drv Unit := do
  adisCmd (info.fieldMap .snsrSelfTest)
  noOsMdelay info.timeouts.selfTestMs

/-- `adis_cmd_fls_mem_update`. -/
def adisCmdFlsMemUpdate : Drv Unit := do
  adisCmd (info.fieldMap .flsMemUpdate)
  let _ ← adisReadFlsMemWrCntr info

/-- `adis_cmd_fls_mem_test`. -/
def adisCmdFlsMemTest : Drv Unit := adisCmd (info.fieldMap .flsMemTest)

/-- `adis_cmd_sw_res`, with the device's restart once the command has gone through. -/
def adisCmdSwRes : Drv Unit := do
  adisCmd (info.fieldMap .swRes)
  imuSwReset
  noOsMdelay info.timeouts.swResetMs

/-- The reset step of `adis_initial_startup`: a rising edge on the reset line if
the handle has one, the software reset otherwise. -/
def adisStartupReset : Drv Unit := do
  let adis ← Drv.dev
  if adis.gpioReset then
    noOsGpioSetValueHigh
    noOsMdelay info.timeouts.resetMs
  else
    adisCmdSwRes info

/-- `adis_initial_startup`; the product-ID mismatch is a `pr_warning` only. -/
def adisInitialStartup : Drv Unit := do
  adisStartupReset info
  adisCmdSnsrSelfTest info
  adisCmdFlsMemTest info
  let _ ← adisReadDiagStat info
  let _ ← adisReadProdId info

/-- The `if (dev->gpio_reset)` block of `adis_init`: the reset line, if the handle
has one, driven low. -/
def adisInitResetLine : Drv Unit := do
  let dev ← Drv.dev
  if dev.gpioReset then noOsGpioDirectionOutputLow else pure ()

/-- The set-up of `adis_init` after the allocation: the SPI descriptor, the handle's
page, and the reset line the descriptor describes. -/
def adisInitSetup : Drv Unit := do
  noOsSpiInit
  Drv.setDev fun d => { d with currentPage := if info.hasPaging then -1 else 0 }
  noOsGpioGetOptional info.ip.gpioReset

/-- `adis_init`: the allocation (`-ENOMEM` when it fails), the set-up, the reset line held
low, the start-up, and the descriptor's sync mode.  A failure after the allocation
returns its code; the frees of the error path change nothing the model holds. -/
def adisInit : Drv Unit := do
  let allocated ← noOsCalloc
  if !allocated then Drv.fail (-ENOMEM)
  else do
    adisInitSetup info
    adisInitResetLine
    adisInitialStartup info
    adisWriteSyncMode info info.ip.syncMode info.ip.extClk

end Lifecycle

/-- A call a client makes on an initialised handle.  The ten `adis_read_diag_<flag>`
are status reads, the named readers field reads: the model keeps what they do,
not which value they return. -/
inductive Op
  | readReg (reg size : Nat)
  | writeReg (reg val size : Nat)
  | updateBitsBase (reg mask val size : Nat)
  | readFieldU32 (f : FieldId)
  | readFieldS32 (f : FieldId)
  | readDiagStat
  | readBurstData (burstDataSize : Nat) (burstData : List Nat) (burstSizeSelection : Fin 2)
  | readFlsMemWrCntr
  | config (op : ConfigOp)
  | cmdFactCalibRestore
  | cmdSnsrSelfTest
  | cmdFlsMemUpdate
  | cmdFlsMemTest
  | cmdSwRes
  | initialStartup
deriving DecidableEq, Repr

/-- The call an `Op` makes, its value dropped. -/
def Op.exec (info : AdisChipInfo) : Op → Drv Unit
  | .readReg reg size => do let _ ← adisReadReg reg size
  | .writeReg reg val size => adisWriteReg reg val size
  | .updateBitsBase reg mask val size => adisUpdateBitsBase reg mask val size
  | .readFieldU32 f => do let _ ← adisReadFieldU32 (info.fieldMap f)
  | .readFieldS32 f => do let _ ← adisReadFieldS32 (info.fieldMap f)
  | .readDiagStat => do let _ ← adisReadDiagStat info
  | .readBurstData n buf sel => do let _ ← adisReadBurstData info n buf sel
  | .readFlsMemWrCntr => do let _ ← adisReadFlsMemWrCntr info
  | .config op => op.run info
  | .cmdFactCalibRestore => adisCmdFactCalibRestore info
  | .cmdSnsrSelfTest => adisCmdSnsrSelfTest info
  | .cmdFlsMemUpdate => adisCmdFlsMemUpdate info
  | .cmdFlsMemTest => adisCmdFlsMemTest info
  | .cmdSwRes => adisCmdSwRes info
  | .initialStartup => adisInitialStartup info

/-- The world after a client's calls, whatever each returned. -/
def runOps (info : AdisChipInfo) : List Op → World → World
  | [], w => w
  | op :: ops, w => runOps info ops (op.exec info w).2

/-- **A run keeps what every one of its calls keeps.** -/
theorem runOps_keeps {info : AdisChipInfo} {P : World → Prop} {ops : List Op}
    (h : ∀ op ∈ ops, Keeps P (op.exec info)) {w : World} (hw : P w) : P (runOps info ops w) := by
  induction ops generalizing w with
  | nil => exact hw
  | cons op ops ih =>
    exact ih (fun o ho => h o (List.mem_cons_of_mem _ ho)) (h op (List.mem_cons_self _ _) w hw)

end AdisImu
