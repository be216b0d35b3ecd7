/-
# The chip descriptor and the device handle

`adis.c` is generic over a family of IMUs: everything device-specific comes
from a `struct adis_chip_info` the caller supplies, and everything the driver
remembers between calls lives in its `struct adis_dev`.  Both are declared in
`adis.h`, which is not under `src/`; they are modelled here from the spec's
data model (§3) with exactly the members `adis.c` reads or writes.

The field map `field_map->x_gyro`, `field_map->sync_mode`, … becomes one
function `fieldMap : FieldId → AdisField`, and the ten
`field_map->diag_*_mask` become `diagMask : DiagFlag → Nat`; the ten
status-register flags of `struct adis_diag_flags` become one function
`stat : DiagFlag → Bool` beside the two flags the driver derives itself.
-/

import Mathlib.Data.Nat.Bitwise

namespace AdisImu

/-- `EINVAL` of `errno.h`. -/
def EINVAL : Int := 22

/-- `ENOMEM` of `errno.h`. -/
def ENOMEM : Int := 12

/-- Modelled from the spec: `struct adis_field` (`adis.h`), a field descriptor —
the address of the register's lowest byte, the register's size in bytes and
the field's bits within the register. -/
structure AdisField where
  regAddr : Nat
  regSize : Nat
  fieldMask : Nat
deriving DecidableEq, Repr

/-- Modelled from the spec: the members of `struct adis_data_field_map_def` that
are field descriptors, one per logical quantity `adis.c` reads or writes. -/
inductive FieldId
  | diagStat | xGyro | yGyro | zGyro | xAccl | yAccl | zAccl | tempOut | timeStamp | dataCntr
  | xDeltang | yDeltang | zDeltang | xDeltvel | yDeltvel | zDeltvel
  | xgBias | ygBias | zgBias | xaBias | yaBias | zaBias
  | filtSizeVarB | gyroMeasRange | drPolarity | syncPolarity | syncMode | sensBw
  | ptOfPercAlgnmt | linearAcclComp | burstSel | burst32 | upScale | decRate
  | factCalibRestore | snsrSelfTest | flsMemUpdate | flsMemTest | swRes
  | firmRev | firmD | firmM | firmY | prodId | serialNum | usrScr1 | usrScr2 | usrScr3
  | flsMemWrCntr
deriving DecidableEq, Repr

/-- Modelled from the spec: the ten status-register flags of
`struct adis_diag_flags`, each with a `field_map->diag_*_mask`. -/
inductive DiagFlag
  | dataPathOverrun | spiCommErr | diagStandbyMode | clkErr | flsMemUpdateFailure
  | memFailure | snsrFailure | gyro1Failure | gyro2Failure | acclFailure
deriving DecidableEq, Repr

/-- Modelled from the spec: `struct adis_timeout`, the settle times waited after
resets, self tests and configuration writes (milliseconds `_ms`, microseconds
`_us`). -/
structure AdisTimeout where
  resetMs : Nat
  swResetMs : Nat
  selfTestMs : Nat
  filtSizeVarBUpdateUs : Nat
  decRateUpdateUs : Nat
  mscRegUpdateUs : Nat
  sensBwUpdateMs : Nat
deriving DecidableEq, Repr

/-- Modelled from the spec: `struct adis_clk_freq_limit`, the external clock range
of one sync mode. -/
structure AdisClkFreqLimit where
  minFreq : Nat
  maxFreq : Nat
deriving DecidableEq, Repr

/-- Modelled from the spec: the members of `struct adis_init_param` that `adis.c`
reads: whether a reset GPIO is described, and the sync mode and external clock
`adis_init` programs. -/
structure AdisInitParam where
  gpioReset : Bool
  syncMode : Nat
  extClk : Nat
deriving DecidableEq, Repr

/-- Modelled from the spec: `struct adis_chip_info`, the immutable descriptor of one
device variant.  `fieldMap` and `diagMask` are the two halves of its
`field_map`. -/
structure AdisChipInfo where
  ip : AdisInitParam
  hasPaging : Bool
  fieldMap : FieldId → AdisField
  diagMask : DiagFlag → Nat
  timeouts : AdisTimeout
  prodId : Nat
  syncModeMax : Nat
  syncClkFreqLimits : Nat → AdisClkFreqLimit
  intClk : Nat
  decRateMax : Nat
  filtSizeVarBMax : Nat
  flsMemWrCntrMax : Nat

/-- Modelled from the spec: `struct adis_diag_flags`.  `stat` holds the ten flags
decoded from the status word; `checksumErr` and `flsMemWrCntExceed` are set by
the driver itself. -/
structure AdisDiagFlags where
  stat : DiagFlag → Bool
  checksumErr : Bool
  flsMemWrCntExceed : Bool

/-- Modelled from the spec: the members of `struct adis_dev` that `adis.c` keeps
between calls.  `currentPage` is `-1` while the page is unknown. -/
structure AdisDev where
  currentPage : Int
  extClk : Nat
  clkFreq : Nat
  diagFlags : AdisDiagFlags
  gpioReset : Bool

/-- The handle as `no_os_calloc` returns it: every member zero. -/
def AdisDev.calloc : AdisDev := ⟨0, 0, 0, ⟨fun _ => false, false, false⟩, false⟩

/-- Modelled from the spec: `enum adis_sync_mode`, the internal clock. -/
def ADIS_SYNC_DEFAULT : Nat := 0
/-- Modelled from the spec: `enum adis_sync_mode`, an external clock used directly. -/
def ADIS_SYNC_DIRECT : Nat := 1
/-- Modelled from the spec: `enum adis_sync_mode`, an external clock scaled up by
`up_scale`. -/
def ADIS_SYNC_SCALED : Nat := 2
/-- Modelled from the spec: `enum adis_sync_mode`, the sync pin driven as an output. -/
def ADIS_SYNC_OUTPUT : Nat := 3

/-- A descriptor to run the model on: a device without paging whose fields each fill
a 2-byte register of page 0 (`f` at `2 + 2 * f.toCtorIdx`), whose status flags are one
bit each, and whose scaled sync takes 1 to 128 Hz. -/
def sampleChip : AdisChipInfo where
  ip := ⟨false, ADIS_SYNC_DEFAULT, 0⟩
  hasPaging := false
  fieldMap f := ⟨2 + 2 * f.toCtorIdx, 2, 0xFFFF⟩
  diagMask g := 2 ^ g.toCtorIdx
  timeouts := ⟨255, 200, 24, 65, 30, 200, 250⟩
  prodId := 0x4079
  syncModeMax := ADIS_SYNC_OUTPUT
  syncClkFreqLimits m :=
    if m = ADIS_SYNC_DIRECT then ⟨1900, 2100⟩ else if m = ADIS_SYNC_SCALED then ⟨1, 128⟩ else ⟨0, 0⟩
  intClk := 2000
  decRateMax := 1999
  filtSizeVarBMax := 6
  flsMemWrCntrMax := 100000

end AdisImu
