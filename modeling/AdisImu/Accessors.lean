/-
# The named field accessors

`src/drivers/imu/adis.c`, lines 783-1240 and 1500-1760: one `adis_read_<field>`
per quantity of the field map, each `adis_read_field_s32` or
`adis_read_field_u32` at its own descriptor, and the writers of the six
calibration biases and three scratch registers, each `adis_write_field_u32` at
its own descriptor.  The bias writers take an `int32_t` and hand it to the
`uint32_t` parameter of `adis_write_field_u32`: a negative bias becomes
`2^32 + b`, which passes the range check only for a 32-bit field
(`adisWriteBias_negative`).  The accessors with a settle delay or an argument
check are in `AdisImu.Config`.
-/

import AdisImu.Field

namespace AdisImu

open Drv

/-- C's conversion of an `int32_t` argument to a `uint32_t` parameter. -/
def int32ToUint32 (x : Int) : Nat := (x % 2 ^ 32).toNat

/-- A bias writer: `adis_write_field_u32` of its `int32_t` argument. -/
def adisWriteBias (field : AdisField) (bias : Int) : Drv Unit :=
  adisWriteFieldU32 field (int32ToUint32 bias)

section Accessors

variable (info : AdisChipInfo)

/-- `adis_read_x_gyro`. -/
def adisReadXGyro : Drv Int := adisReadFieldS32 (info.fieldMap .xGyro)

/-- `adis_read_y_gyro`. -/
def adisReadYGyro : Drv Int := adisReadFieldS32 (info.fieldMap .yGyro)

/-- `adis_read_z_gyro`. -/
def adisReadZGyro : Drv Int := adisReadFieldS32 (info.fieldMap .zGyro)

/-- `adis_read_x_accl`. -/
def adisReadXAccl : Drv Int := adisReadFieldS32 (info.fieldMap .xAccl)

/-- `adis_read_y_accl`. -/
def adisReadYAccl : Drv Int := adisReadFieldS32 (info.fieldMap .yAccl)

/-- `adis_read_z_accl`. -/
def adisReadZAccl : Drv Int := adisReadFieldS32 (info.fieldMap .zAccl)

/-- `adis_read_temp_out`. -/
def adisReadTempOut : Drv Int := adisReadFieldS32 (info.fieldMap .tempOut)

/-- `adis_read_x_deltang`. -/
def adisReadXDeltang : Drv Int := adisReadFieldS32 (info.fieldMap .xDeltang)

/-- `adis_read_y_deltang`. -/
def adisReadYDeltang : Drv Int := adisReadFieldS32 (info.fieldMap .yDeltang)

/-- `adis_read_z_deltang`. -/
def adisReadZDeltang : Drv Int := adisReadFieldS32 (info.fieldMap .zDeltang)

/-- `adis_read_x_deltvel`. -/
def adisReadXDeltvel : Drv Int := adisReadFieldS32 (info.fieldMap .xDeltvel)

/-- `adis_read_y_deltvel`. -/
def adisReadYDeltvel : Drv Int := adisReadFieldS32 (info.fieldMap .yDeltvel)

/-- `adis_read_z_deltvel`. -/
def adisReadZDeltvel : Drv Int := adisReadFieldS32 (info.fieldMap .zDeltvel)

/-- `adis_read_xg_bias`. -/
def adisReadXgBias : Drv Int := adisReadFieldS32 (info.fieldMap .xgBias)

/-- `adis_read_yg_bias`. -/
def adisReadYgBias : Drv Int := adisReadFieldS32 (info.fieldMap .ygBias)

/-- `adis_read_zg_bias`. -/
def adisReadZgBias : Drv Int := adisReadFieldS32 (info.fieldMap .zgBias)

/-- `adis_read_xa_bias`. -/
def adisReadXaBias : Drv Int := adisReadFieldS32 (info.fieldMap .xaBias)

/-- `adis_read_ya_bias`. -/
def adisReadYaBias : Drv Int := adisReadFieldS32 (info.fieldMap .yaBias)

/-- `adis_read_za_bias`. -/
def adisReadZaBias : Drv Int := adisReadFieldS32 (info.fieldMap .zaBias)

/-- `adis_read_time_stamp`. -/
def adisReadTimeStamp : Drv Nat := adisReadFieldU32 (info.fieldMap .timeStamp)

/-- `adis_read_data_cntr`. -/
def adisReadDataCntr : Drv Nat := adisReadFieldU32 (info.fieldMap .dataCntr)

/-- `adis_read_filt_size_var_b`. -/
def adisReadFiltSizeVarB : Drv Nat := adisReadFieldU32 (info.fieldMap .filtSizeVarB)

/-- `adis_read_gyro_meas_range`. -/
def adisReadGyroMeasRange : Drv Nat := adisReadFieldU32 (info.fieldMap .gyroMeasRange)

/-- `adis_read_dr_polarity`. -/
def adisReadDrPolarity : Drv Nat := adisReadFieldU32 (info.fieldMap .drPolarity)

/-- `adis_read_sync_polarity`. -/
def adisReadSyncPolarity : Drv Nat := adisReadFieldU32 (info.fieldMap .syncPolarity)

/-- `adis_read_sync_mode`. -/
def adisReadSyncMode : Drv Nat := adisReadFieldU32 (info.fieldMap .syncMode)

/-- `adis_read_sens_bw`. -/
def adisReadSensBw : Drv Nat := adisReadFieldU32 (info.fieldMap .sensBw)

/-- `adis_read_pt_of_perc_algnmt`. -/
def adisReadPtOfPercAlgnmt : Drv Nat := adisReadFieldU32 (info.fieldMap .ptOfPercAlgnmt)

/-- `adis_read_linear_accl_comp`. -/
def adisReadLinearAcclComp : Drv Nat := adisReadFieldU32 (info.fieldMap .linearAcclComp)

/-- `adis_read_burst_sel`. -/
def adisReadBurstSel : Drv Nat := adisReadFieldU32 (info.fieldMap .burstSel)

/-- `adis_read_burst32`. -/
def adisReadBurst32 : Drv Nat := adisReadFieldU32 (info.fieldMap .burst32)

/-- `adis_read_up_scale`. -/
def adisReadUpScale : Drv Nat := adisReadFieldU32 (info.fieldMap .upScale)

/-- `adis_read_dec_rate`. -/
def adisReadDecRate : Drv Nat := adisReadFieldU32 (info.fieldMap .decRate)

/-- `adis_read_firm_rev`. -/
def adisReadFirmRev : Drv Nat := adisReadFieldU32 (info.fieldMap .firmRev)

/-- `adis_read_firm_d`. -/
def adisReadFirmD : Drv Nat := adisReadFieldU32 (info.fieldMap .firmD)

/-- `adis_read_firm_m`. -/
def adisReadFirmM : Drv Nat := adisReadFieldU32 (info.fieldMap .firmM)

/-- `adis_read_firm_y`. -/
def adisReadFirmY : Drv Nat := adisReadFieldU32 (info.fieldMap .firmY)

/-- `adis_read_prod_id`. -/
def adisReadProdId : Drv Nat := adisReadFieldU32 (info.fieldMap .prodId)

/-- `adis_read_serial_num`. -/
def adisReadSerialNum : Drv Nat := adisReadFieldU32 (info.fieldMap .serialNum)

/-- `adis_read_usr_scr_1`. -/
def adisReadUsrScr1 : Drv Nat := adisReadFieldU32 (info.fieldMap .usrScr1)

/-- `adis_read_usr_scr_2`. -/
def adisReadUsrScr2 : Drv Nat := adisReadFieldU32 (info.fieldMap .usrScr2)

/-- `adis_read_usr_scr_3`. -/
def adisReadUsrScr3 : Drv Nat := adisReadFieldU32 (info.fieldMap .usrScr3)

/-- `adis_write_xg_bias`. -/
def adisWriteXgBias (xgBias : Int) : Drv Unit := adisWriteBias (info.fieldMap .xgBias) xgBias

/-- `adis_write_yg_bias`. -/
def adisWriteYgBias (ygBias : Int) : Drv Unit := adisWriteBias (info.fieldMap .ygBias) ygBias

/-- `adis_write_zg_bias`. -/
def adisWriteZgBias (zgBias : Int) : Drv Unit := adisWriteBias (info.fieldMap .zgBias) zgBias

/-- `adis_write_xa_bias`. -/
def adisWriteXaBias (xaBias : Int) : Drv Unit := adisWriteBias (info.fieldMap .xaBias) xaBias

/-- `adis_write_ya_bias`. -/
def adisWriteYaBias (yaBias : Int) : Drv Unit := adisWriteBias (info.fieldMap .yaBias) yaBias

/-- `adis_write_za_bias`. -/
def adisWriteZaBias (zaBias : Int) : Drv Unit := adisWriteBias (info.fieldMap .zaBias) zaBias

/-- `adis_write_usr_scr_1`. -/
def adisWriteUsrScr1 (usrScr1 : Nat) : Drv Unit := adisWriteFieldU32 (info.fieldMap .usrScr1) usrScr1

/-- `adis_write_usr_scr_2`. -/
def adisWriteUsrScr2 (usrScr2 : Nat) : Drv Unit := adisWriteFieldU32 (info.fieldMap .usrScr2) usrScr2

/-- `adis_write_usr_scr_3`. -/
def adisWriteUsrScr3 (usrScr3 : Nat) : Drv Unit := adisWriteFieldU32 (info.fieldMap .usrScr3) usrScr3

end Accessors

/-- **A narrow bias field rejects every negative bias.**  For a field of `w < 32`
bits from bit `0`, a negative `int32_t` becomes a `uint32_t` of at least `2^31`,
above the field's capacity `2^w - 1`: the writer returns `-EINVAL` and the world
is untouched. -/
theorem adisWriteBias_negative {reg size w : Nat} {b : Int} (hw : 0 < w) (hw32 : w < 32)
    (hb : -2 ^ 31 ≤ b) (hneg : b < 0) (wd : World) :
    adisWriteBias ⟨reg, size, contigMask w 0⟩ b wd = (.error (-EINVAL), wd) := by
  have hcap : 2 ^ w ≤ 2 ^ 31 := Nat.pow_le_pow_right (by decide) (by omega)
  unfold adisWriteBias adisWriteFieldU32
  rw [if_pos]
  · rfl
  · rw [noOsFieldGet_contigMask_self hw (by omega), int32ToUint32]
    omega

/-- The failing input of the bias round trip: `xg_bias` a 16-bit field of the
2-byte register at `0x82`, and the bias `-1`. -/
theorem adisWriteXgBias_minus_one (info : AdisChipInfo) :
    adisWriteXgBias { info with fieldMap := Function.update info.fieldMap .xgBias ⟨130, 2, 0xFFFF⟩ }
      (-1) World.blank = (.error (-EINVAL), World.blank) := by
  show adisWriteBias ⟨130, 2, contigMask 16 0⟩ (-1) World.blank = _
  exact @adisWriteBias_negative 130 2 16 (-1) (by decide) (by decide) (by decide) (by decide) _

end AdisImu
