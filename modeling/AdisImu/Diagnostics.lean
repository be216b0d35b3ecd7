/-
# What the diagnostic readers report

`src/drivers/imu/adis.c`, lines 505-760 and 1757-1770.  `adis_read_diag_stat` reads the
status register, hands its word to `adis_update_diag_flags` as a `uint16_t`, and
returns the handle's flags; each `adis_read_diag_<flag>` returns one of them.
`adis_read_fls_mem_wr_cntr` reads the flash write counter and raises
`fls_mem_wr_cnt_exceed` when it is above `fls_mem_wr_cntr_max`.

On a bus that completes every transfer, from a handle whose page cache is unknown or
right, and for registers `adis_read_reg` reads inside one page, these readers report the
device (`diagReaders_report`): a status reader returns the decode of the low 16 bits of
the status register, and the handle then holds that decode; the counter reader returns
the counter field, and the flag is raised exactly when it was raised before or the
counter is above the maximum.  Nothing else of the handle but its page cache changes.
-/

import AdisImu.SyncClock

namespace AdisImu

open Drv

/-- The word `adis_read_reg` returns for the status register. -/
def statusWord (info : AdisChipInfo) (d : Imu) : Nat :=
  d.regVal (info.fieldMap .diagStat).regAddr (info.fieldMap .diagStat).regSize

/-- The flags after a status read of `word`: the ten status flags decoded from its low
16 bits, the driver's own two flags kept. -/
def AdisDiagFlags.withStatus (info : AdisChipInfo) (flags : AdisDiagFlags) (word : Nat) :
    AdisDiagFlags :=
  { flags with stat := decodeDiag info (word % 2 ^ 16) }

section Readers

variable {info : AdisChipInfo} {w : World}

theorem adisReadDiagStat_value
    (hs : (info.fieldMap .diagStat).regSize = 2 ∨ (info.fieldMap .diagStat).regSize = 4)
    (hwin : InPage (info.fieldMap .diagStat).regAddr (info.fieldMap .diagStat).regSize)
    (hp : PageOk w) (hh : w.Healthy) :
    (adisReadDiagStat info w).1 = .ok (w.dev.diagFlags.withStatus info (statusWord info w.imu)) ∧
      (adisReadDiagStat info w).2.dev = { w.dev with
        currentPage := (((info.fieldMap .diagStat).regAddr / 128 : Nat) : Int)
        diagFlags := w.dev.diagFlags.withStatus info (statusWord info w.imu) } := by
  obtain ⟨⟨data, hn⟩, -⟩ := hh.next
  obtain ⟨v, hv⟩ := adisReadReg_succeeds hs hn
  obtain ⟨rfl, -, -, hcur⟩ := adisReadReg_ok hwin hp hv
  obtain ⟨q, hq⟩ := adisReadReg_handleIs w.dev (info.fieldMap .diagStat).regAddr
    (info.fieldMap .diagStat).regSize w (HandleIs.self w)
  unfold adisReadDiagStat
  rw [bind_of_fst_ok hv]
  simp only [adisUpdateDiagFlags, setDev_bind_apply, dev_bind_apply, pure_apply, hq]
  rw [hq] at hcur
  exact ⟨rfl, by rw [← hcur]; rfl⟩

theorem adisReadFlsMemWrCntr_value
    (hs : (info.fieldMap .flsMemWrCntr).regSize = 2 ∨ (info.fieldMap .flsMemWrCntr).regSize = 4)
    (hwin : InPage (info.fieldMap .flsMemWrCntr).regAddr (info.fieldMap .flsMemWrCntr).regSize)
    (hp : PageOk w) (hh : w.Healthy) :
    (adisReadFlsMemWrCntr info w).1 = .ok (w.imu.field (info.fieldMap .flsMemWrCntr)) ∧
      (adisReadFlsMemWrCntr info w).2.dev = { w.dev with
        currentPage := (((info.fieldMap .flsMemWrCntr).regAddr / 128 : Nat) : Int)
        diagFlags := { w.dev.diagFlags with
          flsMemWrCntExceed := w.dev.diagFlags.flsMemWrCntExceed ||
            decide (info.flsMemWrCntrMax < w.imu.field (info.fieldMap .flsMemWrCntr)) } } := by
  obtain ⟨⟨data, hn⟩, -⟩ := hh.next
  obtain ⟨v, hv⟩ := adisReadReg_succeeds hs hn
  obtain ⟨rfl, -, -, hcur⟩ := adisReadReg_ok hwin hp hv
  obtain ⟨q, hq⟩ := adisReadReg_handleIs w.dev (info.fieldMap .flsMemWrCntr).regAddr
    (info.fieldMap .flsMemWrCntr).regSize w (HandleIs.self w)
  have hr := adisReadFieldU32_value hs hwin hp hh
  have hdev : (adisReadFieldU32 (info.fieldMap .flsMemWrCntr) w).2.dev = { w.dev with
      currentPage := (((info.fieldMap .flsMemWrCntr).regAddr / 128 : Nat) : Int) } := by
    rw [hq] at hcur
    rw [adisReadFieldU32, bind_of_fst_ok hv, pure_apply, hq, ← hcur]
  unfold adisReadFlsMemWrCntr
  rw [bind_of_fst_ok hr]
  generalize (adisReadFieldU32 (info.fieldMap .flsMemWrCntr) w).2 = w₁ at hdev
  split_ifs with hc
  · refine ⟨rfl, ?_⟩
    show { w₁.dev with diagFlags := { w₁.dev.diagFlags with flsMemWrCntExceed := true } } = _
    rw [hdev, decide_eq_true (gt_iff_lt.1 hc), Bool.or_true]
  · refine ⟨rfl, ?_⟩
    show w₁.dev = _
    rw [hdev, decide_eq_false hc, Bool.or_false]

end Readers

/-- **The diagnostic readers report the device.**  On a bus that completes every
transfer, from a handle whose page cache is unknown or names the device's page, with the
status register and the flash counter each a 2- or 4-byte register inside one page below
256 clear of the page register: every `adis_read_diag_<flag>` returns that flag of the
decode of the low 16 bits of the status register, and leaves the handle holding the
decode, its own two flags kept; `adis_read_fls_mem_wr_cntr` returns the counter field and
raises `fls_mem_wr_cnt_exceed` exactly when the counter is above `fls_mem_wr_cntr_max`,
keeping it raised.  Of the rest of the handle only the page cache changes. -/
theorem diagReaders_report (info : AdisChipInfo)
    (hs : (info.fieldMap .diagStat).regSize = 2 ∨ (info.fieldMap .diagStat).regSize = 4)
    (hwin : InPage (info.fieldMap .diagStat).regAddr (info.fieldMap .diagStat).regSize)
    (hfs : (info.fieldMap .flsMemWrCntr).regSize = 2 ∨ (info.fieldMap .flsMemWrCntr).regSize = 4)
    (hfwin : InPage (info.fieldMap .flsMemWrCntr).regAddr (info.fieldMap .flsMemWrCntr).regSize)
    (w : World) (hp : PageOk w) (hh : w.Healthy) :
    (∀ f : DiagFlag,
      (adisReadDiag info f w).1 = .ok (decodeDiag info (statusWord info w.imu % 2 ^ 16) f) ∧
        (adisReadDiag info f w).2.dev = { w.dev with
          currentPage := (((info.fieldMap .diagStat).regAddr / 128 : Nat) : Int)
          diagFlags := w.dev.diagFlags.withStatus info (statusWord info w.imu) }) ∧
      (adisReadFlsMemWrCntr info w).1 = .ok (w.imu.field (info.fieldMap .flsMemWrCntr)) ∧
      (adisReadFlsMemWrCntr info w).2.dev.diagFlags = { w.dev.diagFlags with
        flsMemWrCntExceed := w.dev.diagFlags.flsMemWrCntExceed ||
          decide (info.flsMemWrCntrMax < w.imu.field (info.fieldMap .flsMemWrCntr)) } := by
  obtain ⟨hr, hd⟩ := adisReadDiagStat_value hs hwin hp hh
  obtain ⟨hc, hcd⟩ := adisReadFlsMemWrCntr_value hfs hfwin hp hh
  refine ⟨fun f => ?_, hc, by rw [hcd]⟩
  unfold adisReadDiag
  rw [bind_of_fst_ok hr]
  exact ⟨rfl, hd⟩

/-- `diagReaders_report` on `sampleChip` and a blank device. -/
theorem diagReaders_report_blank :
    (∀ f : DiagFlag,
      (adisReadDiag sampleChip f World.blank).1 =
          .ok (decodeDiag sampleChip (statusWord sampleChip World.blank.imu % 2 ^ 16) f) ∧
        (adisReadDiag sampleChip f World.blank).2.dev = { World.blank.dev with
          currentPage := (((sampleChip.fieldMap .diagStat).regAddr / 128 : Nat) : Int)
          diagFlags := World.blank.dev.diagFlags.withStatus sampleChip
            (statusWord sampleChip World.blank.imu) }) ∧
      (adisReadFlsMemWrCntr sampleChip World.blank).1 =
        .ok (World.blank.imu.field (sampleChip.fieldMap .flsMemWrCntr)) ∧
      (adisReadFlsMemWrCntr sampleChip World.blank).2.dev.diagFlags = { World.blank.dev.diagFlags with
        flsMemWrCntExceed := World.blank.dev.diagFlags.flsMemWrCntExceed ||
          decide (sampleChip.flsMemWrCntrMax <
            World.blank.imu.field (sampleChip.fieldMap .flsMemWrCntr)) } :=
  diagReaders_report sampleChip (.inl rfl) (PageSafe.sampleChip.inPage _) (.inl rfl)
    (PageSafe.sampleChip.inPage _) World.blank (.inr rfl) fun _ h => absurd h (List.not_mem_nil _)

end AdisImu
