/-
# The up-scale band does not wrap

`src/drivers/imu/adis.c`, lines 110-161, 1245-1281 and 1469-1491.  In scaled mode
`adis_write_up_scale` accepts `up_scale` when the `uint32_t` product
`clk_freq * up_scale` lies in 1900..2100, and `adis_write_field_u32` then accepts it
when it fits the up-scale field.  The product is taken modulo `2^32`, so the band
check alone would pass a product of `2^32 + 2000`.  It does not come to that: the
handle's `clk_freq` is only ever `0` (the allocated handle), `int_clk`, or an
external clock the range of a mode admits (`ClkAdmitted`, a handle invariant by
`HandleSteps`), so when those and the field's values stay below `2^16` the product
of a value that fits the field is below `2^32` and the check is exact.

`adisWriteUpScale_writes` says that a call that writes a register has passed both
checks; `adisWriteUpScale_band_exact` joins it to the invariant over every run from
`adis_init`, under any bus.
-/

import AdisImu.HandleSteps
import AdisImu.Rejection

namespace AdisImu

open Drv

/-- The values `clk_freq` can hold: `0` from the allocated handle, the internal clock,
or an external clock that the range of an externally clocked mode up to
`sync_mode_max` admits. -/
def ClkAdmitted (info : AdisChipInfo) (clkFreq : Nat) : Prop :=
  clkFreq = 0 ∨ clkFreq = info.intClk ∨
    ∃ m, SyncModeValid info m clkFreq ∧ m ≠ ADIS_SYNC_DEFAULT ∧ m ≠ ADIS_SYNC_OUTPUT

theorem ClkAdmitted.step {info : AdisChipInfo} (d d' : AdisDev) (hs : HandleStep info d d')
    (h : ClkAdmitted info d.clkFreq) : ClkAdmitted info d'.clkFreq := by
  cases hs with
  | page | diag | extClk => exact h
  | syncExt m _ hv hext => exact .inr (.inr ⟨m, hv, hext⟩)
  | syncInt => exact .inr (.inl rfl)

/-- `ClkAdmitted` of the handle's `clk_freq`, as a handle invariant. -/
def clkAdmittedInv (info : AdisChipInfo) : HandleInv info :=
  ⟨fun d => ClkAdmitted info d.clkFreq, ClkAdmitted.step⟩

/-- **Every reachable `clk_freq` is admitted**: after `adis_init` and any calls, under
any bus. -/
theorem runOps_clkAdmitted (info : AdisChipInfo) (w : World) (ops : List Op) :
    ClkAdmitted info (runOps info ops (adisInit info w).2).dev.clkFreq :=
  runOps_handleInv (clkAdmittedInv info) (fun _ => .inl rfl) w ops

section Bounds

variable {info : AdisChipInfo}

/-- An admitted clock is below `2^16` when the internal clock and the upper limit of
every mode up to `sync_mode_max` are. -/
theorem ClkAdmitted.lt (hint : info.intClk < 2 ^ 16)
    (hmax : ∀ m ≤ info.syncModeMax, (info.syncClkFreqLimits m).maxFreq < 2 ^ 16) {c : Nat}
    (h : ClkAdmitted info c) : c < 2 ^ 16 := by
  rcases h with rfl | rfl | ⟨m, ⟨hm, hr⟩, hext⟩
  · decide
  · exact hint
  · exact lt_of_le_of_lt (hr hext).2 (hmax m hm)

/-- Two factors below `2^16` multiply below `2^32`: the `uint32_t` product is exact. -/
theorem clkFreq_mul_lt {c s : Nat} (hc : c < 2 ^ 16) (hs : s < 2 ^ 16) : c * s < 2 ^ 32 :=
  calc c * s < 2 ^ 16 * 2 ^ 16 := Nat.mul_lt_mul'' hc hs
    _ = 2 ^ 32 := (Nat.pow_add 2 16 16).symm

end Bounds

/-- **An up-scale call that writes has passed both checks**: it read a mode, the band
check on that mode and the handle's `clk_freq` passed, and the value fits the field.
The mode read sends no write, and both rejections return before any transfer. -/
theorem adisWriteUpScale_writes {info : AdisChipInfo} {upScale : Nat} {w : World}
    (hw : ¬ QuietSince w (adisWriteUpScale info upScale w).2) :
    ∃ m, (adisReadSyncMode info w).1 = .ok m ∧
      ¬ (m = ADIS_SYNC_SCALED ∧ (w.dev.clkFreq * upScale % 2 ^ 32 > 2100 ∨
        w.dev.clkFreq * upScale % 2 ^ 32 < 1900)) ∧
      upScale ≤ noOsFieldGet (info.fieldMap .upScale).fieldMask (info.fieldMap .upScale).fieldMask := by
  have hq := adisReadSyncMode_quiet info w
  have hc := HandleIs.keeps_clocks (adisReadSyncMode_handleIs w.dev info)
  unfold adisWriteUpScale at hw
  rw [bind_apply] at hw
  split at hw
  · rename_i m w₁ hr
    rw [hr] at hq hc
    have hclk : w₁.dev.clkFreq = w.dev.clkFreq := congrArg Prod.snd hc
    rw [dev_bind_apply, hclk] at hw
    refine ⟨m, by rw [hr], fun hg => hw (by rw [if_pos hg]; exact hq), ?_⟩
    by_contra hs
    split at hw
    · exact hw hq
    · unfold adisWriteFieldU32 at hw
      rw [if_pos (by omega)] at hw
      exact hw hq
  · rename_i hr
    rw [hr] at hq
    exact absurd hq hw

/-- **The up-scale band check is exact on every reachable handle.**  For a chip whose
up-scale field holds values below `2^16` and whose internal clock and mode limits are
below `2^16`: after `adis_init` and any calls, under any bus, an up-scale call that
reads the scaled mode and writes a register has `clk_freq * up_scale` in 1900..2100
over the naturals, with no wrap. -/
theorem adisWriteUpScale_band_exact {info : AdisChipInfo}
    (hfield : noOsFieldGet (info.fieldMap .upScale).fieldMask (info.fieldMap .upScale).fieldMask <
      2 ^ 16)
    (hint : info.intClk < 2 ^ 16)
    (hmax : ∀ m ≤ info.syncModeMax, (info.syncClkFreqLimits m).maxFreq < 2 ^ 16)
    (w : World) (ops : List Op) (s : Nat)
    (hm : (adisReadSyncMode info (runOps info ops (adisInit info w).2)).1 = .ok ADIS_SYNC_SCALED)
    (hwrite : ¬ QuietSince (runOps info ops (adisInit info w).2)
      (adisWriteUpScale info s (runOps info ops (adisInit info w).2)).2) :
    1900 ≤ (runOps info ops (adisInit info w).2).dev.clkFreq * s ∧
      (runOps info ops (adisInit info w).2).dev.clkFreq * s ≤ 2100 := by
  obtain ⟨m, hr, hband, hs⟩ := adisWriteUpScale_writes hwrite
  rw [hm] at hr
  cases Except.ok.inj hr
  have hlt := clkFreq_mul_lt ((runOps_clkAdmitted info w ops).lt hint hmax)
    (show s < 2 ^ 16 by omega)
  rw [Nat.mod_eq_of_lt hlt] at hband
  omega

/-- `adisWriteUpScale_band_exact` on `sampleChip` from a blank device over a bus that
completes every transfer: scaled sync at 100 Hz, then an up-scale of 20. -/
theorem adisWriteUpScale_band_exact_sample :
    1900 ≤ (runOps sampleChip [.config (.writeSyncMode ADIS_SYNC_SCALED 100)]
        (adisInit sampleChip World.blank).2).dev.clkFreq * 20 ∧
      (runOps sampleChip [.config (.writeSyncMode ADIS_SYNC_SCALED 100)]
        (adisInit sampleChip World.blank).2).dev.clkFreq * 20 ≤ 2100 :=
  adisWriteUpScale_band_exact (by decide) (by decide) (fun m _ => by
    simp only [sampleChip]; split_ifs <;> decide) World.blank _ 20 rfl
    fun h => absurd h.loud_count (by decide)

end AdisImu
