/-
# Which calls change which members of the handle

`src/drivers/imu/adis.c`.  Over any run of calls, and whatever the bus does at each
transfer, the footprints of `AdisImu.HandleSteps` say:

- `fls_mem_wr_cnt_exceed` is never cleared.  `adis_read_fls_mem_wr_cntr` sets it once
  the counter is above `fls_mem_wr_cntr_max` and no line writes `false` to it, so it
  goes up only in a run that reads the counter, directly or from
  `adis_cmd_fls_mem_update`.
- `checksum_err` changes only in a run with a burst read, and the status flags only in
  one with `adis_read_diag_stat`, a burst read or a start-up.
- `clk_freq` changes only in `adis_write_sync_mode`, `ext_clk` only there and in
  `adis_update_ext_clk_freq`, and the reset line the handle holds never changes.

All of these are one frame lemma, `runOps_change`: a member that the moves outside some
kinds leave alone changes over a run only if one of the run's calls has such a kind in
its footprint.  The inversion lemmas of `Op.kinds` then name the calls.
-/

import AdisImu.HandleSteps

namespace AdisImu

/-! ### The calls whose footprint holds a kind -/

section Kinds

variable {op : Op}

theorem Op.mem_kinds_stat (h : MoveKind.stat ∈ op.kinds) :
    op = .readDiagStat ∨ op = .initialStartup ∨ ∃ n buf sel, op = .readBurstData n buf sel := by
  unfold Op.kinds at h
  split at h <;> simp_all

theorem Op.mem_kinds_checksumErr (h : MoveKind.checksumErr ∈ op.kinds) :
    ∃ n buf sel, op = .readBurstData n buf sel := by
  unfold Op.kinds at h
  split at h <;> simp_all

theorem Op.mem_kinds_flsExceed (h : MoveKind.flsExceed ∈ op.kinds) :
    op = .readFlsMemWrCntr ∨ op = .cmdFlsMemUpdate := by
  unfold Op.kinds at h
  split at h <;> simp_all

theorem Op.mem_kinds_extClk (h : MoveKind.extClk ∈ op.kinds) :
    ∃ c, op = .config (.updateExtClkFreq c) := by
  unfold Op.kinds at h
  split at h <;> simp_all

theorem Op.mem_kinds_sync (h : MoveKind.syncExt ∈ op.kinds ∨ MoveKind.syncInt ∈ op.kinds) :
    ∃ m e, op = .config (.writeSyncMode m e) := by
  unfold Op.kinds at h
  split at h <;> simp_all

end Kinds

/-! ### The frame of a run -/

section Frame

variable {info : AdisChipInfo}

/-- **Frame of a run.**  A member of the handle that every move outside the kinds `bad`
leaves alone changes over a run only if one of the run's calls has a kind of `bad` in
its footprint, whatever the bus does. -/
theorem runOps_change {β : Type} (get : AdisDev → β) (bad : MoveKind → Prop)
    (hkeep : ∀ k, ¬bad k → ∀ d d', HandleMove info k d d' → get d' = get d) {ops : List Op}
    {w : World} (h : get (runOps info ops w).dev ≠ get w.dev) :
    ∃ op ∈ ops, ∃ k ∈ op.kinds, bad k := by
  refine @runOps_keptBy info (fun d => get d ≠ get w.dev → ∃ op ∈ ops, ∃ k ∈ op.kinds, bad k)
    ops (fun op hop k hk d d' hm hd => ?_) w (fun hne => absurd rfl hne) h
  by_cases hb : bad k
  · exact fun _ => ⟨op, hop, k, hk, hb⟩
  · exact fun hne => hd (hkeep k hb d d' hm ▸ hne)

/-- **The diagnostic flags over a run**, whatever the bus does: `fls_mem_wr_cnt_exceed`
is never cleared and goes up only in a run that reads the flash write counter;
`checksum_err` changes only in a run with a burst read; the status flags only in one
with a status read, a burst read or a start-up. -/
theorem runOps_diagFlags (info : AdisChipInfo) (ops : List Op) (w : World) :
    (w.dev.diagFlags.flsMemWrCntExceed = true →
        (runOps info ops w).dev.diagFlags.flsMemWrCntExceed = true) ∧
      ((runOps info ops w).dev.diagFlags.flsMemWrCntExceed = true →
        w.dev.diagFlags.flsMemWrCntExceed = true ∨ .readFlsMemWrCntr ∈ ops ∨
          .cmdFlsMemUpdate ∈ ops) ∧
      ((runOps info ops w).dev.diagFlags.checksumErr ≠ w.dev.diagFlags.checksumErr →
        ∃ n buf sel, .readBurstData n buf sel ∈ ops) ∧
      ((runOps info ops w).dev.diagFlags.stat ≠ w.dev.diagFlags.stat →
        .readDiagStat ∈ ops ∨ .initialStartup ∈ ops ∨ ∃ n buf sel, .readBurstData n buf sel ∈ ops) := by
  refine ⟨@runOps_keptBy info (·.diagFlags.flsMemWrCntExceed = true) ops
    (fun _ _ _ _ d d' hm hd => ?sticky) w, fun h => ?fls, fun h => ?crc, fun h => ?stat⟩
  case sticky => cases hm <;> first | exact hd | rfl
  case fls =>
    cases h0 : w.dev.diagFlags.flsMemWrCntExceed
    · obtain ⟨op, hop, k, hk, rfl⟩ := runOps_change (·.diagFlags.flsMemWrCntExceed)
        (· = .flsExceed) (fun k hk d d' hm => by cases hm <;> first | rfl | exact absurd rfl hk)
        (show (runOps info ops w).dev.diagFlags.flsMemWrCntExceed ≠
          w.dev.diagFlags.flsMemWrCntExceed by simp [h, h0])
      rcases Op.mem_kinds_flsExceed hk with rfl | rfl
      exacts [.inr (.inl hop), .inr (.inr hop)]
    · exact .inl rfl
  case crc =>
    obtain ⟨op, hop, k, hk, rfl⟩ := runOps_change (·.diagFlags.checksumErr) (· = .checksumErr)
      (fun k hk d d' hm => by cases hm <;> first | rfl | exact absurd rfl hk) h
    obtain ⟨n, buf, sel, rfl⟩ := Op.mem_kinds_checksumErr hk
    exact ⟨n, buf, sel, hop⟩
  case stat =>
    obtain ⟨op, hop, k, hk, rfl⟩ := runOps_change (·.diagFlags.stat) (· = .stat)
      (fun k hk d d' hm => by cases hm <;> first | rfl | exact absurd rfl hk) h
    rcases Op.mem_kinds_stat hk with rfl | rfl | ⟨n, buf, sel, rfl⟩
    exacts [.inl hop, .inr (.inl hop), .inr (.inr ⟨n, buf, sel, hop⟩)]

/-- **The clocks and the reset line over a run**, whatever the bus does: `clk_freq`
changes only in a run with `adis_write_sync_mode`, `ext_clk` only in one with
`adis_write_sync_mode` or `adis_update_ext_clk_freq`, and `gpio_reset` never. -/
theorem runOps_clocks (info : AdisChipInfo) (ops : List Op) (w : World) :
    ((runOps info ops w).dev.clkFreq ≠ w.dev.clkFreq →
        ∃ m e, .config (.writeSyncMode m e) ∈ ops) ∧
      ((runOps info ops w).dev.extClk ≠ w.dev.extClk →
        (∃ m e, .config (.writeSyncMode m e) ∈ ops) ∨ ∃ c, .config (.updateExtClkFreq c) ∈ ops) ∧
      (runOps info ops w).dev.gpioReset = w.dev.gpioReset := by
  refine ⟨fun h => ?clk, fun h => ?ext, ?gpio⟩
  case clk =>
    obtain ⟨op, hop, k, hk, hb⟩ := runOps_change (·.clkFreq) (fun k => k = .syncExt ∨ k = .syncInt)
      (fun k hk d d' hm => by cases hm <;> simp_all) h
    obtain ⟨m, e, rfl⟩ := Op.mem_kinds_sync (hb.imp (· ▸ hk) (· ▸ hk))
    exact ⟨m, e, hop⟩
  case ext =>
    obtain ⟨op, hop, k, hk, rfl | rfl⟩ := runOps_change (·.extClk)
      (fun k => k = .extClk ∨ k = .syncExt) (fun k hk d d' hm => by cases hm <;> simp_all) h
    · obtain ⟨c, rfl⟩ := Op.mem_kinds_extClk hk
      exact .inr ⟨c, hop⟩
    · obtain ⟨m, e, rfl⟩ := Op.mem_kinds_sync (.inl hk)
      exact .inl ⟨m, e, hop⟩
  case gpio =>
    by_contra h
    obtain ⟨_, _, _, _, hf⟩ := runOps_change (·.gpioReset) (fun _ => False)
      (fun k _ d d' hm => by cases hm <;> rfl) h
    exact hf

end Frame

end AdisImu
