/-
# A rejected argument writes nothing and waits for nothing

The spec (§4.5, §7) asks that a configuration value out of range be rejected
before any bus write and without a settle delay.  In `adis.c` every check that
returns `-EINVAL` comes before the first register write of its call: the range
checks of the setters, the mode and clock checks of `adis_write_sync_mode`,
the band check of `adis_write_up_scale` and `adis_update_ext_clk_freq` (which
only read the sync mode first), and the size checks of `adis_read_reg` and
`adis_write_reg`.

A call's events are *quiet* when they read registers, select pages, or burst,
and nothing else.  `EinvalQuiet x` says that `x`, on a bus none of whose
failures is itself `-EINVAL`, returns `-EINVAL` only after quiet events; it
composes through `bind` when the first call is quiet, or when the second never
returns `-EINVAL`.  The one setter that writes before its last check,
`adis_write_sync_mode` in scaled mode (it programs the up-scale first), reaches
that check with a mode below `sync_mode_max`; the check passes when
`sync_mode_max` fits the sync-mode field, and its read succeeded in the
up-scale write, so its size is right (`configOp_rejection_quiet`).
-/

import AdisImu.Config

namespace AdisImu

open Drv

/-- An event that writes no register but the page register, and waits for nothing. -/
def Event.quiet : Event → Bool
  | .frame f => f.cmd < 128 || f.cmd == ADIS_WRITE_REG ADIS_REG_PAGE_ID
  | .burst _ => true
  | _ => false

/-- From `w` to `w'` only quiet events were issued. -/
def QuietSince (w w' : World) : Prop := ∃ l, w'.log = w.log ++ l ∧ ∀ e ∈ l, e.quiet = true

theorem QuietSince.of_log {w w' : World} (h : w'.log = w.log) : QuietSince w w' :=
  ⟨[], by rw [h, List.append_nil], by simp⟩

theorem QuietSince.trans {w₁ w₂ w₃ : World} (h₁ : QuietSince w₁ w₂) (h₂ : QuietSince w₂ w₃) :
    QuietSince w₁ w₃ := by
  obtain ⟨l₁, e₁, q₁⟩ := h₁
  obtain ⟨l₂, e₂, q₂⟩ := h₂
  exact ⟨l₁ ++ l₂, by rw [e₂, e₁, List.append_assoc],
    fun e he => (List.mem_append.1 he).elim (q₁ e) (q₂ e)⟩

/-- Quiet events leave the number of events in the log that are not quiet. -/
theorem QuietSince.loud_count {w w' : World} (h : QuietSince w w') :
    (w'.log.filter fun e => !e.quiet).length = (w.log.filter fun e => !e.quiet).length := by
  obtain ⟨l, hl, hq⟩ := h
  have hnil : l.filter (fun e => !e.quiet) = [] :=
    List.filter_eq_nil_iff.2 fun e he => by simp [hq e he]
  rw [hl, List.filter_append, hnil, List.append_nil]

/-- `x` issues quiet events only. -/
def Quiet (x : Drv α) : Prop := ∀ w, QuietSince w (x w).2

/-- `x`, on a bus that never returns `-EINVAL`, returns it only after quiet events. -/
def EinvalQuiet (x : Drv α) : Prop :=
  ∀ w, w.NoEinval → (x w).1 = .error (-EINVAL) → QuietSince w (x w).2

/-- `x` never returns `-EINVAL` on a bus that never does. -/
def NeverEinval (x : Drv α) : Prop := ∀ w, w.NoEinval → (x w).1 ≠ .error (-EINVAL)

/-! ### The combinators -/

namespace Quiet

theorem pure (a : α) : Quiet (Pure.pure a : Drv α) := fun _ => .of_log rfl

theorem fail (e : Int) : Quiet (Drv.fail e : Drv α) := fun _ => .of_log rfl

theorem dev : Quiet Drv.dev := fun _ => .of_log rfl

theorem udiv (a b : Nat) : Quiet (Drv.udiv a b) := fun _ => .of_log rfl

theorem setDev (f : AdisDev → AdisDev) : Quiet (Drv.setDev f) := fun _ => .of_log rfl

theorem bind {x : Drv α} {f : α → Drv β} (hx : Quiet x) (hf : ∀ a, Quiet (f a)) :
    Quiet (x >>= f) := fun w => by
  have h := hx w
  rw [bind_apply]
  split <;> rename_i hw <;> rw [hw] at h
  · exact h.trans (hf _ _)
  · exact h

end Quiet

theorem NeverEinval.pure (a : α) : NeverEinval (Pure.pure a : Drv α) := fun _ _ h => by cases h

theorem NeverEinval.emit (e : Event) : NeverEinval (Drv.emit e) := fun _ _ h => by cases h

theorem NeverEinval.bind {x : Drv α} {f : α → Drv β} (hx : NeverEinval x)
    (hk : Keeps World.NoEinval x) (hf : ∀ a, NeverEinval (f a)) : NeverEinval (x >>= f) :=
  fun w hw h => by
    have hk := hk w hw
    rw [bind_apply] at h
    split at h <;> rename_i hx' <;> rw [hx'] at hk
    · exact hf _ _ hk h
    · exact hx w hw (by rw [hx']; simpa using h)

namespace EinvalQuiet

theorem of_quiet {x : Drv α} (h : Quiet x) : EinvalQuiet x := fun w _ _ => h w

theorem of_neverEinval {x : Drv α} (h : NeverEinval x) : EinvalQuiet x :=
  fun w hw h' => absurd h' (h w hw)

theorem ite {c : Prop} [Decidable c] {x y : Drv α} (hx : c → EinvalQuiet x)
    (hy : ¬c → EinvalQuiet y) : EinvalQuiet (if c then x else y) := by
  split
  · exact hx ‹_›
  · exact hy ‹_›

/-- A quiet first call, then a call that rejects quietly. -/
theorem bind_quiet {x : Drv α} {f : α → Drv β} (hx : Quiet x) (hk : Keeps World.NoEinval x)
    (hf : ∀ a, EinvalQuiet (f a)) : EinvalQuiet (x >>= f) := fun w hw h => by
  have hq := hx w
  have hk := hk w hw
  rw [bind_apply] at h ⊢
  split at h <;> rename_i hx' <;> rw [hx'] at hq hk
  · exact hq.trans (hf _ _ hk h)
  · exact hq

/-- A call that rejects quietly, then, once it has succeeded, one that never
rejects. -/
theorem bind_ok {x : Drv α} {f : α → Drv β} (hx : EinvalQuiet x) (hk : Keeps World.NoEinval x)
    (hf : ∀ w a, (x w).1 = .ok a → NeverEinval (f a)) : EinvalQuiet (x >>= f) := fun w hw h => by
  have hk := hk w hw
  rw [bind_apply] at h ⊢
  split at h <;> rename_i hx' <;> rw [hx'] at hk
  · exact absurd h (hf w _ (by rw [hx']) _ hk)
  · have hq := hx w hw (by rw [hx']; simpa using h)
    rwa [hx'] at hq

end EinvalQuiet

/-! ### The transport -/

theorem noOsSpiTransfer_quiet {msgs : List SpiMsg}
    (h : ∀ m ∈ msgs, (Event.frame m.tx).quiet = true) : Quiet (noOsSpiTransfer msgs) := fun w => by
  unfold noOsSpiTransfer
  split <;> exact ⟨_, rfl, by simpa using h⟩

theorem noOsSpiTransfer_neverEinval (msgs : List SpiMsg) : NeverEinval (noOsSpiTransfer msgs) :=
  fun w hw h => by
    have hn := (World.BusAll.next hw).1
    unfold noOsSpiTransfer at h
    split at h
    · cases h
    · rename_i hnext
      rw [hnext] at hn
      rcases hn with hn | hn
      · cases hn
      · exact hn (Except.error.inj h)

theorem pageSelectMsgs_quiet (cur : Int) (p : Nat) :
    ∀ m ∈ pageSelectMsgs cur p, (Event.frame m.tx).quiet = true := by
  unfold pageSelectMsgs; split <;> simp [Event.quiet]

theorem adisReadRegMsgs_quiet {cur : Int} {reg size : Nat} {msgs : List SpiMsg}
    (h : adisReadRegMsgs cur reg size = some msgs) :
    ∀ m ∈ msgs, (Event.frame m.tx).quiet = true := by
  have hread : ∀ m : SpiMsg, m.tx.cmd < 128 → (Event.frame m.tx).quiet = true := fun m hm => by
    simp [Event.quiet, hm]
  unfold adisReadRegMsgs at h
  split at h <;> simp only [Option.some.injEq, reduceCtorEq] at h <;> subst h <;> intro m hm <;>
    rcases List.mem_append.1 hm with hm | hm
  all_goals first
    | exact pageSelectMsgs_quiet _ _ m hm
    | apply hread
      simp only [List.mem_cons, List.mem_singleton, List.not_mem_nil, or_false] at hm
      rcases hm with rfl | rfl | rfl <;> simp [ADIS_READ_REG_eq, Nat.mod_lt]

theorem adisReadReg_quiet (reg size : Nat) : Quiet (adisReadReg reg size) :=
  Quiet.dev.bind fun _ => by
    split
    · exact Quiet.fail _
    · rename_i hm
      exact (noOsSpiTransfer_quiet (adisReadRegMsgs_quiet hm)).bind fun _ =>
        (Quiet.setDev _).bind fun _ => by split <;> exact Quiet.pure _

theorem adisReadReg_ok_size {reg size v : Nat} {w : World}
    (h : (adisReadReg reg size w).1 = .ok v) : size = 2 ∨ size = 4 := by
  by_contra hs
  have : adisReadRegMsgs w.dev.currentPage reg size = none := by
    unfold adisReadRegMsgs; split <;> simp_all
  simp [adisReadReg, bind_apply, this] at h

theorem adisReadReg_neverEinval {reg size : Nat} (hsize : size = 2 ∨ size = 4) :
    NeverEinval (adisReadReg reg size) :=
  NeverEinval.bind (fun _ _ h => by cases h) Keeps.dev fun d => by
    obtain ⟨msgs, hm⟩ : ∃ msgs, adisReadRegMsgs d.currentPage reg size = some msgs := by
      rcases hsize with rfl | rfl <;> exact ⟨_, rfl⟩
    simp only [hm]
    exact NeverEinval.bind (noOsSpiTransfer_neverEinval _) (noOsSpiTransfer_busAll _ _)
      fun _ => NeverEinval.bind (fun _ _ h => by cases h) (setDev_busAll _ _)
        fun _ => by split <;> exact NeverEinval.pure _

theorem adisWriteReg_einvalQuiet (reg val size : Nat) : EinvalQuiet (adisWriteReg reg val size) :=
  EinvalQuiet.bind_quiet Quiet.dev Keeps.dev fun _ => by
    split
    · exact .of_quiet (Quiet.fail _)
    · exact .of_neverEinval (NeverEinval.bind (noOsSpiTransfer_neverEinval _)
        (noOsSpiTransfer_busAll _ _) fun _ _ _ h => by cases h)

theorem adisWriteReg_neverEinval {reg val size : Nat} (hsize : size = 1 ∨ size = 2 ∨ size = 4) :
    NeverEinval (adisWriteReg reg val size) :=
  NeverEinval.bind (fun _ _ h => by cases h) Keeps.dev fun d => by
    simp only [adisWriteRegMsgs, if_pos (show size = 4 ∨ size = 2 ∨ size = 1 by omega)]
    exact NeverEinval.bind (noOsSpiTransfer_neverEinval _) (noOsSpiTransfer_busAll _ _)
      fun _ _ _ h => by cases h

/-! ### Fields and setters -/

theorem adisWriteFieldU32_einvalQuiet (field : AdisField) (val : Nat) :
    EinvalQuiet (adisWriteFieldU32 field val) :=
  EinvalQuiet.ite (fun _ => .of_quiet (Quiet.fail _)) fun _ =>
    EinvalQuiet.bind_quiet (adisReadReg_quiet _ _) (adisReadReg_busAll _ _ _)
      fun _ => adisWriteReg_einvalQuiet _ _ _

/-- A field write of a value that fits, to a register `adis_read_reg` accepts,
never rejects. -/
theorem adisWriteFieldU32_neverEinval {field : AdisField} {val : Nat}
    (hsize : field.regSize = 2 ∨ field.regSize = 4)
    (hv : val ≤ noOsFieldGet field.fieldMask field.fieldMask) :
    NeverEinval (adisWriteFieldU32 field val) := by
  have h256 : field.regSize % 256 = field.regSize := Nat.mod_eq_of_lt (by omega)
  unfold adisWriteFieldU32 adisUpdateBitsBase
  rw [if_neg (by omega), h256]
  exact NeverEinval.bind (adisReadReg_neverEinval hsize) (adisReadReg_busAll _ _ _)
    fun _ => adisWriteReg_neverEinval (by omega)

theorem adisWriteFieldU32_noEinval (field : AdisField) (val : Nat) :
    Keeps World.NoEinval (adisWriteFieldU32 field val) :=
  adisWriteFieldU32_keeps (adisReadReg_busAll _ _ _) fun _ => adisWriteReg_busAll _ _ _ _

theorem adisWriteSettled_einvalQuiet {delay : Drv Unit} (hd : NeverEinval delay)
    (field : AdisField) (val : Nat) : EinvalQuiet (adisWriteSettled field delay val) :=
  EinvalQuiet.bind_ok (adisWriteFieldU32_einvalQuiet _ _) (adisWriteFieldU32_noEinval _ _)
    fun _ _ _ => hd

theorem adisWriteBounded_einvalQuiet {delay : Drv Unit} (hd : NeverEinval delay)
    (field : AdisField) (max val : Nat) : EinvalQuiet (adisWriteBounded field max delay val) :=
  EinvalQuiet.ite (fun _ => .of_quiet (Quiet.fail _)) fun _ => adisWriteSettled_einvalQuiet hd _ _

theorem adisReadSyncMode_quiet (info : AdisChipInfo) : Quiet (adisReadSyncMode info) :=
  (adisReadReg_quiet _ _).bind fun _ => Quiet.pure _

theorem adisReadSyncMode_ok_size {info : AdisChipInfo} {w : World} {m : Nat}
    (h : (adisReadSyncMode info w).1 = .ok m) :
    (info.fieldMap .syncMode).regSize = 2 ∨ (info.fieldMap .syncMode).regSize = 4 := by
  unfold adisReadSyncMode adisReadFieldU32 at h
  rw [bind_apply] at h
  split at h
  · rename_i hr
    exact adisReadReg_ok_size (by rw [hr])
  · cases h

theorem adisWriteUpScale_einvalQuiet (info : AdisChipInfo) (upScale : Nat) :
    EinvalQuiet (adisWriteUpScale info upScale) :=
  EinvalQuiet.bind_quiet (adisReadSyncMode_quiet info)
    (adisReadFieldU32_keeps (adisReadReg_busAll _ _ _)) fun _ =>
      EinvalQuiet.bind_quiet Quiet.dev Keeps.dev fun _ =>
        EinvalQuiet.ite (fun _ => .of_quiet (Quiet.fail _))
          fun _ => adisWriteFieldU32_einvalQuiet _ _

/-- A completed up-scale write has read the sync mode. -/
theorem adisWriteUpScale_ok_size {info : AdisChipInfo} {upScale : Nat} {w : World}
    (h : (adisWriteUpScale info upScale w).1 = .ok ()) :
    (info.fieldMap .syncMode).regSize = 2 ∨ (info.fieldMap .syncMode).regSize = 4 := by
  unfold adisWriteUpScale at h
  rw [bind_apply] at h
  split at h
  · rename_i hr
    exact adisReadSyncMode_ok_size (by rw [hr])
  · cases h

theorem adisUpdateExtClkFreq_quiet (info : AdisChipInfo) (clkFreq : Nat) :
    Quiet (adisUpdateExtClkFreq info clkFreq) :=
  (adisReadSyncMode_quiet info).bind fun _ => by
    split
    · exact Quiet.fail _
    · exact Quiet.setDev _

/-- `adis_write_sync_mode` rejects quietly when `sync_mode_max` fits the sync-mode
field: its last check, the field write, cannot reject a mode its first check
admitted, once the up-scale write has read that field. -/
theorem adisWriteSyncMode_einvalQuiet {info : AdisChipInfo}
    (hfit : info.syncModeMax ≤
      noOsFieldGet (info.fieldMap .syncMode).fieldMask (info.fieldMap .syncMode).fieldMask)
    (syncMode extClk : Nat) : EinvalQuiet (adisWriteSyncMode info syncMode extClk) :=
  have hF := adisWriteFieldU32_einvalQuiet (info.fieldMap .syncMode) syncMode
  EinvalQuiet.ite (fun _ => .of_quiet (Quiet.fail _)) fun hmax =>
    EinvalQuiet.ite
      (fun _ => EinvalQuiet.ite (fun _ => .of_quiet (Quiet.fail _)) fun _ =>
        EinvalQuiet.bind_quiet (Quiet.setDev _) (setDev_busAll _ _) fun _ =>
          EinvalQuiet.ite
            (fun _ => EinvalQuiet.bind_quiet Quiet.dev Keeps.dev fun _ =>
              EinvalQuiet.bind_quiet (Quiet.udiv _ _) (Keeps.udiv _ _) fun _ =>
              EinvalQuiet.bind_ok (adisWriteUpScale_einvalQuiet _ _)
                (adisWriteUpScale_keeps (adisReadFieldU32_keeps (adisReadReg_busAll _ _ _))
                  (adisReadReg_busAll _ _ _) fun _ => adisWriteReg_busAll _ _ _ _)
                fun _ _ h => adisWriteFieldU32_neverEinval (adisWriteUpScale_ok_size h)
                  (le_trans (Nat.le_of_not_lt hmax) hfit))
            fun _ => EinvalQuiet.bind_quiet (Quiet.pure _) (Keeps.pure _) fun _ => hF)
      fun _ => EinvalQuiet.bind_quiet (Quiet.setDev _) (setDev_busAll _ _) fun _ => hF

theorem ConfigOp.run_einvalQuiet {info : AdisChipInfo}
    (hfit : info.syncModeMax ≤
      noOsFieldGet (info.fieldMap .syncMode).fieldMask (info.fieldMap .syncMode).fieldMask) :
    ∀ op : ConfigOp, EinvalQuiet (op.run info)
  | .writeXgBias _ | .writeYgBias _ | .writeZgBias _ | .writeXaBias _ | .writeYaBias _
  | .writeZaBias _ | .writeUsrScr1 _ | .writeUsrScr2 _ | .writeUsrScr3 _ =>
    adisWriteFieldU32_einvalQuiet _ _
  | .writeFiltSizeVarB _ | .writeDrPolarity _ | .writeSyncPolarity _ | .writeDecRate _ =>
    adisWriteBounded_einvalQuiet (NeverEinval.emit _) _ _ _
  | .writeSensBw _ | .writePtOfPercAlgnmt _ | .writeLinearAcclComp _ | .writeBurstSel _
  | .writeBurst32 _ => adisWriteSettled_einvalQuiet (NeverEinval.emit _) _ _
  | .writeSyncMode _ _ => adisWriteSyncMode_einvalQuiet hfit _ _
  | .writeUpScale _ => adisWriteUpScale_einvalQuiet _ _
  | .updateExtClkFreq _ => .of_quiet (adisUpdateExtClkFreq_quiet _ _)

/-- **A rejected configuration argument writes nothing and waits for nothing.**
For a descriptor whose `sync_mode_max` fits its sync-mode field, every
configuration operation that returns `-EINVAL`, from any handle and device
state, on a bus none of whose failures is itself `-EINVAL`, has issued only
register reads, page selects and no delay. -/
theorem configOp_rejection_quiet {info : AdisChipInfo}
    (hfit : info.syncModeMax ≤
      noOsFieldGet (info.fieldMap .syncMode).fieldMask (info.fieldMap .syncMode).fieldMask)
    (op : ConfigOp) (w : World) (hbus : w.NoEinval)
    (hrej : (op.run info w).1 = .error (-EINVAL)) :
    ∃ l, (op.run info w).2.log = w.log ++ l ∧ ∀ e ∈ l, e.quiet = true :=
  ConfigOp.run_einvalQuiet hfit op w hbus hrej

/-- `configOp_rejection_quiet` at a decimation rate above `sampleChip`'s maximum. -/
theorem configOp_rejection_quiet_sample :
    ∃ l, ((ConfigOp.writeDecRate 5000).run sampleChip World.blank).2.log = World.blank.log ++ l ∧
      ∀ e ∈ l, e.quiet = true :=
  configOp_rejection_quiet (by decide) _ _ (fun _ h => absurd h (List.not_mem_nil _)) rfl

end AdisImu
