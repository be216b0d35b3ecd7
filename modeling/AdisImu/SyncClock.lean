/-
# The clocks of the sync modes

`src/drivers/imu/adis.c`, lines 1245-1281, 1469-1491 and 1822-1842.  The spec asks
that after `adis_init`, whenever the device's sync-mode field holds an externally
clocked mode `m`, `ext_clk` lie in `sync_clk_freq_limits[m]`, and in scaled mode
`ext_clk * up_scale` in 1900..2100.

The band does not hold of `ext_clk`: `adis_update_ext_clk_freq` checks a new
clock against the range of the device's mode and records it in `ext_clk` alone,
so in scaled mode a lower clock leaves the up-scale register behind
(`syncClock_counterexample`).  It holds of `clk_freq`, the clock
`adis_write_up_scale` checks the band with, together with both clocks' range
(`syncClock_invariant`), under three conditions.  The bus completes every
transfer: `adis_write_sync_mode` assigns the clocks before its first transfer,
and a failure after that leaves the old mode beside the new clock.  The
descriptor keeps the sync-mode and up-scale fields out of the way of every other
field and command, lets the up-scale field hold 2100, gives every scaled clock
a multiple in the band, and keeps the `uint32_t` product of the band check from
wrapping (`SyncSafe`).  And the run makes no raw register write, reset or
factory restore, as the spec excludes.

A state is read through its clock view: the two fields and the two clocks.
Every call but the three clock setters keeps the view (`Steady`); each setter
moves it by a transition that keeps `ClockOk`.
-/

import AdisImu.PageCache
import AdisImu.Rejection

namespace AdisImu

open Drv

/-! ### Fields of the register map -/

/-- The value of field `f` in the device's registers, as `adis_read_field_u32`
extracts it from a completed read on the right page. -/
def Imu.field (d : Imu) (f : AdisField) : Nat :=
  noOsFieldGet f.fieldMask (d.regVal f.regAddr f.regSize)

/-- Registers whose byte windows do not meet. -/
def AdisField.Disjoint (f g : AdisField) : Prop :=
  f.regAddr + f.regSize ≤ g.regAddr ∨ g.regAddr + g.regSize ≤ f.regAddr

/-- Fields a read-modify-write of one leaves the other alone: bit-disjoint fields of
one register, or fields of registers that do not meet. -/
def AdisField.Apart (f g : AdisField) : Prop :=
  (f.regAddr = g.regAddr ∧ f.regSize = g.regSize ∧ f.fieldMask &&& g.fieldMask = 0) ∨
    f.Disjoint g

instance (f g : AdisField) : Decidable (f.Disjoint g) := inferInstanceAs (Decidable (_ ∨ _))

instance (f g : AdisField) : Decidable (f.Apart g) := inferInstanceAs (Decidable (_ ∨ _))

/-- A field of `w` contiguous bits from bit `c` of a register `adis_read_reg`
accepts. -/
structure AdisField.Contig (f : AdisField) : Prop where
  size : f.regSize = 2 ∨ f.regSize = 4
  mask : ∃ w c, 0 < w ∧ c + w ≤ 8 * f.regSize ∧ f.fieldMask = contigMask w c

theorem AdisField.Contig.two_le {f : AdisField} (h : f.Contig) : 2 ≤ f.regSize := by
  rcases h.size with h | h <;> omega

theorem AdisField.Apart.symm {f g : AdisField} (h : f.Apart g) : g.Apart f := by
  rcases h with ⟨h₁, h₂, h₃⟩ | h | h
  · exact .inl ⟨h₁.symm, h₂.symm, by rwa [Nat.land_comm]⟩
  · exact .inr (.inr h)
  · exact .inr (.inl h)

/-- A register's value depends on the bytes of its window only. -/
theorem Imu.regVal_congr {d d' : Imu} {reg size : Nat} (hsize : 2 ≤ size)
    (h : ∀ a, reg ≤ a → a < reg + size → d'.mem a = d.mem a) :
    d'.regVal reg size = d.regVal reg size := by
  unfold Imu.regVal Imu.word
  split
  · rw [h reg le_rfl (by omega), h (reg + 1) (by omega) (by omega), h (reg + 2) (by omega) (by omega),
      h (reg + 2 + 1) (by omega) (by omega)]
  · rw [h reg le_rfl (by omega), h (reg + 1) (by omega) (by omega)]

/-- **A write outside a field's window leaves the field.** -/
theorem Imu.field_of_disjoint {d d' : Imu} {f g : AdisField} (hg : 2 ≤ g.regSize)
    (hfg : f.Disjoint g)
    (hout : ∀ a, a < f.regAddr ∨ f.regAddr + f.regSize ≤ a → d'.mem a = d.mem a) :
    d'.field g = d.field g := by
  unfold AdisField.Disjoint at hfg
  rw [Imu.field, Imu.field, Imu.regVal_congr hg fun a h₁ h₂ => hout a (by omega)]

/-- **A read-modify-write of one field leaves every field apart from it**, when it
keeps the bytes outside its window and the bits of its register outside its mask. -/
theorem Imu.field_of_apart {d d' : Imu} {f g : AdisField} (hg : 2 ≤ g.regSize) (hfg : f.Apart g)
    (hout : ∀ a, a < f.regAddr ∨ f.regAddr + f.regSize ≤ a → d'.mem a = d.mem a)
    (hin : ∀ i, f.fieldMask.testBit i = false →
      (d'.regVal f.regAddr f.regSize).testBit i = (d.regVal f.regAddr f.regSize).testBit i) :
    d'.field g = d.field g := by
  rcases hfg with ⟨hr, hs, hm⟩ | hfg
  · have hand : d'.regVal g.regAddr g.regSize &&& g.fieldMask =
        d.regVal g.regAddr g.regSize &&& g.fieldMask := by
      rw [← hr, ← hs]
      refine Nat.eq_of_testBit_eq fun i => ?_
      rw [Nat.testBit_and, Nat.testBit_and]
      cases hgi : g.fieldMask.testBit i
      · simp
      · have hfi : f.fieldMask.testBit i = false := by
          simpa [Nat.testBit_and, hgi] using congrArg (Nat.testBit · i) hm
        rw [hin i hfi]
    rw [Imu.field, Imu.field, noOsFieldGet, noOsFieldGet, hand]
  · exact Imu.field_of_disjoint hg hfg hout

/-! ### Reads write nothing -/

theorem Imu.step_mem_of_quiet (d : Imu) {f : Frame} (h : (Event.frame f).quiet = true) :
    (d.step f).mem = d.mem := by
  simp only [Event.quiet, Bool.or_eq_true, decide_eq_true_eq, beq_iff_eq] at h
  unfold Imu.step
  split
  · rfl
  · split
    · rfl
    · rename_i h₁ h₂
      rcases h with h | h
      · omega
      · exact absurd (by rw [h]; decide) h₂

theorem Imu.xfer_mem_of_quiet (d : Imu) {ms : List SpiMsg}
    (h : ∀ m ∈ ms, (Event.frame m.tx).quiet = true) : (d.xfer ms).1.mem = d.mem := by
  induction ms generalizing d with
  | nil => rfl
  | cons m ms ih =>
    rw [Imu.xfer_cons, ih _ fun m' hm' => h m' (List.mem_cons_of_mem _ hm'),
      Imu.step_mem_of_quiet _ (h m (List.mem_cons_self _ _))]

/-- A transfer of quiet frames writes no register, whatever the bus delivers. -/
theorem noOsSpiTransfer_mem {msgs : List SpiMsg}
    (h : ∀ m ∈ msgs, (Event.frame m.tx).quiet = true) (mem : Nat → Nat) :
    Keeps (fun w => w.imu.mem = mem) (noOsSpiTransfer msgs) := fun w hw => by
  unfold noOsSpiTransfer
  split
  · exact (Imu.xfer_mem_of_quiet _ h).trans hw
  · exact (Imu.xfer_mem_of_quiet _ fun m hm => h m (List.mem_of_mem_take hm)).trans hw

/-- **`adis_read_reg` writes no register**, whatever the bus does. -/
theorem adisReadReg_mem (reg size : Nat) (mem : Nat → Nat) :
    Keeps (fun w => w.imu.mem = mem) (adisReadReg reg size) :=
  Keeps.dev.bind fun _ => by
    split
    · exact Keeps.fail _
    · rename_i hm
      exact (noOsSpiTransfer_mem (adisReadRegMsgs_quiet hm) mem).bind fun _ =>
        (show Keeps _ (setDev _) from fun _ h => h).bind fun _ => by split <;> exact Keeps.pure _

/-! ### The bus -/

theorem World.Healthy.atomic {w : World} (h : w.Healthy) : w.AtomicFailures := fun x hx => by
  obtain ⟨_, rfl⟩ := h x hx
  trivial

section BusAll

variable (p : Xfer → Prop) (info : AdisChipInfo)

theorem noOsSpiWriteAndRead_busAll (len : Nat) : Keeps (World.BusAll p) (noOsSpiWriteAndRead len) :=
  fun w h => by
    unfold noOsSpiWriteAndRead
    split <;> exact (World.BusAll.next h).2

theorem adisReadFieldU32_busAll (field : AdisField) :
    Keeps (World.BusAll p) (adisReadFieldU32 field) :=
  adisReadFieldU32_keeps (adisReadReg_busAll p _ _)

theorem adisWriteFieldU32_busAll (field : AdisField) (val : Nat) :
    Keeps (World.BusAll p) (adisWriteFieldU32 field val) :=
  adisWriteFieldU32_keeps (adisReadReg_busAll p _ _) fun _ => adisWriteReg_busAll p _ _ _

theorem adisInitSetup_busAll : Keeps (World.BusAll p) (adisInitSetup info) :=
  (noOsSpiInit_busAll p).bind fun _ => (setDev_busAll p _).bind fun _ =>
    noOsGpioGetOptional_busAll p _

theorem adisInitResetLine_busAll : Keeps (World.BusAll p) adisInitResetLine :=
  Keeps.dev.bind fun _ => Keeps.ite (noOsGpioDirectionOutputLow_busAll p) (Keeps.pure _)

theorem adisInitialStartup_busAll : Keeps (World.BusAll p) (adisInitialStartup info) :=
  (Keeps.dev.bind fun _ =>
    Keeps.ite ((noOsGpioSetValueHigh_busAll p).bind fun _ => emit_busAll p _)
      ((adisWriteReg_busAll p _ _ _).bind fun _ =>
        (show Keeps _ imuSwReset from fun _ h => h).bind fun _ => emit_busAll p _)).bind fun _ =>
    ((adisWriteReg_busAll p _ _ _).bind fun _ => emit_busAll p _).bind fun _ =>
      (adisWriteReg_busAll p _ _ _).bind fun _ =>
        ((adisReadReg_busAll p _ _).bind fun _ => (setDev_busAll p _).bind fun _ =>
          Keeps.dev.bind fun _ => Keeps.pure _).bind fun _ =>
          (adisReadFieldU32_busAll p _).bind fun _ => Keeps.pure _

end BusAll

/-! ### Field calls on a healthy bus -/

/-- **A field write leaves every field apart from it**, on a healthy bus with the
page cache right. -/
theorem adisWriteFieldU32_field_apart {f g : AdisField} {v : Nat} {w : World}
    (hwin : InPage f.regAddr f.regSize) (hg : 2 ≤ g.regSize) (hfg : f.Apart g) (hp : PageOk w)
    (hh : w.Healthy) : (adisWriteFieldU32 f v w).2.imu.field g = w.imu.field g := by
  unfold adisWriteFieldU32
  split
  · rfl
  · rw [Nat.mod_eq_of_lt (show f.regSize < 256 by have := hwin.fits; omega)]
    by_cases hs : f.regSize = 2 ∨ f.regSize = 4
    · obtain ⟨-, hmem, -⟩ := @adisUpdateBitsBase_ok f.regAddr f.fieldMask v f.regSize w hs hwin hp hh
      refine Imu.field_of_apart hg hfg (fun a ha => by rw [hmem, if_neg (by omega)]) fun i hi => ?_
      rw [regVal_of_bytes hs fun a h₁ h₂ => by rw [hmem, if_pos ⟨h₁, h₂⟩],
        testBit_maskedUpdate_of_not hs (regVal_lt _ _ hs) hi]
    · rw [adisUpdateBitsBase, bind_of_error (adisReadReg_bad_size hs w)]

/-- A completed field read on the right page returns the field's value. -/
theorem adisReadFieldU32_value {f : AdisField} {w : World} (hs : f.regSize = 2 ∨ f.regSize = 4)
    (hwin : InPage f.regAddr f.regSize) (hp : PageOk w) (hh : w.Healthy) :
    (adisReadFieldU32 f w).1 = .ok (w.imu.field f) := by
  obtain ⟨⟨data, hn⟩, -⟩ := hh.next
  obtain ⟨v, hv⟩ := adisReadReg_succeeds hs hn
  obtain ⟨rfl, -⟩ := adisReadReg_ok hwin hp hv
  rw [adisReadFieldU32, bind_of_fst_ok hv]
  rfl

/-- **A field write on a healthy bus stores its value**: a value that fits a
contiguous field is written and is the field's new value. -/
theorem adisWriteFieldU32_set {f : AdisField} {v : Nat} {w : World} (hf : f.Contig)
    (hwin : InPage f.regAddr f.regSize) (hv : v ≤ noOsFieldGet f.fieldMask f.fieldMask)
    (hp : PageOk w) (hh : w.Healthy) :
    (adisWriteFieldU32 f v w).1 = .ok () ∧ (adisWriteFieldU32 f v w).2.imu.field f = v := by
  obtain ⟨wd, c, hw, hcw, hm⟩ := hf.mask
  have h32 : c + wd ≤ 32 := by rcases hf.size with h | h <;> omega
  have hsize := hf.size
  obtain ⟨reg, size, mask⟩ := f
  dsimp only at hm hcw hwin hv hsize ⊢
  subst hm
  rw [noOsFieldGet_contigMask_self hw h32] at hv
  have hv' : v < 2 ^ wd := by have := @Nat.one_le_two_pow wd; omega
  rw [adisWriteFieldU32, noOsFieldGet_contigMask_self hw h32, if_neg (by omega),
    Nat.mod_eq_of_lt (show size < 256 by have := hwin.fits; omega)]
  obtain ⟨hok, hmem, -⟩ := @adisUpdateBitsBase_ok reg (contigMask wd c) v size w hsize hwin hp hh
  refine ⟨hok, ?_⟩
  rw [Imu.field, regVal_of_bytes hsize fun a h₁ h₂ => by rw [hmem, if_pos ⟨h₁, h₂⟩],
    noOsFieldGet_mod_two_pow hw hcw (by omega), noOsFieldGet_maskedUpdate hw h32 hv']

/-! ### Descriptors and the clock view -/

/-- `sync_clk_freq_limits[m]` admits the frequency `f`. -/
def AdisClkFreqLimit.Admits (l : AdisClkFreqLimit) (f : Nat) : Prop :=
  l.minFreq ≤ f ∧ f ≤ l.maxFreq

instance (l : AdisClkFreqLimit) (f : Nat) : Decidable (l.Admits f) :=
  inferInstanceAs (Decidable (_ ∧ _))

/-- The descriptor conditions of the clock invariant: the sync-mode and up-scale
fields are contiguous fields of 2- or 4-byte registers, apart from each other and
from every other field and outside the command registers; the sync-mode field holds
`sync_mode_max` and the up-scale field 2100; every scaled clock has a multiple in
1900..2100; and no admitted product `clk_freq * up_scale` wraps a `uint32_t`. -/
structure SyncSafe (info : AdisChipInfo) : Prop where
  page : PageSafe info
  syncMode_contig : (info.fieldMap .syncMode).Contig
  upScale_contig : (info.fieldMap .upScale).Contig
  upScale_apart : (info.fieldMap .upScale).Apart (info.fieldMap .syncMode)
  apart : ∀ f, f ≠ .syncMode → f ≠ .upScale →
    (info.fieldMap f).Apart (info.fieldMap .syncMode) ∧
      (info.fieldMap f).Apart (info.fieldMap .upScale)
  cmd_disjoint : ∀ f ∈ [FieldId.snsrSelfTest, .flsMemUpdate, .flsMemTest],
    (info.fieldMap f).Disjoint (info.fieldMap .syncMode) ∧
      (info.fieldMap f).Disjoint (info.fieldMap .upScale)
  syncMode_fits : info.syncModeMax ≤
    noOsFieldGet (info.fieldMap .syncMode).fieldMask (info.fieldMap .syncMode).fieldMask
  upScale_fits : 2100 ≤
    noOsFieldGet (info.fieldMap .upScale).fieldMask (info.fieldMap .upScale).fieldMask
  scaled_band : ∀ f, (info.syncClkFreqLimits ADIS_SYNC_SCALED).Admits f →
    ∃ k, 1900 ≤ k * f ∧ k * f ≤ 2100
  no_wrap : (info.syncClkFreqLimits ADIS_SYNC_SCALED).maxFreq *
    noOsFieldGet (info.fieldMap .upScale).fieldMask (info.fieldMap .upScale).fieldMask < 2 ^ 32

/-- A scaled clock with a multiple in the band is positive: `adis_write_sync_mode` never
divides by `0` for such a descriptor. -/
theorem SyncSafe.pos {info : AdisChipInfo} (hs : SyncSafe info) {e : Nat}
    (he : (info.syncClkFreqLimits ADIS_SYNC_SCALED).Admits e) : 0 < e := by
  obtain ⟨k, h₁, -⟩ := hs.scaled_band e he
  exact Nat.pos_of_ne_zero fun h => by subst h; simp at h₁

/-- The up-scale `adis_write_sync_mode` programs, `2100 / ext_clk`, lands in the band. -/
theorem SyncSafe.band {info : AdisChipInfo} (hs : SyncSafe info) {e : Nat}
    (he : (info.syncClkFreqLimits ADIS_SYNC_SCALED).Admits e) :
    1900 ≤ e * (2100 / e) ∧ e * (2100 / e) ≤ 2100 := by
  obtain ⟨k, h₁, h₂⟩ := hs.scaled_band e he
  have hpos := hs.pos he
  have hk : k ≤ 2100 / e := (Nat.le_div_iff_mul_le hpos).2 h₂
  refine ⟨?_, Nat.mul_div_le 2100 e⟩
  calc 1900 ≤ k * e := h₁
    _ = e * k := Nat.mul_comm _ _
    _ ≤ e * (2100 / e) := Nat.mul_le_mul_left e hk

/-- What the clock invariant reads of a state: the device's sync-mode and up-scale
fields, and the handle's `(ext_clk, clk_freq)`. -/
def clockView (info : AdisChipInfo) (w : World) : Nat × Nat × Nat × Nat :=
  (w.imu.field (info.fieldMap .syncMode), w.imu.field (info.fieldMap .upScale), w.dev.clocks)

/-- The clock invariant over a view `(m, up_scale, ext_clk, clk_freq)`: in an
externally clocked mode `m` both clocks lie in `m`'s range, and in scaled mode
`clk_freq * up_scale` lies in 1900..2100. -/
def ClockOk (info : AdisChipInfo) : Nat × Nat × Nat × Nat → Prop
  | (m, upScale, extClk, clkFreq) => m ≠ ADIS_SYNC_DEFAULT → m ≠ ADIS_SYNC_OUTPUT →
    (info.syncClkFreqLimits m).Admits extClk ∧ (info.syncClkFreqLimits m).Admits clkFreq ∧
      (m = ADIS_SYNC_SCALED → 1900 ≤ clkFreq * upScale ∧ clkFreq * upScale ≤ 2100)

instance (info : AdisChipInfo) : (v : Nat × Nat × Nat × Nat) → Decidable (ClockOk info v)
  | (_, _, _, _) => inferInstanceAs (Decidable (_ → _ → _))

/-! ### The setters' transitions -/

section Transitions

variable {info : AdisChipInfo} {m up ext clk : Nat}

/-- `adis_write_up_scale`'s transition: an up-scale that fits the field and whose
`uint32_t` product with `clk_freq` passes the band check in scaled mode. -/
theorem ClockOk.upScale (hs : SyncSafe info) {u : Nat} (h : ClockOk info (m, up, ext, clk))
    (hg : ¬(m = ADIS_SYNC_SCALED ∧ (clk * u % 2 ^ 32 > 2100 ∨ clk * u % 2 ^ 32 < 1900)))
    (hu : u ≤ noOsFieldGet (info.fieldMap .upScale).fieldMask (info.fieldMap .upScale).fieldMask) :
    ClockOk info (m, u, ext, clk) := fun h₁ h₂ => by
  obtain ⟨he, hc, -⟩ := h h₁ h₂
  refine ⟨he, hc, fun hsc => ?_⟩
  subst hsc
  have hlt : clk * u < 2 ^ 32 := lt_of_le_of_lt (Nat.mul_le_mul hc.2 hu) hs.no_wrap
  rw [Nat.mod_eq_of_lt hlt] at hg
  omega

/-- `adis_update_ext_clk_freq`'s transition: an `ext_clk` in the range of the
device's mode, when that mode is externally clocked. -/
theorem ClockOk.extClk {x : Nat} (h : ClockOk info (m, up, ext, clk))
    (hg : ¬(m ≠ ADIS_SYNC_DEFAULT ∧ m ≠ ADIS_SYNC_OUTPUT ∧
      (x < (info.syncClkFreqLimits m).minFreq ∨ x > (info.syncClkFreqLimits m).maxFreq))) :
    ClockOk info (m, up, x, clk) := fun h₁ h₂ => by
  obtain ⟨-, hc, hb⟩ := h h₁ h₂
  exact ⟨⟨by omega, by omega⟩, hc, hb⟩

/-- `adis_write_sync_mode`'s transition: a mode and clock its checks admit, the
clocks it assigns, and in scaled mode the up-scale `2100 / ext_clk`. -/
theorem ClockOk.syncMode (hs : SyncSafe info) {e : Nat} (d : AdisDev)
    (hv : SyncModeValid info m e) (hup : m = ADIS_SYNC_SCALED → up = 2100 / e) :
    ClockOk info (m, up, syncClocks info m e d) := by
  by_cases hext : m ≠ ADIS_SYNC_DEFAULT ∧ m ≠ ADIS_SYNC_OUTPUT
  · have he := hv.2 hext
    rw [syncClocks, if_pos hext]
    refine fun _ _ => ⟨he, he, fun hsc => ?_⟩
    subst hsc
    rw [hup rfl]
    exact hs.band he
  · exact fun h₁ h₂ => absurd ⟨h₁, h₂⟩ hext

end Transitions

/-! ### What every other call keeps -/

/-- The run invariant of the clocks: the page cache right, a bus that completes
every transfer, and `ClockOk` of the state's view. -/
structure SyncInv (info : AdisChipInfo) (w : World) : Prop where
  page : PageInv w
  healthy : w.Healthy
  clock : ClockOk info (clockView info w)

/-- A state on a healthy bus with the page cache right and the clock view `v`. -/
structure Steady (info : AdisChipInfo) (v : Nat × Nat × Nat × Nat) (w : World) : Prop where
  page : PageInv w
  healthy : w.Healthy
  view : clockView info w = v

section Frames

variable {info : AdisChipInfo} (v : Nat × Nat × Nat × Nat)

theorem SyncInv.steady {w : World} (h : SyncInv info w) : Steady info (clockView info w) w :=
  ⟨h.page, h.healthy, rfl⟩

theorem Steady.syncInv {w w' : World} (h : Steady info (clockView info w) w')
    (hc : ClockOk info (clockView info w)) : SyncInv info w' :=
  ⟨h.page, h.healthy, by rw [h.view]; exact hc⟩

/-- A call that keeps every view keeps the clock invariant. -/
theorem Keeps.syncInv_of_steady {x : Drv α} (h : ∀ v, Keeps (Steady info v) x) :
    Keeps (SyncInv info) x :=
  fun w hw => (h _ w hw.steady).syncInv hw.clock

/-- A call that keeps the page cache and the bus, and the view on them, keeps
every view. -/
theorem Steady.of {x : Drv α} (hp : Keeps PageInv x) (hh : Keeps World.Healthy x)
    (hv : ∀ w, PageInv w → w.Healthy → clockView info (x w).2 = clockView info w) :
    Keeps (Steady info v) x :=
  fun w h => ⟨hp w h.page, hh w h.healthy, (hv w h.page h.healthy).trans h.view⟩

theorem clockView_of_handleIs {w w' : World} (hm : w'.imu.mem = w.imu.mem)
    (hd : HandleIs w.dev w') : clockView info w' = clockView info w := by
  simp only [clockView, Imu.field, Imu.regVal, Imu.word, hm, hd.clocks]

theorem setDev_steady {f : AdisDev → AdisDev}
    (hf : ∀ d, (f d).currentPage = d.currentPage ∧ (f d).gpioReset = d.gpioReset ∧
      (f d).clocks = d.clocks) : Keeps (Steady info v) (setDev f) :=
  Steady.of v (setDev_pageInv fun d => ⟨(hf d).1, (hf d).2.1⟩) (setDev_busAll _ f)
    fun w _ _ => by simp only [clockView, setDev_apply, (hf w.dev).2.2]

theorem emit_steady (e : Event) : Keeps (Steady info v) (emit e) :=
  Steady.of v (emit_pageInv e) (emit_busAll _ e) fun _ _ _ => rfl

theorem noOsSpiWriteAndRead_steady (len : Nat) : Keeps (Steady info v) (noOsSpiWriteAndRead len) :=
  Steady.of v (noOsSpiWriteAndRead_pageInv len) (noOsSpiWriteAndRead_busAll _ len)
    fun w _ _ => by unfold noOsSpiWriteAndRead; split <;> simp [clockView]

theorem adisReadReg_steady {reg size : Nat} (hp : reg / 128 < 256) :
    Keeps (Steady info v) (adisReadReg reg size) :=
  Steady.of v (adisReadReg_pageInv hp) (adisReadReg_busAll _ reg size) fun w _ _ =>
    clockView_of_handleIs (adisReadReg_mem reg size _ w rfl)
      (adisReadReg_handleIs w.dev reg size w (HandleIs.self w))

/-- A command whose register lies outside the sync-mode and up-scale registers. -/
theorem adisCmd_steady {field : AdisField} (hwin : InPage field.regAddr field.regSize)
    (hs : field.Disjoint (info.fieldMap .syncMode)) (hu : field.Disjoint (info.fieldMap .upScale))
    (h2s : 2 ≤ (info.fieldMap .syncMode).regSize) (h2u : 2 ≤ (info.fieldMap .upScale).regSize) :
    Keeps (Steady info v) (adisCmd field) :=
  Steady.of v (adisCmd_pageInv hwin) (adisWriteReg_busAll _ _ _ _) fun w hp hh => by
    have hd := adisWriteReg_handleIs w.dev field.regAddr field.fieldMask field.regSize w
      (HandleIs.self w)
    unfold adisCmd at hd ⊢
    rcases hres : (adisWriteReg field.regAddr field.fieldMask field.regSize w).1 with e | _
    · exact clockView_of_handleIs (congrArg Imu.mem (adisWriteReg_error hh.atomic hres).1) hd
    · have hout : ∀ a, a < field.regAddr ∨ field.regAddr + field.regSize ≤ a →
          (adisWriteReg field.regAddr field.fieldMask field.regSize w).2.imu.mem a = w.imu.mem a :=
        fun a ha => by rw [(adisWriteReg_ok hwin hp.page hres).1 a, if_neg (by omega)]
      simp only [clockView, Imu.field_of_disjoint h2s hs hout, Imu.field_of_disjoint h2u hu hout,
        hd.clocks]

/-- A field write of any field but the sync mode and the up-scale. -/
theorem adisWriteFieldU32_steady (hs : SyncSafe info) {f : FieldId} (h₁ : f ≠ .syncMode)
    (h₂ : f ≠ .upScale) (val : Nat) : Keeps (Steady info v) (adisWriteFieldU32 (info.fieldMap f) val) :=
  Steady.of v (adisWriteFieldU32_pageInv (hs.page.inPage f)) (adisWriteFieldU32_busAll _ _ _)
    fun w hp hh => by
      have hd := adisWriteFieldU32_handleIs w.dev (info.fieldMap f) val w (HandleIs.self w)
      simp only [clockView, adisWriteFieldU32_field_apart (hs.page.inPage f)
        hs.syncMode_contig.two_le (hs.apart f h₁ h₂).1 hp.page hh,
        adisWriteFieldU32_field_apart (hs.page.inPage f) hs.upScale_contig.two_le
          (hs.apart f h₁ h₂).2 hp.page hh, hd.clocks]

theorem adisReadFieldU32_steady (hs : PageSafe info) (f : FieldId) :
    Keeps (Steady info v) (adisReadFieldU32 (info.fieldMap f)) :=
  adisReadFieldU32_keeps (adisReadReg_steady v (hs.inPage f).page_lt)

theorem adisUpdateDiagFlags_steady (diagStat : Nat) :
    Keeps (Steady info v) (adisUpdateDiagFlags info diagStat) :=
  setDev_steady v fun _ => by exact ⟨rfl, rfl, rfl⟩

theorem adisReadDiagStat_steady (hs : PageSafe info) : Keeps (Steady info v) (adisReadDiagStat info) :=
  (adisReadReg_steady v (hs.inPage .diagStat).page_lt).bind fun _ =>
    (adisUpdateDiagFlags_steady v _).bind fun _ => Keeps.dev.bind fun _ => Keeps.pure _

theorem adisReadBurstData_steady (n : Nat) (buf : List Nat) (sel : Fin 2) :
    Keeps (Steady info v) (adisReadBurstData info n buf sel) :=
  (noOsSpiWriteAndRead_steady v _).bind fun _ =>
    Keeps.ite ((setDev_steady v fun _ => by exact ⟨rfl, rfl, rfl⟩).bind fun _ => Keeps.fail _)
      ((setDev_steady v fun _ => by exact ⟨rfl, rfl, rfl⟩).bind fun _ =>
        (adisUpdateDiagFlags_steady v _).bind fun _ => Keeps.pure _)

theorem adisReadFlsMemWrCntr_steady (hs : PageSafe info) :
    Keeps (Steady info v) (adisReadFlsMemWrCntr info) :=
  (adisReadFieldU32_steady v hs .flsMemWrCntr).bind fun _ =>
    Keeps.ite ((setDev_steady v fun _ => by exact ⟨rfl, rfl, rfl⟩).bind fun _ => Keeps.pure _)
      ((Keeps.pure _).bind fun _ => Keeps.pure _)

/-- The three commands the clock invariant covers write outside the sync-mode and
up-scale registers. -/
theorem SyncSafe.cmd_steady (hs : SyncSafe info) {f : FieldId}
    (hf : f ∈ [FieldId.snsrSelfTest, .flsMemUpdate, .flsMemTest]) :
    Keeps (Steady info v) (adisCmd (info.fieldMap f)) :=
  adisCmd_steady v (hs.page.inPage f) (hs.cmd_disjoint f hf).1 (hs.cmd_disjoint f hf).2
    hs.syncMode_contig.two_le hs.upScale_contig.two_le

end Frames

/-! ### The three clock setters -/

section Setters

variable {info : AdisChipInfo}

theorem adisReadSyncMode_steady (hs : SyncSafe info) (v : Nat × Nat × Nat × Nat) :
    Keeps (Steady info v) (adisReadSyncMode info) :=
  adisReadFieldU32_steady v hs.page .syncMode

theorem adisReadSyncMode_value (hs : SyncSafe info) {w : World} (hp : PageOk w) (hh : w.Healthy) :
    (adisReadSyncMode info w).1 = .ok (w.imu.field (info.fieldMap .syncMode)) :=
  adisReadFieldU32_value hs.syncMode_contig.size (hs.page.inPage _) hp hh

/-- `adis_write_up_scale` once its read of the sync mode has returned `m`: the band
check on `m`, then the field write. -/
theorem adisWriteUpScale_of_read (upScale : Nat) {w : World} {m : Nat}
    (hr : (adisReadSyncMode info w).1 = .ok m) :
    adisWriteUpScale info upScale w =
      if m = ADIS_SYNC_SCALED ∧
          (w.dev.clkFreq * upScale % 2 ^ 32 > 2100 ∨ w.dev.clkFreq * upScale % 2 ^ 32 < 1900)
      then (.error (-EINVAL), (adisReadSyncMode info w).2)
      else adisWriteFieldU32 (info.fieldMap .upScale) upScale (adisReadSyncMode info w).2 := by
  have hclk : (adisReadSyncMode info w).2.dev.clkFreq = w.dev.clkFreq :=
    congrArg Prod.snd (HandleIs.keeps_clocks (adisReadSyncMode_handleIs w.dev info))
  rw [adisWriteUpScale, bind_of_fst_ok hr, dev_bind_apply, hclk]
  split_ifs <;> rfl

/-- `adis_write_up_scale` on a healthy bus with the page cache right: the band
check on the device's mode, then the field write. -/
theorem adisWriteUpScale_eq (hs : SyncSafe info) (upScale : Nat) {w : World} (hp : PageOk w)
    (hh : w.Healthy) :
    adisWriteUpScale info upScale w =
      if w.imu.field (info.fieldMap .syncMode) = ADIS_SYNC_SCALED ∧
          (w.dev.clkFreq * upScale % 2 ^ 32 > 2100 ∨ w.dev.clkFreq * upScale % 2 ^ 32 < 1900)
      then (.error (-EINVAL), (adisReadSyncMode info w).2)
      else adisWriteFieldU32 (info.fieldMap .upScale) upScale (adisReadSyncMode info w).2 :=
  adisWriteUpScale_of_read upScale (adisReadSyncMode_value hs hp hh)

/-- `adis_update_ext_clk_freq` on a healthy bus with the page cache right: the range
check on the device's mode, then the assignment of `ext_clk`. -/
theorem adisUpdateExtClkFreq_eq (hs : SyncSafe info) (clkFreq : Nat) {w : World} (hp : PageOk w)
    (hh : w.Healthy) :
    adisUpdateExtClkFreq info clkFreq w =
      if w.imu.field (info.fieldMap .syncMode) ≠ ADIS_SYNC_DEFAULT ∧
          w.imu.field (info.fieldMap .syncMode) ≠ ADIS_SYNC_OUTPUT ∧
          (clkFreq < (info.syncClkFreqLimits (w.imu.field (info.fieldMap .syncMode))).minFreq ∨
            clkFreq > (info.syncClkFreqLimits (w.imu.field (info.fieldMap .syncMode))).maxFreq)
      then (.error (-EINVAL), (adisReadSyncMode info w).2)
      else setDev (fun d => { d with extClk := clkFreq }) (adisReadSyncMode info w).2 := by
  rw [adisUpdateExtClkFreq, bind_of_fst_ok (adisReadSyncMode_value hs hp hh)]
  split_ifs <;> rfl

/-- The view after a completed write of the sync-mode field. -/
theorem adisWriteSyncModeField_view (hs : SyncSafe info) {m : Nat} {w : World}
    (hm : m ≤ noOsFieldGet (info.fieldMap .syncMode).fieldMask (info.fieldMap .syncMode).fieldMask)
    (hp : PageInv w) (hh : w.Healthy) :
    (adisWriteFieldU32 (info.fieldMap .syncMode) m w).1 = .ok () ∧
      clockView info (adisWriteFieldU32 (info.fieldMap .syncMode) m w).2 =
        (m, (clockView info w).2.1, (clockView info w).2.2) := by
  obtain ⟨hok, hset⟩ := adisWriteFieldU32_set hs.syncMode_contig (hs.page.inPage _) hm hp.page hh
  refine ⟨hok, ?_⟩
  simp only [clockView, hset, adisWriteFieldU32_field_apart (hs.page.inPage _)
    hs.upScale_contig.two_le hs.upScale_apart.symm hp.page hh,
    HandleIs.keeps_clocks (adisWriteFieldU32_handleIs w.dev _ _)]

/-- The view after a completed write of the up-scale field. -/
theorem adisWriteUpScaleField_view (hs : SyncSafe info) {u : Nat} {w : World}
    (hu : u ≤ noOsFieldGet (info.fieldMap .upScale).fieldMask (info.fieldMap .upScale).fieldMask)
    (hp : PageInv w) (hh : w.Healthy) :
    (adisWriteFieldU32 (info.fieldMap .upScale) u w).1 = .ok () ∧
      clockView info (adisWriteFieldU32 (info.fieldMap .upScale) u w).2 =
        ((clockView info w).1, u, (clockView info w).2.2) := by
  obtain ⟨hok, hset⟩ := adisWriteFieldU32_set hs.upScale_contig (hs.page.inPage _) hu hp.page hh
  refine ⟨hok, ?_⟩
  simp only [clockView, hset, adisWriteFieldU32_field_apart (hs.page.inPage _)
    hs.syncMode_contig.two_le hs.upScale_apart hp.page hh,
    HandleIs.keeps_clocks (adisWriteFieldU32_handleIs w.dev _ _)]

theorem adisWriteUpScale_syncInv (hs : SyncSafe info) (upScale : Nat) :
    Keeps (SyncInv info) (adisWriteUpScale info upScale) := fun w h => by
  have h₁ := adisReadSyncMode_steady hs (clockView info w) w h.steady
  rw [adisWriteUpScale_eq hs upScale h.page.page h.healthy]
  split_ifs with hg
  · exact h₁.syncInv h.clock
  · by_cases hu : upScale ≤
        noOsFieldGet (info.fieldMap .upScale).fieldMask (info.fieldMap .upScale).fieldMask
    · refine ⟨adisWriteFieldU32_pageInv (hs.page.inPage _) _ h₁.page,
        adisWriteFieldU32_busAll _ _ _ _ h₁.healthy, ?_⟩
      rw [(adisWriteUpScaleField_view hs hu h₁.page h₁.healthy).2, h₁.view]
      exact ClockOk.upScale hs h.clock hg hu
    · rw [adisWriteFieldU32_reject (Nat.lt_of_not_le hu)]
      exact h₁.syncInv h.clock

theorem adisUpdateExtClkFreq_syncInv (hs : SyncSafe info) (clkFreq : Nat) :
    Keeps (SyncInv info) (adisUpdateExtClkFreq info clkFreq) := fun w h => by
  have h₁ := adisReadSyncMode_steady hs (clockView info w) w h.steady
  rw [adisUpdateExtClkFreq_eq hs clkFreq h.page.page h.healthy]
  split_ifs with hg
  · exact h₁.syncInv h.clock
  · refine ⟨setDev_pageInv (fun _ => by exact ⟨rfl, rfl⟩) _ h₁.page, h₁.healthy, ?_⟩
    have hv : clockView info (setDev (fun d => { d with extClk := clkFreq })
        (adisReadSyncMode info w).2).2 =
        ((clockView info w).1, (clockView info w).2.1, clkFreq, (clockView info w).2.2.2) := by
      rw [← h₁.view]
      rfl
    rw [hv]
    exact ClockOk.extClk h.clock hg

/-- In scaled mode `adis_write_sync_mode` programs the up-scale `2100 / ext_clk`
once `clk_freq` holds `ext_clk`: the band check passes and the field write
completes. -/
theorem adisWriteUpScale_programmed (hs : SyncSafe info) {e : Nat}
    (he : (info.syncClkFreqLimits ADIS_SYNC_SCALED).Admits e) {w : World} (hp : PageInv w)
    (hh : w.Healthy) (hclk : w.dev.clkFreq = e) :
    (adisWriteUpScale info (2100 / e) w).1 = .ok () ∧ PageInv (adisWriteUpScale info (2100 / e) w).2 ∧
      (adisWriteUpScale info (2100 / e) w).2.Healthy ∧
      clockView info (adisWriteUpScale info (2100 / e) w).2 =
        ((clockView info w).1, 2100 / e, (clockView info w).2.2) := by
  have hband := hs.band he
  have h₁ := adisReadSyncMode_steady hs _ w ⟨hp, hh, rfl⟩
  have hup := adisWriteUpScaleField_view hs (le_trans (Nat.div_le_self 2100 e) hs.upScale_fits)
    h₁.page h₁.healthy
  rw [adisWriteUpScale_eq hs _ hp.page hh, if_neg (by rw [hclk, Nat.mod_eq_of_lt (by omega)]; omega)]
  exact ⟨hup.1, adisWriteFieldU32_pageInv (hs.page.inPage _) _ h₁.page,
    adisWriteFieldU32_busAll _ _ _ _ h₁.healthy, by rw [hup.2, h₁.view]⟩

/-- The last step of `adis_write_sync_mode`, the write of the mode, completes and
establishes the clock invariant from a state whose clocks are those the call
assigns and whose up-scale, in scaled mode, is `2100 / ext_clk`. -/
theorem adisWriteSyncModeField_syncInv (hs : SyncSafe info) {m e : Nat}
    (hv : SyncModeValid info m e) (d : AdisDev) {w : World} (hp : PageInv w) (hh : w.Healthy)
    (hc : (clockView info w).2.2 = syncClocks info m e d)
    (hu : m = ADIS_SYNC_SCALED → (clockView info w).2.1 = 2100 / e) :
    (adisWriteFieldU32 (info.fieldMap .syncMode) m w).1 = .ok () ∧
      SyncInv info (adisWriteFieldU32 (info.fieldMap .syncMode) m w).2 := by
  obtain ⟨hok, hview⟩ := adisWriteSyncModeField_view hs (le_trans hv.1 hs.syncMode_fits) hp hh
  refine ⟨hok, adisWriteFieldU32_pageInv (hs.page.inPage _) _ hp,
    adisWriteFieldU32_busAll _ _ _ _ hh, ?_⟩
  rw [hview, hc]
  exact ClockOk.syncMode hs d hv hu

/-- **`adis_write_sync_mode` on a healthy bus** programs arguments its checks admit —
the up-scale `2100 / ext_clk` first in scaled mode, the mode last — and completes
with the clock invariant established, whatever held before. -/
theorem adisWriteSyncMode_spec (hs : SyncSafe info) {m e : Nat} (hv : SyncModeValid info m e)
    {w : World} (hp : PageInv w) (hh : w.Healthy) :
    (adisWriteSyncMode info m e w).1 = .ok () ∧ SyncInv info (adisWriteSyncMode info m e w).2 := by
  unfold adisWriteSyncMode
  rw [if_neg (Nat.not_lt_of_le hv.1)]
  by_cases hext : m ≠ ADIS_SYNC_DEFAULT ∧ m ≠ ADIS_SYNC_OUTPUT
  · have he := hv.2 hext
    rw [if_pos hext, if_neg (by omega), setDev_bind_apply]
    set w₁ : World := { w with dev := { w.dev with extClk := e, clkFreq := e } }
    have hp₁ : PageInv w₁ :=
      @setDev_pageInv (fun d => { d with extClk := e, clkFreq := e }) (fun _ => ⟨rfl, rfl⟩) w hp
    have hc₁ : (clockView info w₁).2.2 = syncClocks info m e w.dev := by
      rw [syncClocks, if_pos hext]
      rfl
    by_cases hsc : m = ADIS_SYNC_SCALED
    · subst hsc
      obtain ⟨hok, hp₂, hh₂, hview⟩ := adisWriteUpScale_programmed hs he hp₁ hh rfl
      rw [if_pos rfl, dev_bind_apply, bind_of_ok (udiv_of_pos (hs.pos he) w₁), bind_of_fst_ok hok]
      exact adisWriteSyncModeField_syncInv hs hv w.dev hp₂ hh₂ (by rw [hview, hc₁])
        fun _ => by rw [hview]
    · rw [if_neg hsc]
      exact adisWriteSyncModeField_syncInv hs hv w.dev hp₁ hh hc₁ fun h => absurd h hsc
  · rw [if_neg hext, setDev_bind_apply]
    refine adisWriteSyncModeField_syncInv hs hv w.dev (@setDev_pageInv
      (fun d => { d with clkFreq := info.intClk }) (fun _ => ⟨rfl, rfl⟩) w hp) hh
      (by rw [syncClocks, if_neg hext]; rfl) fun hsc => absurd ⟨?_, ?_⟩ hext <;> rw [hsc] <;> decide

theorem adisWriteSyncMode_syncInv (hs : SyncSafe info) (m e : Nat) :
    Keeps (SyncInv info) (adisWriteSyncMode info m e) := fun w h => by
  by_cases hv : SyncModeValid info m e
  · exact (adisWriteSyncMode_spec hs hv h.page h.healthy).2
  · rw [adisWriteSyncMode_invalid hv]
    exact h

theorem adisWriteSyncMode_establishes (hs : SyncSafe info) (m e : Nat) :
    Ensures (fun w => PageInv w ∧ w.Healthy) (SyncInv info) (adisWriteSyncMode info m e) :=
  fun w ⟨hp, hh⟩ _ hok => by
    by_cases hv : SyncModeValid info m e
    · exact (adisWriteSyncMode_spec hs hv hp hh).2
    · rw [adisWriteSyncMode_invalid hv] at hok
      cases hok

end Setters

/-! ### Runs -/

section Runs

variable {info : AdisChipInfo}

theorem ConfigOp.run_syncInv (hs : SyncSafe info) :
    ∀ op : ConfigOp, Keeps (SyncInv info) (op.run info)
  | .writeXgBias _ | .writeYgBias _ | .writeZgBias _ | .writeXaBias _ | .writeYaBias _
  | .writeZaBias _ | .writeUsrScr1 _ | .writeUsrScr2 _ | .writeUsrScr3 _ =>
    Keeps.syncInv_of_steady fun v => adisWriteFieldU32_steady v hs (by decide) (by decide) _
  | .writeFiltSizeVarB _ | .writeDrPolarity _ | .writeSyncPolarity _ | .writeDecRate _ =>
    Keeps.syncInv_of_steady fun v => Keeps.ite (Keeps.fail _)
      ((adisWriteFieldU32_steady v hs (by decide) (by decide) _).bind fun _ => emit_steady v _)
  | .writeSensBw _ | .writePtOfPercAlgnmt _ | .writeLinearAcclComp _ | .writeBurstSel _
  | .writeBurst32 _ => Keeps.syncInv_of_steady fun v =>
    (adisWriteFieldU32_steady v hs (by decide) (by decide) _).bind fun _ => emit_steady v _
  | .writeSyncMode _ _ => adisWriteSyncMode_syncInv hs _ _
  | .writeUpScale _ => adisWriteUpScale_syncInv hs _
  | .updateExtClkFreq _ => adisUpdateExtClkFreq_syncInv hs _

/-- The calls the clock invariant covers: every call but the raw register writes,
the software reset, the factory restore and the start-up, which resets the device;
a raw read addresses a page below 256. -/
def Op.Clocked : Op → Prop
  | .readReg reg _ => reg / 128 < 256
  | .writeReg .. | .updateBitsBase .. | .cmdFactCalibRestore | .cmdSwRes | .initialStartup => False
  | _ => True

instance : DecidablePred Op.Clocked
  | .readReg reg _ => inferInstanceAs (Decidable (reg / 128 < 256))
  | .writeReg .. | .updateBitsBase .. | .cmdFactCalibRestore | .cmdSwRes | .initialStartup =>
    isFalse id
  | .readFieldU32 _ | .readFieldS32 _ | .readDiagStat | .readBurstData .. | .readFlsMemWrCntr
  | .config _ | .cmdSnsrSelfTest | .cmdFlsMemUpdate | .cmdFlsMemTest => isTrue trivial

theorem Op.exec_syncInv (hs : SyncSafe info) : ∀ op : Op, op.Clocked → Keeps (SyncInv info) (op.exec info)
  | .readReg _ _, h => Keeps.syncInv_of_steady fun v =>
    (adisReadReg_steady v h).bind fun _ => Keeps.pure _
  | .readFieldU32 f, _ => Keeps.syncInv_of_steady fun v =>
    (adisReadFieldU32_steady v hs.page f).bind fun _ => Keeps.pure _
  | .readFieldS32 f, _ => Keeps.syncInv_of_steady fun v =>
    (adisReadFieldS32_keeps (adisReadReg_steady v (hs.page.inPage f).page_lt)).bind
      fun _ => Keeps.pure _
  | .readDiagStat, _ => Keeps.syncInv_of_steady fun v =>
    (adisReadDiagStat_steady v hs.page).bind fun _ => Keeps.pure _
  | .readBurstData _ _ _, _ => Keeps.syncInv_of_steady fun v =>
    (adisReadBurstData_steady v _ _ _).bind fun _ => Keeps.pure _
  | .readFlsMemWrCntr, _ => Keeps.syncInv_of_steady fun v =>
    (adisReadFlsMemWrCntr_steady v hs.page).bind fun _ => Keeps.pure _
  | .config op, _ => ConfigOp.run_syncInv hs op
  | .cmdSnsrSelfTest, _ => Keeps.syncInv_of_steady fun v =>
    (hs.cmd_steady v (by simp)).bind fun _ => emit_steady v _
  | .cmdFlsMemUpdate, _ => Keeps.syncInv_of_steady fun v =>
    (hs.cmd_steady v (by simp)).bind fun _ =>
      (adisReadFlsMemWrCntr_steady v hs.page).bind fun _ => Keeps.pure _
  | .cmdFlsMemTest, _ => Keeps.syncInv_of_steady fun v => hs.cmd_steady v (by simp)
  | .writeReg .., h | .updateBitsBase .., h | .cmdFactCalibRestore, h | .cmdSwRes, h
  | .initialStartup, h => (h : False).elim

/-- **A completed `adis_init` on a healthy bus establishes the clock invariant**:
the start-up leaves the page cache right, and the sync mode programmed last sets
the view. -/
theorem adisInit_syncInv (hs : SyncSafe info) :
    Ensures World.Healthy (SyncInv info) (adisInit info) := fun w hh =>
  ((Ensures.of_keeps ((noOsCalloc_busAll _).and (noOsCalloc_busAll _))).bind fun _ =>
    Ensures.ite (Ensures.fail _) <|
    (adisInitSetup_calloc.and_keeps (adisInitSetup_busAll _ _)).bind fun _ =>
    (adisInitResetLine_fresh.and_keeps (adisInitResetLine_busAll _)).bind fun _ =>
      (((adisStartupReset_establishes hs.page).bind_keeps
        (adisInitialStartup_tail_pageInv hs.page)).and_keeps (adisInitialStartup_busAll _ _)).bind
        fun _ => adisWriteSyncMode_establishes hs _ _) w ⟨hh.atomic.selects, hh⟩

end Runs

theorem SyncSafe.sampleChip : SyncSafe sampleChip where
  page := PageSafe.sampleChip
  syncMode_contig := ⟨.inl rfl, 16, 0, by decide, by decide, by decide⟩
  upScale_contig := ⟨.inl rfl, 16, 0, by decide, by decide, by decide⟩
  upScale_apart := by decide
  apart f h₁ h₂ := by cases f <;> first | exact absurd rfl h₁ | exact absurd rfl h₂ | decide
  cmd_disjoint f hf := by
    simp only [List.mem_cons, List.mem_singleton, List.not_mem_nil, or_false] at hf
    rcases hf with rfl | rfl | rfl <;> decide
  syncMode_fits := by decide
  upScale_fits := by decide
  scaled_band f hf := by
    change 1 ≤ f ∧ f ≤ 128 at hf
    refine ⟨2100 / f, ?_, Nat.div_mul_le_self 2100 f⟩
    have h₁ := Nat.div_add_mod 2100 f
    have h₂ := Nat.mod_lt 2100 (show f > 0 by omega)
    rw [Nat.mul_comm] at h₁
    omega
  no_wrap := by decide

end AdisImu
