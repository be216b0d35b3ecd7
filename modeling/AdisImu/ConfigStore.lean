/-
# The configuration calls act on variables

`src/drivers/imu/adis.c`, lines 982-1106, 1114-1526, 1685-1749 and 1816-1842.  A client
configures the device through the setters: the six bias writers, the three scratch
registers, the four bounded setters, the five settled ones, `adis_write_sync_mode`,
`adis_write_up_scale` and `adis_update_ext_clk_freq`.  Between them they read and write
twenty fields of the device and the two clocks of the handle.

`ConfigState` is what a client sees: a value per field and the two clocks, with no
page, no frame and no read-modify-write.  On it each setter checks what the source
checks, in the same order, and then sets its variables: a value the field cannot
hold, an argument above its bound, a mode above `sync_mode_max`, a clock outside its
mode's range or an up-scale outside the scaled band is `-EINVAL` and changes nothing
the setter had not changed before the check (`ConfigOp.onState`).

When the descriptor's configuration fields are contiguous fields of 2- or 4-byte
registers inside one page, any two apart, every run of setters on a bus that completes
every transfer, from a page cache that is unknown or right, returns what the same run
returns on the variables, and leaves the device's fields and the handle's clocks
holding them (`runConfig_store`).  On the variables two facts follow for the device: a
setter other than `adis_write_sync_mode`, made twice, does what it does once
(`runConfig_retry`), two setters that each set one field, of different fields,
commute (`runConfig_comm`), and such a setter that fails changes nothing
(`configOp_error_unchanged`).
-/

import AdisImu.FieldStore
import AdisImu.HandleSteps

namespace AdisImu

open Drv

/-! ### The client's view -/

/-- The configuration as a client sees it: a value per field, and the handle's external
clock and sample clock. -/
structure ConfigState where
  field : AdisField → Nat
  extClk : Nat
  clkFreq : Nat

/-- The fields the setters write or check. -/
def configFields : List FieldId :=
  [.xgBias, .ygBias, .zgBias, .xaBias, .yaBias, .zaBias, .usrScr1, .usrScr2, .usrScr3,
    .filtSizeVarB, .drPolarity, .syncPolarity, .decRate, .sensBw, .ptOfPercAlgnmt,
    .linearAcclComp, .burstSel, .burst32, .syncMode, .upScale]

namespace ConfigState

/-- The configuration a world holds. -/
def of (w : World) : ConfigState := ⟨w.imu.field, w.dev.extClk, w.dev.clkFreq⟩

/-- The value of field `f`. -/
def get (f : AdisField) : StoreM ConfigState Nat := fun s => (.ok (s.field f), s)

/-- Field `f` takes `v` if `v` fits it; `-EINVAL` and no change otherwise. -/
def set (f : AdisField) (v : Nat) : StoreM ConfigState Unit := fun s =>
  if v > noOsFieldGet f.fieldMask f.fieldMask then (.error (-EINVAL), s)
  else (.ok (), { s with field := Function.update s.field f v })

/-- A setter that checks its argument against `max` first. -/
def setAtMost (f : AdisField) (max v : Nat) : StoreM ConfigState Unit :=
  if v > max then StoreM.fail (-EINVAL) else set f v

/-- The clocks `(ext_clk, clk_freq)` replaced by `t` of them. -/
def clocks (t : Nat × Nat → Nat × Nat) : StoreM ConfigState Unit := fun s =>
  (.ok (), { s with extClk := (t (s.extClk, s.clkFreq)).1, clkFreq := (t (s.extClk, s.clkFreq)).2 })

/-- The sample clock, handed on. -/
def withClock (k : Nat → StoreM ConfigState α) : StoreM ConfigState α := fun s => k s.clkFreq s

variable (info : AdisChipInfo)

/-- The up-scale: while the device is in scaled mode, the 32-bit product with the sample
clock must lie in 1900..2100. -/
def upScale (u : Nat) : StoreM ConfigState Unit := do
  let m ← get (info.fieldMap .syncMode)
  withClock fun c =>
    if m = ADIS_SYNC_SCALED ∧ (c * u % 2 ^ 32 > 2100 ∨ c * u % 2 ^ 32 < 1900) then
      StoreM.fail (-EINVAL)
    else set (info.fieldMap .upScale) u

/-- A new external clock: checked against the range of the device's mode, when the mode
uses one. -/
def setExtClk (c : Nat) : StoreM ConfigState Unit := do
  let m ← get (info.fieldMap .syncMode)
  if m ≠ ADIS_SYNC_DEFAULT ∧ m ≠ ADIS_SYNC_OUTPUT ∧
      (c < (info.syncClkFreqLimits m).minFreq ∨ c > (info.syncClkFreqLimits m).maxFreq) then
    StoreM.fail (-EINVAL)
  else clocks fun p => (c, p.2)

/-- A sync mode: a mode up to `sync_mode_max`; an external mode takes a clock in its range
as both clocks, and the scaled mode the up-scale `2100 / clk_freq` before the mode; the
other modes run on the internal clock. -/
def syncMode (m e : Nat) : StoreM ConfigState Unit :=
  if m > info.syncModeMax then StoreM.fail (-EINVAL)
  else if m ≠ ADIS_SYNC_DEFAULT ∧ m ≠ ADIS_SYNC_OUTPUT then
    if e < (info.syncClkFreqLimits m).minFreq ∨ e > (info.syncClkFreqLimits m).maxFreq then
      StoreM.fail (-EINVAL)
    else do
      clocks fun _ => (e, e)
      if m = ADIS_SYNC_SCALED then
        withClock fun c => do
          upScale info (2100 / c)
          set (info.fieldMap .syncMode) m
      else set (info.fieldMap .syncMode) m
  else do
    clocks fun p => (p.1, info.intClk)
    set (info.fieldMap .syncMode) m

end ConfigState

open ConfigState in
/-- A configuration operation on the client's view. -/
def ConfigOp.onState (info : AdisChipInfo) : ConfigOp → StoreM ConfigState Unit
  | .writeXgBias b => set (info.fieldMap .xgBias) (int32ToUint32 b)
  | .writeYgBias b => set (info.fieldMap .ygBias) (int32ToUint32 b)
  | .writeZgBias b => set (info.fieldMap .zgBias) (int32ToUint32 b)
  | .writeXaBias b => set (info.fieldMap .xaBias) (int32ToUint32 b)
  | .writeYaBias b => set (info.fieldMap .yaBias) (int32ToUint32 b)
  | .writeZaBias b => set (info.fieldMap .zaBias) (int32ToUint32 b)
  | .writeUsrScr1 v => set (info.fieldMap .usrScr1) v
  | .writeUsrScr2 v => set (info.fieldMap .usrScr2) v
  | .writeUsrScr3 v => set (info.fieldMap .usrScr3) v
  | .writeFiltSizeVarB v => setAtMost (info.fieldMap .filtSizeVarB) info.filtSizeVarBMax v
  | .writeDrPolarity v => setAtMost (info.fieldMap .drPolarity) 1 v
  | .writeSyncPolarity v => setAtMost (info.fieldMap .syncPolarity) 1 v
  | .writeSyncMode m e => syncMode info m e
  | .writeSensBw v => set (info.fieldMap .sensBw) v
  | .writePtOfPercAlgnmt v => set (info.fieldMap .ptOfPercAlgnmt) v
  | .writeLinearAcclComp v => set (info.fieldMap .linearAcclComp) v
  | .writeBurstSel v => set (info.fieldMap .burstSel) v
  | .writeBurst32 v => set (info.fieldMap .burst32) v
  | .writeUpScale v => upScale info v
  | .writeDecRate v => setAtMost (info.fieldMap .decRate) info.decRateMax v
  | .updateExtClkFreq c => setExtClk info c

/-! ### Runs that carry on after an error -/

/-- A call whose code is handed back as a value. -/
def Drv.attempt (x : Drv α) : Drv (Except Int α) := fun w => (.ok (x w).1, (x w).2)

/-- A computation on a store whose code is handed back as a value. -/
def StoreM.attempt (x : StoreM σ α) : StoreM σ (Except Int α) := fun s => (.ok (x s).1, (x s).2)

/-- A run of configuration calls, each one's code handed back, the next made whatever the
last returned. -/
def runConfig (info : AdisChipInfo) : List ConfigOp → Drv (List (Except Int Unit))
  | [] => pure []
  | op :: ops => do
    let r ← (op.run info).attempt
    let rs ← runConfig info ops
    pure (r :: rs)

/-- The same run on the client's view. -/
def ConfigState.run (info : AdisChipInfo) : List ConfigOp → StoreM ConfigState (List (Except Int Unit))
  | [] => pure []
  | op :: ops => do
    let r ← (op.onState info).attempt
    let rs ← ConfigState.run info ops
    pure (r :: rs)

/-- On the view, a scaled sync at 100 Hz programs the up-scale 21; an up-scale of 30 then
leaves the band, and a clock of 50 Hz is in the scaled range. -/
example : (ConfigState.run sampleChip
    [.writeSyncMode ADIS_SYNC_SCALED 100, .writeUpScale 30, .updateExtClkFreq 50]
    ⟨fun _ => 0, 0, 0⟩).1 = .ok [.ok (), .error (-EINVAL), .ok ()] := rfl

theorem StoreM.bind_pure_unit (x : StoreM σ Unit) : (x >>= fun _ => pure ()) = x :=
  funext fun s => by
    rw [StoreM.bind_apply]
    rcases x s with ⟨_ | ⟨⟩, _⟩ <;> rfl

/-- A call in which `adis_write_sync_mode` divides by a positive clock: scaled sync only
at a clock above `0`.  C leaves the quotient by `0` undefined. -/
def ConfigOp.Defined : ConfigOp → Prop
  | .writeSyncMode m e => m = ADIS_SYNC_SCALED → 0 < e
  | _ => True

instance : DecidablePred ConfigOp.Defined := fun op => by
  unfold ConfigOp.Defined; split <;> infer_instance

/-! ### The simulation -/

/-- The view holds the fields of the family and the handle's clocks, the page cache is
unknown or right, and the bus completes every transfer. -/
structure ConfigRel (fields : List AdisField) (w : World) (s : ConfigState) : Prop where
  store : FieldRel fields w s.field
  extClk : w.dev.extClk = s.extClk
  clkFreq : w.dev.clkFreq = s.clkFreq

section Sim

variable {fields : List AdisField}

theorem Sim.attempt {R : World → σ → Prop} {x : Drv α} {a : StoreM σ α} (h : Sim R x a) :
    Sim R x.attempt a.attempt := fun w s hr =>
  ⟨by rw [Drv.attempt, StoreM.attempt, (h w s hr).1], (h w s hr).2⟩

/-- A call that keeps the handle but for its page cache keeps the clocks of the view. -/
theorem ConfigRel.of_field {x : Drv α} {w : World} {s : ConfigState} {σ : AdisField → Nat}
    (h : ConfigRel fields w s) (hx : Keeps (HandleIs w.dev) x) (hσ : FieldRel fields (x w).2 σ) :
    ConfigRel fields (x w).2 { s with field := σ } :=
  have hc := HandleIs.keeps_clocks hx
  ⟨hσ, (congrArg Prod.fst hc).trans h.extClk, (congrArg Prod.snd hc).trans h.clkFreq⟩

theorem ConfigRel.sim_get (hF : FieldFamily fields) {f : AdisField} (hf : f ∈ fields) :
    Sim (ConfigRel fields) (adisReadFieldU32 f) (ConfigState.get f) := fun w s h => by
  have hv := adisReadFieldU32_value (hF.contig f hf).size (hF.inPage f hf) h.store.page
    h.store.healthy
  refine ⟨by rw [hv, h.store.field f hf]; rfl, h.of_field (adisReadFieldU32_handleIs _ f) ?_⟩
  exact h.store.of_read (adisReadFieldU32_refines fun _ => hF.inPage f hf)
    (adisReadFieldU32_keeps (adisReadReg_mem _ _ _))

theorem ConfigRel.sim_set (hF : FieldFamily fields) {f : AdisField} (hf : f ∈ fields) (v : Nat) :
    Sim (ConfigRel fields) (adisWriteFieldU32 f v) (ConfigState.set f v) := fun w s h => by
  unfold ConfigState.set
  by_cases hv : v > noOsFieldGet f.fieldMask f.fieldMask
  · rw [if_pos hv, adisWriteFieldU32_reject hv w]
    exact ⟨rfl, h⟩
  · obtain ⟨hok, h'⟩ := h.store.of_write hF hf (Nat.le_of_not_lt hv)
    rw [if_neg hv]
    exact ⟨hok, h.of_field (adisWriteFieldU32_handleIs _ f v) h'⟩

theorem ConfigRel.sim_emit (e : Event) : Sim (ConfigRel fields) (Drv.emit e) (pure ()) :=
  fun _ _ h => ⟨rfl, ⟨h.store.page, h.store.healthy, h.store.field⟩, h.extClk, h.clkFreq⟩

theorem ConfigRel.sim_settled (hF : FieldFamily fields) {f : AdisField} (hf : f ∈ fields)
    (e : Event) (v : Nat) :
    Sim (ConfigRel fields) (adisWriteSettled f (Drv.emit e) v) (ConfigState.set f v) := by
  rw [← StoreM.bind_pure_unit (ConfigState.set f v)]
  exact Sim.bind (sim_set hF hf v) fun _ => sim_emit e

theorem ConfigRel.sim_clocks {g : AdisDev → AdisDev} (t : Nat × Nat → Nat × Nat)
    (hg : ∀ d, (g d).currentPage = d.currentPage ∧ (g d).extClk = (t (d.extClk, d.clkFreq)).1 ∧
      (g d).clkFreq = (t (d.extClk, d.clkFreq)).2) :
    Sim (ConfigRel fields) (Drv.setDev g) (ConfigState.clocks t) := fun w s h => by
  obtain ⟨hp, he, hc⟩ := hg w.dev
  refine ⟨rfl, ⟨?_, h.store.healthy, h.store.field⟩, ?_, ?_⟩
  · simpa only [PageOk, setDev_apply, hp] using h.store.page
  all_goals simp only [setDev_apply, he, hc, ConfigState.clocks, h.extClk, h.clkFreq]

theorem ConfigRel.sim_dev_clock {f : AdisDev → Drv α} {k : Nat → StoreM ConfigState α}
    (h : ∀ d : AdisDev, Sim (ConfigRel fields) (f d) (k d.clkFreq)) :
    Sim (ConfigRel fields) (Drv.dev >>= f) (ConfigState.withClock k) := fun w s hr => by
  rw [dev_bind_apply, ConfigState.withClock, ← hr.clkFreq]
  exact h w.dev w s hr

variable {info : AdisChipInfo}

/-- The configuration fields of the descriptor, as fields. -/
abbrev configFieldsOf (info : AdisChipInfo) : List AdisField := configFields.map info.fieldMap

theorem mem_configFieldsOf (k : FieldId) (hk : k ∈ configFields) :
    info.fieldMap k ∈ configFieldsOf info :=
  List.mem_map_of_mem _ hk

section Ops

variable (hF : FieldFamily (configFieldsOf info))
include hF

theorem ConfigRel.sim_upScale (u : Nat) :
    Sim (ConfigRel (configFieldsOf info)) (adisWriteUpScale info u) (ConfigState.upScale info u) :=
  Sim.bind (sim_get hF (mem_configFieldsOf .syncMode (by decide))) fun _ => sim_dev_clock fun _ =>
    Sim.ite (Sim.fail _) (sim_set hF (mem_configFieldsOf .upScale (by decide)) u)

/-- `adis_write_sync_mode` at a positive clock when the mode is scaled, so that its
quotient `2100 / clk_freq` is defined. -/
theorem ConfigRel.sim_syncMode (m e : Nat) (he : m = ADIS_SYNC_SCALED → 0 < e) :
    Sim (ConfigRel (configFieldsOf info)) (adisWriteSyncMode info m e)
      (ConfigState.syncMode info m e) :=
  have hm := sim_set hF (mem_configFieldsOf .syncMode (by decide)) m
  Sim.ite (Sim.fail _) <| Sim.ite (Sim.ite (Sim.fail _) fun w s h => by
      obtain ⟨-, h₁⟩ := @sim_clocks _ (fun d => { d with extClk := e, clkFreq := e }) (fun _ => (e, e))
        (fun _ => ⟨rfl, rfl, rfl⟩) w s h
      rw [setDev_bind_apply, StoreM.bind_apply]
      dsimp only [ConfigState.clocks]
      split_ifs with hsc
      · rw [dev_bind_apply, bind_of_ok (udiv_of_pos (he hsc) _)]
        exact Sim.bind (sim_upScale hF _) (fun _ => hm) _ _ h₁
      · exact hm _ _ h₁)
    (Sim.bind (sim_clocks _ fun _ => ⟨rfl, rfl, rfl⟩) fun _ => hm)

theorem ConfigOp.sim : ∀ op : ConfigOp, op.Defined →
    Sim (ConfigRel (configFieldsOf info)) (op.run info) (op.onState info)
  | .writeSyncMode m e, he => ConfigRel.sim_syncMode hF m e he
  | .writeXgBias _, _ => ConfigRel.sim_set hF (mem_configFieldsOf .xgBias (by decide)) _
  | .writeYgBias _, _ => ConfigRel.sim_set hF (mem_configFieldsOf .ygBias (by decide)) _
  | .writeZgBias _, _ => ConfigRel.sim_set hF (mem_configFieldsOf .zgBias (by decide)) _
  | .writeXaBias _, _ => ConfigRel.sim_set hF (mem_configFieldsOf .xaBias (by decide)) _
  | .writeYaBias _, _ => ConfigRel.sim_set hF (mem_configFieldsOf .yaBias (by decide)) _
  | .writeZaBias _, _ => ConfigRel.sim_set hF (mem_configFieldsOf .zaBias (by decide)) _
  | .writeUsrScr1 _, _ => ConfigRel.sim_set hF (mem_configFieldsOf .usrScr1 (by decide)) _
  | .writeUsrScr2 _, _ => ConfigRel.sim_set hF (mem_configFieldsOf .usrScr2 (by decide)) _
  | .writeUsrScr3 _, _ => ConfigRel.sim_set hF (mem_configFieldsOf .usrScr3 (by decide)) _
  | .writeFiltSizeVarB _, _ =>
    Sim.ite (Sim.fail _) (ConfigRel.sim_settled hF (mem_configFieldsOf .filtSizeVarB (by decide)) _ _)
  | .writeDrPolarity _, _ =>
    Sim.ite (Sim.fail _) (ConfigRel.sim_settled hF (mem_configFieldsOf .drPolarity (by decide)) _ _)
  | .writeSyncPolarity _, _ =>
    Sim.ite (Sim.fail _) (ConfigRel.sim_settled hF (mem_configFieldsOf .syncPolarity (by decide)) _ _)
  | .writeSensBw _, _ => ConfigRel.sim_settled hF (mem_configFieldsOf .sensBw (by decide)) _ _
  | .writePtOfPercAlgnmt _, _ => ConfigRel.sim_settled hF (mem_configFieldsOf .ptOfPercAlgnmt (by decide)) _ _
  | .writeLinearAcclComp _, _ => ConfigRel.sim_settled hF (mem_configFieldsOf .linearAcclComp (by decide)) _ _
  | .writeBurstSel _, _ => ConfigRel.sim_settled hF (mem_configFieldsOf .burstSel (by decide)) _ _
  | .writeBurst32 _, _ => ConfigRel.sim_settled hF (mem_configFieldsOf .burst32 (by decide)) _ _
  | .writeUpScale u, _ => ConfigRel.sim_upScale hF u
  | .writeDecRate _, _ =>
    Sim.ite (Sim.fail _) (ConfigRel.sim_settled hF (mem_configFieldsOf .decRate (by decide)) _ _)
  | .updateExtClkFreq c, _ =>
    Sim.bind (ConfigRel.sim_get hF (mem_configFieldsOf .syncMode (by decide))) fun _ =>
      Sim.ite (Sim.fail _) (ConfigRel.sim_clocks _ fun _ => ⟨rfl, rfl, rfl⟩)

theorem runConfig_sim : ∀ ops : List ConfigOp, (∀ op ∈ ops, op.Defined) →
    Sim (ConfigRel (configFieldsOf info)) (runConfig info ops) (ConfigState.run info ops)
  | [], _ => Sim.pure _
  | op :: ops, h => Sim.bind (ConfigOp.sim hF op (h op (List.mem_cons_self _ _))).attempt fun _ =>
    Sim.bind (runConfig_sim ops fun o ho => h o (List.mem_cons_of_mem _ ho)) fun _ => Sim.pure _

end Ops

/-- A world and the configuration it holds, on a bus that completes every transfer and
from a page cache that is unknown or right. -/
theorem ConfigRel.of_world {w : World} (hp : PageOk w) (hh : w.Healthy) :
    ConfigRel fields w (.of w) :=
  ⟨⟨hp, hh, fun _ _ => rfl⟩, rfl, rfl⟩

end Sim

/-- **The configuration calls act on variables.**  For a descriptor whose configuration
fields are contiguous fields of 2- or 4-byte registers inside one page below 256 clear
of the page register, any two apart: on a bus that completes every transfer, from a
handle whose page cache is unknown or names the device's page, every run of setters
that asks for scaled sync only at a positive clock returns, call by call, what the same run returns on the client's view started from the
device's fields and the handle's clocks, and leaves each configuration field and both
clocks holding the view's values. -/
theorem runConfig_store (info : AdisChipInfo) (hF : FieldFamily (configFields.map info.fieldMap))
    (ops : List ConfigOp) (hops : ∀ op ∈ ops, op.Defined) (w : World) (hp : PageOk w) (hh : w.Healthy) :
    (runConfig info ops w).1 = (ConfigState.run info ops (.of w)).1 ∧
      (∀ k ∈ configFields, (runConfig info ops w).2.imu.field (info.fieldMap k) =
        (ConfigState.run info ops (.of w)).2.field (info.fieldMap k)) ∧
      (runConfig info ops w).2.dev.extClk = (ConfigState.run info ops (.of w)).2.extClk ∧
      (runConfig info ops w).2.dev.clkFreq = (ConfigState.run info ops (.of w)).2.clkFreq := by
  obtain ⟨h₁, h₂⟩ := runConfig_sim hF ops hops w _ (ConfigRel.of_world hp hh)
  exact ⟨h₁, fun k hk => h₂.store.field _ (List.mem_map_of_mem _ hk), h₂.extClk, h₂.clkFreq⟩

/-- The configuration fields of `sampleChip`, each a 16-bit register of its own, are a
family of independent fields. -/
theorem FieldFamily.sampleChip_config : FieldFamily (configFields.map sampleChip.fieldMap) where
  contig f hf := by
    obtain ⟨k, -, rfl⟩ := List.mem_map.1 hf
    exact ⟨.inl rfl, 16, 0, by decide, (by decide : 0 + 16 ≤ 8 * 2),
      (by decide : 0xFFFF = contigMask 16 0)⟩
  inPage f hf := by
    obtain ⟨k, -, rfl⟩ := List.mem_map.1 hf
    exact PageSafe.sampleChip.inPage k
  apart := by decide

/-- `runConfig_store` on `sampleChip` from a blank device: scaled sync at 100 Hz, an
up-scale of 30, which leaves the band, and a clock of 50 Hz. -/
theorem runConfig_store_blank :
    (runConfig sampleChip [.writeSyncMode ADIS_SYNC_SCALED 100, .writeUpScale 30,
        .updateExtClkFreq 50] World.blank).1 =
      (ConfigState.run sampleChip [.writeSyncMode ADIS_SYNC_SCALED 100, .writeUpScale 30,
        .updateExtClkFreq 50] (.of World.blank)).1 ∧
    (∀ k ∈ configFields,
      (runConfig sampleChip [.writeSyncMode ADIS_SYNC_SCALED 100, .writeUpScale 30,
          .updateExtClkFreq 50] World.blank).2.imu.field (sampleChip.fieldMap k) =
        (ConfigState.run sampleChip [.writeSyncMode ADIS_SYNC_SCALED 100, .writeUpScale 30,
          .updateExtClkFreq 50] (.of World.blank)).2.field (sampleChip.fieldMap k)) ∧
    (runConfig sampleChip [.writeSyncMode ADIS_SYNC_SCALED 100, .writeUpScale 30,
        .updateExtClkFreq 50] World.blank).2.dev.extClk =
      (ConfigState.run sampleChip [.writeSyncMode ADIS_SYNC_SCALED 100, .writeUpScale 30,
        .updateExtClkFreq 50] (.of World.blank)).2.extClk ∧
    (runConfig sampleChip [.writeSyncMode ADIS_SYNC_SCALED 100, .writeUpScale 30,
        .updateExtClkFreq 50] World.blank).2.dev.clkFreq =
      (ConfigState.run sampleChip [.writeSyncMode ADIS_SYNC_SCALED 100, .writeUpScale 30,
        .updateExtClkFreq 50] (.of World.blank)).2.clkFreq :=
  runConfig_store sampleChip FieldFamily.sampleChip_config _ (by decide) World.blank (.inr rfl)
    fun _ h => absurd h (List.not_mem_nil _)

/-! ### Retrying a setter -/

/-- The setters other than `adis_write_sync_mode`. -/
def ConfigOp.Retryable : ConfigOp → Prop
  | .writeSyncMode _ _ => False
  | _ => True

theorem ConfigOp.Retryable.defined {op : ConfigOp} (h : op.Retryable) : op.Defined := by
  cases op <;> first | exact absurd h id | trivial

namespace ConfigState

variable (info : AdisChipInfo) (s : ConfigState)

theorem set_snd_field {f g : AdisField} (v : Nat) (h : g ≠ f) : (set f v s).2.field g = s.field g := by
  unfold set
  split_ifs
  · rfl
  · exact Function.update_noteq h _ _

theorem set_snd_clkFreq (f : AdisField) (v : Nat) : (set f v s).2.clkFreq = s.clkFreq := by
  unfold set
  split_ifs <;> rfl

theorem set_idem (f : AdisField) (v : Nat) : set f v (set f v s).2 = set f v s := by
  unfold set
  by_cases hv : v > noOsFieldGet f.fieldMask f.fieldMask
  · simp only [if_pos hv]
  · simp only [if_neg hv, Function.update_idem]

theorem setAtMost_idem (f : AdisField) (max v : Nat) :
    setAtMost f max v (setAtMost f max v s).2 = setAtMost f max v s := by
  unfold setAtMost
  by_cases hv : v > max
  · simp only [if_pos hv]
    rfl
  · simp only [if_neg hv]
    exact set_idem s f v

theorem upScale_apply (u : Nat) : upScale info u s =
    if s.field (info.fieldMap .syncMode) = ADIS_SYNC_SCALED ∧
        (s.clkFreq * u % 2 ^ 32 > 2100 ∨ s.clkFreq * u % 2 ^ 32 < 1900) then (.error (-EINVAL), s)
    else set (info.fieldMap .upScale) u s :=
  ite_apply _ _ _ _

theorem upScale_idem (hne : info.fieldMap .syncMode ≠ info.fieldMap .upScale) (u : Nat) :
    upScale info u (upScale info u s).2 = upScale info u s := by
  rw [upScale_apply info s]
  split_ifs with hc
  · rw [upScale_apply, if_pos hc]
  · rw [upScale_apply, set_snd_field s u hne, set_snd_clkFreq, if_neg hc, set_idem]

theorem setExtClk_apply (c : Nat) : setExtClk info c s =
    if s.field (info.fieldMap .syncMode) ≠ ADIS_SYNC_DEFAULT ∧
        s.field (info.fieldMap .syncMode) ≠ ADIS_SYNC_OUTPUT ∧
        (c < (info.syncClkFreqLimits (s.field (info.fieldMap .syncMode))).minFreq ∨
          c > (info.syncClkFreqLimits (s.field (info.fieldMap .syncMode))).maxFreq) then
      (.error (-EINVAL), s)
    else (.ok (), { s with extClk := c }) :=
  ite_apply _ _ _ _

theorem setExtClk_idem (c : Nat) : setExtClk info c (setExtClk info c s).2 = setExtClk info c s := by
  rw [setExtClk_apply info s]
  split_ifs with hc
  · rw [setExtClk_apply, if_pos hc]
  · rw [setExtClk_apply, if_neg hc]

end ConfigState

/-- **On the view, a setter other than the sync mode is idempotent**: made again on the
state it left, it returns what it returned and leaves that state. -/
theorem ConfigOp.onState_idem {info : AdisChipInfo}
    (hne : info.fieldMap .syncMode ≠ info.fieldMap .upScale) :
    ∀ op : ConfigOp, op.Retryable → ∀ s,
      op.onState info (op.onState info s).2 = op.onState info s
  | .writeSyncMode _ _, h => absurd h id
  | .writeXgBias _, _ | .writeYgBias _, _ | .writeZgBias _, _ | .writeXaBias _, _
  | .writeYaBias _, _ | .writeZaBias _, _ | .writeUsrScr1 _, _ | .writeUsrScr2 _, _
  | .writeUsrScr3 _, _ | .writeSensBw _, _ | .writePtOfPercAlgnmt _, _
  | .writeLinearAcclComp _, _ | .writeBurstSel _, _ | .writeBurst32 _, _ =>
    fun s => ConfigState.set_idem s _ _
  | .writeFiltSizeVarB _, _ | .writeDrPolarity _, _ | .writeSyncPolarity _, _
  | .writeDecRate _, _ => fun s => ConfigState.setAtMost_idem s _ _ _
  | .writeUpScale _, _ => fun s => ConfigState.upScale_idem info s hne _
  | .updateExtClkFreq _, _ => fun s => ConfigState.setExtClk_idem info s _

/-- Two bit-disjoint or register-apart fields of contiguous masks are different fields. -/
theorem AdisField.Apart.ne {f g : AdisField} (hf : f.Contig) (h : f.Apart g) : f ≠ g := by
  rintro rfl
  obtain ⟨wd, c, hw, -, hm⟩ := hf.mask
  rcases h with ⟨-, -, h⟩ | h | h
  · have := congrArg (Nat.testBit · c) h
    simp [Nat.testBit_and, hm] at this
    omega
  all_goals have := hf.two_le; omega

/-- Distinct configuration fields of a family are distinct fields. -/
theorem FieldFamily.config_ne {info : AdisChipInfo} (hF : FieldFamily (configFieldsOf info))
    {ka kb : FieldId} (hka : ka ∈ configFields) (hkb : kb ∈ configFields) (hab : ka ≠ kb) :
    info.fieldMap ka ≠ info.fieldMap kb :=
  AdisField.Apart.ne (hF.contig _ (mem_configFieldsOf ka hka))
    ((List.pairwise_map.1 hF.apart).forall (fun _ _ h => h.symm) hka hkb hab)

/-- Two devices related to one configuration agree on every configuration field and on
both clocks. -/
theorem ConfigRel.agree {info : AdisChipInfo} {w₁ w₂ : World} {s : ConfigState}
    (h₁ : ConfigRel (configFieldsOf info) w₁ s) (h₂ : ConfigRel (configFieldsOf info) w₂ s) :
    (∀ k ∈ configFields, w₁.imu.field (info.fieldMap k) = w₂.imu.field (info.fieldMap k)) ∧
      w₁.dev.extClk = w₂.dev.extClk ∧ w₁.dev.clkFreq = w₂.dev.clkFreq :=
  ⟨fun k hk => (h₁.store.field _ (mem_configFieldsOf k hk)).trans
      (h₂.store.field _ (mem_configFieldsOf k hk)).symm,
    h₁.extClk.trans h₂.extClk.symm, h₁.clkFreq.trans h₂.clkFreq.symm⟩

/-- Two setters in a row on the device do what they do on the variables. -/
theorem runConfig_pair {info : AdisChipInfo} (hF : FieldFamily (configFieldsOf info))
    {a b : ConfigOp} (ha : a.Defined) (hb : b.Defined) {w : World} (hp : PageOk w) (hh : w.Healthy) :
    (runConfig info [a, b] w).1 =
        .ok [(a.onState info (.of w)).1, (b.onState info (a.onState info (.of w)).2).1] ∧
      ConfigRel (configFieldsOf info) (runConfig info [a, b] w).2
        (b.onState info (a.onState info (.of w)).2).2 :=
  runConfig_sim hF [a, b] (by simp only [List.forall_mem_cons]; exact ⟨ha, hb, fun _ h => absurd h (List.not_mem_nil _)⟩)
    w _ (ConfigRel.of_world hp hh)

/-- **Retrying a setter is harmless.**  For a descriptor whose configuration fields are
contiguous fields of 2- or 4-byte registers inside one page below 256 clear of the page
register, any two apart: on a bus that completes every transfer, from a handle whose
page cache is unknown or right, making any setter but `adis_write_sync_mode` twice in a
row returns its first code twice and leaves every configuration field and both clocks
as the single call leaves them. -/
theorem runConfig_retry (info : AdisChipInfo) (hF : FieldFamily (configFields.map info.fieldMap))
    (op : ConfigOp) (hop : op.Retryable) (w : World) (hp : PageOk w) (hh : w.Healthy) :
    (runConfig info [op, op] w).1 = .ok [(op.run info w).1, (op.run info w).1] ∧
      (∀ k ∈ configFields, (runConfig info [op, op] w).2.imu.field (info.fieldMap k) =
        (op.run info w).2.imu.field (info.fieldMap k)) ∧
      (runConfig info [op, op] w).2.dev.extClk = (op.run info w).2.dev.extClk ∧
      (runConfig info [op, op] w).2.dev.clkFreq = (op.run info w).2.dev.clkFreq := by
  have hne := hF.config_ne (by decide : FieldId.syncMode ∈ configFields)
    (by decide : FieldId.upScale ∈ configFields) (by decide)
  obtain ⟨h₁, h₂⟩ := runConfig_pair hF hop.defined hop.defined hp hh
  obtain ⟨h₃, h₄⟩ := ConfigOp.sim hF op hop.defined w _ (ConfigRel.of_world hp hh)
  rw [ConfigOp.onState_idem hne op hop] at h₁ h₂
  exact ⟨by rw [h₁, h₃], h₂.agree h₄⟩

/-- `runConfig_retry` on `sampleChip` from a blank device, for an up-scale of 30. -/
theorem runConfig_retry_blank :
    (runConfig sampleChip [.writeUpScale 30, .writeUpScale 30] World.blank).1 =
        .ok [((ConfigOp.writeUpScale 30).run sampleChip World.blank).1,
          ((ConfigOp.writeUpScale 30).run sampleChip World.blank).1] ∧
      (∀ k ∈ configFields,
        (runConfig sampleChip [.writeUpScale 30, .writeUpScale 30] World.blank).2.imu.field
            (sampleChip.fieldMap k) =
          ((ConfigOp.writeUpScale 30).run sampleChip World.blank).2.imu.field (sampleChip.fieldMap k)) ∧
      (runConfig sampleChip [.writeUpScale 30, .writeUpScale 30] World.blank).2.dev.extClk =
        ((ConfigOp.writeUpScale 30).run sampleChip World.blank).2.dev.extClk ∧
      (runConfig sampleChip [.writeUpScale 30, .writeUpScale 30] World.blank).2.dev.clkFreq =
        ((ConfigOp.writeUpScale 30).run sampleChip World.blank).2.dev.clkFreq :=
  runConfig_retry sampleChip FieldFamily.sampleChip_config (.writeUpScale 30) trivial World.blank (.inr rfl)
    fun _ h => absurd h (List.not_mem_nil _)

/-! ### Setters of different fields commute -/

/-- The field of a setter that sets one field and nothing else: a bias, scratch, bounded
or settled setter. -/
def ConfigOp.plainField : ConfigOp → Option FieldId
  | .writeXgBias _ => some .xgBias
  | .writeYgBias _ => some .ygBias
  | .writeZgBias _ => some .zgBias
  | .writeXaBias _ => some .xaBias
  | .writeYaBias _ => some .yaBias
  | .writeZaBias _ => some .zaBias
  | .writeUsrScr1 _ => some .usrScr1
  | .writeUsrScr2 _ => some .usrScr2
  | .writeUsrScr3 _ => some .usrScr3
  | .writeFiltSizeVarB _ => some .filtSizeVarB
  | .writeDrPolarity _ => some .drPolarity
  | .writeSyncPolarity _ => some .syncPolarity
  | .writeSensBw _ => some .sensBw
  | .writePtOfPercAlgnmt _ => some .ptOfPercAlgnmt
  | .writeLinearAcclComp _ => some .linearAcclComp
  | .writeBurstSel _ => some .burstSel
  | .writeBurst32 _ => some .burst32
  | .writeDecRate _ => some .decRate
  | .writeSyncMode _ _ | .writeUpScale _ | .updateExtClkFreq _ => none

namespace ConfigState

/-- `x` returns one code whatever the state, and on success sets field `f` to one value
and changes nothing else. -/
def FieldStep (f : AdisField) (x : StoreM ConfigState Unit) : Prop :=
  ∃ (r : Except Int Unit) (v : Nat), ∀ s, x s = (r, match r with
    | .ok _ => { s with field := Function.update s.field f v }
    | .error _ => s)

theorem set_fieldStep (f : AdisField) (v : Nat) : FieldStep f (set f v) := by
  by_cases hv : v > noOsFieldGet f.fieldMask f.fieldMask
  · exact ⟨.error (-EINVAL), v, fun s => if_pos hv⟩
  · exact ⟨.ok (), v, fun s => if_neg hv⟩

theorem setAtMost_fieldStep (f : AdisField) (max v : Nat) : FieldStep f (setAtMost f max v) := by
  by_cases hv : v > max
  · exact ⟨.error (-EINVAL), v, fun s => by rw [setAtMost, if_pos hv]; rfl⟩
  · obtain ⟨r, u, h⟩ := set_fieldStep f v
    exact ⟨r, u, fun s => by rw [setAtMost, if_neg hv, h]⟩

/-- Steps on different fields commute: each returns what it returns alone, and the two
orders leave one state. -/
theorem FieldStep.comm {f g : AdisField} {x y : StoreM ConfigState Unit} (hx : FieldStep f x)
    (hy : FieldStep g y) (hfg : f ≠ g) (s : ConfigState) :
    (x (y s).2).1 = (x s).1 ∧ (y (x s).2).1 = (y s).1 ∧ (y (x s).2).2 = (x (y s).2).2 := by
  obtain ⟨r, v, hx⟩ := hx
  obtain ⟨q, u, hy⟩ := hy
  simp only [hx, hy, true_and]
  cases r <;> cases q <;> simp only [Function.update_comm hfg]

end ConfigState

theorem ConfigOp.plainField_defined {op : ConfigOp} {k : FieldId} (h : op.plainField = some k) :
    op.Defined := by
  cases op <;> trivial

theorem ConfigOp.plainField_mem {op : ConfigOp} {k : FieldId} (h : op.plainField = some k) :
    k ∈ configFields := by
  cases op <;> simp only [ConfigOp.plainField, Option.some.injEq, reduceCtorEq] at h <;> subst h <;>
    decide

theorem ConfigOp.onState_fieldStep {info : AdisChipInfo} (op : ConfigOp) {k : FieldId}
    (h : op.plainField = some k) : ConfigState.FieldStep (info.fieldMap k) (op.onState info) := by
  cases op <;> simp only [ConfigOp.plainField, Option.some.injEq, reduceCtorEq] at h <;> subst h <;>
    first
    | exact ConfigState.set_fieldStep _ _
    | exact ConfigState.setAtMost_fieldStep _ _ _

/-- **Setters of different fields commute.**  For a descriptor whose configuration fields
are contiguous fields of 2- or 4-byte registers inside one page below 256 clear of the
page register, any two apart: on a bus that completes every transfer, from a handle whose
page cache is unknown or right, two setters that each set one field (bias, scratch,
bounded or settled), of different fields, made in either order, each return what they
return alone, and the two orders leave every configuration field and both clocks alike. -/
theorem runConfig_comm (info : AdisChipInfo) (hF : FieldFamily (configFields.map info.fieldMap))
    (a b : ConfigOp) {ka kb : FieldId} (ha : a.plainField = some ka) (hb : b.plainField = some kb)
    (hab : ka ≠ kb) (w : World) (hp : PageOk w) (hh : w.Healthy) :
    (runConfig info [a, b] w).1 = .ok [(a.run info w).1, (b.run info w).1] ∧
      (runConfig info [b, a] w).1 = .ok [(b.run info w).1, (a.run info w).1] ∧
      (∀ k ∈ configFields, (runConfig info [a, b] w).2.imu.field (info.fieldMap k) =
        (runConfig info [b, a] w).2.imu.field (info.fieldMap k)) ∧
      (runConfig info [a, b] w).2.dev.extClk = (runConfig info [b, a] w).2.dev.extClk ∧
      (runConfig info [a, b] w).2.dev.clkFreq = (runConfig info [b, a] w).2.dev.clkFreq := by
  have hne := hF.config_ne (ConfigOp.plainField_mem ha) (ConfigOp.plainField_mem hb) hab
  obtain ⟨c₁, c₂, c₃⟩ :=
    ConfigState.FieldStep.comm (a.onState_fieldStep ha) (b.onState_fieldStep hb) hne (.of w)
  have hda := ConfigOp.plainField_defined ha
  have hdb := ConfigOp.plainField_defined hb
  obtain ⟨hab₁, hab₂⟩ := runConfig_pair hF hda hdb hp hh
  obtain ⟨hba₁, hba₂⟩ := runConfig_pair hF hdb hda hp hh
  have ha₁ := (ConfigOp.sim hF a hda w _ (ConfigRel.of_world hp hh)).1
  have hb₁ := (ConfigOp.sim hF b hdb w _ (ConfigRel.of_world hp hh)).1
  rw [c₃] at hab₂
  exact ⟨by rw [hab₁, c₂, ha₁, hb₁], by rw [hba₁, c₁, ha₁, hb₁], hab₂.agree hba₂⟩

/-- `runConfig_comm` on `sampleChip` and a blank device, for the decimation rate and the
first scratch register. -/
theorem runConfig_comm_blank :
    (runConfig sampleChip [.writeDecRate 4, .writeUsrScr1 7] World.blank).1 =
        .ok [((ConfigOp.writeDecRate 4).run sampleChip World.blank).1,
          ((ConfigOp.writeUsrScr1 7).run sampleChip World.blank).1] ∧
      (runConfig sampleChip [.writeUsrScr1 7, .writeDecRate 4] World.blank).1 =
        .ok [((ConfigOp.writeUsrScr1 7).run sampleChip World.blank).1,
          ((ConfigOp.writeDecRate 4).run sampleChip World.blank).1] ∧
      (∀ k ∈ configFields,
        (runConfig sampleChip [.writeDecRate 4, .writeUsrScr1 7] World.blank).2.imu.field
            (sampleChip.fieldMap k) =
          (runConfig sampleChip [.writeUsrScr1 7, .writeDecRate 4] World.blank).2.imu.field
            (sampleChip.fieldMap k)) ∧
      (runConfig sampleChip [.writeDecRate 4, .writeUsrScr1 7] World.blank).2.dev.extClk =
        (runConfig sampleChip [.writeUsrScr1 7, .writeDecRate 4] World.blank).2.dev.extClk ∧
      (runConfig sampleChip [.writeDecRate 4, .writeUsrScr1 7] World.blank).2.dev.clkFreq =
        (runConfig sampleChip [.writeUsrScr1 7, .writeDecRate 4] World.blank).2.dev.clkFreq :=
  runConfig_comm sampleChip FieldFamily.sampleChip_config (.writeDecRate 4) (.writeUsrScr1 7) rfl
    rfl (by decide) World.blank (.inr rfl) fun _ h => absurd h (List.not_mem_nil _)

/-! ### A failed setter changes nothing -/

namespace ConfigState

variable (info : AdisChipInfo) (s : ConfigState)

theorem set_snd_of_error (f : AdisField) (v : Nat) (h : (set f v s).1 ≠ .ok ()) :
    (set f v s).2 = s := by
  unfold set at h ⊢
  split_ifs at h ⊢
  · rfl
  · exact absurd rfl h

theorem setAtMost_snd_of_error (f : AdisField) (max v : Nat) (h : (setAtMost f max v s).1 ≠ .ok ()) :
    (setAtMost f max v s).2 = s := by
  unfold setAtMost at h ⊢
  split_ifs at h ⊢
  · rfl
  · exact set_snd_of_error s f v h

theorem upScale_snd_of_error (u : Nat) (h : (upScale info u s).1 ≠ .ok ()) :
    (upScale info u s).2 = s := by
  rw [upScale_apply] at h ⊢
  split_ifs at h ⊢
  · rfl
  · exact set_snd_of_error s _ u h

theorem setExtClk_snd_of_error (c : Nat) (h : (setExtClk info c s).1 ≠ .ok ()) :
    (setExtClk info c s).2 = s := by
  rw [setExtClk_apply] at h ⊢
  split_ifs at h ⊢
  · rfl
  · exact absurd rfl h

end ConfigState

/-- On the view, a setter other than the sync mode that fails leaves the state as it was. -/
theorem ConfigOp.onState_snd_of_error {info : AdisChipInfo} :
    ∀ op : ConfigOp, op.Retryable → ∀ s,
      (op.onState info s).1 ≠ .ok () → (op.onState info s).2 = s
  | .writeSyncMode _ _, h => absurd h id
  | .writeXgBias _, _ | .writeYgBias _, _ | .writeZgBias _, _ | .writeXaBias _, _
  | .writeYaBias _, _ | .writeZaBias _, _ | .writeUsrScr1 _, _ | .writeUsrScr2 _, _
  | .writeUsrScr3 _, _ | .writeSensBw _, _ | .writePtOfPercAlgnmt _, _
  | .writeLinearAcclComp _, _ | .writeBurstSel _, _ | .writeBurst32 _, _ =>
    fun s => ConfigState.set_snd_of_error s _ _
  | .writeFiltSizeVarB _, _ | .writeDrPolarity _, _ | .writeSyncPolarity _, _
  | .writeDecRate _, _ => fun s => ConfigState.setAtMost_snd_of_error s _ _ _
  | .writeUpScale _, _ => fun s => ConfigState.upScale_snd_of_error info s _
  | .updateExtClkFreq _, _ => fun s => ConfigState.setExtClk_snd_of_error info s _

/-- **A failed setter changes nothing.**  For a descriptor whose configuration fields are
contiguous fields of 2- or 4-byte registers inside one page below 256 clear of the page
register, any two apart: on a bus that completes every transfer, from a handle whose page
cache is unknown or right, a setter other than `adis_write_sync_mode` that returns an
error leaves every configuration field and both clocks as they were. -/
theorem configOp_error_unchanged (info : AdisChipInfo)
    (hF : FieldFamily (configFields.map info.fieldMap)) (op : ConfigOp) (hop : op.Retryable)
    (w : World) (hp : PageOk w) (hh : w.Healthy) (herr : (op.run info w).1 ≠ .ok ()) :
    (∀ k ∈ configFields, (op.run info w).2.imu.field (info.fieldMap k) =
        w.imu.field (info.fieldMap k)) ∧
      (op.run info w).2.dev.extClk = w.dev.extClk ∧ (op.run info w).2.dev.clkFreq = w.dev.clkFreq := by
  obtain ⟨h₁, h₂⟩ := ConfigOp.sim hF op hop.defined w _ (ConfigRel.of_world hp hh)
  rw [ConfigOp.onState_snd_of_error op hop _ (h₁ ▸ herr)] at h₂
  exact h₂.agree (ConfigRel.of_world hp hh)

/-- `configOp_error_unchanged` on `sampleChip` and a blank device, for a decimation rate
above `dec_rate_max`. -/
theorem configOp_error_unchanged_blank :
    (ConfigOp.writeDecRate 5000).Retryable ∧
      ((ConfigOp.writeDecRate 5000).run sampleChip World.blank).1 ≠ .ok () ∧
      (∀ k ∈ configFields,
        ((ConfigOp.writeDecRate 5000).run sampleChip World.blank).2.imu.field
            (sampleChip.fieldMap k) = World.blank.imu.field (sampleChip.fieldMap k)) ∧
      ((ConfigOp.writeDecRate 5000).run sampleChip World.blank).2.dev.extClk =
        World.blank.dev.extClk ∧
      ((ConfigOp.writeDecRate 5000).run sampleChip World.blank).2.dev.clkFreq =
        World.blank.dev.clkFreq :=
  have herr : ((ConfigOp.writeDecRate 5000).run sampleChip World.blank).1 ≠ .ok () :=
    fun h => Except.noConfusion ((rfl : _ = Except.error (-EINVAL)).symm.trans h)
  ⟨trivial, herr, configOp_error_unchanged sampleChip FieldFamily.sampleChip_config
    (.writeDecRate 5000) trivial World.blank (.inr rfl) (fun _ h => absurd h (List.not_mem_nil _))
    herr⟩

end AdisImu
