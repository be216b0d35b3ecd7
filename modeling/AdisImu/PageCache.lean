/-
# The page cache

`current_page` remembers the page the device was last told to select, `-1`
when the driver does not know it.  `adis_read_reg` and `adis_write_reg` send a
page select only when the cache differs from the target page, and record the
target page only when the transfer completes.  The spec asks that the cache
never claim a page the device is not on.

That fails in three ways in `adis.c`.  A transfer that fails after its page
select was delivered leaves the device on the new page and the cache on the
old one.  `adis_cmd_sw_res` records the page of its command register, and the
device restarts on page `0` (both in `pageCache_counterexample`).  And the page
select's data byte is a `uint8_t`, so a register at page 256 or more selects
`page % 256` while the cache records `page` (`adisReadReg_page_truncated`).

The invariant holds (`pageCache_invariant`) on a bus none of whose failing
transfers delivers the page select it opens with: a failing transfer without one
may deliver any of its frames, which run on the cached page and select none
(`noOsSpiTransfer_error_page`).  It needs a descriptor whose fields sit inside one
page below 256 clear of the page register (the spec's field invariant, §3) and whose
software reset is on page `0`, and holds in every state a run reaches after a
completed `adis_init`, when the raw register calls address such windows too.  Over the
transport refinement of `AdisImu.Transport` it says that every register frame
runs on its register's page.
-/

import AdisImu.Lifecycle

namespace AdisImu

open Drv

/-- A transfer that fails delivers no frame. -/
def Xfer.Atomic : Xfer → Prop
  | .ok _ => True
  | .fail _ delivered _ => ∀ msgs, delivered msgs = 0

/-- A bus whose failing transfers deliver nothing. -/
def World.AtomicFailures : World → Prop := World.BusAll Xfer.Atomic

/-- A frame that selects a page: a write to address `0`. -/
def Frame.Selects (f : Frame) : Prop := ¬f.cmd < 128 ∧ f.cmd % 128 = 0

/-- Messages that open with a page select, as those of a register transaction whose
cached page is not its register's do. -/
def OpensWithSelect : List SpiMsg → Prop
  | m :: _ => m.tx.Selects
  | [] => False

/-- A transfer that, if it fails, delivers nothing of messages that open with a page
select. -/
def Xfer.SelectAtomic : Xfer → Prop
  | .ok _ => True
  | .fail _ delivered _ => ∀ msgs, OpensWithSelect msgs → delivered msgs = 0

/-- A bus none of whose failing transfers delivers the page select it opens with. -/
def World.SelectsAtomic : World → Prop := World.BusAll Xfer.SelectAtomic

theorem World.AtomicFailures.selects {w : World} (h : w.AtomicFailures) : w.SelectsAtomic :=
  fun x hx => by
    have := h x hx
    cases x with
    | ok _ => trivial
    | fail _ delivered _ => exact fun msgs _ => this msgs

/-- The page cache is the sentinel or the device's page. -/
def PageOk (w : World) : Prop := w.dev.currentPage = -1 ∨ w.dev.currentPage = w.imu.page

/-! ### Failing transfers, reads and writes -/

/-- A failing transfer: the bus's next transfer failed with the code returned, and the
device took the frames it delivered. -/
theorem noOsSpiTransfer_error_cases {msgs : List SpiMsg} {w : World} {e : Int}
    (h : (noOsSpiTransfer msgs w).1 = .error e) :
    ∃ k hc, w.next.1 = .fail e k hc ∧
      (noOsSpiTransfer msgs w).2.imu = (w.imu.xfer (msgs.take (k msgs))).1 := by
  unfold noOsSpiTransfer at h ⊢
  split at h
  · cases h
  · rename_i code k hc hnext
    cases h
    exact ⟨k, hc, hnext, by simp only [hnext]⟩

theorem World.BusAll.of_next_fail {p : Xfer → Prop} {w : World} (h : w.BusAll p) {e : Int}
    {k : List SpiMsg → Nat} {hc : e ≠ 0} (hn : w.next.1 = .fail e k hc) : p (.fail e k hc) := by
  rcases (World.BusAll.next h).1 with h' | h' <;> rw [hn] at h'
  · cases h'
  · exact h'

/-- A read that fails was rejected for its size, having done nothing, or failed in its
transfer, leaving the world as the transfer left it. -/
theorem adisReadReg_error_cases {reg size : Nat} {w : World} {e : Int}
    (h : (adisReadReg reg size w).1 = .error e) :
    (adisReadReg reg size w).2 = w ∨ ∃ msgs, adisReadRegMsgs w.dev.currentPage reg size = some msgs ∧
      (noOsSpiTransfer msgs w).1 = .error e ∧ (adisReadReg reg size w).2 = (noOsSpiTransfer msgs w).2 := by
  simp only [adisReadReg, bind_apply, dev_apply] at h ⊢
  cases hm : adisReadRegMsgs w.dev.currentPage reg size with
  | none => exact .inl rfl
  | some msgs =>
    simp only [hm] at h ⊢
    obtain ⟨ht, hw⟩ := bind_error_of_total (fun _ _ => by
      simp only [bind_apply, setDev_apply]; split <;> exact ⟨_, rfl⟩) h
    exact .inr ⟨msgs, rfl, ht, hw⟩

/-- A write that fails was rejected for its size, having done nothing, or failed in its
transfer, leaving the world as the transfer left it. -/
theorem adisWriteReg_error_cases {reg val size : Nat} {w : World} {e : Int}
    (h : (adisWriteReg reg val size w).1 = .error e) :
    (adisWriteReg reg val size w).2 = w ∨
      ∃ msgs, adisWriteRegMsgs w.dev.currentPage reg val size = some msgs ∧
        (noOsSpiTransfer msgs w).1 = .error e ∧
        (adisWriteReg reg val size w).2 = (noOsSpiTransfer msgs w).2 := by
  simp only [adisWriteReg, bind_apply, dev_apply] at h ⊢
  cases hm : adisWriteRegMsgs w.dev.currentPage reg val size with
  | none => exact .inl rfl
  | some msgs =>
    simp only [hm] at h ⊢
    obtain ⟨ht, hw⟩ := bind_error_of_total (fun _ _ => ⟨_, rfl⟩) h
    exact .inr ⟨msgs, rfl, ht, hw⟩

/-! ### What a failing call does on an atomic bus -/

theorem noOsSpiTransfer_error_imu {msgs : List SpiMsg} {w : World} {e : Int}
    (ha : w.AtomicFailures) (h : (noOsSpiTransfer msgs w).1 = .error e) :
    (noOsSpiTransfer msgs w).2.imu = w.imu := by
  obtain ⟨k, hc, hn, himu⟩ := noOsSpiTransfer_error_cases h
  rw [himu, World.BusAll.of_next_fail ha hn msgs, List.take_zero, Imu.xfer_nil]

theorem adisReadReg_error {reg size : Nat} {w : World} {e : Int} (ha : w.AtomicFailures)
    (h : (adisReadReg reg size w).1 = .error e) :
    (adisReadReg reg size w).2.imu = w.imu ∧ (adisReadReg reg size w).2.dev = w.dev := by
  rcases adisReadReg_error_cases h with hw | ⟨msgs, -, ht, hw⟩ <;> rw [hw]
  · exact ⟨rfl, rfl⟩
  · exact ⟨noOsSpiTransfer_error_imu ha ht, noOsSpiTransfer_dev _ _⟩

theorem adisWriteReg_error {reg val size : Nat} {w : World} {e : Int} (ha : w.AtomicFailures)
    (h : (adisWriteReg reg val size w).1 = .error e) :
    (adisWriteReg reg val size w).2.imu = w.imu ∧ (adisWriteReg reg val size w).2.dev = w.dev := by
  rcases adisWriteReg_error_cases h with hw | ⟨msgs, -, ht, hw⟩ <;> rw [hw]
  · exact ⟨rfl, rfl⟩
  · exact ⟨noOsSpiTransfer_error_imu ha ht, noOsSpiTransfer_dev _ _⟩

/-! ### What a failing transfer does on a bus that delivers no page select -/

theorem Frame.not_selects_of_lt {f : Frame} (h : f.cmd < 128) : ¬f.Selects := fun h' => h'.1 h

/-- Frames that select no page leave the device on its page. -/
theorem Imu.xfer_page_of_not_selects (d : Imu) {ms : List SpiMsg} (h : ∀ m ∈ ms, ¬m.tx.Selects) :
    (d.xfer ms).1.page = d.page := by
  induction ms generalizing d with
  | nil => rfl
  | cons m ms ih =>
    rw [Imu.xfer_cons, ih _ fun m' hm' => h m' (List.mem_cons_of_mem _ hm')]
    have hm := h m (List.mem_cons_self _ _)
    by_cases hr : m.tx.cmd < 128
    · simp only [Imu.step, if_pos hr]
    · simp only [Imu.step, if_neg hr, if_neg fun h0 => hm ⟨hr, h0⟩, Imu.poke_page]

theorem pageSelect_opens (p : Nat) (body : List SpiMsg) :
    OpensWithSelect ([⟨⟨ADIS_WRITE_REG ADIS_REG_PAGE_ID, p⟩, false⟩] ++ body) :=
  show ¬ADIS_WRITE_REG ADIS_REG_PAGE_ID < 128 ∧ ADIS_WRITE_REG ADIS_REG_PAGE_ID % 128 = 0 by decide

/-- A register transaction's messages: its page select, if any, then frames that select
no page. -/
theorem pageSelectMsgs_opens {cur : Int} {p : Nat} {body : List SpiMsg}
    (hb : ∀ m ∈ body, ¬m.tx.Selects) :
    OpensWithSelect (pageSelectMsgs cur p ++ body) ∨
      ∀ m ∈ pageSelectMsgs cur p ++ body, ¬m.tx.Selects := by
  unfold pageSelectMsgs
  split
  · exact .inl (pageSelect_opens _ _)
  · exact .inr hb

theorem adisReadRegMsgs_opens {cur : Int} {reg size : Nat} {msgs : List SpiMsg}
    (hm : adisReadRegMsgs cur reg size = some msgs) :
    OpensWithSelect msgs ∨ ∀ m ∈ msgs, ¬m.tx.Selects := by
  have hr : ∀ a, ¬128 ≤ ADIS_READ_REG a := fun a => by
    rw [ADIS_READ_REG_eq]; exact Nat.not_le.2 (Nat.mod_lt _ (by decide))
  unfold adisReadRegMsgs at hm
  split at hm <;> simp only [Option.some.injEq, reduceCtorEq] at hm <;> subst hm <;>
    exact pageSelectMsgs_opens (by simp [hr, Frame.Selects])

theorem adisWriteRegMsgs_opens {cur : Int} {reg val size : Nat} {msgs : List SpiMsg}
    (hwin : InPage reg size) (hm : adisWriteRegMsgs cur reg val size = some msgs) :
    OpensWithSelect msgs ∨ ∀ m ∈ msgs, ¬m.tx.Selects := by
  unfold adisWriteRegMsgs at hm
  split at hm
  · cases hm
    refine pageSelectMsgs_opens fun m hm' => ?_
    obtain ⟨i, hi, rfl⟩ := List.mem_map.1 hm'
    have := hwin.off_pos
    have := hwin.fits
    simp only [List.mem_range] at hi
    simp only [adisWriteRegMsg, Frame.Selects, ADIS_WRITE_REG_eq]
    omega
  · cases hm

/-- **A failing transfer moves the page only by delivering its page select.**  On a bus
none of whose failing transfers delivers the page select it opens with, a failing
transfer whose messages open with a page select or select no page leaves the device on
its page. -/
theorem noOsSpiTransfer_error_page {msgs : List SpiMsg} {w : World} {e : Int}
    (hs : w.SelectsAtomic) (hm : OpensWithSelect msgs ∨ ∀ m ∈ msgs, ¬m.tx.Selects)
    (h : (noOsSpiTransfer msgs w).1 = .error e) :
    (noOsSpiTransfer msgs w).2.imu.page = w.imu.page := by
  obtain ⟨k, hc, hn, himu⟩ := noOsSpiTransfer_error_cases h
  rw [himu]
  rcases hm with hm | hm
  · rw [World.BusAll.of_next_fail hs hn msgs hm, List.take_zero, Imu.xfer_nil]
  · exact Imu.xfer_page_of_not_selects _ fun m h => hm m (List.mem_of_mem_take h)

theorem adisReadReg_error_pageOk {reg size : Nat} {w : World} {e : Int} (hs : w.SelectsAtomic)
    (hp : PageOk w) (h : (adisReadReg reg size w).1 = .error e) : PageOk (adisReadReg reg size w).2 := by
  rcases adisReadReg_error_cases h with hw | ⟨msgs, hm, ht, hw⟩ <;> rw [hw]
  · exact hp
  · rw [PageOk, noOsSpiTransfer_dev, noOsSpiTransfer_error_page hs (adisReadRegMsgs_opens hm) ht]
    exact hp

theorem adisWriteReg_error_pageOk {reg val size : Nat} {w : World} {e : Int} (hwin : InPage reg size)
    (hs : w.SelectsAtomic) (hp : PageOk w) (h : (adisWriteReg reg val size w).1 = .error e) :
    PageOk (adisWriteReg reg val size w).2 := by
  rcases adisWriteReg_error_cases h with hw | ⟨msgs, hm, ht, hw⟩ <;> rw [hw]
  · exact hp
  · rw [PageOk, noOsSpiTransfer_dev, noOsSpiTransfer_error_page hs (adisWriteRegMsgs_opens hwin hm) ht]
    exact hp

/-- A completed read leaves the device and the cache on the register's page. -/
theorem adisReadReg_ok_page {reg size v : Nat} {w : World} (hp : reg / 128 < 256)
    (hc : PageOk w) (hok : (adisReadReg reg size w).1 = .ok v) :
    (adisReadReg reg size w).2.imu.page = reg / 128 ∧
    (adisReadReg reg size w).2.dev.currentPage = ((reg / 128 : Nat) : Int) := by
  obtain ⟨msgs, data, hm, -, himu, hdev, -⟩ := adisReadReg_ok_eq hok
  have hreads : ∀ a, ADIS_READ_REG a < 128 := fun a => by
    rw [ADIS_READ_REG_eq]; exact Nat.mod_lt _ (by decide)
  rw [himu, hdev]
  refine ⟨?_, rfl⟩
  unfold adisReadRegMsgs at hm
  split at hm <;> simp only [Option.some.injEq, reduceCtorEq] at hm <;> subst hm <;>
    rw [ADIS_PAGE_SIZE, xfer_pageSelectMsgs hp hc] <;>
    exact (xfer_reads_mem _ _ (by simp [hreads])).2

/-- **The page byte truncates.**  A completed read of a register on page `256` or above,
from a cache that does not name that page, selects the page modulo `256` in the
`uint8_t` `tx[1]` and records the page itself: the cache no longer names the device's
page. -/
theorem adisReadReg_page_truncated {reg size v : Nat} {w : World} (hp : 256 ≤ reg / 128)
    (hc : w.dev.currentPage ≠ ((reg / 128 : Nat) : Int)) (hok : (adisReadReg reg size w).1 = .ok v) :
    (adisReadReg reg size w).2.imu.page = reg / 128 % 256 ∧ ¬PageOk (adisReadReg reg size w).2 := by
  obtain ⟨msgs, data, hm, -, himu, hdev, -⟩ := adisReadReg_ok_eq hok
  have hreads : ∀ a, ADIS_READ_REG a < 128 := fun a => by
    rw [ADIS_READ_REG_eq]; exact Nat.mod_lt _ (by decide)
  have hpage : (w.imu.xfer msgs).1.page = reg / 128 % 256 := by
    unfold adisReadRegMsgs pageSelectMsgs at hm
    simp only [ADIS_PAGE_SIZE] at hm
    rw [if_pos hc] at hm
    split at hm <;> simp only [Option.some.injEq, reduceCtorEq] at hm <;> subst hm <;>
      rw [List.singleton_append, Imu.xfer_cons, step_pageSelect] <;>
      exact (xfer_reads_mem _ _ (by simp [hreads])).2
  refine ⟨himu ▸ hpage, fun h => ?_⟩
  simp only [PageOk, hdev, himu, hpage] at h
  have := Nat.mod_lt (reg / 128) (show 256 > 0 by decide)
  rcases h with h | h <;> omega

/-! ### The run invariant, call by call -/

/-- What every state of a run keeps: the cache is right, a handle with a reset
line has released it, and no failing transfer of the bus delivers the page select it
opens with. -/
structure PageInv (w : World) : Prop where
  page : PageOk w
  line : w.dev.gpioReset = true → w.gpioHigh = true
  selects : w.SelectsAtomic

/-- The descriptor conditions the page cache needs: every field inside one page
below 256 and clear of the page register, the software reset on page `0`. -/
structure PageSafe (info : AdisChipInfo) : Prop where
  inPage : ∀ f, InPage (info.fieldMap f).regAddr (info.fieldMap f).regSize
  swRes_page : (info.fieldMap .swRes).regAddr / 128 = 0

theorem InPage.mod256 {reg size : Nat} (h : InPage reg size) : InPage reg (size % 256) :=
  ⟨h.off_pos, le_trans (Nat.add_le_add_left (Nat.mod_le _ _) _) h.fits, h.page_lt⟩

theorem setDev_pageInv {f : AdisDev → AdisDev}
    (hf : ∀ d, (f d).currentPage = d.currentPage ∧ (f d).gpioReset = d.gpioReset) :
    Keeps PageInv (setDev f) := fun w h =>
  ⟨by simpa only [PageOk, setDev_apply, (hf w.dev).1] using h.page,
    by simpa only [setDev_apply, (hf w.dev).2] using h.line, h.selects⟩

theorem emit_pageInv (e : Event) : Keeps PageInv (emit e) := fun _ h => ⟨h.page, h.line, h.selects⟩

theorem noOsSpiWriteAndRead_pageInv (len : Nat) : Keeps PageInv (noOsSpiWriteAndRead len) :=
  fun w h => by
    have ha := (World.BusAll.next h.selects).2
    unfold noOsSpiWriteAndRead
    split <;> exact ⟨by simpa [PageOk] using h.page, by simpa using h.line, ha⟩

theorem adisReadReg_gpioHigh (reg size : Nat) (w : World) :
    (adisReadReg reg size w).2.gpioHigh = w.gpioHigh :=
  @adisReadReg_keeps (fun w' => w'.gpioHigh = w.gpioHigh) (fun _ _ h => by simpa using h)
    (fun _ _ h => h) reg size w rfl

theorem adisWriteReg_gpioHigh (reg val size : Nat) (w : World) :
    (adisWriteReg reg val size w).2.gpioHigh = w.gpioHigh :=
  @adisWriteReg_keeps (fun w' => w'.gpioHigh = w.gpioHigh) (fun _ _ h => by simpa using h)
    (fun _ _ h => h) reg val size w rfl

theorem adisReadReg_pageInv {reg size : Nat} (hp : reg / 128 < 256) :
    Keeps PageInv (adisReadReg reg size) := fun w h => by
  obtain ⟨q, hq⟩ := adisReadReg_handleIs w.dev reg size w (HandleIs.self w)
  have hline := adisReadReg_gpioHigh reg size w
  refine ⟨?_, fun hr => ?_, adisReadReg_busAll _ _ _ w h.selects⟩
  · rcases hres : (adisReadReg reg size w).1 with e | v
    · exact adisReadReg_error_pageOk h.selects h.page hres
    · obtain ⟨hpg, hcur⟩ := adisReadReg_ok_page hp h.page hres
      exact .inr (by rw [hpg, hcur])
  · rw [hq] at hr
    rw [hline]
    exact h.line hr

theorem adisWriteReg_pageInv {reg val size : Nat} (hwin : InPage reg size) :
    Keeps PageInv (adisWriteReg reg val size) := fun w h => by
  obtain ⟨q, hq⟩ := adisWriteReg_handleIs w.dev reg val size w (HandleIs.self w)
  have hline := adisWriteReg_gpioHigh reg val size w
  refine ⟨?_, fun hr => ?_, adisWriteReg_busAll _ _ _ _ w h.selects⟩
  · rcases hres : (adisWriteReg reg val size w).1 with e | _
    · exact adisWriteReg_error_pageOk hwin h.selects h.page hres
    · obtain ⟨-, hpg, hcur⟩ := adisWriteReg_ok hwin h.page hres
      exact .inr (by rw [hpg, hcur])
  · rw [hq] at hr
    rw [hline]
    exact h.line hr

theorem adisReadFieldU32_pageInv {field : AdisField} (hp : field.regAddr / 128 < 256) :
    Keeps PageInv (adisReadFieldU32 field) :=
  adisReadFieldU32_keeps (adisReadReg_pageInv hp)

theorem adisReadFieldS32_pageInv {field : AdisField} (hp : field.regAddr / 128 < 256) :
    Keeps PageInv (adisReadFieldS32 field) :=
  adisReadFieldS32_keeps (adisReadReg_pageInv hp)

theorem adisWriteFieldU32_pageInv {field : AdisField} {val : Nat}
    (hwin : InPage field.regAddr field.regSize) : Keeps PageInv (adisWriteFieldU32 field val) :=
  adisWriteFieldU32_keeps (adisReadReg_pageInv hwin.mod256.page_lt)
    fun _ => adisWriteReg_pageInv hwin.mod256

theorem adisUpdateDiagFlags_pageInv (info : AdisChipInfo) (diagStat : Nat) :
    Keeps PageInv (adisUpdateDiagFlags info diagStat) :=
  setDev_pageInv fun _ => by exact ⟨rfl, rfl⟩

section Safe

variable {info : AdisChipInfo}

theorem adisReadDiagStat_pageInv (hinfo : PageSafe info) : Keeps PageInv (adisReadDiagStat info) :=
  (adisReadReg_pageInv (hinfo.inPage .diagStat).page_lt).bind fun _ =>
    (adisUpdateDiagFlags_pageInv _ _).bind fun _ => Keeps.dev.bind fun _ => Keeps.pure _

theorem adisReadBurstData_pageInv (n : Nat) (buf : List Nat) (sel : Fin 2) :
    Keeps PageInv (adisReadBurstData info n buf sel) :=
  (noOsSpiWriteAndRead_pageInv _).bind fun _ =>
    Keeps.ite ((setDev_pageInv fun _ => by exact ⟨rfl, rfl⟩).bind fun _ => Keeps.fail _)
      ((setDev_pageInv fun _ => by exact ⟨rfl, rfl⟩).bind fun _ =>
        (adisUpdateDiagFlags_pageInv _ _).bind fun _ => Keeps.pure _)

theorem adisReadFlsMemWrCntr_pageInv (hinfo : PageSafe info) :
    Keeps PageInv (adisReadFlsMemWrCntr info) :=
  (adisReadFieldU32_pageInv (hinfo.inPage .flsMemWrCntr).page_lt).bind fun _ =>
    Keeps.ite ((setDev_pageInv fun _ => by exact ⟨rfl, rfl⟩).bind fun _ => Keeps.pure _)
      ((Keeps.pure _).bind fun _ => Keeps.pure _)

theorem adisWriteSettled_pageInv {field : AdisField} {delay : Drv Unit} {val : Nat}
    (hwin : InPage field.regAddr field.regSize) (hd : Keeps PageInv delay) :
    Keeps PageInv (adisWriteSettled field delay val) :=
  (adisWriteFieldU32_pageInv hwin).bind fun _ => hd

theorem adisWriteBounded_pageInv {field : AdisField} {max : Nat} {delay : Drv Unit} {val : Nat}
    (hwin : InPage field.regAddr field.regSize) (hd : Keeps PageInv delay) :
    Keeps PageInv (adisWriteBounded field max delay val) :=
  Keeps.ite (Keeps.fail _) (adisWriteSettled_pageInv hwin hd)

theorem adisWriteUpScale_pageInv (hinfo : PageSafe info) (upScale : Nat) :
    Keeps PageInv (adisWriteUpScale info upScale) :=
  (adisReadFieldU32_pageInv (hinfo.inPage .syncMode).page_lt).bind fun _ =>
    Keeps.dev.bind fun _ => Keeps.ite (Keeps.fail _) (adisWriteFieldU32_pageInv (hinfo.inPage _))

theorem adisWriteSyncMode_pageInv (hinfo : PageSafe info) (syncMode extClk : Nat) :
    Keeps PageInv (adisWriteSyncMode info syncMode extClk) :=
  have hF : Keeps PageInv (adisWriteFieldU32 (info.fieldMap .syncMode) syncMode) :=
    adisWriteFieldU32_pageInv (hinfo.inPage .syncMode)
  Keeps.ite (Keeps.fail _) <| Keeps.ite
    (Keeps.ite (Keeps.fail _) <| (setDev_pageInv fun _ => by exact ⟨rfl, rfl⟩).bind fun _ =>
      Keeps.ite (Keeps.dev.bind fun _ => (Keeps.udiv _ _).bind fun _ =>
          (adisWriteUpScale_pageInv hinfo _).bind fun _ => hF)
        ((Keeps.pure _).bind fun _ => hF))
    ((setDev_pageInv fun _ => by exact ⟨rfl, rfl⟩).bind fun _ => hF)

theorem adisUpdateExtClkFreq_pageInv (hinfo : PageSafe info) (clkFreq : Nat) :
    Keeps PageInv (adisUpdateExtClkFreq info clkFreq) :=
  (adisReadFieldU32_pageInv (hinfo.inPage .syncMode).page_lt).bind fun _ =>
    Keeps.ite (Keeps.fail _) (setDev_pageInv fun _ => by exact ⟨rfl, rfl⟩)

theorem ConfigOp.run_pageInv (hinfo : PageSafe info) :
    ∀ op : ConfigOp, Keeps PageInv (op.run info)
  | .writeXgBias _ | .writeYgBias _ | .writeZgBias _ | .writeXaBias _ | .writeYaBias _
  | .writeZaBias _ | .writeUsrScr1 _ | .writeUsrScr2 _ | .writeUsrScr3 _ =>
    adisWriteFieldU32_pageInv (hinfo.inPage _)
  | .writeFiltSizeVarB _ | .writeDrPolarity _ | .writeSyncPolarity _ | .writeDecRate _ =>
    adisWriteBounded_pageInv (hinfo.inPage _) (emit_pageInv _)
  | .writeSensBw _ | .writePtOfPercAlgnmt _ | .writeLinearAcclComp _ | .writeBurstSel _
  | .writeBurst32 _ => adisWriteSettled_pageInv (hinfo.inPage _) (emit_pageInv _)
  | .writeSyncMode _ _ => adisWriteSyncMode_pageInv hinfo _ _
  | .writeUpScale _ => adisWriteUpScale_pageInv hinfo _
  | .updateExtClkFreq _ => adisUpdateExtClkFreq_pageInv hinfo _

end Safe

/-! ### Commands, start-up and bring-up -/

section Lifecycle

variable {info : AdisChipInfo}

theorem adisCmd_pageInv {field : AdisField} (hwin : InPage field.regAddr field.regSize) :
    Keeps PageInv (adisCmd field) :=
  adisWriteReg_pageInv hwin

theorem imuSwReset_then_apply (ms : Nat) (w : World) :
    ((imuSwReset >>= fun _ => noOsMdelay ms) w).2 =
      { w with imu := w.imu.reset, log := w.log ++ [.mdelay ms] } := rfl

/-- A completed software reset leaves the device on page `0` and the cache on the
page of its command register, `0`, whatever the cache said before. -/
theorem adisCmdSwRes_establishes (hinfo : PageSafe info) {w : World}
    (hline : w.dev.gpioReset = true → w.gpioHigh = true) (ha : w.SelectsAtomic)
    (h : (adisCmdSwRes info w).1 = .ok ()) : PageInv (adisCmdSwRes info w).2 := by
  unfold adisCmdSwRes adisCmd at h ⊢
  obtain ⟨_, hok, hw⟩ := ok_of_bind_ok h
  rw [hw, imuSwReset_then_apply]
  obtain ⟨-, -, -, -, -, hdev⟩ := adisWriteReg_ok_eq hok
  obtain ⟨q, hq⟩ := adisWriteReg_handleIs w.dev (info.fieldMap .swRes).regAddr
    (info.fieldMap .swRes).fieldMask (info.fieldMap .swRes).regSize w (HandleIs.self w)
  refine ⟨.inr ?_, fun hr => ?_, adisWriteReg_busAll _ _ _ _ w ha⟩
  · simp only [hdev, Imu.reset_page, hinfo.swRes_page]
  · simp only [hq] at hr
    simp only [adisWriteReg_gpioHigh]
    exact hline hr

theorem adisCmdSwRes_pageInv (hinfo : PageSafe info) : Keeps PageInv (adisCmdSwRes info) :=
  fun w h => by
    rcases hres : (adisCmdSwRes info w).1 with e | _
    · unfold adisCmdSwRes at hres ⊢
      rw [(bind_error_of_total (fun _ _ => ⟨(), rfl⟩) hres).2]
      exact adisCmd_pageInv (hinfo.inPage _) w h
    · exact adisCmdSwRes_establishes hinfo h.line h.selects hres

theorem adisCmdSnsrSelfTest_pageInv (hinfo : PageSafe info) :
    Keeps PageInv (adisCmdSnsrSelfTest info) :=
  (adisCmd_pageInv (hinfo.inPage _)).bind fun _ => emit_pageInv _

theorem adisCmdFlsMemUpdate_pageInv (hinfo : PageSafe info) :
    Keeps PageInv (adisCmdFlsMemUpdate info) :=
  (adisCmd_pageInv (hinfo.inPage _)).bind fun _ =>
    (adisReadFlsMemWrCntr_pageInv hinfo).bind fun _ => Keeps.pure _

/-- On a released line, `no_os_gpio_set_value(..., HIGH)` keeps the invariant, whatever it
returns. -/
theorem noOsGpioSetValueHigh_pageInv :
    Keeps (fun w => PageInv w ∧ w.gpioHigh = true) noOsGpioSetValueHigh := fun w ⟨h, hh⟩ => by
  rw [noOsGpioSetValueHigh_of_high hh]
  have hg : w.nextCode.2.gpioHigh = true := (World.nextCode_gpioHigh w).trans hh
  refine ⟨⟨?_, fun _ => hg, h.selects.of_bus (World.nextCode_bus w)⟩, hg⟩
  simpa only [PageOk, World.nextCode_dev, World.nextCode_imu] using h.page

theorem adisStartupReset_pageInv (hinfo : PageSafe info) : Keeps PageInv (adisStartupReset info) :=
  Keeps.dev_bind fun w h => by
    split
    · rename_i hr
      exact ((noOsGpioSetValueHigh_pageInv.bind fun _ => Keeps.and (emit_pageInv _) fun _ h => h)
        w ⟨h, h.line hr⟩).1
    · exact adisCmdSwRes_pageInv hinfo w h

/-- The rest of `adis_initial_startup` after its reset step. -/
theorem adisInitialStartup_tail_pageInv (hinfo : PageSafe info) (_ : Unit) :
    Keeps PageInv (do
      adisCmdSnsrSelfTest info
      adisCmdFlsMemTest info
      let _ ← adisReadDiagStat info
      let _ ← adisReadProdId info : Drv Unit) :=
  (adisCmdSnsrSelfTest_pageInv hinfo).bind fun _ => (adisCmd_pageInv (hinfo.inPage _)).bind
    fun _ => (adisReadDiagStat_pageInv hinfo).bind fun _ =>
      (adisReadFieldU32_pageInv (hinfo.inPage _).page_lt).bind fun _ => Keeps.pure _

theorem adisInitialStartup_pageInv (hinfo : PageSafe info) :
    Keeps PageInv (adisInitialStartup info) :=
  (adisStartupReset_pageInv hinfo).bind (adisInitialStartup_tail_pageInv hinfo)

/-- The raw register calls of an `Op` address windows the transport handles: a
read below page 256, a write inside one page clear of the page register. -/
def Op.Windowed : Op → Prop
  | .readReg reg _ => reg / 128 < 256
  | .writeReg reg _ size => InPage reg size
  | .updateBitsBase reg _ _ size => InPage reg size
  | _ => True

theorem Op.exec_pageInv (hinfo : PageSafe info) :
    ∀ op : Op, op.Windowed → Keeps PageInv (op.exec info)
  | .readReg _ _, h => (adisReadReg_pageInv h).bind fun _ => Keeps.pure _
  | .writeReg _ _ _, h => adisWriteReg_pageInv h
  | .updateBitsBase _ _ _ _, h =>
    adisUpdateBitsBase_keeps (adisReadReg_pageInv h.page_lt) fun _ => adisWriteReg_pageInv h
  | .readFieldU32 f, _ =>
    (adisReadFieldU32_pageInv (hinfo.inPage f).page_lt).bind fun _ => Keeps.pure _
  | .readFieldS32 f, _ =>
    (adisReadFieldS32_pageInv (hinfo.inPage f).page_lt).bind fun _ => Keeps.pure _
  | .readDiagStat, _ => (adisReadDiagStat_pageInv hinfo).bind fun _ => Keeps.pure _
  | .readBurstData _ _ _, _ => (adisReadBurstData_pageInv _ _ _).bind fun _ => Keeps.pure _
  | .readFlsMemWrCntr, _ => (adisReadFlsMemWrCntr_pageInv hinfo).bind fun _ => Keeps.pure _
  | .config op, _ => ConfigOp.run_pageInv hinfo op
  | .cmdFactCalibRestore, _ => adisCmd_pageInv (hinfo.inPage _)
  | .cmdSnsrSelfTest, _ => adisCmdSnsrSelfTest_pageInv hinfo
  | .cmdFlsMemUpdate, _ => adisCmdFlsMemUpdate_pageInv hinfo
  | .cmdFlsMemTest, _ => adisCmd_pageInv (hinfo.inPage _)
  | .cmdSwRes, _ => adisCmdSwRes_pageInv hinfo
  | .initialStartup, _ => adisInitialStartup_pageInv hinfo

/-- The state `adis_init` reaches before its reset step: the cache fresh, the
reset line held low if the handle has one. -/
def FreshHandle (w : World) : Prop :=
  (w.dev.currentPage = -1 ∨ w.dev.currentPage = 0) ∧ (w.dev.gpioReset = true → w.gpioHigh = false) ∧
    w.SelectsAtomic

/-- **The reset step puts cache and device in agreement**, from a fresh handle. -/
theorem adisStartupReset_establishes (hinfo : PageSafe info) :
    Ensures FreshHandle PageInv (adisStartupReset info) := fun w ⟨hc, hl, ha⟩ _ h => by
  unfold adisStartupReset at h ⊢
  rw [dev_bind_apply] at h ⊢
  by_cases hr : w.dev.gpioReset = true
  · rw [if_pos hr] at h ⊢
    obtain ⟨_, hok, hw⟩ := ok_of_bind_ok h
    rw [hw, noOsMdelay, emit_apply, noOsGpioSetValueHigh_of_low (hl hr) hok]
    refine ⟨?_, fun _ => rfl, ha.of_bus (World.nextCode_bus w)⟩
    simp only [PageOk, World.nextCode_dev, Imu.reset_page]
    rcases hc with hc | hc
    · exact .inl hc
    · exact .inr hc
  · rw [if_neg hr] at h ⊢
    exact adisCmdSwRes_establishes hinfo (fun h' => absurd h' hr) ha h

/-- The handle as `adis_init` has set it up before the reset line: the cache unset or
`0`, on a bus that delivers no failing page select. -/
def CallocHandle (w : World) : Prop :=
  (w.dev.currentPage = -1 ∨ w.dev.currentPage = 0) ∧ w.SelectsAtomic

theorem adisInit_setPage :
    Ensures World.SelectsAtomic CallocHandle
      (Drv.setDev fun d => { d with currentPage := if info.hasPaging then -1 else 0 }) :=
  fun _ ha _ _ => ⟨by dsimp only [setDev_apply]; split <;> simp, ha⟩

theorem adisInitResetLine_fresh : Ensures CallocHandle FreshHandle adisInitResetLine :=
  fun w ⟨hc, ha⟩ _ h => by
    unfold adisInitResetLine at h ⊢
    rw [dev_bind_apply] at h ⊢
    split
    · rename_i hr
      rw [if_pos hr] at h
      refine ⟨?_, fun _ => noOsGpioDirectionOutputLow_low h,
        noOsGpioDirectionOutputLow_busAll _ w ha⟩
      rwa [noOsGpioDirectionOutputLow_dev]
    · exact ⟨hc, fun h => absurd h ‹_›, ha⟩

theorem adisInitSetup_calloc :
    Ensures World.SelectsAtomic CallocHandle (adisInitSetup info) :=
  (Ensures.of_keeps (noOsSpiInit_busAll _)).bind fun _ => adisInit_setPage.bind fun _ =>
    Ensures.of_keeps fun _ h => h

/-- **A completed `adis_init` leaves cache and device in agreement.** -/
theorem adisInit_establishes (hinfo : PageSafe info) :
    Ensures World.SelectsAtomic PageInv (adisInit info) :=
  (Ensures.of_keeps (noOsCalloc_busAll _)).bind fun _ => Ensures.ite (Ensures.fail _) <|
    adisInitSetup_calloc.bind fun _ => adisInitResetLine_fresh.bind fun _ =>
      ((adisStartupReset_establishes hinfo).bind_keeps
        (adisInitialStartup_tail_pageInv hinfo)).bind_keeps fun _ => adisWriteSyncMode_pageInv hinfo _ _

end Lifecycle

/-! ### Runs -/

/-- **The page cache never lies, on a bus that delivers no failing page select.**  For a
descriptor whose fields lie inside one page below 256, clear of the page register, with
the software reset on page `0`, from any device state, on a bus none of whose failing
transfers delivers the page select it opens with: after a completed `adis_init` and any
run of calls
whose raw register windows are of the same kind, `current_page` is `-1` or the
device's page.  So a completed read of such a window returns the register's
value, and a completed write stores its bytes in the register. -/
theorem pageCache_invariant {info : AdisChipInfo} (hinfo : PageSafe info) (w : World)
    (ha : w.SelectsAtomic) (hinit : (adisInit info w).1 = .ok ()) (ops : List Op)
    (hops : ∀ op ∈ ops, op.Windowed) :
    ((runOps info ops (adisInit info w).2).dev.currentPage = -1 ∨
      (runOps info ops (adisInit info w).2).dev.currentPage =
        (runOps info ops (adisInit info w).2).imu.page) ∧
    ∀ reg size, InPage reg size →
      (∀ v, (adisReadReg reg size (runOps info ops (adisInit info w).2)).1 = .ok v →
        v = (runOps info ops (adisInit info w).2).imu.regVal reg size) ∧
      (∀ val a, (adisWriteReg reg val size (runOps info ops (adisInit info w).2)).1 = .ok () →
        (adisWriteReg reg val size (runOps info ops (adisInit info w).2)).2.imu.mem a =
          if reg ≤ a ∧ a < reg + size then val / 256 ^ (a - reg) % 256
          else (runOps info ops (adisInit info w).2).imu.mem a) := by
  have hinv : PageInv (runOps info ops (adisInit info w).2) :=
    runOps_keeps (fun op hop => Op.exec_pageInv hinfo op (hops op hop))
      (adisInit_establishes hinfo w ha () hinit)
  exact ⟨hinv.page, fun reg size hwin =>
    ⟨fun v hv => (adisReadReg_ok hwin hinv.page hv).1,
      fun val a hv => (adisWriteReg_ok hwin hinv.page hv).1 a⟩⟩

theorem PageSafe.sampleChip : PageSafe sampleChip :=
  ⟨fun f => by cases f <;> exact ⟨by decide, by decide, by decide⟩, by decide⟩

/-- `pageCache_invariant` on `sampleChip` and a blank device, for a run of one read
on page 1. -/
theorem pageCache_invariant_sample :
    ((runOps sampleChip [.readReg 130 2] (adisInit sampleChip World.blank).2).dev.currentPage = -1 ∨
      (runOps sampleChip [.readReg 130 2] (adisInit sampleChip World.blank).2).dev.currentPage =
        (runOps sampleChip [.readReg 130 2] (adisInit sampleChip World.blank).2).imu.page) ∧
    ∀ reg size, InPage reg size →
      (∀ v, (adisReadReg reg size
          (runOps sampleChip [.readReg 130 2] (adisInit sampleChip World.blank).2)).1 = .ok v →
        v = (runOps sampleChip [.readReg 130 2] (adisInit sampleChip World.blank).2).imu.regVal
          reg size) ∧
      (∀ val a, (adisWriteReg reg val size
          (runOps sampleChip [.readReg 130 2] (adisInit sampleChip World.blank).2)).1 = .ok () →
        (adisWriteReg reg val size
          (runOps sampleChip [.readReg 130 2] (adisInit sampleChip World.blank).2)).2.imu.mem a =
          if reg ≤ a ∧ a < reg + size then val / 256 ^ (a - reg) % 256
          else (runOps sampleChip [.readReg 130 2] (adisInit sampleChip World.blank).2).imu.mem a) :=
  pageCache_invariant PageSafe.sampleChip World.blank (fun _ h => absurd h (List.not_mem_nil _))
    rfl _ (by simp [Op.Windowed])

/-- A paged descriptor like `sampleChip` whose fields all lie on page 1. -/
def pagedChip : AdisChipInfo :=
  { sampleChip with hasPaging := true, fieldMap := fun f => ⟨130 + 2 * f.toCtorIdx, 2, 0xFFFF⟩ }

/-- Where the cache lies.  On a healthy bus, `adis_init` on `pagedChip`, whose
software reset is on page 1, completes with the cache on page 1 and the device
restarted on page 0.  And after `adis_init` on a paged `sampleChip`, a read on
page 1 whose transfer fails after its page select leaves the cache on page 0 and
the device on page 1. -/
theorem pageCache_counterexample :
    (adisInit pagedChip World.blank).1 = .ok () ∧
    (adisInit pagedChip World.blank).2.dev.currentPage = 1 ∧
    (adisInit pagedChip World.blank).2.imu.page = 0 ∧
    (adisInit { sampleChip with hasPaging := true } { World.blank with
      bus := List.replicate 7 (.ok []) ++ [.fail 5 1 (by decide)] }).1 = .ok () ∧
    (runOps { sampleChip with hasPaging := true } [.readReg 130 2]
      (adisInit { sampleChip with hasPaging := true } { World.blank with
        bus := List.replicate 7 (.ok []) ++ [.fail 5 1 (by decide)] }).2).dev.currentPage = 0 ∧
    (runOps { sampleChip with hasPaging := true } [.readReg 130 2]
      (adisInit { sampleChip with hasPaging := true } { World.blank with
        bus := List.replicate 7 (.ok []) ++ [.fail 5 1 (by decide)] }).2).imu.page = 1 :=
  ⟨rfl, rfl, rfl, rfl, rfl, rfl⟩

end AdisImu
