/-
# The paged register transport: `adis_read_reg` and `adis_write_reg`

`src/drivers/imu/adis.c`, lines 224-400.  Both functions build a list of
16-bit messages in `adis->tx`, prefixed by a page select
(`ADIS_WRITE_REG(ADIS_REG_PAGE_ID)`, page) when the handle's `current_page`
differs from `reg / ADIS_PAGE_SIZE`, send it in one `no_os_spi_transfer`, and
record the new page only when the transfer succeeds.

A read of 2 bytes sends `ADIS_READ_REG(reg)` and a zero frame, and takes the
reply of the second; a read of 4 bytes sends `ADIS_READ_REG(reg + 2)` first,
so that the replies of the last two frames are the high and the low word.  A
write sends one frame per byte, low address first.

On the device of `AdisImu.Device` both functions do what the spec's
transport promises, for a window `[reg, reg + size)` inside one page below
256 that misses the page register, and a handle whose page is unknown or
right (`adisWriteReg_ok`, `adisReadReg_ok`, `transport_refines`).
-/

import AdisImu.Device
import AdisImu.Util

namespace AdisImu

open Drv

/-- `ADIS_PAGE_SIZE`. -/
def ADIS_PAGE_SIZE : Nat := 0x80

/-- `ADIS_REG_PAGE_ID`. -/
def ADIS_REG_PAGE_ID : Nat := 0x00

/-- `ADIS_WRITE_REG(reg)`, `NO_OS_BIT(7) | reg`, as stored in a `uint8_t` of
`adis->tx`. -/
def ADIS_WRITE_REG (reg : Nat) : Nat := (0x80 ||| reg) % 256

/-- `ADIS_READ_REG(reg)`, `reg & NO_OS_GENMASK(6, 0)`. -/
def ADIS_READ_REG (reg : Nat) : Nat := reg &&& 0x7F

/-- `msgs[0]` when `adis->current_page != page`: the page select, with `page`
stored in the `uint8_t` `tx[1]`. -/
def pageSelectMsgs (currentPage : Int) (page : Nat) : List SpiMsg :=
  if currentPage ≠ page then [⟨⟨ADIS_WRITE_REG ADIS_REG_PAGE_ID, page % 256⟩, false⟩] else []

/-- The messages of `adis_read_reg`: `msgs[1]` for 4 bytes, then `msgs[2]` and
`msgs[3]`, whose `rx_buff`s are `adis->rx` and `adis->rx + 2`; `none` for the
sizes the `switch` rejects. -/
def adisReadRegMsgs (currentPage : Int) (reg size : Nat) : Option (List SpiMsg) :=
  let sel := pageSelectMsgs currentPage (reg / ADIS_PAGE_SIZE)
  match size with
  | 4 => some (sel ++ [⟨⟨ADIS_READ_REG (reg + 2), 0⟩, false⟩, ⟨⟨ADIS_READ_REG reg, 0⟩, true⟩,
      ⟨⟨0, 0⟩, true⟩])
  | 2 => some (sel ++ [⟨⟨ADIS_READ_REG reg, 0⟩, true⟩, ⟨⟨0, 0⟩, true⟩])
  | _ => none

/-- `adis_read_reg`. -/
def adisReadReg (reg size : Nat) : Drv Nat := do
  let adis ← Drv.dev
  match adisReadRegMsgs adis.currentPage reg size with
  | none => Drv.fail (-EINVAL)
  | some msgs =>
    let rx ← noOsSpiTransfer msgs
    Drv.setDev fun d => { d with currentPage := (reg / ADIS_PAGE_SIZE : Nat) }
    match size with
    | 4 => pure (noOsGetUnalignedBe32 rx)
    | _ => pure (noOsGetUnalignedBe16 (rx.drop 2))

/-- `msgs[i + 1]` of `adis_write_reg`: byte `i` of `val` to `reg + i`. -/
def adisWriteRegMsg (reg val i : Nat) : SpiMsg :=
  ⟨⟨ADIS_WRITE_REG (reg + i), (val >>> (8 * i)) &&& 0xff⟩, false⟩

/-- The messages of `adis_write_reg`: the `switch` admits sizes 4, 2 and 1, and
the loop `for (i = 1; i <= size; i++)` sends `msgs[1] … msgs[size]`. -/
def adisWriteRegMsgs (currentPage : Int) (reg val size : Nat) : Option (List SpiMsg) :=
  if size = 4 ∨ size = 2 ∨ size = 1 then
    some (pageSelectMsgs currentPage (reg / ADIS_PAGE_SIZE) ++
      (List.range size).map (adisWriteRegMsg reg val))
  else none

/-- `adis_write_reg`. -/
def adisWriteReg (reg val size : Nat) : Drv Unit := do
  let adis ← Drv.dev
  match adisWriteRegMsgs adis.currentPage reg val size with
  | none => Drv.fail (-EINVAL)
  | some msgs =>
    let _ ← noOsSpiTransfer msgs
    Drv.setDev fun d => { d with currentPage := (reg / ADIS_PAGE_SIZE : Nat) }

/-- The transport's window: `[reg, reg + size)` inside one page below 256, clear of
the page register at offset `0`. -/
structure InPage (reg size : Nat) : Prop where
  off_pos : 0 < reg % 128
  fits : reg % 128 + size ≤ 128
  page_lt : reg / 128 < 256

/-- The value `adis_read_reg` returns for the `size`-byte register at `reg`. -/
def Imu.regVal (d : Imu) (reg size : Nat) : Nat :=
  if size = 4 then d.word (reg + 2) * 2 ^ 16 + d.word reg else d.word reg

/-! ### The frames on the device -/

/-- A write command is bit 7 over the register's low seven bits. -/
theorem ADIS_WRITE_REG_eq (r : Nat) : ADIS_WRITE_REG r = 128 + r % 128 := by
  rw [ADIS_WRITE_REG, show 128 + r % 128 = 2 ^ 7 * 1 ||| r % 2 ^ 7 from
    Nat.mul_add_lt_is_or (Nat.mod_lt r (show 2 ^ 7 > 0 by decide)) 1, show (0x80 : Nat) = 2 ^ 7 from rfl,
    show (256 : Nat) = 2 ^ 8 from rfl]
  refine Nat.eq_of_testBit_eq fun i => ?_
  simp only [Nat.testBit_mod_two_pow, Nat.testBit_or, Nat.mul_one, Nat.testBit_two_pow]
  rcases Nat.lt_trichotomy i 7 with h | rfl | h
  · simp [h, show i < 8 by omega, show 7 ≠ i by omega]
  · simp
  · simp [show ¬ i < 7 by omega, show 7 ≠ i by omega]
    omega

theorem ADIS_READ_REG_eq (r : Nat) : ADIS_READ_REG r = r % 128 :=
  Nat.and_pow_two_sub_one_eq_mod r 7

/-- The page select frame sets the page register. -/
theorem step_pageSelect (d : Imu) (p : Nat) :
    d.step ⟨ADIS_WRITE_REG ADIS_REG_PAGE_ID, p % 256⟩ = { d with page := p % 256 } := by
  simp [Imu.step, ADIS_WRITE_REG_eq, ADIS_REG_PAGE_ID]

/-- A read command latches the word it addresses in the current page. -/
theorem step_read (d : Imu) (a x : Nat) :
    d.step ⟨ADIS_READ_REG a, x⟩ = { d with out := d.word (128 * d.page + a % 128) } := by
  simp [Imu.step, ADIS_READ_REG_eq, Nat.mod_lt]

theorem step_zero (d : Imu) : d.step ⟨0, 0⟩ = { d with out := d.word (128 * d.page) } := by
  simp [Imu.step]

/-- A write command off the page register stores its byte in the current page. -/
theorem step_write (d : Imu) {a : Nat} (ha : a % 128 ≠ 0) (b : Nat) :
    d.step ⟨ADIS_WRITE_REG a, b⟩ = d.poke (128 * d.page + a % 128) b := by
  simp [Imu.step, ADIS_WRITE_REG_eq, ha]

/-- **Whatever the handle's page, the frames after the optional page select run on
the target page**, provided the cached page is unknown or right. -/
theorem xfer_pageSelectMsgs {d : Imu} {cur : Int} {p : Nat} (hp : p < 256)
    (hc : cur = -1 ∨ cur = d.page) (rest : List SpiMsg) :
    d.xfer (pageSelectMsgs cur p ++ rest) = ({ d with page := p } : Imu).xfer rest := by
  unfold pageSelectMsgs
  split
  · rw [List.singleton_append, Imu.xfer_cons, step_pageSelect, Nat.mod_eq_of_lt hp]
    rfl
  · rename_i h
    obtain rfl : d.page = p := by omega
    rfl

/-! ### What a completed transaction did -/

/-- A read that returned a value sent its messages in one completed transfer and
recorded the page. -/
theorem adisReadReg_ok_eq {reg size v : Nat} {w : World}
    (hok : (adisReadReg reg size w).1 = .ok v) :
    ∃ msgs data, adisReadRegMsgs w.dev.currentPage reg size = some msgs ∧ w.next.1 = .ok data ∧
      (adisReadReg reg size w).2.imu = (w.imu.xfer msgs).1 ∧
      (adisReadReg reg size w).2.dev = { w.dev with currentPage := ((reg / 128 : Nat) : Int) } ∧
      v = if size = 4 then noOsGetUnalignedBe32 (w.imu.xfer msgs).2
        else noOsGetUnalignedBe16 ((w.imu.xfer msgs).2.drop 2) := by
  simp only [adisReadReg, bind_apply, Drv.dev_apply] at hok ⊢
  cases hm : adisReadRegMsgs w.dev.currentPage reg size with
  | none => simp [hm] at hok
  | some msgs =>
    simp only [hm, bind_apply, noOsSpiTransfer] at hok ⊢
    cases hn : w.next.1 with
    | fail code k hc => simp [hn] at hok
    | ok data =>
      refine ⟨msgs, data, rfl, rfl, ?_⟩
      simp only [hn, setDev_apply, World.next_dev] at hok ⊢
      split at hok <;> simp_all [ADIS_PAGE_SIZE]

/-- The two frames of a 2-byte read return the addressed word, MSB first, in
their last two bytes. -/
theorem xfer_read2 (d : Imu) (a : Nat) :
    (d.xfer [⟨⟨ADIS_READ_REG a, 0⟩, true⟩, ⟨⟨0, 0⟩, true⟩]).2.drop 2 =
      [d.mem (128 * d.page + a % 128 + 1), d.mem (128 * d.page + a % 128)] := by
  simp only [Imu.xfer_cons, step_read, step_zero, Imu.xfer_nil, if_true, Imu.reply]
  simp only [Imu.word, List.cons_append, List.nil_append, List.append_nil, List.drop_succ_cons,
    List.drop_zero, List.cons.injEq, and_true]
  have := d.mem_lt (128 * d.page + a % 128)
  have := d.mem_lt (128 * d.page + a % 128 + 1)
  omega

/-- The three frames of a 4-byte read return the high word, then the low word:
the reply of each frame is the word latched by the one before. -/
theorem xfer_read4 (d : Imu) (a : Nat) :
    (d.xfer [⟨⟨ADIS_READ_REG (a + 2), 0⟩, false⟩, ⟨⟨ADIS_READ_REG a, 0⟩, true⟩,
      ⟨⟨0, 0⟩, true⟩]).2 =
      [d.mem (128 * d.page + (a + 2) % 128 + 1), d.mem (128 * d.page + (a + 2) % 128),
        d.mem (128 * d.page + a % 128 + 1), d.mem (128 * d.page + a % 128)] := by
  simp only [Imu.xfer_cons, step_read, step_zero, Imu.xfer_nil, if_true, Imu.reply]
  simp only [Imu.word, List.cons_append, List.nil_append, List.append_nil, List.cons.injEq,
    and_true, Bool.false_eq_true, if_false]
  have := d.mem_lt (128 * d.page + a % 128)
  have := d.mem_lt (128 * d.page + a % 128 + 1)
  have := d.mem_lt (128 * d.page + (a + 2) % 128)
  have := d.mem_lt (128 * d.page + (a + 2) % 128 + 1)
  omega

/-- Read commands change neither the registers nor the page. -/
theorem xfer_reads_mem (d : Imu) (ms : List SpiMsg) (h : ∀ m ∈ ms, m.tx.cmd < 128) :
    (d.xfer ms).1.mem = d.mem ∧ (d.xfer ms).1.page = d.page := by
  induction ms generalizing d with
  | nil => exact ⟨rfl, rfl⟩
  | cons m ms ih =>
    rw [Imu.xfer_cons]
    have hm : d.step m.tx = { d with out := d.word (128 * d.page + m.tx.cmd) } := by
      simp [Imu.step, h m (List.mem_cons_self _ _)]
    rw [hm]
    exact ih _ fun m' hm' => h m' (List.mem_cons_of_mem _ hm')

/-- **`adis_read_reg` refines a register read.** -/
theorem adisReadReg_ok {reg size v : Nat} {w : World} (hwin : InPage reg size)
    (hcache : w.dev.currentPage = -1 ∨ w.dev.currentPage = w.imu.page)
    (hok : (adisReadReg reg size w).1 = .ok v) :
    v = w.imu.regVal reg size ∧
    (adisReadReg reg size w).2.imu.mem = w.imu.mem ∧
    (adisReadReg reg size w).2.imu.page = reg / 128 ∧
    (adisReadReg reg size w).2.dev.currentPage = ((reg / 128 : Nat) : Int) := by
  obtain ⟨msgs, data, hm, -, himu, hdev, rfl⟩ := adisReadReg_ok_eq hok
  obtain ⟨hoff, hfits, hp⟩ := hwin
  have hreads : ∀ a, ADIS_READ_REG a < 128 := fun a => by
    rw [ADIS_READ_REG_eq]; exact Nat.mod_lt _ (by decide)
  rw [himu, hdev]
  unfold adisReadRegMsgs at hm
  split at hm <;> simp only [Option.some.injEq, reduceCtorEq] at hm <;> subst hm <;>
    simp only [ADIS_PAGE_SIZE, xfer_pageSelectMsgs hp hcache, if_true, reduceIte]
  · rw [Imu.regVal, if_pos rfl, xfer_read4]
    refine ⟨?_, (xfer_reads_mem _ _ (by simp [hreads])).1, (xfer_reads_mem _ _ (by simp [hreads])).2, trivial⟩
    simp only [noOsGetUnalignedBe32, Imu.word, List.getD_cons_succ, List.getD_cons_zero]
    rw [show 128 * (reg / 128) + (reg + 2) % 128 = reg + 2 by omega,
      show 128 * (reg / 128) + reg % 128 = reg by omega]
    omega
  · rw [Imu.regVal, if_neg (by decide), xfer_read2]
    refine ⟨?_, (xfer_reads_mem _ _ (by simp [hreads])).1, (xfer_reads_mem _ _ (by simp [hreads])).2, trivial⟩
    simp only [noOsGetUnalignedBe16, Imu.word, List.getD_cons_succ, List.getD_cons_zero]
    rw [show 128 * (reg / 128) + reg % 128 = reg by omega, if_neg (by decide)]
    omega

/-- A write that returned `0` sent its messages in one completed transfer and
recorded the page. -/
theorem adisWriteReg_ok_eq {reg val size : Nat} {w : World}
    (hok : (adisWriteReg reg val size w).1 = .ok ()) :
    ∃ msgs data, adisWriteRegMsgs w.dev.currentPage reg val size = some msgs ∧
      w.next.1 = .ok data ∧ (adisWriteReg reg val size w).2.imu = (w.imu.xfer msgs).1 ∧
      (adisWriteReg reg val size w).2.dev = { w.dev with currentPage := ((reg / 128 : Nat) : Int) } := by
  simp only [adisWriteReg, bind_apply, Drv.dev_apply] at hok ⊢
  cases hm : adisWriteRegMsgs w.dev.currentPage reg val size with
  | none => simp [hm] at hok
  | some msgs =>
    simp only [hm, bind_apply, noOsSpiTransfer] at hok ⊢
    cases hn : w.next.1 with
    | fail code k hc => simp [hn] at hok
    | ok data => exact ⟨msgs, data, rfl, rfl, by simp [hn, ADIS_PAGE_SIZE]⟩

/-- `(val >> 8i) & 0xff` is byte `i` of `val`. -/
theorem writeByte_eq (val i : Nat) : ((val >>> (8 * i)) &&& 0xff) % 256 = val / 256 ^ i % 256 := by
  rw [Nat.shiftRight_eq_div_pow, show (0xff : Nat) = 2 ^ 8 - 1 from rfl,
    Nat.and_pow_two_sub_one_eq_mod, Nat.pow_mul, show (2 : Nat) ^ 8 = 256 from rfl, Nat.mod_mod]

/-- The write frames of `adis_write_reg` store byte `i` of `val` at `reg + i` and
nothing else. -/
theorem xfer_writeMsgs (d : Imu) (reg val n : Nat) (hoff : 0 < reg % 128)
    (hfit : reg % 128 + n ≤ 128) (hpage : d.page = reg / 128) :
    (d.xfer ((List.range n).map (adisWriteRegMsg reg val))).1.page = d.page ∧
    ∀ a, (d.xfer ((List.range n).map (adisWriteRegMsg reg val))).1.mem a =
      if reg ≤ a ∧ a < reg + n then val / 256 ^ (a - reg) % 256 else d.mem a := by
  induction n with
  | zero => exact ⟨rfl, fun a => by rw [if_neg (by omega)]; rfl⟩
  | succ n ih =>
    obtain ⟨ihp, ihm⟩ := ih (by omega)
    rw [List.range_succ, List.map_append, Imu.xfer_append]
    simp only [List.map_cons, List.map_nil, Imu.xfer_cons, Imu.xfer_nil, adisWriteRegMsg,
      step_write _ (show (reg + n) % 128 ≠ 0 by omega)]
    refine ⟨by rw [Imu.poke_page, ihp], fun a => ?_⟩
    rw [Imu.poke_mem, ihm, ihp, hpage, writeByte_eq]
    by_cases ha : a = reg + n
    · subst ha
      simp only [show 128 * (reg / 128) + (reg + n) % 128 = reg + n by omega, if_true,
        show reg + n - reg = n by omega]
      rw [if_pos (by omega)]
    · rw [if_neg (by omega)]
      by_cases hb : reg ≤ a ∧ a < reg + n
      · rw [if_pos hb, if_pos (by omega)]
      · rw [if_neg hb, if_neg (by omega)]

/-- **`adis_write_reg` refines a register write.** -/
theorem adisWriteReg_ok {reg val size : Nat} {w : World} (hwin : InPage reg size)
    (hcache : w.dev.currentPage = -1 ∨ w.dev.currentPage = w.imu.page)
    (hok : (adisWriteReg reg val size w).1 = .ok ()) :
    (∀ a, (adisWriteReg reg val size w).2.imu.mem a =
      if reg ≤ a ∧ a < reg + size then val / 256 ^ (a - reg) % 256 else w.imu.mem a) ∧
    (adisWriteReg reg val size w).2.imu.page = reg / 128 ∧
    (adisWriteReg reg val size w).2.dev.currentPage = ((reg / 128 : Nat) : Int) := by
  obtain ⟨msgs, data, hm, -, himu, hdev⟩ := adisWriteReg_ok_eq hok
  obtain ⟨hoff, hfits, hp⟩ := hwin
  rw [himu, hdev]
  unfold adisWriteRegMsgs at hm
  split at hm
  · simp only [Option.some.injEq] at hm
    subst hm
    rw [ADIS_PAGE_SIZE, xfer_pageSelectMsgs hp hcache]
    obtain ⟨hpg, hmem⟩ := xfer_writeMsgs ({ w.imu with page := reg / 128 } : Imu) reg val size hoff hfits rfl
    exact ⟨hmem, hpg, rfl⟩
  · simp at hm

section Keeps

variable {P : World → Prop}

/-- An invariant of the transfer and of the cache update is one of `adis_read_reg`. -/
theorem adisReadReg_keeps (ht : ∀ msgs, Keeps P (noOsSpiTransfer msgs))
    (hs : ∀ q : Int, Keeps P (setDev fun d => { d with currentPage := q })) (reg size : Nat) :
    Keeps P (adisReadReg reg size) :=
  Keeps.dev.bind fun _ => by
    split
    · exact Keeps.fail _
    · exact (ht _).bind fun _ => (hs _).bind fun _ => by split <;> exact Keeps.pure _

/-- An invariant of the transfer and of the cache update is one of `adis_write_reg`. -/
theorem adisWriteReg_keeps (ht : ∀ msgs, Keeps P (noOsSpiTransfer msgs))
    (hs : ∀ q : Int, Keeps P (setDev fun d => { d with currentPage := q })) (reg val size : Nat) :
    Keeps P (adisWriteReg reg val size) :=
  Keeps.dev.bind fun _ => by
    split
    · exact Keeps.fail _
    · exact (ht _).bind fun _ => hs _

end Keeps

theorem adisReadReg_busAll (p : Xfer → Prop) (reg size : Nat) :
    Keeps (World.BusAll p) (adisReadReg reg size) :=
  adisReadReg_keeps (noOsSpiTransfer_busAll p) (fun _ => setDev_busAll p _) reg size

theorem adisWriteReg_busAll (p : Xfer → Prop) (reg val size : Nat) :
    Keeps (World.BusAll p) (adisWriteReg reg val size) :=
  adisWriteReg_keeps (noOsSpiTransfer_busAll p) (fun _ => setDev_busAll p _) reg val size

theorem adisReadReg_handleIs (d : AdisDev) (reg size : Nat) :
    Keeps (HandleIs d) (adisReadReg reg size) :=
  adisReadReg_keeps (noOsSpiTransfer_handleIs d) (setPage_handleIs d) reg size

theorem adisWriteReg_handleIs (d : AdisDev) (reg val size : Nat) :
    Keeps (HandleIs d) (adisWriteReg reg val size) :=
  adisWriteReg_keeps (noOsSpiTransfer_handleIs d) (setPage_handleIs d) reg val size

theorem adisReadReg_succeeds {reg size : Nat} {w : World} {data : List Nat}
    (hsize : size = 2 ∨ size = 4) (hn : w.next.1 = .ok data) :
    ∃ v, (adisReadReg reg size w).1 = .ok v := by
  rcases hsize with rfl | rfl <;>
    simp [adisReadReg, bind_apply, adisReadRegMsgs, noOsSpiTransfer, hn]

theorem adisWriteReg_succeeds {reg val size : Nat} {w : World} {data : List Nat}
    (hsize : size = 1 ∨ size = 2 ∨ size = 4) (hn : w.next.1 = .ok data) :
    (adisWriteReg reg val size w).1 = .ok () := by
  have : size = 4 ∨ size = 2 ∨ size = 1 := by omega
  simp [adisWriteReg, bind_apply, adisWriteRegMsgs, this, noOsSpiTransfer, hn]

theorem adisReadReg_bad_size {reg size : Nat} (hs : ¬(size = 2 ∨ size = 4)) (w : World) :
    adisReadReg reg size w = (.error (-EINVAL), w) := by
  have hm : adisReadRegMsgs w.dev.currentPage reg size = none := by
    unfold adisReadRegMsgs; split <;> simp_all
  simp only [adisReadReg, bind_apply, dev_apply, hm, fail_apply]

theorem adisWriteReg_bad_size {reg val size : Nat} (hs : ¬(size = 1 ∨ size = 2 ∨ size = 4))
    (w : World) : adisWriteReg reg val size w = (.error (-EINVAL), w) := by
  have hm : adisWriteRegMsgs w.dev.currentPage reg val size = none := by
    unfold adisWriteRegMsgs; rw [if_neg (by omega)]
  simp only [adisWriteReg, bind_apply, dev_apply, hm, fail_apply]

/-- **The transport refines the register map.**  On a window inside one page
below 256, clear of the page register, with the handle's page unknown or right,
a completed transfer makes `adis_write_reg` store byte `i` of `val` at `reg + i`
and nothing else, and `adis_read_reg` return the word at `reg` (2 bytes) or the
word at `reg + 2` over the word at `reg` (4 bytes), registers unchanged; either
leaves the device and the handle on page `reg / 128`. -/
theorem transport_refines (w : World) (reg val size : Nat) (data : List Nat)
    (hwin : InPage reg size) (hcache : w.dev.currentPage = -1 ∨ w.dev.currentPage = w.imu.page)
    (hn : w.next.1 = .ok data) :
    ((size = 1 ∨ size = 2 ∨ size = 4) →
      (adisWriteReg reg val size w).1 = .ok () ∧
      (∀ a, (adisWriteReg reg val size w).2.imu.mem a =
        if reg ≤ a ∧ a < reg + size then val / 256 ^ (a - reg) % 256 else w.imu.mem a) ∧
      (adisWriteReg reg val size w).2.imu.page = reg / 128 ∧
      (adisWriteReg reg val size w).2.dev.currentPage = ((reg / 128 : Nat) : Int)) ∧
    ((size = 2 ∨ size = 4) →
      (adisReadReg reg size w).1 =
        .ok (if size = 4 then w.imu.word (reg + 2) * 2 ^ 16 + w.imu.word reg
          else w.imu.word reg) ∧
      (adisReadReg reg size w).2.imu.mem = w.imu.mem ∧
      (adisReadReg reg size w).2.imu.page = reg / 128 ∧
      (adisReadReg reg size w).2.dev.currentPage = ((reg / 128 : Nat) : Int)) := by
  refine ⟨fun hsize => ?_, fun hsize => ?_⟩
  · have hok := @adisWriteReg_succeeds reg val size w data hsize hn
    exact ⟨hok, adisWriteReg_ok hwin hcache hok⟩
  · obtain ⟨v, hok⟩ := @adisReadReg_succeeds reg size w data hsize hn
    obtain ⟨rfl, h⟩ := adisReadReg_ok hwin hcache hok
    exact ⟨hok, h⟩

/-- The hypotheses of `transport_refines` hold of a blank device behind a
calloc'd handle, at register `0x82` of page `1`. -/
theorem transport_refines_blank :
    InPage 130 2 ∧ (World.blank.dev.currentPage = -1 ∨ World.blank.dev.currentPage = World.blank.imu.page) ∧
    World.blank.next.1 = .ok [] ∧
    ((2 = 1 ∨ 2 = 2 ∨ 2 = 4) →
      (adisWriteReg 130 0x1234 2 World.blank).1 = .ok () ∧
      (∀ a, (adisWriteReg 130 0x1234 2 World.blank).2.imu.mem a =
        if 130 ≤ a ∧ a < 130 + 2 then 0x1234 / 256 ^ (a - 130) % 256 else World.blank.imu.mem a) ∧
      (adisWriteReg 130 0x1234 2 World.blank).2.imu.page = 130 / 128 ∧
      (adisWriteReg 130 0x1234 2 World.blank).2.dev.currentPage = ((130 / 128 : Nat) : Int)) ∧
    ((2 = 2 ∨ 2 = 4) →
      (adisReadReg 130 2 World.blank).1 =
        .ok (if 2 = 4 then World.blank.imu.word (130 + 2) * 2 ^ 16 + World.blank.imu.word 130
          else World.blank.imu.word 130) ∧
      (adisReadReg 130 2 World.blank).2.imu.mem = World.blank.imu.mem ∧
      (adisReadReg 130 2 World.blank).2.imu.page = 130 / 128 ∧
      (adisReadReg 130 2 World.blank).2.dev.currentPage = ((130 / 128 : Nat) : Int)) :=
  have hwin : InPage 130 2 := ⟨by decide, by decide, by decide⟩
  have hcache : World.blank.dev.currentPage = -1 ∨
      World.blank.dev.currentPage = World.blank.imu.page := Or.inr rfl
  ⟨hwin, hcache, rfl, transport_refines World.blank 130 0x1234 2 [] hwin hcache rfl⟩

end AdisImu
