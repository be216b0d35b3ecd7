/-
# The bus, the device and the driver monad

`adis.c` talks to the IMU through `no_os_spi_transfer` (a list of
`struct no_os_spi_msg`, one 16-bit frame each, chip select held between them),
`no_os_spi_write_and_read` (the burst read), `no_os_mdelay`/`no_os_udelay` and
the reset GPIO.  This file models the other side of those calls.

The device is the spec's register map (§6): a page register, 128 byte
registers per page, and the ADIS frame protocol — a frame whose command byte
has bit 7 set writes its data byte to the addressed register of the current
page (address `0` is the page register itself), any other frame is a read
command whose 16-bit reply, `256 * byte(a + 1) + byte(a)`, comes out MSB first
during the next frame.  The reply of a frame is therefore the word latched by
the frame before it, as in a memory with a registered read port.

The bus is an oracle consumed one transfer at a time: a transfer completes, or
fails with a nonzero code after delivering a prefix of its frames, whose length the
bus may choose knowing the frames; an exhausted oracle completes every transfer.  The platform's other calls whose
codes the driver acts on (`no_os_calloc`, `no_os_spi_init`,
`no_os_gpio_direction_output`, `no_os_gpio_set_value`) take their codes from a
second oracle, one per call, `0` once it runs out.  Whether
`no_os_gpio_get_optional` gets the reset line a descriptor describes is a flag
of the world: `adis_init` only prints its code.  C leaves the quotient by `0`
undefined, so the value the target yields for it is a part of the world too, and
no result rests on a choice of it.  Every frame, delay and GPIO request the
driver issues is appended to a log.

A driver call is a `Drv`: from a world, the `int` it returns — `ok` for `0`, the
code otherwise — and the world it leaves.  Errors keep the world as it was at
the failure, as C's `if (ret) return ret;` does.  `Keeps P x` says that `x`
leaves `P` true whatever it returns; it composes through `bind`, so a run
invariant is proved once per primitive.
-/

import AdisImu.Chip

namespace AdisImu

/-- A 16-bit SPI frame as the driver clocks it out: a command byte (bit 7 set
for a write, the register address below it) and a data byte. -/
structure Frame where
  cmd : Nat
  arg : Nat
deriving DecidableEq, Repr

/-- One `struct no_os_spi_msg` of a register transaction: the frame in its
`tx_buff` (zeros for a `NULL` `tx_buff`) and whether it has an `rx_buff`. -/
structure SpiMsg where
  tx : Frame
  rx : Bool
deriving DecidableEq, Repr

/-- The device: its page register, the register bytes of every page (byte `a` of
page `p` at `128 * p + a`), and the word its last read command latched. -/
structure Imu where
  page : Nat
  mem : Nat → Nat
  out : Nat
  mem_lt : ∀ a, mem a < 256

namespace Imu

/-- The 16-bit register word at byte address `a`, low byte first in memory. -/
def word (d : Imu) (a : Nat) : Nat := 256 * d.mem (a + 1) + d.mem a

/-- Byte `b` written to address `a`. -/
def poke (d : Imu) (a b : Nat) : Imu where
  page := d.page
  mem := Function.update d.mem a (b % 256)
  out := d.out
  mem_lt x := by
    unfold Function.update
    split
    · subst_vars; exact Nat.mod_lt _ (by decide)
    · exact d.mem_lt x

/-- A device on page `0` whose register bytes are all `0`. -/
def blank : Imu := ⟨0, fun _ => 0, 0, fun _ => Nat.zero_lt_succ _⟩

/-- A reset returns the device to page `0`. -/
def reset (d : Imu) : Imu := { d with page := 0 }

/-- One frame: a read command latches a word, a write to address `0` selects a
page, any other write stores a byte in the current page. -/
def step (d : Imu) (f : Frame) : Imu :=
  if f.cmd < 128 then { d with out := d.word (128 * d.page + f.cmd) }
  else if f.cmd % 128 = 0 then { d with page := f.arg % 256 }
  else d.poke (128 * d.page + f.cmd % 128) f.arg

/-- The bytes the device shifts out during a frame: the latched word, MSB first. -/
def reply (d : Imu) : List Nat := [d.out / 256 % 256, d.out % 256]

/-- A list of messages in order: the device after them, and the bytes received
by the messages with an `rx_buff`. -/
def xfer : Imu → List SpiMsg → Imu × List Nat
  | d, [] => (d, [])
  | d, m :: ms => (((d.step m.tx).xfer ms).1, (if m.rx then d.reply else []) ++ ((d.step m.tx).xfer ms).2)

@[simp] theorem poke_page (d : Imu) (a b : Nat) : (d.poke a b).page = d.page := rfl

@[simp] theorem poke_mem (d : Imu) (a b x : Nat) :
    (d.poke a b).mem x = if x = a then b % 256 else d.mem x := by
  simp only [poke, Function.update_apply]

@[simp] theorem reset_page (d : Imu) : d.reset.page = 0 := rfl

@[simp] theorem reset_mem (d : Imu) : d.reset.mem = d.mem := rfl

@[simp] theorem xfer_nil (d : Imu) : d.xfer [] = (d, []) := rfl

theorem xfer_cons (d : Imu) (m : SpiMsg) (ms : List SpiMsg) :
    d.xfer (m :: ms) = (((d.step m.tx).xfer ms).1,
      (if m.rx then d.reply else []) ++ ((d.step m.tx).xfer ms).2) := rfl

theorem xfer_append (d : Imu) (l₁ l₂ : List SpiMsg) :
    d.xfer (l₁ ++ l₂) = (((d.xfer l₁).1.xfer l₂).1, (d.xfer l₁).2 ++ ((d.xfer l₁).1.xfer l₂).2) := by
  induction l₁ generalizing d with
  | nil => rfl
  | cons m ms ih => simp [xfer_cons, ih]

/-- The reply of a word latched from a byte-valued memory gives back its two bytes. -/
theorem reply_word (d e : Imu) (a : Nat) (h : e.out = d.word a) :
    e.reply = [d.mem (a + 1), d.mem a] := by
  have h₁ := d.mem_lt a
  have h₂ := d.mem_lt (a + 1)
  simp only [reply, h, word, List.cons.injEq, and_true]
  omega

end Imu

/-- What the bus does with one transfer: complete it (a burst read then clocks in
`data`), or fail with a nonzero code after delivering the first `delivered msgs`
frames of the messages `msgs` it is handed. -/
inductive Xfer
  | ok (data : List Nat)
  | fail (code : Int) (delivered : List SpiMsg → Nat) (hcode : code ≠ 0)

/-- What the driver hands to its collaborators, in order. -/
inductive Event
  | frame (f : Frame)
  | burst (len : Nat)
  | mdelay (ms : Nat)
  | udelay (us : Nat)
  | gpio (high : Bool)
deriving DecidableEq, Repr

/-- The handle, the device, the reset line's level, the bus oracle, the log, the
platform's codes, whether the platform gets the reset line, and the quotient by `0`. -/
structure World where
  dev : AdisDev
  imu : Imu
  gpioHigh : Bool
  bus : List Xfer
  log : List Event
  platform : List Int
  gpioGetOk : Bool
  divZero : Nat

/-- A calloc'd handle on a blank device, the reset line high, and a bus and a platform
whose every call succeeds. -/
def World.blank : World := ⟨AdisDev.calloc, Imu.blank, true, [], [], [], true, 0⟩

/-- A blank world whose first transfer fails with `code` before delivering a frame. -/
def World.failing (code : Int) (hcode : code ≠ 0) : World :=
  { World.blank with bus := [.fail code (fun _ => 0) hcode] }

/-- The next transfer's fate, and the oracle after it; an exhausted oracle
completes the transfer. -/
def World.next (w : World) : Xfer × World :=
  match w.bus with
  | [] => (.ok [], w)
  | x :: bus => (x, { w with bus })

@[simp] theorem World.next_dev (w : World) : w.next.2.dev = w.dev := by
  unfold World.next; split <;> rfl

@[simp] theorem World.next_imu (w : World) : w.next.2.imu = w.imu := by
  unfold World.next; split <;> rfl

@[simp] theorem World.next_gpioHigh (w : World) : w.next.2.gpioHigh = w.gpioHigh := by
  unfold World.next; split <;> rfl

@[simp] theorem World.next_log (w : World) : w.next.2.log = w.log := by
  unfold World.next; split <;> rfl

@[simp] theorem World.next_platform (w : World) : w.next.2.platform = w.platform := by
  unfold World.next; split <;> rfl

/-- The next platform call's code, and the oracle after it; an exhausted oracle
returns `0`. -/
def World.nextCode (w : World) : Int × World :=
  match w.platform with
  | [] => (0, w)
  | c :: platform => (c, { w with platform })

@[simp] theorem World.nextCode_dev (w : World) : w.nextCode.2.dev = w.dev := by
  unfold World.nextCode; split <;> rfl

@[simp] theorem World.nextCode_imu (w : World) : w.nextCode.2.imu = w.imu := by
  unfold World.nextCode; split <;> rfl

@[simp] theorem World.nextCode_gpioHigh (w : World) : w.nextCode.2.gpioHigh = w.gpioHigh := by
  unfold World.nextCode; split <;> rfl

@[simp] theorem World.nextCode_bus (w : World) : w.nextCode.2.bus = w.bus := by
  unfold World.nextCode; split <;> rfl

@[simp] theorem World.nextCode_log (w : World) : w.nextCode.2.log = w.log := by
  unfold World.nextCode; split <;> rfl

/-- A platform whose every call the driver acts on succeeds. -/
def World.PlatformOk (w : World) : Prop := ∀ c ∈ w.platform, c = 0

theorem World.PlatformOk.nextCode {w : World} (h : w.PlatformOk) :
    w.nextCode.1 = 0 ∧ w.nextCode.2.PlatformOk := by
  unfold World.nextCode
  split
  · exact ⟨rfl, h⟩
  · rename_i c platform hp
    have h' : ∀ x ∈ c :: platform, x = 0 := hp ▸ h
    exact ⟨h' c (List.mem_cons_self _ _), fun x hx => h' x (List.mem_cons_of_mem _ hx)⟩

/-- Every transfer the bus oracle still holds satisfies `p`. -/
def World.BusAll (p : Xfer → Prop) (w : World) : Prop := ∀ x ∈ w.bus, p x

/-- A bus that completes every transfer it is given. -/
def World.Healthy : World → Prop := World.BusAll fun x => ∃ data, x = .ok data

/-- The code a transfer returns: `0` when it completes. -/
def Xfer.code : Xfer → Int
  | .ok _ => 0
  | .fail code _ _ => code

/-- A bus none of whose failures returns `-EINVAL`, the code of the driver's own
argument checks. -/
def World.NoEinval : World → Prop := World.BusAll fun x => x.code ≠ -EINVAL

theorem World.BusAll.next {p : Xfer → Prop} {w : World} (h : w.BusAll p) :
    (w.next.1 = .ok [] ∨ p w.next.1) ∧ w.next.2.BusAll p := by
  unfold World.next
  split
  · exact ⟨.inl rfl, h⟩
  · rename_i x bus hb
    have h' : ∀ y ∈ x :: bus, p y := hb ▸ h
    exact ⟨.inr (h' x (List.mem_cons_self _ _)), fun y hy => h' y (List.mem_cons_of_mem _ hy)⟩

theorem World.BusAll.of_bus {p : Xfer → Prop} {w w' : World} (hb : w'.bus = w.bus)
    (h : w.BusAll p) : w'.BusAll p :=
  fun x hx => h x (hb ▸ hx)

theorem World.Healthy.next {w : World} (h : w.Healthy) :
    (∃ data, w.next.1 = .ok data) ∧ w.next.2.Healthy :=
  ⟨(World.BusAll.next h).1.elim (fun h => ⟨[], h⟩) id, (World.BusAll.next h).2⟩

/-- A driver call: from a world, the value or nonzero code it returns, and the world
it leaves. -/
def Drv (α : Type) : Type := World → Except Int α × World

namespace Drv

instance : Monad Drv where
  pure a w := (.ok a, w)
  bind x f w :=
    match x w with
    | (.ok a, w') => f a w'
    | (.error e, w') => (.error e, w')

/-- `return -e;` -/
def fail (e : Int) : Drv α := fun w => (.error e, w)

/-- The handle as it is now. -/
def dev : Drv AdisDev := fun w => (.ok w.dev, w)

/-- An assignment to members of the handle. -/
def setDev (f : AdisDev → AdisDev) : Drv Unit := fun w => (.ok (), { w with dev := f w.dev })

/-- An event handed to a collaborator that only the log sees. -/
def emit (e : Event) : Drv Unit := fun w => (.ok (), { w with log := w.log ++ [e] })

@[simp] theorem pure_apply (a : α) (w : World) : (pure a : Drv α) w = (.ok a, w) := rfl

@[simp] theorem fail_apply (e : Int) (w : World) : (fail e : Drv α) w = (.error e, w) := rfl

@[simp] theorem dev_apply (w : World) : dev w = (.ok w.dev, w) := rfl

@[simp] theorem setDev_apply (f : AdisDev → AdisDev) (w : World) :
    setDev f w = (.ok (), { w with dev := f w.dev }) := rfl

@[simp] theorem emit_apply (e : Event) (w : World) :
    emit e w = (.ok (), { w with log := w.log ++ [e] }) := rfl

/-- The `uint32_t` quotient `a / b`; the quotient by `0`, which C leaves undefined, is the
world's. -/
def udiv (a b : Nat) : Drv Nat := fun w => (.ok (if b = 0 then w.divZero else a / b), w)

@[simp] theorem udiv_apply (a b : Nat) (w : World) :
    udiv a b w = (.ok (if b = 0 then w.divZero else a / b), w) := rfl

theorem udiv_of_pos {a b : Nat} (hb : 0 < b) (w : World) : udiv a b w = (.ok (a / b), w) := by
  rw [udiv_apply, if_neg (Nat.pos_iff_ne_zero.1 hb)]

theorem dev_bind_apply (f : AdisDev → Drv α) (w : World) : (dev >>= f) w = f w.dev w := rfl

theorem bind_apply (x : Drv α) (f : α → Drv β) (w : World) :
    (x >>= f) w = match x w with
      | (.ok a, w') => f a w'
      | (.error e, w') => (.error e, w') := rfl

theorem bind_of_ok {x : Drv α} {f : α → Drv β} {w w' : World} {a : α}
    (h : x w = (.ok a, w')) : (x >>= f) w = f a w' := by
  rw [bind_apply, h]

theorem bind_of_fst_ok {x : Drv α} {f : α → Drv β} {w : World} {a : α}
    (h : (x w).1 = .ok a) : (x >>= f) w = f a (x w).2 :=
  bind_of_ok (Prod.ext h rfl)

theorem bind_of_error {x : Drv α} {f : α → Drv β} {w w' : World} {e : Int}
    (h : x w = (.error e, w')) : (x >>= f) w = (.error e, w') := by
  rw [bind_apply, h]

theorem ok_of_bind_ok {x : Drv α} {f : α → Drv β} {w : World} {b : β}
    (h : ((x >>= f) w).1 = .ok b) : ∃ a, (x w).1 = .ok a ∧ (x >>= f) w = f a (x w).2 := by
  rw [bind_apply] at h ⊢
  match hx : x w with
  | (.ok a, w') => exact ⟨a, rfl, rfl⟩
  | (.error e, w') =>
    rw [hx] at h
    cases h

/-- A failed bind whose continuation cannot fail: the first call failed, and left
the world. -/
theorem bind_error_of_total {x : Drv α} {f : α → Drv β} {w : World} {e : Int}
    (hf : ∀ a w', ∃ b, (f a w').1 = .ok b) (h : ((x >>= f) w).1 = .error e) :
    (x w).1 = .error e ∧ ((x >>= f) w).2 = (x w).2 := by
  rw [bind_apply] at h ⊢
  match hx : x w with
  | (.ok a, w') =>
    rw [hx] at h
    obtain ⟨b, hb⟩ := hf a w'
    rw [hb] at h
    cases h
  | (.error e', w') =>
    simp only [hx, Except.error.injEq, and_true] at h ⊢
    rw [h]

/-- `x` leaves `P` true, whatever it returns. -/
def Keeps (P : World → Prop) (x : Drv α) : Prop := ∀ w, P w → P (x w).2

namespace Keeps

variable {P : World → Prop}

theorem pure (a : α) : Keeps P (Pure.pure a : Drv α) := fun _ h => h

theorem fail (e : Int) : Keeps P (Drv.fail e : Drv α) := fun _ h => h

theorem dev : Keeps P Drv.dev := fun _ h => h

theorem udiv (a b : Nat) : Keeps P (Drv.udiv a b) := fun _ h => h

theorem bind {x : Drv α} {f : α → Drv β} (hx : Keeps P x) (hf : ∀ a, Keeps P (f a)) :
    Keeps P (x >>= f) := fun w h => by
  rw [bind_apply]
  match hw : x w with
  | (.ok a, w') => exact hf a w' (by simpa [hw] using hx w h)
  | (.error e, w') => simpa [hw] using hx w h

theorem ite {c : Prop} [Decidable c] {x y : Drv α} (hx : Keeps P x) (hy : Keeps P y) :
    Keeps P (if c then x else y) := by
  split <;> assumption

/-- A branch keeps `P` when each arm keeps it under the condition that selects it. -/
theorem ite_of {c : Prop} [Decidable c] {x y : Drv α} (hx : c → Keeps P x) (hy : ¬c → Keeps P y) :
    Keeps P (if c then x else y) := by
  by_cases h : c
  · rw [if_pos h]; exact hx h
  · rw [if_neg h]; exact hy h

/-- A call that branches on the handle keeps `P` when each branch keeps it at the
handle it is taken on. -/
theorem dev_bind {f : AdisDev → Drv α} (h : ∀ w, P w → P (f w.dev w).2) :
    Keeps P (Drv.dev >>= f) := h

theorem and {Q : World → Prop} {x : Drv α} (hP : Keeps P x) (hQ : Keeps Q x) :
    Keeps (fun w => P w ∧ Q w) x := fun w h => ⟨hP w h.1, hQ w h.2⟩

/-- A call that keeps `Q`, then calls that keep `P`, end in `P` from `Q` when `Q` gives
`P`. -/
theorem bind_into {Q : World → Prop} {x : Drv α} {f : α → Drv β} (hx : Keeps Q x)
    (hQP : ∀ w, Q w → P w) (hf : ∀ a, Keeps P (f a)) : ∀ w, Q w → P ((x >>= f) w).2 :=
  fun w h => by
    rw [bind_apply]
    match hw : x w with
    | (.ok a, w') => exact hf a w' (hQP _ (by simpa [hw] using hx w h))
    | (.error e, w') => exact hQP _ (by simpa [hw] using hx w h)

end Keeps

/-- `x`, from a state in `Q`, ends in `P` whenever it completes. -/
def Ensures (Q P : World → Prop) (x : Drv α) : Prop := ∀ w, Q w → ∀ a, (x w).1 = .ok a → P (x w).2

namespace Ensures

variable {Q P R : World → Prop}

theorem bind {x : Drv α} {f : α → Drv β} (hx : Ensures Q R x) (hf : ∀ a, Ensures R P (f a)) :
    Ensures Q P (x >>= f) := fun w hw b h => by
  rw [bind_apply] at h ⊢
  match hxw : x w with
  | (.ok a, w') =>
    have hr := hx w hw a (by rw [hxw])
    rw [hxw] at hr h
    exact hf a w' hr b h
  | (.error e, w') =>
    rw [hxw] at h
    cases h

theorem of_keeps {x : Drv α} (h : Keeps P x) : Ensures P P x := fun w hw _ _ => h w hw

theorem fail (e : Int) : Ensures Q P (Drv.fail e : Drv α) := fun _ _ _ h => by cases h

theorem ite {c : Prop} [Decidable c] {x y : Drv α} (hx : Ensures Q P x) (hy : Ensures Q P y) :
    Ensures Q P (if c then x else y) := by
  split <;> assumption

theorem bind_keeps {x : Drv α} {f : α → Drv β} (hx : Ensures Q P x) (hf : ∀ a, Keeps P (f a)) :
    Ensures Q P (x >>= f) :=
  hx.bind fun a w hw _ _ => hf a w hw

/-- A call that establishes `P` from `Q` and keeps `R` establishes both from both. -/
theorem and_keeps {x : Drv α} (hx : Ensures Q P x) (hk : Keeps R x) :
    Ensures (fun w => Q w ∧ R w) (fun w => P w ∧ R w) x :=
  fun w hw a ha => ⟨hx w hw.1 a ha, hk w hw.2⟩

end Ensures

end Drv

open Drv

/-- `no_os_spi_transfer`: the messages go to the bus, which delivers all of them,
or a prefix before failing.  A completed transfer returns the received bytes. -/
def noOsSpiTransfer (msgs : List SpiMsg) : Drv (List Nat) := fun w =>
  let w' := { w.next.2 with log := w.log ++ msgs.map fun (m : SpiMsg) => Event.frame m.tx }
  match w.next.1 with
  | .ok _ => (.ok (w.imu.xfer msgs).2, { w' with imu := (w.imu.xfer msgs).1 })
  | .fail code k _ => (.error code, { w' with imu := (w.imu.xfer (msgs.take (k msgs))).1 })

section BusAll

variable (p : Xfer → Prop)

theorem noOsSpiTransfer_busAll (msgs : List SpiMsg) :
    Keeps (World.BusAll p) (noOsSpiTransfer msgs) := fun w h => by
  unfold noOsSpiTransfer
  split <;> exact (World.BusAll.next h).2

theorem setDev_busAll (f : AdisDev → AdisDev) : Keeps (World.BusAll p) (setDev f) :=
  fun _ h => h

theorem emit_busAll (e : Event) : Keeps (World.BusAll p) (emit e) := fun _ h => h

end BusAll

@[simp] theorem noOsSpiTransfer_dev (msgs : List SpiMsg) (w : World) :
    (noOsSpiTransfer msgs w).2.dev = w.dev := by
  unfold noOsSpiTransfer; split <;> simp

@[simp] theorem noOsSpiTransfer_gpioHigh (msgs : List SpiMsg) (w : World) :
    (noOsSpiTransfer msgs w).2.gpioHigh = w.gpioHigh := by
  unfold noOsSpiTransfer; split <;> simp

@[simp] theorem noOsSpiTransfer_platform (msgs : List SpiMsg) (w : World) :
    (noOsSpiTransfer msgs w).2.platform = w.platform := by
  unfold noOsSpiTransfer; split <;> simp

/-- The handle is `d` but for its page cache. -/
def HandleIs (d : AdisDev) (w : World) : Prop := ∃ p, w.dev = { d with currentPage := p }

theorem HandleIs.self (w : World) : HandleIs w.dev w := ⟨w.dev.currentPage, rfl⟩

section HandleIs

variable (d : AdisDev)

theorem noOsSpiTransfer_handleIs (msgs : List SpiMsg) : Keeps (HandleIs d) (noOsSpiTransfer msgs) :=
  fun w h => by simpa only [HandleIs, noOsSpiTransfer_dev] using h

theorem setPage_handleIs (q : Int) :
    Keeps (HandleIs d) (setDev fun d' => { d' with currentPage := q }) :=
  fun _ ⟨_, hp⟩ => ⟨q, by simp only [setDev_apply, hp]⟩

end HandleIs

/-- `no_os_spi_write_and_read` for a burst of `len` bytes: the device, in burst
mode, streams its burst frame whatever the driver clocks out; the bytes are the
bus's `data`, cut or padded to `len`.  The register map is untouched. -/
def noOsSpiWriteAndRead (len : Nat) : Drv (List Nat) := fun w =>
  let w' := { w.next.2 with log := w.log ++ [.burst len] }
  match w.next.1 with
  | .ok data => (.ok ((data ++ List.replicate len 0).take len |>.map (· % 256)), w')
  | .fail code _ _ => (.error code, w')

@[simp] theorem noOsSpiWriteAndRead_dev (len : Nat) (w : World) :
    (noOsSpiWriteAndRead len w).2.dev = w.dev := by
  unfold noOsSpiWriteAndRead; split <;> simp

@[simp] theorem noOsSpiWriteAndRead_platform (len : Nat) (w : World) :
    (noOsSpiWriteAndRead len w).2.platform = w.platform := by
  unfold noOsSpiWriteAndRead; split <;> simp

/-- A completed burst exchange returns exactly `len` bytes. -/
theorem noOsSpiWriteAndRead_length {len : Nat} {w : World} {buffer : List Nat}
    (h : (noOsSpiWriteAndRead len w).1 = .ok buffer) : buffer.length = len := by
  unfold noOsSpiWriteAndRead at h
  split at h
  · rw [← Except.ok.inj h]; simp
  · cases h

/-- The device's answer to a completed software-reset command: it restarts on page
`0`. -/
def imuSwReset : Drv Unit := fun w => (.ok (), { w with imu := w.imu.reset })

/-- `no_os_mdelay`. -/
def noOsMdelay (ms : Nat) : Drv Unit := emit (.mdelay ms)

/-- `no_os_udelay`. -/
def noOsUdelay (us : Nat) : Drv Unit := emit (.udelay us)

/-- `no_os_calloc(1, sizeof(*dev))` of the handle: every member zero, or `NULL` when the
platform's code is nonzero.  The world holds the zeroed handle either way; after a
failed allocation `adis_init` returns before the driver uses it. -/
def noOsCalloc : Drv Bool := fun w =>
  (.ok (decide (w.nextCode.1 = 0)), { w.nextCode.2 with dev := AdisDev.calloc })

/-- `no_os_spi_init`: the platform's code; the SPI descriptor it sets up is the bus. -/
def noOsSpiInit : Drv Unit := fun w =>
  (if w.nextCode.1 = 0 then .ok () else .error w.nextCode.1, w.nextCode.2)

/-- `no_os_gpio_get_optional(&dev->gpio_reset, ...)`: no line when the descriptor
describes none, otherwise the line when the platform gets it.  The driver only prints
its code. -/
def noOsGpioGetOptional (described : Bool) : Drv Unit := fun w =>
  (.ok (), { w with dev := { w.dev with gpioReset := described && w.gpioGetOk } })

/-- `no_os_gpio_direction_output(gpio_reset, NO_OS_GPIO_LOW)`: the platform's code; on
success the reset line driven low holds the device in reset. -/
def noOsGpioDirectionOutputLow : Drv Unit := fun w =>
  if w.nextCode.1 = 0 then
    (.ok (), { w.nextCode.2 with gpioHigh := false, log := w.log ++ [.gpio false] })
  else (.error w.nextCode.1, { w.nextCode.2 with log := w.log ++ [.gpio false] })

/-- `no_os_gpio_set_value(gpio_reset, NO_OS_GPIO_HIGH)`: the platform's code; on success
releasing a held reset line resets the device. -/
def noOsGpioSetValueHigh : Drv Unit := fun w =>
  if w.nextCode.1 = 0 then
    (.ok (), { w.nextCode.2 with
      imu := (if w.gpioHigh then w.imu else w.imu.reset)
      gpioHigh := true
      log := w.log ++ [.gpio true] })
  else (.error w.nextCode.1, { w.nextCode.2 with log := w.log ++ [.gpio true] })

/-! ### The platform calls -/

section Platform

variable (p : Xfer → Prop)

theorem noOsCalloc_busAll : Keeps (World.BusAll p) noOsCalloc :=
  fun w h => h.of_bus (World.nextCode_bus w)

theorem noOsSpiInit_busAll : Keeps (World.BusAll p) noOsSpiInit :=
  fun w h => h.of_bus (World.nextCode_bus w)

theorem noOsGpioGetOptional_busAll (described : Bool) :
    Keeps (World.BusAll p) (noOsGpioGetOptional described) := fun _ h => h

theorem noOsGpioDirectionOutputLow_busAll : Keeps (World.BusAll p) noOsGpioDirectionOutputLow :=
  fun w h => h.of_bus (by unfold noOsGpioDirectionOutputLow; split <;> simp)

theorem noOsGpioSetValueHigh_busAll : Keeps (World.BusAll p) noOsGpioSetValueHigh :=
  fun w h => h.of_bus (by unfold noOsGpioSetValueHigh; split <;> simp)

end Platform

@[simp] theorem noOsCalloc_dev (w : World) : (noOsCalloc w).2.dev = AdisDev.calloc := rfl

/-- Each platform call the driver acts on takes one code off the platform. -/
theorem noOsSpiInit_platform (w : World) : (noOsSpiInit w).2.platform = w.nextCode.2.platform :=
  rfl

theorem noOsGpioDirectionOutputLow_platform (w : World) :
    (noOsGpioDirectionOutputLow w).2.platform = w.nextCode.2.platform := by
  unfold noOsGpioDirectionOutputLow; split <;> rfl

theorem noOsGpioSetValueHigh_platform (w : World) :
    (noOsGpioSetValueHigh w).2.platform = w.nextCode.2.platform := by
  unfold noOsGpioSetValueHigh; split <;> rfl

/-- A call whose code the platform gives completes when the code is `0`. -/
theorem noOsSpiInit_ok {w : World} (h : w.nextCode.1 = 0) : (noOsSpiInit w).1 = .ok () := by
  simp only [noOsSpiInit, h, ite_true]

theorem noOsGpioDirectionOutputLow_ok {w : World} (h : w.nextCode.1 = 0) :
    (noOsGpioDirectionOutputLow w).1 = .ok () := by
  simp only [noOsGpioDirectionOutputLow, h, ite_true]

theorem noOsGpioSetValueHigh_ok {w : World} (h : w.nextCode.1 = 0) :
    (noOsGpioSetValueHigh w).1 = .ok () := by
  simp only [noOsGpioSetValueHigh, h, ite_true]

@[simp] theorem noOsSpiInit_dev (w : World) : (noOsSpiInit w).2.dev = w.dev :=
  World.nextCode_dev w

@[simp] theorem noOsGpioDirectionOutputLow_dev (w : World) :
    (noOsGpioDirectionOutputLow w).2.dev = w.dev := by
  unfold noOsGpioDirectionOutputLow; split <;> simp

@[simp] theorem noOsGpioSetValueHigh_dev (w : World) : (noOsGpioSetValueHigh w).2.dev = w.dev := by
  unfold noOsGpioSetValueHigh; split <;> simp

/-- A completed `no_os_gpio_direction_output` has driven the line low. -/
theorem noOsGpioDirectionOutputLow_low {w : World} (h : (noOsGpioDirectionOutputLow w).1 = .ok ()) :
    (noOsGpioDirectionOutputLow w).2.gpioHigh = false := by
  unfold noOsGpioDirectionOutputLow at h ⊢
  by_cases hc : w.nextCode.1 = 0
  · rw [if_pos hc]
  · rw [if_neg hc] at h
    cases h

/-- On a line already high, `no_os_gpio_set_value(..., HIGH)` leaves the device and the
line alone, whatever it returns. -/
theorem noOsGpioSetValueHigh_of_high {w : World} (h : w.gpioHigh = true) :
    (noOsGpioSetValueHigh w).2 = { w.nextCode.2 with log := w.log ++ [.gpio true] } := by
  unfold noOsGpioSetValueHigh
  split
  · simp only [h, ite_true, World.mk.injEq, World.nextCode_imu, World.nextCode_gpioHigh, and_true,
      true_and]
  · rfl

/-- A completed `no_os_gpio_set_value(..., HIGH)` on a line held low resets the device. -/
theorem noOsGpioSetValueHigh_of_low {w : World} (h : w.gpioHigh = false)
    (hok : (noOsGpioSetValueHigh w).1 = .ok ()) :
    (noOsGpioSetValueHigh w).2 =
      { w.nextCode.2 with imu := w.imu.reset, gpioHigh := true, log := w.log ++ [.gpio true] } := by
  unfold noOsGpioSetValueHigh at hok ⊢
  by_cases hc : w.nextCode.1 = 0
  · simp only [h, Bool.false_eq_true, ite_false, if_pos hc]
  · rw [if_neg hc] at hok
    cases hok

end AdisImu
