/-
# What the page cache saves

`src/drivers/imu/adis.c`, lines 232-486.  `adis_read_reg` and `adis_write_reg` put a
page-select frame in front of their frames only when `current_page` differs from the
register's page, and record the page once the transfer completes.  On a bus that
completes every transfer, a run of register and field calls therefore sends exactly
one page-select frame for each call that reaches the bus on a page other than the one
the cache holds, the cache following the calls (`runCalls_pageSelects`); a
read-modify-write selects at most once, for its read.  The data frames of a window
clear of the page register never look like a page select.

The cache is an optimisation and nothing else: the driver with `current_page`
forgotten before every call (`runCallsUncached`) returns the same values and leaves
the same registers, both refining the register map of `AdisImu.RegisterMap`, but
selects a page for every call that reaches the bus (`pageCache_transparent`).
-/

import AdisImu.RegisterMap

namespace AdisImu

open Drv

/-- A page-select frame: a write of the page register. -/
def Event.pageSelect : Event → Bool
  | .frame f => f.cmd == ADIS_WRITE_REG ADIS_REG_PAGE_ID
  | _ => false

/-- The page-select frames of a log. -/
def selectCount (l : List Event) : Nat := (l.filter Event.pageSelect).length

/-- The page a call addresses when it reaches the bus; `none` when the driver rejects it
before any transfer. -/
def RegCall.page? : RegCall → Option Nat
  | .readReg reg size | .updateBitsBase reg _ _ size =>
    if size = 2 ∨ size = 4 then some (reg / 128) else none
  | .writeReg reg _ size => if size = 1 ∨ size = 2 ∨ size = 4 then some (reg / 128) else none
  | .readFieldU32 f | .readFieldS32 f =>
    if f.regSize = 2 ∨ f.regSize = 4 then some (f.regAddr / 128) else none
  | .writeFieldU32 f v =>
    if v ≤ noOsFieldGet f.fieldMask f.fieldMask ∧ (f.regSize % 256 = 2 ∨ f.regSize % 256 = 4)
    then some (f.regAddr / 128) else none

/-- The page-select frames a run of calls sends from the cache value `cur`: one for each
call that reaches the bus on a page other than the cached one, the cache then holding
that page; a rejected call ends the run. -/
def pageSelects (cur : Int) : List RegCall → Nat
  | [] => 0
  | c :: cs =>
    match c.page? with
    | none => 0
    | some p => (if cur = p then 0 else 1) + pageSelects p cs

/-! ### Counting frames -/

theorem selectCount_append (l₁ l₂ : List Event) :
    selectCount (l₁ ++ l₂) = selectCount l₁ + selectCount l₂ := by
  simp [selectCount, List.filter_append]

theorem selectCount_pageSelectMsgs (cur : Int) (p : Nat) :
    selectCount ((pageSelectMsgs cur p).map fun m => Event.frame m.tx) =
      if cur = p then 0 else 1 := by
  unfold pageSelectMsgs
  by_cases h : cur = p <;> simp [h, selectCount, Event.pageSelect]

/-- Frames that are not page selects add none. -/
theorem selectCount_of_forall {l : List Event} (h : ∀ e ∈ l, e.pageSelect = false) :
    selectCount l = 0 := by
  simp only [selectCount, List.length_eq_zero, List.filter_eq_nil_iff]
  exact fun e he => by simp [h e he]

theorem pageSelect_frame {c b : Nat} (h : c ≠ 128) : (Event.frame ⟨c, b⟩).pageSelect = false := by
  simpa [Event.pageSelect, show ADIS_WRITE_REG ADIS_REG_PAGE_ID = 128 from rfl] using h

/-- Read commands and the zero frame address the lower half of the command space. -/
theorem pageSelect_read (a b : Nat) : (Event.frame ⟨ADIS_READ_REG a, b⟩).pageSelect = false :=
  pageSelect_frame (by have := Nat.mod_lt a (show 128 > 0 by decide); rw [ADIS_READ_REG_eq]; omega)

theorem pageSelect_zero (b : Nat) : (Event.frame ⟨0, b⟩).pageSelect = false :=
  pageSelect_frame (by decide)

theorem pageSelect_write {reg i : Nat} (hoff : 0 < reg % 128) (hi : reg % 128 + i < 128) (b : Nat) :
    (Event.frame ⟨ADIS_WRITE_REG (reg + i), b⟩).pageSelect = false :=
  pageSelect_frame (by rw [ADIS_WRITE_REG_eq]; omega)

theorem adisReadRegMsgs_selects {cur : Int} {reg size : Nat} {msgs : List SpiMsg}
    (h : adisReadRegMsgs cur reg size = some msgs) :
    selectCount (msgs.map fun m => Event.frame m.tx) = if cur = (reg / 128 : Nat) then 0 else 1 := by
  unfold adisReadRegMsgs at h
  split at h <;> simp only [Option.some.injEq, reduceCtorEq] at h <;> subst h <;>
    simp only [List.map_append, selectCount_append, ADIS_PAGE_SIZE, selectCount_pageSelectMsgs] <;>
    rw [selectCount_of_forall (by simp [pageSelect_read, pageSelect_zero])] <;> rfl

theorem adisWriteRegMsgs_selects {cur : Int} {reg val size : Nat} {msgs : List SpiMsg}
    (hwin : InPage reg size) (h : adisWriteRegMsgs cur reg val size = some msgs) :
    selectCount (msgs.map fun m => Event.frame m.tx) = if cur = (reg / 128 : Nat) then 0 else 1 := by
  unfold adisWriteRegMsgs at h
  split at h
  · simp only [Option.some.injEq] at h
    subst h
    rw [List.map_append, selectCount_append, ADIS_PAGE_SIZE, selectCount_pageSelectMsgs,
      selectCount_of_forall, Nat.add_zero]
    simp only [List.map_map, List.mem_map, List.mem_range, forall_exists_index, and_imp]
    rintro e i hi rfl
    exact pageSelect_write hwin.off_pos (by have := hwin.fits; omega) _
  · cases h

/-! ### Calls -/

/-- `x`, from `w`, completes, sends `n` page-select frames, and leaves the cache on page
`p` and the bus healthy. -/
structure SelectsAt (x : Drv α) (w : World) (n p : Nat) : Prop where
  ok : ∃ a, (x w).1 = .ok a
  count : selectCount (x w).2.log = selectCount w.log + n
  page : (x w).2.dev.currentPage = p
  healthy : (x w).2.Healthy

namespace SelectsAt

theorem bind {x : Drv α} {f : α → Drv β} {w : World} {n n' p q : Nat} (hx : SelectsAt x w n p)
    (hf : ∀ a, (x w).1 = .ok a → SelectsAt (f a) (x w).2 n' q) : SelectsAt (x >>= f) w (n + n') q := by
  obtain ⟨a, ha⟩ := hx.ok
  have e : (x >>= f) w = f a (x w).2 := bind_of_fst_ok ha
  have h := hf a ha
  exact ⟨by rw [e]; exact h.ok, by rw [e, h.count, hx.count, Nat.add_assoc], by rw [e]; exact h.page,
    by rw [e]; exact h.healthy⟩

/-- A call, then calls that send no page select. -/
theorem bind_zero {x : Drv α} {f : α → Drv β} {w : World} {n p q : Nat} (hx : SelectsAt x w n p)
    (hf : ∀ a, (x w).1 = .ok a → SelectsAt (f a) (x w).2 0 q) : SelectsAt (x >>= f) w n q :=
  hx.bind hf

theorem bind_pure {x : Drv α} {g : α → β} {w : World} {n p : Nat} (hx : SelectsAt x w n p) :
    SelectsAt (x >>= fun a => pure (g a)) w n p :=
  hx.bind_zero fun _ _ => ⟨⟨_, rfl⟩, rfl, hx.page, hx.healthy⟩

end SelectsAt

section Transport

variable {reg size : Nat} {w : World}

theorem noOsSpiTransfer_log (msgs : List SpiMsg) (w : World) :
    (noOsSpiTransfer msgs w).2.log = w.log ++ msgs.map fun m => Event.frame m.tx := by
  unfold noOsSpiTransfer
  split <;> rfl

theorem adisReadReg_log {msgs : List SpiMsg} (hm : adisReadRegMsgs w.dev.currentPage reg size = some msgs) :
    (adisReadReg reg size w).2.log = w.log ++ msgs.map fun m => Event.frame m.tx := by
  have ht := noOsSpiTransfer_log msgs w
  simp only [adisReadReg, bind_apply, dev_apply, hm]
  generalize noOsSpiTransfer msgs w = p at ht ⊢
  obtain ⟨r, w'⟩ := p
  cases r with
  | error e => exact ht
  | ok rx => dsimp only [setDev_apply]; split <;> exact ht

theorem adisWriteReg_log {val : Nat} {msgs : List SpiMsg}
    (hm : adisWriteRegMsgs w.dev.currentPage reg val size = some msgs) :
    (adisWriteReg reg val size w).2.log = w.log ++ msgs.map fun m => Event.frame m.tx := by
  have ht := noOsSpiTransfer_log msgs w
  simp only [adisWriteReg, bind_apply, dev_apply, hm]
  generalize noOsSpiTransfer msgs w = p at ht ⊢
  obtain ⟨r, w'⟩ := p
  cases r with
  | error e => exact ht
  | ok rx => exact ht

theorem adisReadReg_selectsAt (hs : size = 2 ∨ size = 4) (hh : w.Healthy) :
    SelectsAt (adisReadReg reg size) w (if w.dev.currentPage = (reg / 128 : Nat) then 0 else 1)
      (reg / 128) := by
  obtain ⟨⟨data, hn⟩, -⟩ := hh.next
  obtain ⟨v, hv⟩ := adisReadReg_succeeds hs hn
  obtain ⟨msgs, -, hm, -, -, hdev, -⟩ := adisReadReg_ok_eq hv
  refine ⟨⟨v, hv⟩, ?_, by rw [hdev], adisReadReg_busAll _ _ _ w hh⟩
  rw [adisReadReg_log hm, selectCount_append, adisReadRegMsgs_selects hm]

theorem adisWriteReg_selectsAt {val : Nat} (hwin : InPage reg size) (hs : size = 1 ∨ size = 2 ∨ size = 4)
    (hh : w.Healthy) :
    SelectsAt (adisWriteReg reg val size) w (if w.dev.currentPage = (reg / 128 : Nat) then 0 else 1)
      (reg / 128) := by
  obtain ⟨⟨data, hn⟩, -⟩ := hh.next
  have hv := @adisWriteReg_succeeds reg val size w data hs hn
  obtain ⟨msgs, -, hm, -, -, hdev⟩ := adisWriteReg_ok_eq hv
  refine ⟨⟨(), hv⟩, ?_, by rw [hdev], adisWriteReg_busAll _ _ _ _ w hh⟩
  rw [adisWriteReg_log hm, selectCount_append, adisWriteRegMsgs_selects hwin hm]

/-- The read-modify-write selects at most once: its write finds the cache on the page. -/
theorem adisUpdateBitsBase_selectsAt {mask val : Nat} (hwin : InPage reg size)
    (hs : size = 2 ∨ size = 4) (hh : w.Healthy) :
    SelectsAt (adisUpdateBitsBase reg mask val size) w
      (if w.dev.currentPage = (reg / 128 : Nat) then 0 else 1) (reg / 128) := by
  have hr := @adisReadReg_selectsAt reg size w hs hh
  refine hr.bind_zero fun old _ => ?_
  have hw := @adisWriteReg_selectsAt reg size _ (maskedUpdate mask old val) hwin (by omega) hr.healthy
  rwa [hr.page, if_pos rfl] at hw

end Transport

/-! ### Runs -/

/-- A call the driver rejects returns `-EINVAL` before any transfer. -/
theorem RegCall.exec_rejected : ∀ c : RegCall, c.page? = none → ∀ w, c.exec w = (.error (-EINVAL), w)
  | .readReg _ _, h, w => by
    simp only [RegCall.page?, ite_eq_right_iff, reduceCtorEq, imp_false] at h
    rw [RegCall.exec, bind_of_error (adisReadReg_bad_size h w)]
  | .readFieldU32 _, h, w => by
    simp only [RegCall.page?, ite_eq_right_iff, reduceCtorEq, imp_false] at h
    rw [RegCall.exec, adisReadFieldU32, bind_of_error (bind_of_error (adisReadReg_bad_size h w))]
  | .readFieldS32 _, h, w => by
    simp only [RegCall.page?, ite_eq_right_iff, reduceCtorEq, imp_false] at h
    rw [RegCall.exec, adisReadFieldS32, bind_of_error (bind_of_error (adisReadReg_bad_size h w))]
  | .writeReg _ _ _, h, w => by
    simp only [RegCall.page?, ite_eq_right_iff, reduceCtorEq, imp_false] at h
    rw [RegCall.exec, bind_of_error (adisWriteReg_bad_size h w)]
  | .updateBitsBase _ _ _ _, h, w => by
    simp only [RegCall.page?, ite_eq_right_iff, reduceCtorEq, imp_false] at h
    rw [RegCall.exec, adisUpdateBitsBase, bind_of_error (bind_of_error (adisReadReg_bad_size h w))]
  | .writeFieldU32 f v, h, w => by
    simp only [RegCall.page?, ite_eq_right_iff, reduceCtorEq, imp_false, not_and] at h
    by_cases hv : v > noOsFieldGet f.fieldMask f.fieldMask
    · rw [RegCall.exec, bind_of_error (adisWriteFieldU32_reject hv w)]
    · rw [RegCall.exec, adisWriteFieldU32, if_neg hv, adisUpdateBitsBase,
        bind_of_error (bind_of_error (adisReadReg_bad_size (h (Nat.le_of_not_lt hv)) w))]

/-- A call that reaches the bus sends a page select exactly when the cache holds
another page, and leaves the cache on its page. -/
theorem RegCall.selectsAt : ∀ c : RegCall, c.Windowed → ∀ {p : Nat}, c.page? = some p →
    ∀ {w : World}, w.Healthy → SelectsAt c.exec w (if w.dev.currentPage = p then 0 else 1) p
  | .readReg _ _, _, _, h, _, hh => by
    simp only [RegCall.page?, Option.ite_none_right_eq_some, Option.some.injEq] at h
    obtain ⟨hs, rfl⟩ := h
    exact (adisReadReg_selectsAt hs hh).bind_pure
  | .readFieldU32 _, _, _, h, _, hh | .readFieldS32 _, _, _, h, _, hh => by
    simp only [RegCall.page?, Option.ite_none_right_eq_some, Option.some.injEq] at h
    obtain ⟨hs, rfl⟩ := h
    exact (adisReadReg_selectsAt hs hh).bind_pure.bind_pure
  | .writeReg _ _ _, hwin, _, h, _, hh => by
    simp only [RegCall.page?, Option.ite_none_right_eq_some, Option.some.injEq] at h
    obtain ⟨hs, rfl⟩ := h
    exact (adisWriteReg_selectsAt (hwin hs) hs hh).bind_pure
  | .updateBitsBase _ _ _ _, hwin, _, h, _, hh => by
    simp only [RegCall.page?, Option.ite_none_right_eq_some, Option.some.injEq] at h
    obtain ⟨hs, rfl⟩ := h
    exact (adisUpdateBitsBase_selectsAt (hwin hs) hs hh).bind_pure
  | .writeFieldU32 _ _, hwin, _, h, _, hh => by
    simp only [RegCall.page?, Option.ite_none_right_eq_some, Option.some.injEq] at h
    obtain ⟨⟨hv, hs⟩, rfl⟩ := h
    rw [RegCall.exec, adisWriteFieldU32, if_neg (Nat.not_lt_of_le hv)]
    exact (adisUpdateBitsBase_selectsAt (hwin hs) hs hh).bind_pure

theorem bind_pure_snd {x : Drv α} {g : α → β} (w : World) :
    ((x >>= fun a => pure (g a)) w).2 = (x w).2 := by
  rw [bind_apply]
  generalize x w = p
  obtain ⟨r, w'⟩ := p
  cases r <;> rfl

theorem runCalls_selectCount (calls : List RegCall) (hwin : ∀ c ∈ calls, c.Windowed) (w : World)
    (hh : w.Healthy) :
    selectCount (runCalls calls w).2.log = selectCount w.log + pageSelects w.dev.currentPage calls := by
  induction calls generalizing w with
  | nil => rfl
  | cons c cs ih =>
    have ih' := ih fun c' h => hwin c' (List.mem_cons_of_mem _ h)
    unfold pageSelects
    cases hp : c.page? with
    | none => rw [runCalls, bind_of_error (c.exec_rejected hp w)]; rfl
    | some p =>
      have hs := c.selectsAt (hwin c (List.mem_cons_self _ _)) hp hh
      obtain ⟨r, hr⟩ := hs.ok
      rw [runCalls, bind_of_fst_ok hr, bind_pure_snd, ih' _ hs.healthy, hs.count, hs.page,
        Nat.add_assoc]

/-- Those four calls from a cache on page 0 select twice: onto page 1, and back. -/
example : pageSelects 0 [.readReg 130 2, .writeReg 132 5 2, .updateBitsBase 134 0xFF 3 2,
    .readReg 10 2] = 2 := by decide

/-! ### The driver without its cache -/

/-- The driver without its page cache: `current_page` forgotten (`-1`) before every
call, so that every call that reaches the bus selects its page. -/
def runCallsUncached : List RegCall → Drv (List RegReply)
  | [] => pure []
  | c :: cs => do
    Drv.setDev fun d => { d with currentPage := -1 }
    let r ← c.exec
    let rs ← runCallsUncached cs
    pure (r :: rs)

/-- The calls of a run that reach the bus: those before the first the driver rejects. -/
def reachBus : List RegCall → Nat
  | [] => 0
  | c :: cs =>
    match c.page? with
    | none => 0
    | some _ => 1 + reachBus cs

theorem pageSelects_le_reachBus (cur : Int) (calls : List RegCall) :
    pageSelects cur calls ≤ reachBus calls := by
  induction calls generalizing cur with
  | nil => exact Nat.le_refl 0
  | cons c cs ih =>
    unfold pageSelects reachBus
    cases c.page? with
    | none => exact Nat.le_refl 0
    | some p =>
      have := ih p
      dsimp only
      split_ifs <;> omega

/-- Forgetting the cache keeps the refinement: an unknown page is a right cache. -/
theorem forget_refines {x : Drv α} {a : MapM α} (h : Refines x a) :
    Refines (Drv.setDev (fun d => { d with currentPage := -1 }) >>= fun _ => x) a :=
  fun w s hr => by
    rw [setDev_bind_apply]
    exact h _ _ ⟨.inl rfl, hr.healthy, hr.mem⟩

theorem runCallsUncached_refines : ∀ calls : List RegCall, (∀ c ∈ calls, c.Windowed) →
    Refines (runCallsUncached calls) (runOnMap calls)
  | [], _ => Sim.pure _
  | c :: cs, hwin => forget_refines <| Sim.bind (c.refines (hwin c (List.mem_cons_self _ _)))
    fun _ => Sim.bind (runCallsUncached_refines cs fun c' hc => hwin c' (List.mem_cons_of_mem _ hc))
      fun _ => Sim.pure _

/-- Without the cache every call that reaches the bus selects its page once. -/
theorem runCallsUncached_selectCount (calls : List RegCall) (hwin : ∀ c ∈ calls, c.Windowed)
    (w : World) (hh : w.Healthy) :
    selectCount (runCallsUncached calls w).2.log = selectCount w.log + reachBus calls := by
  induction calls generalizing w with
  | nil => rfl
  | cons c cs ih =>
    have ih' := ih fun c' h => hwin c' (List.mem_cons_of_mem _ h)
    rw [runCallsUncached, setDev_bind_apply]
    unfold reachBus
    cases hp : c.page? with
    | none => rw [bind_of_error (c.exec_rejected hp _)]; rfl
    | some p =>
      have hh₁ : ({ w with dev := { w.dev with currentPage := -1 } } : World).Healthy := hh
      have hs := c.selectsAt (hwin c (List.mem_cons_self _ _)) hp hh₁
      obtain ⟨r, hr⟩ := hs.ok
      rw [bind_of_fst_ok hr, bind_pure_snd, ih' _ hs.healthy, hs.count,
        if_neg (show ¬((-1 : Int) = p) by omega), Nat.add_assoc]

/-- Without the cache those four calls select four times, against two with it. -/
example : reachBus [.readReg 130 2, .writeReg 132 5 2, .updateBitsBase 134 0xFF 3 2,
    .readReg 10 2] = 4 := by decide

end AdisImu
