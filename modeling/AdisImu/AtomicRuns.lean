/-
# Runs on a bus whose failures deliver nothing

`src/drivers/imu/adis.c`, lines 232-486.  `adis_read_reg` and `adis_write_reg` send all
their frames in one `no_os_spi_transfer` and record the page only when it returns `0`.
On a bus whose failing transfers deliver no frame (`World.AtomicFailures`) a call that
fails therefore leaves the device and the handle as they were: the page cache stays
right, and no register is left half written, a 4-byte one included.  A read-modify-write
whose write fails has only read.  So each register and field call either does what it
does on the register map of `AdisImu.RegisterMap`, or fails and leaves the map as it was
(`RegCall.simOrFail`), and a run of them that fails leaves the device holding the map
after the calls before the failing one (`runCalls_atomic`).
-/

import AdisImu.RegisterMap
import AdisImu.Rejection

namespace AdisImu

open Drv

/-- The map is the device's bytes, the page cache is unknown or right, and a failing
transfer delivers nothing. -/
structure AtomicRel (w : World) (m : Nat → Nat) : Prop where
  page : PageOk w
  atomic : w.AtomicFailures
  mem : w.imu.mem = m

/-- A call that leaves device and handle and keeps the bus atomic keeps the relation to
the map as it was. -/
theorem AtomicRel.of_same {w w' : World} {m : Nat → Nat} (h : AtomicRel w m)
    (himu : w'.imu = w.imu) (hdev : w'.dev = w.dev) (ha : w'.AtomicFailures) : AtomicRel w' m :=
  ⟨by rw [PageOk, himu, hdev]; exact h.page, ha, by rw [himu]; exact h.mem⟩

/-- `x` simulates `a` under `R`, or returns an error having left a world related to the
state before. -/
def SimOrFail (R : World → σ → Prop) (x : Drv α) (a : StoreM σ α) : Prop :=
  ∀ w s, R w s → ((x w).1 = (a s).1 ∧ R (x w).2 (a s).2) ∨ ∃ e, (x w).1 = .error e ∧ R (x w).2 s

namespace SimOrFail

variable {R : World → σ → Prop}

theorem of_sim {x : Drv α} {a : StoreM σ α} (h : Sim R x a) : SimOrFail R x a :=
  fun w s hr => .inl (h w s hr)

theorem error_bind {x : Drv α} {f : α → Drv β} {w : World} {e : Int} (he : (x w).1 = .error e) :
    (x >>= f) w = (.error e, (x w).2) :=
  bind_of_error (Prod.ext he rfl)

/-- A call, then calls that cannot fail on their own. -/
theorem bind_sim {x : Drv α} {a : StoreM σ α} {f : α → Drv β} {b : α → StoreM σ β}
    (hx : SimOrFail R x a) (hf : ∀ v, Sim R (f v) (b v)) : SimOrFail R (x >>= f) (a >>= b) :=
  fun w s h => (hx w s h).elim (fun ⟨h₁, h₂⟩ => .inl (Sim.bind_at h₁ h₂ hf))
    fun ⟨e, he, h₂⟩ => .inr ⟨e, by rw [error_bind he], by rw [error_bind he]; exact h₂⟩

/-- A call that changes no state on the map, then calls that simulate or fail. -/
theorem bind_read {x : Drv α} {a : StoreM σ α} {f : α → Drv β} {b : α → StoreM σ β}
    (hx : SimOrFail R x a) (ha : ∀ s, (a s).2 = s) (hf : ∀ v, SimOrFail R (f v) (b v)) :
    SimOrFail R (x >>= f) (a >>= b) := fun w s h => by
  rcases hx w s h with ⟨h₁, h₂⟩ | ⟨e, he, h₂⟩
  · rw [Drv.bind_apply, StoreM.bind_apply]
    rw [ha] at h₂
    generalize x w = p at h₁ h₂ ⊢
    generalize hq : a s = q at h₁
    obtain ⟨r, w'⟩ := p
    obtain ⟨r', s'⟩ := q
    have hs : s' = s := by rw [← ha s, hq]
    dsimp only at h₁ h₂
    subst h₁ hs
    cases r with
    | error e => exact .inl ⟨rfl, h₂⟩
    | ok v => exact hf v w' s' h₂
  · exact .inr ⟨e, by rw [error_bind he], by rw [error_bind he]; exact h₂⟩

theorem ite {c : Prop} [Decidable c] {x y : Drv α} {a b : StoreM σ α} (hx : SimOrFail R x a)
    (hy : SimOrFail R y b) : SimOrFail R (if c then x else y) (if c then a else b) := by
  split <;> assumption

end SimOrFail

/-! ### The transport and the field calls -/

section Calls

variable {reg size : Nat}

/-- **`adis_read_reg` does the map's read or fails having changed nothing.** -/
theorem adisReadReg_simOrFail (hwin : size = 2 ∨ size = 4 → InPage reg size) :
    SimOrFail AtomicRel (adisReadReg reg size) (RegMap.readReg reg size) := fun w _ h => by
  have ha := adisReadReg_busAll _ reg size w h.atomic
  cases hr : (adisReadReg reg size w).1 with
  | error e =>
    obtain ⟨himu, hdev⟩ := adisReadReg_error h.atomic hr
    exact .inr ⟨e, rfl, h.of_same himu hdev ha⟩
  | ok v =>
    have hs := adisReadReg_ok_size hr
    obtain ⟨rfl, hmem, hpage, hcur⟩ := adisReadReg_ok (hwin hs) h.page hr
    rw [← h.mem, RegMap.readReg_mem hs]
    exact .inl ⟨rfl, .inr (by rw [hcur, hpage]), ha, hmem⟩

/-- **`adis_write_reg` does the map's write or fails having changed nothing**: no
register is left half written. -/
theorem adisWriteReg_simOrFail {val : Nat} (hwin : size = 1 ∨ size = 2 ∨ size = 4 → InPage reg size) :
    SimOrFail AtomicRel (adisWriteReg reg val size) (RegMap.writeReg reg val size) := fun w _ h => by
  have ha := adisWriteReg_busAll _ reg val size w h.atomic
  cases hr : (adisWriteReg reg val size w).1 with
  | error e =>
    obtain ⟨himu, hdev⟩ := adisWriteReg_error h.atomic hr
    exact .inr ⟨e, rfl, h.of_same himu hdev ha⟩
  | ok u =>
    have hs : size = 1 ∨ size = 2 ∨ size = 4 := by
      by_contra hs
      rw [adisWriteReg_bad_size hs] at hr
      cases hr
    obtain ⟨hmem, hpage, hcur⟩ := adisWriteReg_ok (hwin hs) h.page hr
    rw [← h.mem, RegMap.writeReg, if_pos (by omega)]
    exact .inl ⟨rfl, .inr (by rw [hcur, hpage]), ha, funext hmem⟩

/-- A read-modify-write whose write fails has only read. -/
theorem adisUpdateBitsBase_simOrFail {mask val : Nat} (hwin : size = 2 ∨ size = 4 → InPage reg size) :
    SimOrFail AtomicRel (adisUpdateBitsBase reg mask val size)
      (RegMap.updateBitsBase reg mask val size) := by
  by_cases hs : size = 2 ∨ size = 4
  · exact (adisReadReg_simOrFail hwin).bind_read (fun _ => rfl) fun _ =>
      adisWriteReg_simOrFail fun _ => hwin hs
  · intro w _ h
    rw [adisUpdateBitsBase, bind_of_error (adisReadReg_bad_size hs w), RegMap.updateBitsBase,
      StoreM.bind_apply, RegMap.readReg_bad hs]
    exact .inl ⟨rfl, h⟩

end Calls

/-- One call on an atomic bus does what it does on the map, or fails and leaves it. -/
theorem RegCall.simOrFail : ∀ c : RegCall, c.Windowed → SimOrFail AtomicRel c.exec c.onMap
  | .readReg _ _, h => (adisReadReg_simOrFail h).bind_sim fun _ => Sim.pure _
  | .writeReg _ _ _, h => (adisWriteReg_simOrFail h).bind_sim fun _ => Sim.pure _
  | .updateBitsBase _ _ _ _, h => (adisUpdateBitsBase_simOrFail h).bind_sim fun _ => Sim.pure _
  | .readFieldU32 _, h =>
    ((adisReadReg_simOrFail h).bind_sim fun _ => Sim.pure _).bind_sim fun _ => Sim.pure _
  | .readFieldS32 _, h =>
    ((adisReadReg_simOrFail h).bind_sim fun _ => Sim.pure _).bind_sim fun _ => Sim.pure _
  | .writeFieldU32 _ _, h =>
    (SimOrFail.ite (.of_sim (Sim.fail _)) (adisUpdateBitsBase_simOrFail h)).bind_sim
      fun _ => Sim.pure _

/-! ### Runs -/

/-- A run whose calls each simulate or fail: it agrees with the map, or its call at
position `k` fails after the driver and the map have completed the calls before it alike,
and the run is related to the map's state after them. -/
theorem runCalls_prefix {R : World → (Nat → Nat) → Prop} :
    ∀ calls : List RegCall, (∀ c ∈ calls, SimOrFail R c.exec c.onMap) → ∀ w s, R w s →
      ((runCalls calls w).1 = (runOnMap calls s).1 ∧ R (runCalls calls w).2 (runOnMap calls s).2) ∨
        ∃ k < calls.length, ∃ e rs, (runCalls calls w).1 = .error e ∧
          (runOnMap (calls.take k) s).1 = .ok rs ∧
          R (runCalls calls w).2 (runOnMap (calls.take k) s).2 ∧
          (runCalls (calls.take k) w).1 = .ok rs ∧
          ∃ c, calls[k]? = some c ∧ (c.exec (runCalls (calls.take k) w).2).1 = .error e
  | [], _, _, _, h => .inl ⟨rfl, h⟩
  | c :: cs, hc, w, s, h => by
    have ih := runCalls_prefix cs fun c' h' => hc c' (List.mem_cons_of_mem _ h')
    rcases hc c (List.mem_cons_self _ _) w s h with ⟨h₁, h₂⟩ | ⟨e, he, h₂⟩
    · rw [runCalls, runOnMap, Drv.bind_apply, StoreM.bind_apply]
      generalize hp : c.exec w = p at h₁ h₂ ⊢
      generalize hq : c.onMap s = q at h₁ h₂ ⊢
      obtain ⟨r, w'⟩ := p
      obtain ⟨r', s'⟩ := q
      dsimp only at h₁ h₂ ⊢
      subst h₁
      cases r with
      | error e => exact .inl ⟨rfl, h₂⟩
      | ok v =>
        dsimp only
        rcases ih w' s' h₂ with ⟨h₃, h₄⟩ | ⟨k, hk, e, rs, h₃, h₄, h₅, h₆, c', hc', h₇⟩
        · exact .inl (Sim.bind_at h₃ h₄ fun _ => Sim.pure _)
        · have hm : runOnMap ((c :: cs).take (k + 1)) s =
              (.ok (v :: rs), (runOnMap (cs.take k) s').2) := by
            rw [List.take_succ_cons, runOnMap, StoreM.bind_apply, hq]
            exact StoreM.bind_of_fst_ok h₄
          have hd : runCalls ((c :: cs).take (k + 1)) w =
              (.ok (v :: rs), (runCalls (cs.take k) w').2) := by
            rw [List.take_succ_cons, runCalls, Drv.bind_apply, hp]
            exact Drv.bind_of_fst_ok h₆
          exact .inr ⟨k + 1, Nat.succ_lt_succ hk, e, v :: rs, by rw [SimOrFail.error_bind h₃],
            by rw [hm], by rw [hm, SimOrFail.error_bind h₃]; exact h₅, by rw [hd], c',
            by rw [List.getElem?_cons_succ]; exact hc', by rw [hd]; exact h₇⟩
    · exact .inr ⟨0, Nat.zero_lt_succ _, e, [], by rw [runCalls, SimOrFail.error_bind he],
        rfl, by rw [runCalls, SimOrFail.error_bind he]; exact h₂, rfl, c, List.getElem?_cons_zero, he⟩

/-- **A failed run leaves a prefix of its calls, never half a call.**  On a bus whose
failing transfers deliver no frame, from a handle whose page cache is unknown or names
the device's page, a sequence of register and field calls whose windows lie inside one
page below 256 clear of the page register either returns what the same calls return
on the device's bytes taken as a register map and leaves the device's bytes equal to
the map's, or returns the error of a failed transfer with the device holding exactly
the map after the calls before the failing one, which all completed there.  The failing
call is the one at that position: the driver's run of the calls before it returns what
the map returns, and the call itself then returns the run's error.  In either case the
page cache is still right. -/
theorem runCalls_atomic (calls : List RegCall) (hwin : ∀ c ∈ calls, c.Windowed) (w : World)
    (hp : PageOk w) (ha : w.AtomicFailures) :
    PageOk (runCalls calls w).2 ∧
      (((runCalls calls w).1 = (runOnMap calls w.imu.mem).1 ∧
          (runCalls calls w).2.imu.mem = (runOnMap calls w.imu.mem).2) ∨
        ∃ k < calls.length, ∃ e rs, (runCalls calls w).1 = .error e ∧
          (runOnMap (calls.take k) w.imu.mem).1 = .ok rs ∧
          (runCalls calls w).2.imu.mem = (runOnMap (calls.take k) w.imu.mem).2 ∧
          (runCalls (calls.take k) w).1 = .ok rs ∧
          ∃ c, calls[k]? = some c ∧ (c.exec (runCalls (calls.take k) w).2).1 = .error e) := by
  rcases runCalls_prefix calls (fun c hc => c.simOrFail (hwin c hc)) w _ ⟨hp, ha, rfl⟩ with
    ⟨h₁, h₂⟩ | ⟨k, hk, e, rs, h₁, h₃, h₂, h₄⟩
  · exact ⟨h₂.page, .inl ⟨h₁, h₂.mem⟩⟩
  · exact ⟨h₂.page, .inr ⟨k, hk, e, rs, h₁, h₃, h₂.mem, h₄⟩⟩

/-- `runCalls_atomic` from a blank device over a bus that completes one transfer and
fails the next before delivering a frame: two 2-byte writes. -/
theorem runCalls_atomic_second_fails :
    PageOk (runCalls [.writeReg 130 7 2, .writeReg 132 9 2]
        { World.blank with bus := [.ok [], .fail (-5) 0 (by decide)] }).2 ∧
      (((runCalls [.writeReg 130 7 2, .writeReg 132 9 2]
            { World.blank with bus := [.ok [], .fail (-5) 0 (by decide)] }).1 =
          (runOnMap [.writeReg 130 7 2, .writeReg 132 9 2] Imu.blank.mem).1 ∧
          (runCalls [.writeReg 130 7 2, .writeReg 132 9 2]
            { World.blank with bus := [.ok [], .fail (-5) 0 (by decide)] }).2.imu.mem =
          (runOnMap [.writeReg 130 7 2, .writeReg 132 9 2] Imu.blank.mem).2) ∨
        ∃ k < 2, ∃ e rs, (runCalls [.writeReg 130 7 2, .writeReg 132 9 2]
            { World.blank with bus := [.ok [], .fail (-5) 0 (by decide)] }).1 = .error e ∧
          (runOnMap ([RegCall.writeReg 130 7 2, .writeReg 132 9 2].take k) Imu.blank.mem).1 =
            .ok rs ∧
          (runCalls [.writeReg 130 7 2, .writeReg 132 9 2]
            { World.blank with bus := [.ok [], .fail (-5) 0 (by decide)] }).2.imu.mem =
          (runOnMap ([RegCall.writeReg 130 7 2, .writeReg 132 9 2].take k) Imu.blank.mem).2 ∧
          (runCalls ([RegCall.writeReg 130 7 2, .writeReg 132 9 2].take k)
            { World.blank with bus := [.ok [], .fail (-5) 0 (by decide)] }).1 = .ok rs ∧
          ∃ c, [RegCall.writeReg 130 7 2, .writeReg 132 9 2][k]? = some c ∧
            (c.exec (runCalls ([RegCall.writeReg 130 7 2, .writeReg 132 9 2].take k)
              { World.blank with bus := [.ok [], .fail (-5) 0 (by decide)] }).2).1 = .error e) :=
  runCalls_atomic _ (fun c hc => by
    simp only [List.mem_cons, List.mem_singleton, List.not_mem_nil, or_false] at hc
    rcases hc with rfl | rfl <;> exact fun _ => ⟨by decide, by decide, by decide⟩)
    _ (.inr rfl) fun x hx => by
      simp only [List.mem_cons, List.mem_singleton, List.not_mem_nil, or_false] at hx
      rcases hx with rfl | rfl
      exacts [trivial, fun _ => rfl]

end AdisImu
