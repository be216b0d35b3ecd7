/-
# The burst read and its checksum

`src/drivers/imu/adis.c`, lines 488-503 and 1762-1814.  A burst read clocks the
two command bytes `0x68 0x00` and then a frame of `burst_size_bytes[sel]` bytes
(20 for 16-bit fields, 32 for 32-bit fields) in one exchange.  The frame's last
two bytes, big-endian, are the sum of the bytes before them:
`adis_validate_checksum` subtracts them one by one from the trailer in a
`uint16_t` and accepts a zero.  A payload of at most 253 bytes sums below
`2^16`, so the wrapping subtraction decides exactly the equation over the
naturals (`adisValidateChecksum_iff`).

A frame that passes is copied, up to the requested size, into the caller's
buffer, and the diagnostic flags are decoded from the frame.  The decode is
handed `buffer[ADIS_READ_BURST_DATA_CMD_SIZE]`, the first byte of the frame —
the high byte of the big-endian diagnostic word — where a status read decodes
the whole word (`adisReadBurstData_stat`, `adisReadBurstData_diag_byte`).

A read ends in one of three ways (`adisReadBurstData_outcomes`): a failed exchange
returns its code before the checksum; a rejected frame sets `checksum_err` and returns
`-EINVAL`; an accepted frame clears it and is copied.  Only the last reaches the
`memcpy`, so only it changes the caller's buffer (`burstDataAfter`).
-/

import AdisImu.Diag

namespace AdisImu

open Drv

/-- `ADIS_CHECKSUM_SIZE`. -/
def ADIS_CHECKSUM_SIZE : Nat := 2

/-- `ADIS_READ_BURST_DATA_CMD_SIZE`. -/
def ADIS_READ_BURST_DATA_CMD_SIZE : Nat := 2

/-- `burst_size_bytes[burst_size_selection]`: `ADIS_MSG_SIZE_16_BIT_BURST` and
`ADIS_MSG_SIZE_32_BIT_BURST`. -/
def burstSizeBytes : Fin 2 → Nat
  | 0 => 20
  | 1 => 32

/-- One pass of the loop of `adis_validate_checksum`: `checksum -= buffer[i]` in a
`uint16_t`. -/
def checksumStep (checksum b : Nat) : Nat := (((checksum : Int) - b) % 2 ^ 16).toNat

/-- `adis_validate_checksum`: the big-endian trailer minus the bytes before it, in
a `uint16_t`, is zero. -/
def adisValidateChecksum (buffer : List Nat) (size : Nat) : Bool :=
  (buffer.take (size - ADIS_CHECKSUM_SIZE)).foldl checksumStep
    (noOsGetUnalignedBe16 (buffer.drop (size - ADIS_CHECKSUM_SIZE))) == 0

/-- The running subtraction is the trailer minus the sum, modulo `2^16`. -/
theorem foldl_checksumStep (l : List Nat) {c : Nat} (hc : c < 2 ^ 16) :
    ((l.foldl checksumStep c : Nat) : Int) = ((c : Int) - l.sum) % 2 ^ 16 := by
  induction l generalizing c with
  | nil => simp only [List.foldl_nil, List.sum_nil, Nat.cast_zero, sub_zero]; omega
  | cons x l ih =>
    rw [List.foldl_cons, ih (by unfold checksumStep; omega), List.sum_cons]
    unfold checksumStep
    push_cast
    omega

theorem sum_le_of_bytes {l : List Nat} (h : ∀ x ∈ l, x < 256) : l.sum ≤ 255 * l.length := by
  induction l with
  | nil => simp
  | cons x l ih =>
    have := h x (List.mem_cons_self _ _)
    have := ih fun y hy => h y (List.mem_cons_of_mem _ hy)
    simp only [List.sum_cons, List.length_cons]
    omega

/-- **The checksum decides the sum.**  For a buffer of `2 ≤ n ≤ 255` bytes,
`adis_validate_checksum` accepts iff the big-endian trailer equals the sum of the
`n - 2` bytes before it, over the naturals. -/
theorem adisValidateChecksum_iff {n : Nat} {b : List Nat} (hn2 : 2 ≤ n) (hn : n ≤ 255)
    (hlen : b.length = n) (hbytes : ∀ x ∈ b, x < 256) :
    adisValidateChecksum b n = true ↔ 256 * b.getD (n - 2) 0 + b.getD (n - 1) 0 = (b.take (n - 2)).sum := by
  have hhi : b.getD (n - 2) 0 < 256 := by
    rw [List.getD_eq_getElem _ _ (by omega)]; exact hbytes _ (List.getElem_mem _)
  have hlo : b.getD (n - 1) 0 < 256 := by
    rw [List.getD_eq_getElem _ _ (by omega)]; exact hbytes _ (List.getElem_mem _)
  have htrailer : noOsGetUnalignedBe16 (b.drop (n - ADIS_CHECKSUM_SIZE)) =
      256 * b.getD (n - 2) 0 + b.getD (n - 1) 0 := by
    simp only [noOsGetUnalignedBe16, ADIS_CHECKSUM_SIZE, List.getD_eq_getElem?_getD,
      List.getElem?_drop, show n - 2 + 1 = n - 1 by omega, Nat.add_zero]
    omega
  have hsum := @sum_le_of_bytes (b.take (n - 2)) fun x hx => hbytes x (List.mem_of_mem_take hx)
  rw [List.length_take, hlen, Nat.min_eq_left (by omega)] at hsum
  have hfold := @foldl_checksumStep (b.take (n - ADIS_CHECKSUM_SIZE))
    (256 * b.getD (n - 2) 0 + b.getD (n - 1) 0) (by omega)
  rw [adisValidateChecksum, htrailer, beq_iff_eq]
  simp only [ADIS_CHECKSUM_SIZE] at hfold ⊢
  omega

/-- The spec's checksum example: payload `1 2 3` and trailer `0x0006`. -/
theorem adisValidateChecksum_iff_example :
    2 ≤ 5 ∧ 5 ≤ 255 ∧ [1, 2, 3, 0, 6].length = 5 ∧ (∀ x ∈ [1, 2, 3, 0, 6], x < 256) ∧
    (adisValidateChecksum [1, 2, 3, 0, 6] 5 = true ↔
      256 * [1, 2, 3, 0, 6].getD (5 - 2) 0 + [1, 2, 3, 0, 6].getD (5 - 1) 0 =
        ([1, 2, 3, 0, 6].take (5 - 2)).sum) :=
  ⟨by decide, by decide, rfl, by decide, adisValidateChecksum_iff (by decide) (by decide) rfl (by decide)⟩

/-! ### The burst read -/

/-- `adis_read_burst_data`: the clamped size, one exchange of the command and the
frame, the checksum, and on success the copy into the caller's buffer (`burstData`,
bytes, returned with its first bytes replaced) and the decode of the frame's first
byte. -/
def adisReadBurstData (info : AdisChipInfo) (burstDataSize : Nat) (burstData : List Nat)
    (burstSizeSelection : Fin 2) : Drv (List Nat) := do
  let msgSize := burstSizeBytes burstSizeSelection
  let burstDataSize :=
    if burstDataSize > msgSize - ADIS_CHECKSUM_SIZE then msgSize - ADIS_CHECKSUM_SIZE
    else burstDataSize
  let buffer ← noOsSpiWriteAndRead (msgSize + ADIS_READ_BURST_DATA_CMD_SIZE)
  let frame := buffer.drop ADIS_READ_BURST_DATA_CMD_SIZE
  if !adisValidateChecksum frame msgSize then
    Drv.setDev fun d => { d with diagFlags := { d.diagFlags with checksumErr := true } }
    Drv.fail (-EINVAL)
  else
    Drv.setDev fun d => { d with diagFlags := { d.diagFlags with checksumErr := false } }
    adisUpdateDiagFlags info (frame.getD 0 0)
    pure (frame.take burstDataSize ++ burstData.drop burstDataSize)

/-- **The burst decodes one byte of the diagnostic word.**  A 20-byte burst whose
payload starts with the word `0x0002` (big-endian, bytes `0x00, 0x02`) and passes the
checksum leaves `data_path_overrun` clear under a mask of `0x0002`, while a direct read of
the same word from the status register sets it: `adis_update_diag_flags` is handed
`buffer[2]`, the word's high byte, where the status read hands it the whole word. -/
theorem adisReadBurstData_diag_byte (info : AdisChipInfo) :
    (∃ out, (adisReadBurstData
      { info with diagMask := Function.update info.diagMask .dataPathOverrun 2 } 18 [] 0
      { World.blank with bus := [.ok ([0x68, 0, 0, 2] ++ List.replicate 16 0 ++ [0, 2])] }).1 =
        .ok out) ∧
    (adisReadBurstData
      { info with diagMask := Function.update info.diagMask .dataPathOverrun 2 } 18 [] 0
      { World.blank with bus := [.ok ([0x68, 0, 0, 2] ++ List.replicate 16 0 ++ [0, 2])] }).2.dev.diagFlags.stat
        .dataPathOverrun = false ∧
    (adisReadDiagStat
      { info with fieldMap := Function.update info.fieldMap .diagStat ⟨2, 2, 0xFFFF⟩,
                  diagMask := Function.update info.diagMask .dataPathOverrun 2 }
      { World.blank with imu := ⟨0, fun a => if a = 2 then 2 else 0, 0, fun a => by
        dsimp only; split <;> decide⟩ }).2.dev.diagFlags.stat .dataPathOverrun = true := by
  refine ⟨⟨_, rfl⟩, ?_, ?_⟩
  · show decodeDiag _ 0 _ = _
    simp [decodeDiag]
  · simp only [adisReadDiagStat, Function.update_same]
    show decodeDiag _ 2 _ = _
    simp [decodeDiag]


/-! ### The three outcomes -/

/-- The caller's `burst_data` after a call that was handed `burstData` and returned `r`:
the copy on `0`; on an error what it held, since every error path of
`adis_read_burst_data` returns before its `memcpy`. -/
def burstDataAfter (burstData : List Nat) : Except Int (List Nat) → List Nat
  | .ok out => out
  | .error _ => burstData

/-- A copy of the first `k` entries of `l` over `m`, read entry by entry. -/
theorem getD_take_append_drop {l m : List Nat} {k : Nat} (hk : k ≤ l.length) (i : Nat) :
    (l.take k ++ m.drop k).getD i 0 = if i < k then l.getD i 0 else m.getD i 0 := by
  simp only [List.getD_eq_getElem?_getD]
  split
  · rename_i hi
    rw [List.getElem?_append_left (by simp; omega), List.getElem?_take_of_lt hi]
  · rename_i hi
    rw [List.getElem?_append_right (by simp; omega), List.getElem?_drop, List.length_take,
      Nat.min_eq_left hk, Nat.add_sub_cancel' (by omega)]

section Outcomes

variable {info : AdisChipInfo} {n : Nat} {buf : List Nat} {sel : Fin 2} {w : World}

/-- A failed exchange ends the read with its code, before the checksum. -/
theorem adisReadBurstData_of_xfer_error {code : Int}
    (h : (noOsSpiWriteAndRead (burstSizeBytes sel + ADIS_READ_BURST_DATA_CMD_SIZE) w).1 =
      .error code) :
    adisReadBurstData info n buf sel w =
      (.error code, (noOsSpiWriteAndRead (burstSizeBytes sel + ADIS_READ_BURST_DATA_CMD_SIZE) w).2) :=
  bind_of_error (Prod.ext h rfl)

/-- A frame the checksum rejects sets `checksum_err` and ends the read with `-EINVAL`. -/
theorem adisReadBurstData_of_checksum_err {buffer : List Nat}
    (h : (noOsSpiWriteAndRead (burstSizeBytes sel + ADIS_READ_BURST_DATA_CMD_SIZE) w).1 =
      .ok buffer)
    (hc : adisValidateChecksum (buffer.drop ADIS_READ_BURST_DATA_CMD_SIZE) (burstSizeBytes sel) =
      false) :
    adisReadBurstData info n buf sel w =
      (.error (-EINVAL),
        { (noOsSpiWriteAndRead (burstSizeBytes sel + ADIS_READ_BURST_DATA_CMD_SIZE) w).2 with
          dev := { w.dev with diagFlags := { w.dev.diagFlags with checksumErr := true } } }) := by
  unfold adisReadBurstData
  rw [bind_of_fst_ok h]
  simp only [hc, Bool.not_false, if_true, bind_apply, setDev_apply, fail_apply,
    noOsSpiWriteAndRead_dev]

/-- A frame the checksum accepts clears `checksum_err`, has its first byte decoded into
the status flags, and comes back copied, up to the clamped size, over the caller's
buffer. -/
theorem adisReadBurstData_of_checksum_ok {buffer : List Nat}
    (h : (noOsSpiWriteAndRead (burstSizeBytes sel + ADIS_READ_BURST_DATA_CMD_SIZE) w).1 =
      .ok buffer)
    (hc : adisValidateChecksum (buffer.drop ADIS_READ_BURST_DATA_CMD_SIZE) (burstSizeBytes sel) =
      true) :
    adisReadBurstData info n buf sel w =
      (.ok ((buffer.drop ADIS_READ_BURST_DATA_CMD_SIZE).take
            (min n (burstSizeBytes sel - ADIS_CHECKSUM_SIZE)) ++
          buf.drop (min n (burstSizeBytes sel - ADIS_CHECKSUM_SIZE))),
        { (noOsSpiWriteAndRead (burstSizeBytes sel + ADIS_READ_BURST_DATA_CMD_SIZE) w).2 with
          dev := { w.dev with
            diagFlags := { w.dev.diagFlags with
              checksumErr := false
              stat := decodeDiag info
                ((buffer.drop ADIS_READ_BURST_DATA_CMD_SIZE).getD 0 0 % 2 ^ 16) } } }) := by
  have hclamp : (if n > burstSizeBytes sel - ADIS_CHECKSUM_SIZE then
      burstSizeBytes sel - ADIS_CHECKSUM_SIZE else n) =
      min n (burstSizeBytes sel - ADIS_CHECKSUM_SIZE) := by
    split <;> omega
  unfold adisReadBurstData
  rw [bind_of_fst_ok h]
  simp only [hc, Bool.not_true, Bool.false_eq_true, if_false, bind_apply, setDev_apply,
    adisUpdateDiagFlags, pure_apply, hclamp, noOsSpiWriteAndRead_dev]

end Outcomes

/-- **The three outcomes of a burst read.**  For every selection, requested size, frame
and handle: a failed exchange returns its code with the handle and the caller's buffer
as they were; a frame the checksum rejects returns `-EINVAL` with the handle changed in
`checksum_err` alone and the buffer as it was; any other frame returns `0` with
`checksum_err` clear, the first `min n (msg_size - 2)` payload bytes in the caller's
buffer and, beyond them, what the buffer held. -/
theorem adisReadBurstData_outcomes (info : AdisChipInfo) (n : Nat) (buf : List Nat)
    (sel : Fin 2) (w : World) :
    (∀ code, (noOsSpiWriteAndRead (burstSizeBytes sel + ADIS_READ_BURST_DATA_CMD_SIZE) w).1 =
        .error code →
      (adisReadBurstData info n buf sel w).1 = .error code ∧
      (adisReadBurstData info n buf sel w).2.dev = w.dev ∧
      burstDataAfter buf (adisReadBurstData info n buf sel w).1 = buf) ∧
    (∀ buffer, (noOsSpiWriteAndRead (burstSizeBytes sel + ADIS_READ_BURST_DATA_CMD_SIZE) w).1 =
        .ok buffer →
      adisValidateChecksum (buffer.drop ADIS_READ_BURST_DATA_CMD_SIZE) (burstSizeBytes sel) =
        false →
      (adisReadBurstData info n buf sel w).1 = .error (-EINVAL) ∧
      (adisReadBurstData info n buf sel w).2.dev =
        { w.dev with diagFlags := { w.dev.diagFlags with checksumErr := true } } ∧
      burstDataAfter buf (adisReadBurstData info n buf sel w).1 = buf) ∧
    (∀ buffer, (noOsSpiWriteAndRead (burstSizeBytes sel + ADIS_READ_BURST_DATA_CMD_SIZE) w).1 =
        .ok buffer →
      adisValidateChecksum (buffer.drop ADIS_READ_BURST_DATA_CMD_SIZE) (burstSizeBytes sel) =
        true →
      (∃ out, (adisReadBurstData info n buf sel w).1 = .ok out) ∧
      (adisReadBurstData info n buf sel w).2.dev.diagFlags.checksumErr = false ∧
      ∀ i, (burstDataAfter buf (adisReadBurstData info n buf sel w).1).getD i 0 =
        if i < min n (burstSizeBytes sel - ADIS_CHECKSUM_SIZE) then
          (buffer.drop ADIS_READ_BURST_DATA_CMD_SIZE).getD i 0
        else buf.getD i 0) := by
  refine ⟨fun code h => ?_, fun buffer h hc => ?_, fun buffer h hc => ?_⟩
  · rw [adisReadBurstData_of_xfer_error h]
    exact ⟨rfl, noOsSpiWriteAndRead_dev _ _, rfl⟩
  · rw [adisReadBurstData_of_checksum_err h hc]
    exact ⟨rfl, rfl, rfl⟩
  · have hlen : min n (burstSizeBytes sel - ADIS_CHECKSUM_SIZE) ≤
        (buffer.drop ADIS_READ_BURST_DATA_CMD_SIZE).length := by
      rw [List.length_drop, noOsSpiWriteAndRead_length h]; omega
    rw [adisReadBurstData_of_checksum_ok h hc]
    exact ⟨⟨_, rfl⟩, rfl, getD_take_append_drop hlen⟩

/-- **What a completed burst read decodes**: the status flags of the frame's first
byte — the high byte of the big-endian diagnostic word. -/
theorem adisReadBurstData_stat {info : AdisChipInfo} {n : Nat} {buf : List Nat} {sel : Fin 2}
    {w : World} {out : List Nat} (h : (adisReadBurstData info n buf sel w).1 = .ok out) :
    ∃ buffer, (noOsSpiWriteAndRead (burstSizeBytes sel + ADIS_READ_BURST_DATA_CMD_SIZE) w).1 =
        .ok buffer ∧
      (adisReadBurstData info n buf sel w).2.dev.diagFlags.stat =
        decodeDiag info (buffer.getD 2 0 % 2 ^ 16) := by
  rcases hx : (noOsSpiWriteAndRead (burstSizeBytes sel + ADIS_READ_BURST_DATA_CMD_SIZE) w).1
    with code | buffer
  · rw [adisReadBurstData_of_xfer_error hx] at h
    cases h
  · refine ⟨buffer, rfl, ?_⟩
    cases hc : adisValidateChecksum (buffer.drop ADIS_READ_BURST_DATA_CMD_SIZE) (burstSizeBytes sel)
    · rw [adisReadBurstData_of_checksum_err hx hc] at h
      cases h
    · rw [adisReadBurstData_of_checksum_ok hx hc]
      simp only [ADIS_READ_BURST_DATA_CMD_SIZE, List.getD_eq_getElem?_getD, List.getElem?_drop]

end AdisImu
