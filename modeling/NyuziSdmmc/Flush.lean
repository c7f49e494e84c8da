import NyuziSdmmc.ReadEnds

/-!
# A host can always bring a transaction to its end

`reachable_read_ends` waits a read reply out. A write does not end by waiting: in
`STATE_WRITE_DATA_TOKEN` the card answers `0xff` until the host sends the data token
(`run_writeDataToken`). A host that lost its place in a transaction can instead send `DATA_TOKEN`
(`0xfe`) over and over, whatever state the transaction is in:

* `writeRemaining`: the transfers a write still takes when every byte sent is `0xfe`. Within the
  transfer bounds, with a buffer of `block_length` bytes, a `block_length + 1` that does not wrap,
  an open file and a `write` that moves a whole block (`Flushable`), each transfer takes one of
  them and the last one writes the block to the file (`transferSdmmcByte_flush`);
* `run_flush_write`: so that many transfers end the write in `STATE_IDLE`, with one block of
  `block_length` bytes written at `transfer_block_address`;
* `run_idle_dataToken`: `0xfe` is not a start byte, so an idle card stays idle;
* `reachable_transaction_flush`: from every reachable read or write state, with
  `block_length + 1 < 2 ^ 32`, an open file and `block_length ≤ io_limit` (the host's `write`
  moves the whole block), any `m ≥ block_length + 34` transfers of `0xfe`
  bring the card back to `STATE_IDLE`. A read leaves the file as it was; a write leaves one block
  in it.
-/

namespace NyuziSdmmc

/-- The states of a write. -/
def SdState.isWrite : SdState → Bool
  | .writeCmdResponse | .writeDataToken | .writeTransfer | .writeDataResponse => true
  | _ => false

theorem SdState.not_read_of_write {q : SdState} (h : q.isWrite = true) : q.isRead = false := by
  cases q <;> first | rfl | cases h

/-- The transfers a write still takes when the host sends `DATA_TOKEN` every time: the delay and
R1, the data token, the rest of the block and the two checksum bytes, and the data response. -/
def writeRemaining (s : Card) : Nat :=
  match s.currentState with
  | .writeCmdResponse => s.stateDelay + 1 + 1 + (s.blockLength + 2 - s.transferCount) + 1
  | .writeDataToken => 1 + (s.blockLength + 2 - s.transferCount) + 1
  | .writeTransfer => s.blockLength + 2 - s.transferCount + 1
  | .writeDataResponse => 1
  | _ => 0

theorem writeRemaining_pos {s : Card} (h : s.currentState.isWrite = true) :
    0 < writeRemaining s := by
  unfold writeRemaining
  split <;> first | omega | simp_all [SdState.isWrite]

/-- Within the transfer bounds a write takes at most `block_length + 20` more transfers. -/
theorem writeRemaining_le {s : Card} (hb : TransferBounds s) :
    writeRemaining s ≤ s.blockLength + 20 := by
  unfold writeRemaining
  split
  case h_1 hst => have := hb.delay_lt (by rw [hst]; rfl); omega
  all_goals omega

/-- What a write needs to come to its end: the bounds of every reachable state, a buffer of
`block_length` bytes, a `block_length + 1` that does not wrap, an open file, and a host whose
`write` moves `block_length` bytes in one call. -/
structure Flushable (s : Card) : Prop where
  bounds : TransferBounds s
  buffer_length : s.blockBuffer.length = s.blockLength
  no_wrap : s.blockLength + 1 < 2 ^ 32
  file_open : 0 ≤ s.blockFd
  io_fits : s.blockLength ≤ s.ioLimit

theorem Flushable.of_bounds {s t : Card} (hs : Flushable s) (hb : TransferBounds t)
    (hbuf : t.blockBuffer.length = s.blockBuffer.length) (hbl : t.blockLength = s.blockLength)
    (hfd : t.blockFd = s.blockFd) (hio : t.ioLimit = s.ioLimit) : Flushable t :=
  ⟨hb, hbuf.trans (hs.buffer_length.trans hbl.symm), hbl ▸ hs.no_wrap, hfd ▸ hs.file_open,
    hbl ▸ hio ▸ hs.io_fits⟩

/-! ### One `DATA_TOKEN` at a time -/

section Write

variable (signedChar : Bool) {s : Card}

/-- **A `DATA_TOKEN` moves a write one transfer closer to its end.** It either ends the write from
`STATE_WRITE_DATA_RESPONSE`, answering and writing the block to the file, or leaves a write that
takes one transfer less, with the file as it was. -/
theorem transferSdmmcByte_flush (hs : Flushable s) (hw : s.currentState.isWrite = true) :
    ∃ r t, transferSdmmcByte signedChar s dataToken = .ok (r, t) ∧
      t.blockLength = s.blockLength ∧ t.transferBlockAddress = s.transferBlockAddress ∧
      ((s.currentState = .writeDataResponse ∧ t.currentState = .idle ∧
          t.image = fileWrite s.image s.transferBlockAddress (s.blockBuffer.take s.blockLength)) ∨
        (t.currentState.isWrite = true ∧ writeRemaining t + 1 = writeRemaining s ∧
          Flushable t ∧ t.image = s.image)) := by
  have hcount : s.currentState.counts = true → s.transferCount ≤ s.blockLength + 1 :=
    hs.bounds.count_le
  cases hst : s.currentState <;> rw [hst] at hw <;> try cases hw
  case writeCmdResponse =>
    rcases Nat.eq_zero_or_pos s.stateDelay with hd | hd
    · refine ⟨0, { s with currentState := .writeDataToken, stateDelay := u32 (s.blockLength + 2) },
        by simp [transferSdmmcByte, hst, hd], rfl, rfl, .inr ⟨rfl, ?_, ?_, rfl⟩⟩
      · simp only [writeRemaining, hst, hd]; omega
      · exact hs.of_bounds (.of_count rfl (hcount (by rw [hst]; rfl))) rfl rfl rfl rfl
    · refine ⟨0xff, { s with stateDelay := s.stateDelay - 1 },
        by simp [transferSdmmcByte, hst, hd.ne'], rfl, rfl, .inr ⟨by rw [hst]; rfl, ?_, ?_, rfl⟩⟩
      · simp only [writeRemaining, hst]; omega
      · exact hs.of_bounds hs.bounds.countDown rfl rfl rfl rfl
  case writeDataToken =>
    refine ⟨0xff, { s with currentState := .writeTransfer }, by simp [transferSdmmcByte, hst], rfl,
      rfl, .inr ⟨rfl, ?_, ?_, rfl⟩⟩
    · simp only [writeRemaining, hst]; omega
    · exact hs.of_bounds (.of_count rfl (hcount (by rw [hst]; rfl))) rfl rfl rfl rfl
  case writeTransfer =>
    have hc := hcount (by rw [hst]; rfl)
    have hbuf := hs.buffer_length
    have hwrap := hs.no_wrap
    rcases Nat.lt_or_ge s.transferCount s.blockLength with hlt | hge
    · -- a byte of the block
      refine ⟨0xff, { s with
          blockBuffer := s.blockBuffer.set s.transferCount (lowByte dataToken)
          transferCount := s.transferCount + 1 }, ?_, rfl, rfl,
        .inr ⟨by rw [hst]; rfl, ?_, ?_, rfl⟩⟩
      · simp [transferSdmmcByte, hst, writeTransferByte, hlt, hbuf ▸ hlt,
          u32_of_lt (by omega : s.transferCount + 1 < 2 ^ 32), Except.map]
      · simp only [writeRemaining, hst]; omega
      · exact hs.of_bounds (.of_count (by rw [hst]; rfl) (by dsimp only; omega))
          (List.length_set _ _ _) rfl rfl rfl
    rcases Nat.lt_or_ge s.transferCount (s.blockLength + 1) with hck | hend
    · -- the first checksum byte
      refine ⟨0xff, { s with transferCount := s.transferCount + 1 }, ?_, rfl, rfl,
        .inr ⟨by rw [hst]; rfl, ?_, ?_, rfl⟩⟩
      · simp [transferSdmmcByte, hst, writeTransferByte, not_lt.2 hge, u32_of_lt hwrap,
          u32_of_lt (by omega : s.transferCount + 1 < 2 ^ 32), Except.map, show
            s.transferCount ≠ s.blockLength + 1 by omega]
      · simp only [writeRemaining, hst]; omega
      · exact hs.of_bounds (.of_count (by rw [hst]; rfl) (by dsimp only; omega)) rfl rfl rfl rfl
    · -- the second checksum byte
      refine ⟨0xff, { s with
          currentState := .writeDataResponse
          transferCount := u32 (s.transferCount + 1) }, ?_, rfl, rfl, .inr ⟨rfl, ?_, ?_, rfl⟩⟩
      · simp [transferSdmmcByte, hst, writeTransferByte, not_lt.2 hge, u32_of_lt hwrap,
          show s.transferCount = s.blockLength + 1 by omega,
          show ¬ s.blockLength + 1 < s.blockLength by omega, Except.map]
      · simp only [writeRemaining, hst]; omega
      · exact hs.of_bounds (.of_not_counts rfl) rfl rfl rfl rfl
  case writeDataResponse =>
    refine ⟨0x05, { s with
        currentState := .idle
        image := fileWrite s.image s.transferBlockAddress (s.blockBuffer.take s.blockLength) },
      ?_, rfl, rfl, .inl ⟨rfl, rfl, rfl⟩⟩
    simp [transferSdmmcByte, hst, writeDataResponse, Int.not_lt.2 hs.file_open,
      hs.buffer_length, min_eq_left hs.io_fits]

/-- **A flushed write ends, with one block written.** `writeRemaining s` transfers of
`DATA_TOKEN` bring a write to `STATE_IDLE`, and the file then holds one block of
`block_length` bytes at `transfer_block_address`. -/
theorem run_flush_write (hs : Flushable s) (hw : s.currentState.isWrite = true) :
    ∃ replies t, Card.run signedChar s (List.replicate (writeRemaining s) (.transfer dataToken)) =
        .ok (replies, t) ∧ t.currentState = .idle ∧ t.blockLength = s.blockLength ∧
      ∃ block, block.length = s.blockLength ∧
        t.image = fileWrite s.image s.transferBlockAddress block := by
  obtain ⟨n, hn⟩ : ∃ n, writeRemaining s = n := ⟨_, rfl⟩
  rw [hn]
  induction n generalizing s with
  | zero => exact absurd hn (writeRemaining_pos hw).ne'
  | succ n ih =>
    obtain ⟨r, t, hstep, hbl, haddr, hend⟩ := transferSdmmcByte_flush signedChar hs hw
    rcases hend with ⟨hst, hidle, himage⟩ | ⟨htw, hrem, ht, himage⟩
    · have hn0 : n = 0 := by simp only [writeRemaining, hst] at hn; omega
      subst hn0
      refine ⟨[r], t, ?_, hidle, hbl, _, ?_, himage⟩
      · rw [List.replicate_one, Card.run_transfer_of_ok hstep]; rfl
      · simp [hs.buffer_length]
    · obtain ⟨replies, u, hrun, hidle, hbl', block, hblock, himage'⟩ := ih ht htw (by omega)
      refine ⟨r :: replies, u, ?_, hidle, hbl'.trans hbl, block, hblock.trans hbl, ?_⟩
      · rw [List.replicate_succ, Card.run_transfer_of_ok hstep, hrun]; rfl
      · rw [himage', himage, haddr]

theorem transferSdmmcByte_idle_dataToken (hidle : s.currentState = .idle) :
    transferSdmmcByte signedChar s dataToken = .ok (0xff, s) := by
  have hstart : Int.land (dataToken : Int) 0xc0 ≠ 0x40 := by decide
  simp [transferSdmmcByte, hidle, idleByte, hstart]

/-- An idle card answers `0xff` to every `DATA_TOKEN` and stays as it is. -/
theorem run_idle_dataToken (hidle : s.currentState = .idle) (m : Nat) :
    Card.run signedChar s (List.replicate m (.transfer dataToken)) =
      .ok (List.replicate m 0xff, s) := by
  induction m with
  | zero => rfl
  | succ m ih =>
    rw [List.replicate_succ, Card.run_transfer_of_ok (transferSdmmcByte_idle_dataToken signedChar
      hidle), ih]
    rfl

end Write

/-! ### Every reachable transaction ends -/

section Reachable

variable {signedChar : Bool}

/-- A run continues from where its first part left the card. -/
theorem Card.run_append {s t : Card} {xs : List Event} {replies : List Int}
    (h : Card.run signedChar s xs = .ok (replies, t)) (ys : List Event) :
    Card.run signedChar s (xs ++ ys) =
      (Card.run signedChar t ys).map fun q => (replies ++ q.1, q.2) := by
  induction xs generalizing s replies with
  | nil =>
    cases h
    rw [List.nil_append]
    cases Card.run signedChar t ys <;> rfl
  | cons event xs ih =>
    cases event with
    | setCs value => exact ih h
    | transfer value =>
      rcases hstep : transferSdmmcByte signedChar s value with e | ⟨r, u⟩
      · simp [Card.run, hstep, Except.bind] at h
      rw [Card.run_transfer_of_ok hstep] at h
      rw [List.cons_append, Card.run_transfer_of_ok hstep]
      obtain ⟨⟨rs, u'⟩, hrun, hq⟩ := except_map_eq_ok h
      cases hq
      rw [ih hrun]
      cases Card.run signedChar u' ys <;> rfl

theorem transfers_replicate (value : Int) (n : Nat) :
    transfers (List.replicate n (.transfer value)) = n := by
  induction n with
  | zero => rfl
  | succ n ih => rw [List.replicate_succ, transfers, ih]

/-- Flushing past the end of a transaction: the first `n` transfers end it, the rest find the card
idle. -/
theorem run_flush_of_idle {s t : Card} {n m : Nat} {replies : List Int}
    (h : Card.run signedChar s (List.replicate n (.transfer dataToken)) = .ok (replies, t))
    (hidle : t.currentState = .idle) (hnm : n ≤ m) :
    Card.run signedChar s (List.replicate m (.transfer dataToken)) =
      .ok (replies ++ List.replicate (m - n) 0xff, t) := by
  rw [← Nat.add_sub_cancel' hnm, ← List.append_replicate_replicate, Card.run_append h,
    run_idle_dataToken signedChar hidle, Nat.add_sub_cancel_left]
  rfl

/-- **Every transaction a run reaches can be flushed.** Take any state that a run from power-on
reaches, in a read or a write, with `block_length + 1 < 2 ^ 32`, an open file, and a host whose
`write` moves a whole block in one call. However many transfers of `DATA_TOKEN` the host makes,
from `block_length + 34` on, the card ends in `STATE_IDLE` with its block length unchanged. A read
leaves the file as it was; a write leaves one block of `block_length` bytes at
`transfer_block_address`. -/
theorem reachable_transaction_flush {blockFd : Int} {image : List Byte} {random : Nat → Nat}
    {ioLimit : Nat} {s : Card}
    (h : Reachable signedChar (Card.powerOn blockFd image random ioLimit) s)
    (htransaction : s.currentState.isRead = true ∨ s.currentState.isWrite = true)
    (hbl : s.blockLength + 1 < 2 ^ 32) (hfd : 0 ≤ s.blockFd) (hio : s.blockLength ≤ s.ioLimit)
    (m : Nat) (hm : s.blockLength + 34 ≤ m) :
    ∃ replies t, Card.run signedChar s (List.replicate m (.transfer dataToken)) =
        .ok (replies, t) ∧ t.currentState = .idle ∧ t.blockLength = s.blockLength ∧
      (s.currentState.isRead = true → t.image = s.image) ∧
      (s.currentState.isWrite = true → ∃ block, block.length = s.blockLength ∧
        t.image = fileWrite s.image s.transferBlockAddress block) := by
  have hbuf := h.safe.buffer_length
  rcases htransaction with hread | hwrite
  · obtain ⟨rest, hp, hlen⟩ := @readPending_of_bounds signedChar s h.readBounds hbuf hread
    obtain ⟨t, hrun, hidle, hsetup⟩ := run_owes (.inr ⟨⟨hbuf, hbl⟩, hp⟩)
      (List.replicate rest.length (.transfer dataToken)) (transfers_replicate _ _)
    refine ⟨_, t, run_flush_of_idle hrun hidle (hlen.trans hm), hidle,
      congrArg Setup.blockLength hsetup, fun _ => congrArg Setup.image hsetup, fun hw => ?_⟩
    exact absurd (hread.symm.trans (SdState.not_read_of_write hw)) Bool.noConfusion
  · have hs : Flushable s := ⟨h.transferBounds, hbuf, hbl, hfd, hio⟩
    obtain ⟨replies, t, hrun, hidle, hbl', hblock⟩ := run_flush_write signedChar hs hwrite
    have hle : writeRemaining s ≤ m := (writeRemaining_le hs.bounds).trans (by omega)
    refine ⟨_, t, run_flush_of_idle hrun hidle hle, hidle, hbl', fun hr => ?_, fun _ => hblock⟩
    exact absurd (hr.symm.trans (SdState.not_read_of_write hwrite)) Bool.noConfusion

/-- A four-byte file: the card after its power-on clocks, `CMD_SEND_OP_COND`, `CMD_SET_BLOCKLEN`
with length 4 and `CMD_WRITE_SINGLE_BLOCK` for block 0, before its R1. -/
theorem reachable_transaction_flush_write :
    Reachable true (Card.powerOn 3 [1, 2, 3, 4] (fun _ => 0) maxRwCount)
        { Card.powerOn 3 [1, 2, 3, 4] (fun _ => 0) maxRwCount with
          currentState := .writeCmdResponse
          initClockCount := 88
          currentCommand := receivedFrame 0x18 0
          blockLength := 4
          blockBuffer := [0, 0, 0, 0] } ∧
      (SdState.isRead .writeCmdResponse = true ∨ SdState.isWrite .writeCmdResponse = true) ∧
      4 + 1 < 2 ^ 32 ∧ (0 : Int) ≤ 3 ∧ 4 ≤ maxRwCount ∧ 4 + 34 ≤ 38 ∧
      ∃ replies t, Card.run true { Card.powerOn 3 [1, 2, 3, 4] (fun _ => 0) maxRwCount with
            currentState := .writeCmdResponse
            initClockCount := 88
            currentCommand := receivedFrame 0x18 0
            blockLength := 4
            blockBuffer := [0, 0, 0, 0] } (List.replicate 38 (.transfer dataToken)) =
          .ok (replies, t) ∧ t.currentState = .idle ∧ t.blockLength = 4 ∧
        (SdState.isRead .writeCmdResponse = true → t.image = [1, 2, 3, 4]) ∧
        (SdState.isWrite .writeCmdResponse = true →
          ∃ block, block.length = 4 ∧ t.image = fileWrite [1, 2, 3, 4] 0 block) :=
  have hsetup : Card.run true (Card.powerOn 3 [1, 2, 3, 4] (fun _ => 0) maxRwCount)
      ([Event.setCs 1] ++ List.replicate 10 (Event.transfer 0xff) ++ [Event.setCs 0] ++
        (commandFrame 1 0).map Event.transfer ++ [Event.transfer 0xff] ++
        (commandFrame 16 4).map Event.transfer ++ [Event.transfer 0xff]) = .ok (_, _) := rfl
  have hwrite : Reachable true (Card.powerOn 3 [1, 2, 3, 4] (fun _ => 0) maxRwCount)
      { Card.powerOn 3 [1, 2, 3, 4] (fun _ => 0) maxRwCount with
        currentState := .writeCmdResponse
        initClockCount := 88
        currentCommand := receivedFrame 0x18 0
        blockLength := 4
        blockBuffer := [0, 0, 0, 0] } :=
    Reachable.run (Reachable.run .start hsetup)
      ((@run_commandFrame true _ rfl rfl 0x18 (by decide) 0).trans rfl)
  ⟨hwrite, .inr rfl, by decide, by decide, by decide, by decide,
    reachable_transaction_flush hwrite (.inr rfl) (by decide) (by decide) (by decide) 38
      (by decide)⟩

end Reachable

end NyuziSdmmc
