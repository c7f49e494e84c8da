import NyuziSdmmc.Safety
import NyuziSdmmc.Link

/-!
# Every read reply a run reaches comes to an end

`run_owes` follows a read reply from the moment `process_command` accepts the command. Here the
starting point is any state that a run from power-on reaches, whatever the host sent before, for
example after `readSdmmcDevice` has stopped reading in the middle of a reply:

* `TransferBounds`: a delay before R1 or before the data token is below 16, and while a block is
  counted, in a read or a write, `transfer_count` has not passed `block_length + 1`. One transfer
  keeps it (`transferSdmmcByte_transferBounds`), so every reachable state satisfies it
  (`Reachable.transferBounds`), and its read half `ReadBounds`;
* `readPending_of_bounds`: a read state within these bounds owes at most `block_length + 34`
  bytes;
* `reachable_read_ends`: from every reachable read state with `block_length + 1 < 2 ^ 32`, that
  many transfers bring the card back to `STATE_IDLE`, whatever the host sends and however it sets
  the chip select. A host that lost its place in a read can wait the reply out.
-/

namespace NyuziSdmmc

/-- The states of a read reply. -/
def SdState.isRead : SdState → Bool
  | .readCmdResponse | .readDataToken | .readTransfer => true
  | _ => false

/-- The states that count a delay down before R1 or before the data token. -/
def SdState.waits : SdState → Bool
  | .readCmdResponse | .readDataToken | .writeCmdResponse => true
  | _ => false

/-- The states in which `transfer_count` counts the bytes of a block. -/
def SdState.counts : SdState → Bool
  | .readCmdResponse | .readDataToken | .readTransfer | .writeCmdResponse | .writeDataToken
  | .writeTransfer => true
  | _ => false

theorem SdState.counts_of_waits {q : SdState} (h : q.waits = true) : q.counts = true := by
  cases q <;> first | rfl | cases h

/-- What every reachable state satisfies: a delay before R1 or before the data token came from
`next_random() & 0xf`, and while a block is counted `transfer_count` has not passed
`block_length + 1`. -/
structure TransferBounds (s : Card) : Prop where
  delay_lt : s.currentState.waits = true → s.stateDelay < 16
  count_le : s.currentState.counts = true → s.transferCount ≤ s.blockLength + 1

/-- The read half of `TransferBounds`. -/
structure ReadBounds (s : Card) : Prop where
  delay_lt : s.currentState = .readCmdResponse ∨ s.currentState = .readDataToken →
    s.stateDelay < 16
  count_le : s.currentState.isRead = true → s.transferCount ≤ s.blockLength + 1

namespace TransferBounds

variable {s t : Card}

/-- Outside the counting states there is nothing to bound. -/
theorem of_not_counts (h : t.currentState.counts = false) : TransferBounds t :=
  ⟨fun h' => absurd ((SdState.counts_of_waits h').symm.trans h) Bool.noConfusion,
    fun h' => absurd (h'.symm.trans h) Bool.noConfusion⟩

/-- A counting state without a delay: only the count is bounded. -/
theorem of_count (h : t.currentState.waits = false)
    (hcount : t.transferCount ≤ t.blockLength + 1) : TransferBounds t :=
  ⟨fun h' => absurd (h'.symm.trans h) Bool.noConfusion, fun _ => hcount⟩

theorem of_fields (hb : TransferBounds s) (hstate : t.currentState = s.currentState)
    (hdelay : t.stateDelay = s.stateDelay) (hcount : t.transferCount = s.transferCount)
    (hblock : t.blockLength = s.blockLength) : TransferBounds t :=
  ⟨fun h => hdelay ▸ hb.delay_lt (hstate ▸ h),
    fun h => hcount ▸ hblock ▸ hb.count_le (hstate ▸ h)⟩

/-- A busy byte before R1 or before the data token counts the delay down. -/
theorem countDown (hb : TransferBounds s) :
    TransferBounds { s with stateDelay := s.stateDelay - 1 } :=
  ⟨fun h => Nat.lt_of_le_of_lt (Nat.sub_le _ _) (hb.delay_lt h), hb.count_le⟩

theorem toReadBounds (hb : TransferBounds s) : ReadBounds s :=
  ⟨fun h => hb.delay_lt (by rcases h with h | h <;> rw [h] <;> rfl),
    fun h => hb.count_le (by cases hs : s.currentState <;> rw [hs] at h <;> first | rfl | cases h)⟩

end TransferBounds

/-- The count after a block byte, or after the first checksum byte, stays within
`block_length + 1`, also where `block_length + 1` wraps. -/
theorem u32_succ_le {count length : Nat} (hcount : count ≤ length + 1)
    (h : count < length ∨ count ≠ u32 (length + 1)) : u32 (count + 1) ≤ length + 1 := by
  have hle : u32 (count + 1) ≤ count + 1 := Nat.mod_le _ _
  rcases Nat.lt_or_ge (length + 1) (2 ^ 32) with hbl | hbl
  · rw [u32_of_lt hbl] at h; omega
  · exact Nat.le_trans (Nat.le_of_lt (u32_lt _)) hbl

/-! ### One transfer keeps the bounds -/

section Step

variable {s t : Card}

/-- A command enters a counting state only through `CMD_READ_SINGLE_BLOCK` or
`CMD_WRITE_SINGLE_BLOCK`, which start with `transfer_count = 0` and a delay
`next_random() & 0xf`. -/
theorem processCommand_transferBounds {command : Fin 6 → Byte}
    (hst : s.currentState = .receiveCommand) (h : processCommand s command = .ok t) :
    TransferBounds t := by
  unfold processCommand at h
  dsimp only at h
  split_ifs at h
  · cases h; exact .of_not_counts rfl
  · cases h; exact .of_not_counts (by simp [hst, SdState.counts])
  · cases h; exact .of_not_counts rfl
  · unfold setBlocklen at h
    split_ifs at h
    cases h; exact .of_not_counts rfl
  · unfold readSingleBlock at h
    dsimp only at h
    split_ifs at h
    cases h; exact ⟨fun _ => land_0xf_lt _, fun _ => Nat.zero_le _⟩
  · unfold writeSingleBlock at h
    split_ifs at h
    cases h; exact ⟨fun _ => land_0xf_lt _, fun _ => Nat.zero_le _⟩

theorem receiveCommandByte_transferBounds {value : Int} (hst : s.currentState = .receiveCommand)
    (h : receiveCommandByte s value = .ok t) : TransferBounds t := by
  unfold receiveCommandByte at h
  dsimp only at h
  split_ifs at h
  · cases h; exact .of_not_counts (by simp [hst, SdState.counts])
  · obtain ⟨u, hp, rfl⟩ := except_map_eq_ok h
    exact (processCommand_transferBounds (by exact hst) hp).of_fields rfl rfl rfl rfl
  · cases h; exact .of_not_counts (by simp [hst, SdState.counts])

theorem idleByte_not_counts {value : Int} (h : s.currentState.counts = false) :
    (idleByte s value).currentState.counts = false := by
  unfold idleByte
  split_ifs
  · rfl
  · exact h

theorem readTransferByte_transferBounds {signedChar : Bool} {r : Int}
    (hst : s.currentState = .readTransfer) (hb : TransferBounds s)
    (h : readTransferByte signedChar s = .ok (r, t)) : TransferBounds t := by
  have hcount := hb.count_le (by rw [hst]; rfl)
  unfold readTransferByte at h
  dsimp only at h
  split_ifs at h with hlt heq
  · split at h
    · cases h; exact .of_count (by rw [hst]; rfl) (u32_succ_le hcount (.inl hlt))
    · cases h
  · cases h; exact .of_not_counts rfl
  · cases h; exact .of_count (by rw [hst]; rfl) (u32_succ_le hcount (.inr heq))

theorem writeTransferByte_transferBounds {value : Int} (hst : s.currentState = .writeTransfer)
    (hb : TransferBounds s) (h : writeTransferByte s value = .ok t) : TransferBounds t := by
  have hcount := hb.count_le (by rw [hst]; rfl)
  unfold writeTransferByte at h
  dsimp only at h
  split_ifs at h with hlt _ heq
  · cases h; exact .of_count (by rw [hst]; rfl) (u32_succ_le hcount (.inl hlt))
  · cases h; exact .of_not_counts rfl
  · cases h; exact .of_count (by rw [hst]; rfl) (u32_succ_le hcount (.inr heq))

/-- **One transfer keeps the transfer bounds.** -/
theorem transferSdmmcByte_transferBounds {signedChar : Bool} {value r : Int}
    (hb : TransferBounds s) (h : transferSdmmcByte signedChar s value = .ok (r, t)) :
    TransferBounds t := by
  unfold transferSdmmcByte at h
  split at h
  case h_1 hst =>
    dsimp only at h
    split_ifs at h
    cases h; exact .of_not_counts (idleByte_not_counts (by simp [hst, SdState.counts]))
  case h_2 hst =>
    cases h; exact .of_not_counts (idleByte_not_counts (by simp [hst, SdState.counts]))
  case h_3 hst =>
    obtain ⟨u, hc, hu⟩ := except_map_eq_ok h
    cases hu
    exact receiveCommandByte_transferBounds hst hc
  case h_4 => cases h; exact .of_not_counts rfl
  case h_5 hst =>
    split_ifs at h
    · cases h; exact ⟨fun _ => land_0xf_lt _, fun _ => hb.count_le (by rw [hst]; rfl)⟩
    · cases h; exact hb.countDown
  case h_6 hst =>
    split_ifs at h
    · cases h; exact .of_count rfl (hb.count_le (by rw [hst]; rfl))
    · cases h; exact hb.countDown
  case h_7 hst => exact readTransferByte_transferBounds hst hb h
  case h_8 hst =>
    split_ifs at h
    · cases h; exact .of_count rfl (hb.count_le (by rw [hst]; rfl))
    · cases h; exact hb.countDown
  case h_9 hst =>
    cases h
    split_ifs
    · exact .of_count rfl (hb.count_le (by rw [hst]; rfl))
    · exact hb
  case h_10 hst =>
    obtain ⟨u, hw, hu⟩ := except_map_eq_ok h
    cases hu
    exact writeTransferByte_transferBounds hst hb hw
  case h_11 =>
    unfold writeDataResponse at h
    split_ifs at h
    cases h; exact .of_not_counts rfl

end Step

/-! ### Every reachable read reply ends -/

section Reachable

variable {signedChar : Bool}

/-- Every state a run from power-on reaches keeps the transfer bounds. -/
theorem Reachable.transferBounds {blockFd : Int} {image : List Byte} {random : Nat → Nat}
    {ioLimit : Nat} {s : Card}
    (h : Reachable signedChar (Card.powerOn blockFd image random ioLimit) s) :
    TransferBounds s := by
  induction h with
  | start => exact .of_not_counts rfl
  | transfer _ hstep ih => exact transferSdmmcByte_transferBounds ih hstep
  | setCs value _ ih => exact ih.of_fields rfl rfl rfl rfl

theorem Reachable.readBounds {blockFd : Int} {image : List Byte} {random : Nat → Nat}
    {ioLimit : Nat} {s : Card}
    (h : Reachable signedChar (Card.powerOn blockFd image random ioLimit) s) : ReadBounds s :=
  h.transferBounds.toReadBounds

/-- Within the read bounds, a read state owes at most `block_length + 34` bytes: two delays of at
most 15, R1, the data token, the block and two checksum bytes. -/
theorem readPending_of_bounds {s : Card} (hb : ReadBounds s)
    (hbuf : s.blockBuffer.length = s.blockLength) (hread : s.currentState.isRead = true) :
    ∃ rest, readPending signedChar s = some rest ∧ rest.length ≤ s.blockLength + 34 := by
  have hcount := hb.count_le hread
  have hrest : (transferRest signedChar s).length ≤ s.blockLength + 2 := by
    simp only [transferRest, List.length_append, List.length_map, List.length_drop, hbuf,
      List.length_replicate]
    omega
  have hrandom := land_0xf_lt (s.random 0)
  unfold readPending
  rw [if_pos hcount]
  cases hst : s.currentState <;> rw [hst] at hread <;> try cases hread
  all_goals simp only [Option.some.injEq, exists_eq_left', List.length_append, List.length_cons,
    List.length_replicate]
  · have := hb.delay_lt (.inl hst); omega
  · have := hb.delay_lt (.inr hst); omega
  · omega

/-- **Every read reply a run reaches comes to an end.** Take any state that a run from power-on
reaches, whatever the host sent before, in one of the read states, with
`block_length + 1 < 2 ^ 32`. The card owes at most `block_length + 34` more bytes: once the host
has made that many transfers, with any values and any chip-select changes in between, the card is
back in `STATE_IDLE`, with its block length, buffer and file unchanged. -/
theorem reachable_read_ends {blockFd : Int} {image : List Byte} {random : Nat → Nat}
    {ioLimit : Nat} {s : Card}
    (h : Reachable signedChar (Card.powerOn blockFd image random ioLimit) s)
    (hread : s.currentState.isRead = true) (hbl : s.blockLength + 1 < 2 ^ 32) :
    ∃ n ≤ s.blockLength + 34, ∀ events, transfers events = n →
      ∃ replies t, Card.run signedChar s events = .ok (replies, t) ∧
        t.currentState = .idle ∧ t.setup = s.setup := by
  have hbuf := h.safe.buffer_length
  obtain ⟨rest, hp, hlen⟩ := @readPending_of_bounds signedChar s h.readBounds hbuf hread
  refine ⟨rest.length, hlen, fun events hn => ?_⟩
  obtain ⟨t, hrun, hidle, hsetup⟩ := run_owes (.inr ⟨⟨hbuf, hbl⟩, hp⟩) events hn
  exact ⟨rest, t, hrun, hidle, hsetup⟩

/-- A four-byte file: the card after its power-on clocks, `CMD_SEND_OP_COND`, `CMD_SET_BLOCKLEN`
with length 4 and `CMD_READ_SINGLE_BLOCK` for block 0, each answered. -/
theorem reachable_read_ends_block :
    Reachable true (Card.powerOn 3 [1, 2, 3, 4] (fun _ => 0) maxRwCount)
        { Card.powerOn 3 [1, 2, 3, 4] (fun _ => 0) maxRwCount with
          currentState := .readCmdResponse
          initClockCount := 88
          currentCommand := receivedFrame 0x11 0
          blockLength := 4
          blockBuffer := [1, 2, 3, 4] } ∧
      SdState.isRead .readCmdResponse = true ∧ 4 + 1 < 2 ^ 32 ∧
      ∃ n ≤ 4 + 34, ∀ events, transfers events = n →
        ∃ replies t, Card.run true { Card.powerOn 3 [1, 2, 3, 4] (fun _ => 0) maxRwCount with
            currentState := .readCmdResponse
            initClockCount := 88
            currentCommand := receivedFrame 0x11 0
            blockLength := 4
            blockBuffer := [1, 2, 3, 4] } events = .ok (replies, t) ∧
          t.currentState = .idle ∧
          t.setup = ⟨3, [1, 2, 3, 4], 4, [1, 2, 3, 4], false, maxRwCount⟩ :=
  have hsetup : Card.run true (Card.powerOn 3 [1, 2, 3, 4] (fun _ => 0) maxRwCount)
      ([Event.setCs 1] ++ List.replicate 10 (Event.transfer 0xff) ++ [Event.setCs 0] ++
        (commandFrame 1 0).map Event.transfer ++ [Event.transfer 0xff] ++
        (commandFrame 16 4).map Event.transfer ++ [Event.transfer 0xff]) = .ok (_, _) := rfl
  have hidle := Reachable.run .start hsetup
  have hread : Reachable true (Card.powerOn 3 [1, 2, 3, 4] (fun _ => 0) maxRwCount)
      { Card.powerOn 3 [1, 2, 3, 4] (fun _ => 0) maxRwCount with
        currentState := .readCmdResponse
        initClockCount := 88
        currentCommand := receivedFrame 0x11 0
        blockLength := 4
        blockBuffer := [1, 2, 3, 4] } :=
    Reachable.run hidle ((@run_commandFrame true _ rfl rfl 0x11 (by decide) 0).trans rfl)
  ⟨hread, rfl, by decide, reachable_read_ends hread rfl (by decide)⟩

end Reachable

end NyuziSdmmc
