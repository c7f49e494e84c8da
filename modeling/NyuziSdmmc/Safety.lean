import NyuziSdmmc.Emulator

/-!
# The emulated card never indexes outside its buffers

`Safe` is the invariant of every state a run reaches: while a command frame is being received
the frame buffer has room for the next byte, and `block_buffer` holds `block_length` bytes.
Each operation keeps it, and from a safe state no transfer overruns a buffer
(`processCommand_safe`, `transferSdmmcByte_safe`, `setSdmmcCs_safe`). Since the power-on state is
safe, so is every state reachable from it (`Reachable.safe`, `reachable_safe`).
A whole run of the card from a reachable state ends in a reachable state (`Reachable.run`), which
is how concrete states are shown reachable.
-/

namespace NyuziSdmmc

/-- The invariant of reachable states. -/
structure Safe (s : Card) : Prop where
  command_fits : s.currentState = .receiveCommand → s.currentCommandLength < sdCommandLength
  buffer_length : s.blockBuffer.length = s.blockLength

/-- The states a run from `s₀` passes through, whatever the host sends, until it stops. -/
inductive Reachable (signedChar : Bool) (s₀ : Card) : Card → Prop
  | start : Reachable signedChar s₀ s₀
  | transfer {s t : Card} {value r : Int} : Reachable signedChar s₀ s →
      transferSdmmcByte signedChar s value = .ok (r, t) → Reachable signedChar s₀ t
  | setCs {s : Card} (value : Int) : Reachable signedChar s₀ s →
      Reachable signedChar s₀ (setSdmmcCs s value)

/-- A run from a reachable state ends in a reachable state. -/
theorem Reachable.run {signedChar : Bool} {s₀ s t : Card} {events : List Event}
    {replies : List Int} (hs : Reachable signedChar s₀ s)
    (h : Card.run signedChar s events = .ok (replies, t)) : Reachable signedChar s₀ t := by
  induction events generalizing s replies with
  | nil => cases h; exact hs
  | cons event events ih =>
    cases event with
    | setCs value => exact ih (.setCs value hs) h
    | transfer value =>
      rcases hstep : transferSdmmcByte signedChar s value with e | ⟨r, u⟩
      · simp [Card.run, hstep, Except.bind] at h
      rcases hrun : Card.run signedChar u events with e | ⟨rs, u'⟩
      · simp [Card.run, hstep, hrun, Except.bind, Except.map] at h
      · simp only [Card.run, hstep, hrun, Except.bind, Except.map, Except.ok.injEq,
          Prod.mk.injEq] at h
        obtain ⟨-, rfl⟩ := h
        exact ih (.transfer hs hstep) hrun

namespace Safe

variable {s t : Card}

/-- A state that agrees with a safe one on the fields of the invariant is safe. -/
theorem of_fields (hs : Safe s) (hstate : t.currentState = s.currentState)
    (hlength : t.currentCommandLength = s.currentCommandLength)
    (hbuffer : t.blockBuffer.length = s.blockBuffer.length)
    (hblock : t.blockLength = s.blockLength) : Safe t :=
  ⟨fun h => hlength ▸ hs.command_fits (hstate ▸ h), by rw [hbuffer, hblock, hs.buffer_length]⟩

/-- Outside `STATE_RECEIVE_COMMAND` only the buffer length matters. -/
theorem of_not_receive (hstate : t.currentState ≠ .receiveCommand)
    (hbuffer : t.blockBuffer.length = t.blockLength) : Safe t :=
  ⟨fun h => absurd h hstate, hbuffer⟩

end Safe

theorem realloc_length (buffer : List Byte) (size : Nat) : (realloc buffer size).length = size := by
  simp [realloc]; omega

theorem fileRead_length_le (image : List Byte) (offset count limit : Nat) :
    (fileRead image offset count limit).length ≤ count :=
  (List.length_take_le _ _).trans (min_le_left _ _)

/-! ### `process_command` -/

/-- An outcome of `process_command` that is not an overrun and leaves `block_buffer` holding
`block_length` bytes. -/
def BufferSafe (e : Except Stop Card) : Prop :=
  e ≠ .error .overrun ∧ ∀ t, e = .ok t → t.blockBuffer.length = t.blockLength

theorem BufferSafe.ok {t : Card} (h : t.blockBuffer.length = t.blockLength) :
    BufferSafe (.ok t) :=
  ⟨by simp, fun _ ht => by cases ht; exact h⟩

theorem BufferSafe.exit (message : String) : BufferSafe (.error (.exit message)) :=
  ⟨by simp, fun _ ht => by cases ht⟩

theorem setBlocklen_safe (s : Card) (command : Fin 6 → Byte) :
    BufferSafe (setBlocklen s command) := by
  unfold setBlocklen
  split_ifs
  · exact .exit _
  · exact .ok (realloc_length _ _)

section Commands

variable {s : Card} (hs : s.blockBuffer.length = s.blockLength) (command : Fin 6 → Byte)
include hs

theorem readSingleBlock_safe : BufferSafe (readSingleBlock s command) := by
  have hle := fileRead_length_le s.image (u32 (commandArgument command * s.blockLength))
    s.blockLength s.ioLimit
  unfold readSingleBlock
  dsimp only
  split_ifs
  · exact .exit _
  · exact .exit _
  · omega
  · exact .exit _
  · exact .ok (by simp [Card.nextRandom]; omega)

theorem writeSingleBlock_safe : BufferSafe (writeSingleBlock s command) := by
  unfold writeSingleBlock
  split_ifs
  · exact .exit _
  · exact .ok hs

/-- `process_command` never overruns `block_buffer` and keeps its length `block_length`. -/
theorem processCommand_safe : BufferSafe (processCommand s command) := by
  unfold processCommand
  dsimp only
  split_ifs
  all_goals first
    | exact .ok hs
    | exact .exit _
    | exact setBlocklen_safe s command
    | exact readSingleBlock_safe hs command
    | exact writeSingleBlock_safe hs command

end Commands

/-! ### `transfer_sdmmc_byte` -/

/-- An outcome of `transfer_sdmmc_byte` that is not an overrun and, if the card goes on, is
safe. -/
def StepSafe (e : Except Stop (Int × Card)) : Prop :=
  e ≠ .error .overrun ∧ ∀ r t, e = .ok (r, t) → Safe t

theorem StepSafe.ok {r : Int} {t : Card} (h : Safe t) : StepSafe (.ok (r, t)) :=
  ⟨by simp, fun _ _ ht => by cases ht; exact h⟩

theorem StepSafe.exit (message : String) : StepSafe (.error (.exit message)) :=
  ⟨by simp, fun _ _ ht => by cases ht⟩

/-- A frame handed to `process_command` leaves an empty frame buffer behind. -/
theorem StepSafe.of_processCommand {s : Card} {command : Fin 6 → Byte}
    (hs : s.blockBuffer.length = s.blockLength) :
    StepSafe (((processCommand s command).map fun t => { t with currentCommandLength := 0 }).map
      ((0xff : Int), ·)) := by
  obtain ⟨hne, hbuf⟩ := processCommand_safe hs command
  rcases h : processCommand s command with e | t
  · cases e with
    | exit message => exact .exit message
    | overrun => exact absurd h hne
  · exact .ok ⟨fun _ => by simp [sdCommandLength], hbuf t h⟩

section Transfer

variable {s : Card} (hs : Safe s) (value : Int)
include hs

theorem idleByte_safe : Safe (idleByte s value) := by
  unfold idleByte
  split_ifs
  · exact ⟨fun _ => by simp [sdCommandLength], hs.buffer_length⟩
  · exact hs

/-- In `STATE_RECEIVE_COMMAND` the byte is stored inside the frame buffer, and only the sixth
byte of a frame reaches `process_command`. -/
theorem receiveCommandByte_safe (hst : s.currentState = .receiveCommand) :
    StepSafe ((receiveCommandByte s value).map ((0xff : Int), ·)) := by
  have hfits := hs.command_fits hst
  unfold receiveCommandByte
  dsimp only
  split_ifs with hcs hfull
  · exact .ok hs
  · exact .of_processCommand hs.buffer_length
  · refine .ok ⟨fun _ => ?_, hs.buffer_length⟩
    simp only [u32, sdCommandLength] at hfits hfull ⊢
    omega

theorem readTransferByte_safe (signedChar : Bool) :
    StepSafe (readTransferByte signedChar s) := by
  unfold readTransferByte
  dsimp only
  split_ifs with hlt
  · rcases h : s.blockBuffer[s.transferCount]? with _ | b
    · simp [List.getElem?_eq_none_iff, hs.buffer_length] at h
      omega
    · exact .ok (hs.of_fields rfl rfl rfl rfl)
  · exact .ok (Safe.of_not_receive (by simp) hs.buffer_length)
  · exact .ok (hs.of_fields rfl rfl rfl rfl)

theorem writeTransferByte_safe (hst : s.currentState = .writeTransfer) :
    StepSafe ((writeTransferByte s value).map ((0xff : Int), ·)) := by
  unfold writeTransferByte
  dsimp only
  split_ifs with hlt hbuf
  · exact .ok (Safe.of_not_receive (by simp [hst]) (by simp [hs.buffer_length]))
  · exact absurd (hs.buffer_length ▸ hlt) hbuf
  · exact .ok (Safe.of_not_receive (by simp) hs.buffer_length)
  · exact .ok (hs.of_fields rfl rfl rfl rfl)

theorem writeDataResponse_safe : StepSafe (writeDataResponse s) := by
  unfold writeDataResponse
  split_ifs with hfd hbuf
  · exact .exit _
  · exact absurd hs.buffer_length (by omega)
  · exact .exit _
  · exact .ok (Safe.of_not_receive (by simp) hs.buffer_length)

/-- **One transfer keeps the invariant and never overruns a buffer.** -/
theorem transferSdmmcByte_safe (signedChar : Bool) :
    StepSafe (transferSdmmcByte signedChar s value) := by
  unfold transferSdmmcByte
  split
  case h_1 =>
    dsimp only
    split_ifs
    · exact .exit _
    · exact .ok (idleByte_safe (s := { s with initClockCount := u32 (s.initClockCount + 8) })
        (hs.of_fields rfl rfl rfl rfl) value)
  case h_2 => exact .ok (idleByte_safe hs value)
  case h_3 hst => exact receiveCommandByte_safe hs value hst
  case h_4 => exact .ok (Safe.of_not_receive (by simp) hs.buffer_length)
  -- the delays before R1 and before a data token
  case h_5 | h_6 | h_8 =>
    split_ifs
    · exact .ok (Safe.of_not_receive (by simp) hs.buffer_length)
    · exact .ok (hs.of_fields rfl rfl rfl rfl)
  case h_7 => exact readTransferByte_safe hs signedChar
  case h_9 =>
    split_ifs
    · exact .ok (Safe.of_not_receive (by simp) hs.buffer_length)
    · exact .ok hs
  case h_10 hst => exact writeTransferByte_safe hs value hst
  case h_11 => exact writeDataResponse_safe hs

end Transfer

theorem setSdmmcCs_safe {s : Card} (hs : Safe s) (value : Int) : Safe (setSdmmcCs s value) :=
  hs.of_fields rfl rfl rfl rfl

theorem powerOn_safe (blockFd : Int) (image : List Byte) (random : Nat → Nat) (ioLimit : Nat) :
    Safe (Card.powerOn blockFd image random ioLimit) :=
  Safe.of_not_receive (by simp [Card.powerOn]) rfl

/-- Every state a run from power-on reaches is `Safe`. -/
theorem Reachable.safe {signedChar : Bool} {blockFd : Int} {image : List Byte}
    {random : Nat → Nat} {ioLimit : Nat} {s : Card}
    (h : Reachable signedChar (Card.powerOn blockFd image random ioLimit) s) : Safe s := by
  induction h with
  | start => exact powerOn_safe blockFd image random ioLimit
  | transfer _ hstep ih => exact (transferSdmmcByte_safe ih _ signedChar).2 _ _ hstep
  | setCs value _ ih => exact setSdmmcCs_safe ih value

/-- **The emulated card never indexes outside its buffers.** Every state that a run from
power-on reaches, whatever bytes and chip-select changes the guest sends, is `Safe`: in
`STATE_RECEIVE_COMMAND` fewer than `SD_COMMAND_LENGTH` bytes are stored, so a frame reaches
`process_command` after exactly six stores, and `block_buffer` holds `block_length` bytes. No
transfer from such a state stores or loads past the end of `current_command` or
`block_buffer`. -/
theorem reachable_safe {signedChar : Bool} {blockFd : Int} {image : List Byte}
    {random : Nat → Nat} {ioLimit : Nat} {s : Card}
    (h : Reachable signedChar (Card.powerOn blockFd image random ioLimit) s) :
    Safe s ∧ ∀ value, transferSdmmcByte signedChar s value ≠ .error .overrun :=
  ⟨h.safe, fun value => (transferSdmmcByte_safe h.safe value signedChar).1⟩

/-- The card in the middle of reading a four-byte block, after the power-on clocks,
`CMD_GO_IDLE_STATE`, `CMD_SEND_OP_COND`, `CMD_SET_BLOCKLEN 4` and `CMD_READ_SINGLE_BLOCK 0`. -/
theorem reachable_safe_read_transfer :
    ∃ s, Reachable true (Card.powerOn 3 [1, 2, 3, 4] (fun _ => 0) maxRwCount) s ∧
      s.currentState = .readTransfer ∧ s.blockBuffer = [1, 2, 3, 4] ∧
      (Safe s ∧ ∀ value, transferSdmmcByte true s value ≠ .error .overrun) :=
  have hrun : Card.run true (Card.powerOn 3 [1, 2, 3, 4] (fun _ => 0) maxRwCount)
      ([Event.setCs 1] ++ List.replicate 10 (Event.transfer 0xff) ++ [Event.setCs 0] ++
        ([0x40, 0, 0, 0, 0, 0x95, 0xff, 0x41, 0, 0, 0, 0, 0x95, 0xff, 0x50, 0, 0, 0, 4, 0x95, 0xff,
          0x51, 0, 0, 0, 0, 0x95] ++ List.replicate 4 0xff : List Int).map Event.transfer) =
        .ok (_, _) := rfl
  have hreach := Reachable.run .start hrun
  ⟨_, hreach, rfl, rfl, reachable_safe hreach⟩

end NyuziSdmmc
