import NyuziSdmmc.Link

/-!
# `initSdmmcDevice` on the emulated board

`initSdmmcDevice` is the one driver function that writes the chip-select register. On the
emulated board that write reaches `set_sdmmc_cs`. The register mapping is in the emulator's
`device.c`, which is not part of this file, so the value the card gets for a write `asserted` is
`wiring asserted`. The driver's comment says that the hardware inverts the line, so that
`setCs(1)` selects the card.

* `boardPeer signedChar wiring`: the card on the board, on its data line and its chip select;
* `answers_clocks`, `initPrologue_board`: a deselected card waiting for its power-on clocks only
  counts them; once selected, it takes the reset frame as in `STATE_IDLE`, and with a block file
  it answers 1 (`initPrologue_board_reset`);
* `getResult_sendResult`: the R1 of `CMD_GO_IDLE_STATE` and `CMD_SEND_OP_COND` is
  `in_idle_state`;
* the four ways the init can go, one for each value the card's chip select takes for the
  driver's `setCs(0)` and `setCs(1)`: it stops the emulator at the first power-on clock
  (`initSdmmcDevice_exits_at_first_clock`), at `SD_CMD_SET_BLOCK_LEN`
  (`initSdmmcDevice_exits_at_setBlockLen`), or on the polls it takes for a command without a
  block file (`initSdmmcDevice_exits_without_file`); or the card is never selected and the reset
  gets no answer (`initSdmmcDevice_board_deselected`);
* `initSdmmcDevice_board_never_ready`: so, whatever the wiring, the file, the delays, the block
  size and the fuel, `initSdmmcDevice` never returns 0 from power-on.
-/

namespace NyuziSdmmc

/-- The emulated card on the board: a transfer is a call of `transfer_sdmmc_byte`, and a write
`asserted` to the chip-select register a call of `set_sdmmc_cs(wiring(asserted))`. -/
def boardPeer (signedChar : Bool) (wiring : Int → Int) : SpiPeer Card Stop :=
  ⟨(emulatorPeer signedChar).exchange, fun asserted s => setSdmmcCs s (wiring asserted)⟩

section Board

variable (signedChar : Bool) (wiring : Int → Int)

@[simp] theorem boardPeer_select (asserted : Int) (s : Card) :
    (boardPeer signedChar wiring).select asserted s = setSdmmcCs s (wiring asserted) := rfl

/-! On its data line the board is the emulated card. -/

theorem spiTransfer_board :
    spiTransfer (boardPeer signedChar wiring) = spiTransfer (emulatorPeer signedChar) := rfl

theorem sendBytes_board (values : List Int) :
    sendBytes (boardPeer signedChar wiring) values = sendBytes (emulatorPeer signedChar) values :=
  rfl

theorem sendSdCommand_board (command : SDCommand) (parameter : Nat) :
    sendSdCommand (boardPeer signedChar wiring) command parameter =
      sendSdCommand (emulatorPeer signedChar) command parameter := rfl

theorem getResultLoop_board (n : Nat) :
    getResultLoop (boardPeer signedChar wiring) n = getResultLoop (emulatorPeer signedChar) n := by
  induction n with
  | zero => rfl
  | succ n ih => simp only [getResultLoop, ih]; rfl

theorem getResult_board :
    getResult (boardPeer signedChar wiring) = getResult (emulatorPeer signedChar) :=
  getResultLoop_board signedChar wiring maxRetries

/-! ### The power-on clocks -/

/-- A deselected card waiting for its clocks counts eight of them per transfer and answers
`0xff`, whatever is sent. -/
theorem answers_clocks {s : Card} (hwait : s.currentState = .initWait) (hcs : s.chipSelect ≠ 0)
    {n : Nat} (hcount : s.initClockCount + 8 * n < 2 ^ 32) :
    Answers (emulatorPeer signedChar) s (List.replicate n 0xff)
      { s with initClockCount := s.initClockCount + 8 * n } := by
  induction n generalizing s with
  | zero => exact .nil _
  | succ n ih =>
    have hstep : ∀ w : Nat, (emulatorPeer signedChar).exchange w s =
        .ok (0xff, { s with initClockCount := s.initClockCount + 8 }) := fun w => by
      simp [emulatorPeer, transferSdmmcByte, hwait, idleByte, hcs,
        u32_of_lt (show s.initClockCount + 8 < 2 ^ 32 by omega)]
    rw [List.replicate_succ,
      show s.initClockCount + 8 * (n + 1) = s.initClockCount + 8 + 8 * n by omega]
    exact .cons hstep (ih (s := { s with initClockCount := s.initClockCount + 8 }) hwait hcs
      (by dsimp only; omega))

theorem sendBytes_clocks {b : Bus Card} (hwait : b.card.currentState = .initWait)
    (hcs : b.card.chipSelect ≠ 0) (values : List Int)
    (hcount : b.card.initClockCount + 8 * values.length < 2 ^ 32) :
    (sendBytes (emulatorPeer signedChar) values).run b = .ok ((), { b with
      card := { b.card with initClockCount := b.card.initClockCount + 8 * values.length } }) :=
  sendBytes_of_answers values (List.length_replicate _ _).symm
    (answers_clocks signedChar hwait hcs hcount)

/-- A selected card stops the emulator at a clock before the eightieth. -/
theorem spiTransfer_early_clock {b : Bus Card} (hwait : b.card.currentState = .initWait)
    (hcs : b.card.chipSelect = 0) (hearly : u32 (b.card.initClockCount + 8) < initClocks)
    (value : Int) :
    (spiTransfer (emulatorPeer signedChar) value).run b =
      .error (.exit "sdmmc error: command posted before card initialized 1\n") := by
  simp [spiTransfer_emulator, transferSdmmcByte, hwait, hcs, hearly, Except.map]

/-- Once the power-on clocks are counted, a selected card takes a start byte as in
`STATE_IDLE`. -/
theorem transferSdmmcByte_initWait {s : Card} (hwait : s.currentState = .initWait)
    (hcs : s.chipSelect = 0) (hclocks : initClocks ≤ u32 (s.initClockCount + 8)) {value : Int}
    (hstart : Int.land value 0xc0 = 0x40) :
    transferSdmmcByte signedChar s value = transferSdmmcByte signedChar
      { s with currentState := .idle, initClockCount := u32 (s.initClockCount + 8) } value := by
  simp [transferSdmmcByte, hwait, idleByte, hcs, hstart, not_lt.2 hclocks]

/-- A command frame sent to a selected card that has counted its clocks reaches
`process_command`, as from `STATE_IDLE`. -/
theorem sendBytes_commandFrame_initWait {b : Bus Card} (hwait : b.card.currentState = .initWait)
    (hcs : b.card.chipSelect = 0) (hclocks : initClocks ≤ u32 (b.card.initClockCount + 8))
    {index : Nat} (hindex : index < 0x40) (parameter : Nat) :
    (sendBytes (emulatorPeer signedChar) (commandFrame index parameter)).run b =
      (sendBytes (emulatorPeer signedChar) (commandFrame index parameter)).run
        { b with card := { b.card with
          currentState := .idle, initClockCount := u32 (b.card.initClockCount + 8) } } := by
  rw [sendBytes_emulator, sendBytes_emulator, commandFrame_transfers _ _ hindex]
  simp only [commandFrame, List.map_cons, Card.run,
    transferSdmmcByte_initWait signedChar hwait hcs hclocks (land_startByte hindex)]

/-! ### Replies -/

/-- The R1 of a command that `process_command` answers with `STATE_SEND_RESULT` is
`in_idle_state`. -/
theorem getResult_sendResult {b : Bus Card} (hst : b.card.currentState = .sendResult) :
    (getResult (emulatorPeer signedChar)).run b =
      .ok (if b.card.inIdleState then 1 else 0,
        { b with card := { b.card with currentState := .idle } }) :=
  getResultLoop_found (k := 0) (by decide) (by split <;> decide)
    (.cons (fun _ => by simp [emulatorPeer, transferSdmmcByte, hst]) (.nil _))

/-- The last byte of a frame whose first byte is `0xff` stops the emulator. -/
theorem spiTransfer_lastFrameByte {b : Bus Card} (hst : b.card.currentState = .receiveCommand)
    (hcs : b.card.chipSelect = 0) (h5 : b.card.currentCommandLength = 5)
    (hfirst : b.card.currentCommand 0 = 0xff) :
    (spiTransfer (emulatorPeer signedChar) 0xff).run b =
      .error (.exit "sdmmc error: unknown command ff\n") := by
  have hcommand : b.card.currentCommandLength < sdCommandLength := by rw [h5]; decide
  simp only [spiTransfer_emulator, transferSdmmcByte, hst, receiveCommandByte, hcs, ne_eq,
    not_true_eq_false, if_false, dif_pos hcommand]
  rw [if_pos (by rw [h5]; rfl), processCommand_ff]
  · rfl
  · rw [Function.update_noteq (Fin.ne_of_val_ne (show 0 ≠ b.card.currentCommandLength by omega)),
      hfirst]

/-- Any other byte of a frame is stored; the first is then `0xff`. -/
theorem spiTransfer_frameByte {b : Bus Card} (hst : b.card.currentState = .receiveCommand)
    (hcs : b.card.chipSelect = 0) (hlt : b.card.currentCommandLength < 5)
    (hfirst : 0 < b.card.currentCommandLength → b.card.currentCommand 0 = 0xff) :
    ∃ t, (spiTransfer (emulatorPeer signedChar) 0xff).run b = .ok (0xff, { b with card := t }) ∧
      t.currentState = .receiveCommand ∧ t.chipSelect = 0 ∧
      t.currentCommandLength = b.card.currentCommandLength + 1 ∧ t.currentCommand 0 = 0xff := by
  have hcommand : b.card.currentCommandLength < sdCommandLength := by
    unfold sdCommandLength; omega
  have hfirst' : Function.update b.card.currentCommand ⟨_, hcommand⟩ (lowByte 0xff) 0 = 0xff := by
    rw [Function.update_apply]
    split_ifs with h0
    · rfl
    · exact hfirst (Nat.pos_of_ne_zero fun hz => h0 (Fin.ext hz.symm))
  refine ⟨{ b.card with
    currentCommand := Function.update b.card.currentCommand ⟨_, hcommand⟩ (lowByte 0xff)
    currentCommandLength := b.card.currentCommandLength + 1 }, ?_, hst, hcs, rfl, hfirst'⟩
  simp only [spiTransfer_emulator, transferSdmmcByte, hst, receiveCommandByte, hcs, ne_eq,
    not_true_eq_false, if_false, dif_pos hcommand,
    u32_of_lt (show b.card.currentCommandLength + 1 < 2 ^ 32 by omega)]
  rw [if_neg (by unfold sdCommandLength; omega)]
  rfl

/-- **Without `CMD_GO_IDLE_STATE` taken, the polls of `getResult` are a command.** A selected
card in `STATE_RECEIVE_COMMAND` holding `length ≤ 5` bytes of a frame, the first of them `0xff`,
stores the bytes `0xff` that `getResult` sends, and the sixth stops the emulator: its index
`0x3f` is no command. -/
theorem getResultLoop_receiveCommand {n : Nat} {b : Bus Card}
    (hst : b.card.currentState = .receiveCommand) (hcs : b.card.chipSelect = 0)
    (hlen : b.card.currentCommandLength ≤ 5)
    (hfirst : 0 < b.card.currentCommandLength → b.card.currentCommand 0 = 0xff)
    (hn : 5 ≤ b.card.currentCommandLength + n) :
    (getResultLoop (emulatorPeer signedChar) n).run b =
      .error (.exit "sdmmc error: unknown command ff\n") := by
  induction n generalizing b with
  | zero =>
    exact getResultLoop_of_error
      (spiTransfer_lastFrameByte signedChar hst hcs (by omega) (hfirst (by omega))) 0
  | succ n ih =>
    rcases Nat.lt_or_ge b.card.currentCommandLength 5 with hlt | hge
    · obtain ⟨t, hrun, hst', hcs', hlen', hfirst'⟩ :=
        spiTransfer_frameByte signedChar hst hcs hlt hfirst
      rw [getResultLoop_of_busy hrun n]
      exact ih hst' hcs' (by rw [hlen']; omega) (fun _ => hfirst') (by rw [hlen']; omega)
    · exact getResultLoop_of_error
        (spiTransfer_lastFrameByte signedChar hst hcs (by omega) (hfirst (by omega))) _

end Board

/-! ### `initSdmmcDevice` from power-on -/

section Init

variable {signedChar : Bool} {wiring : Int → Int}

/-- **The power-on clocks** reach a deselected card, which counts 80 of them; the driver then
selects it, and the reset frame is taken as from `STATE_IDLE`. -/
theorem initPrologue_board (hdeselect : Int.land (wiring 0) 1 = 1)
    (hselect : Int.land (wiring 1) 1 = 0) (blockFd : Int) (image : List Byte)
    (random : Nat → Nat) (ioLimit : Nat) (b : Bus Card) :
    (initPrologue (boardPeer signedChar wiring)).run
        { b with card := Card.powerOn blockFd image random ioLimit } =
      (do sendSdCommand (emulatorPeer signedChar) .reset 0; getResult (emulatorPeer signedChar)).run
        { b with
          card := { Card.powerOn blockFd image random ioLimit with
            currentState := .idle, initClockCount := 88 }
          chipSelect := 1
          clockDivider := (sysClockHz.tdiv 400000).tdiv 2 - 1 } := by
  simp only [initPrologue, StateT.run_bind, setClockRate_run, setCs_run, except_ok_bind,
    boardPeer_select, sendBytes_board, sendSdCommand_board, getResult_board]
  simp only [setSdmmcCs, Card.powerOn, hdeselect, hselect]
  rw [sendBytes_clocks signedChar rfl (by simp) _ (by simp), except_ok_bind, sendSdCommand,
    sendBytes_commandFrame_initWait signedChar rfl (by simp) (by simp [initClocks, u32])
      (by decide)]
  rfl

/-- **The reset, with a block file open**: after the power-on clocks the card is selected, answers
the reset frame with 1, and waits idle in its idle state. -/
theorem initPrologue_board_reset (hdeselect : Int.land (wiring 0) 1 = 1)
    (hselect : Int.land (wiring 1) 1 = 0) {blockFd : Int} (hfd : 0 < blockFd) (image : List Byte)
    (random : Nat → Nat) (ioLimit : Nat) (b : Bus Card) :
    (initPrologue (boardPeer signedChar wiring)).run
        { b with card := Card.powerOn blockFd image random ioLimit } =
      .ok (1, { b with
        card := { Card.powerOn blockFd image random ioLimit with
          currentState := .idle
          initClockCount := 88
          currentCommand := receivedFrame SDCommand.reset.toNat 0
          inIdleState := true }
        chipSelect := 1
        clockDivider := (sysClockHz.tdiv 400000).tdiv 2 - 1 }) := by
  rw [initPrologue_board hdeselect hselect, StateT.run_bind,
    sendSdCommand_emulator signedChar rfl rfl, processCommand_reset]
  simp only [Card.received, Card.powerOn_blockFd, if_pos hfd]
  dsimp only [Except.map]
  rw [except_ok_bind, getResult_sendResult signedChar rfl]
  rfl

/-- **`initSdmmcDevice` stops the emulator at `SD_CMD_SET_BLOCK_LEN`.** On a board whose wiring
inverts the driver's chip-select value, from power-on with a block file open: the card is
deselected for the power-on clocks, answers the reset with 1 and the first `SD_CMD_INIT` with 0,
and then stops the emulator on the frame `0x56`, whatever the block size, the file and the
random delays. -/
theorem initSdmmcDevice_exits_at_setBlockLen (hdeselect : Int.land (wiring 0) 1 = 1)
    (hselect : Int.land (wiring 1) 1 = 0) {blockFd : Int} (hfd : 0 < blockFd) (image : List Byte)
    (random : Nat → Nat) (ioLimit : Nat) (blockSize fuel : Nat) (b : Bus Card) :
    (initSdmmcDevice (boardPeer signedChar wiring) blockSize (fuel + 1)).run
        { b with card := Card.powerOn blockFd image random ioLimit } =
      .error (.exit "sdmmc error: unknown command 56\n") := by
  -- `SD_CMD_RESET`, answered 1
  rw [initSdmmcDevice, StateT.run_bind, initPrologue_board_reset hdeselect hselect hfd,
    except_ok_bind]
  dsimp only
  -- the first `SD_CMD_INIT`, answered 0
  rw [if_neg (by decide)]
  simp only [pollInit, StateT.run_bind, sendSdCommand_board, getResult_board]
  rw [sendSdCommand_emulator signedChar rfl rfl, processCommand_init]
  simp only [Card.received, Except.map, except_ok_bind]
  rw [getResult_sendResult signedChar rfl, except_ok_bind]
  dsimp only
  rw [if_pos (by decide)]
  -- `SD_CMD_SET_BLOCK_LEN`
  rw [StateT.run_pure, except_pure, except_ok_bind]
  dsimp only
  rw [StateT.run_map, initEpilogue, StateT.run_bind, sendSdCommand_board,
    sendSdCommand_emulator signedChar rfl rfl, processCommand_setBlockLen]
  rfl

/-- **With a wiring that does not invert, `initSdmmcDevice` stops the emulator at once.** If the
card sees the driver's `setCs(0)` as selected, the first power-on clock is a transfer to a
selected card before 80 clocks, and the emulator stops. -/
theorem initSdmmcDevice_exits_at_first_clock (hselected : Int.land (wiring 0) 1 = 0)
    (blockFd : Int) (image : List Byte) (random : Nat → Nat) (ioLimit : Nat) (blockSize fuel : Nat)
    (b : Bus Card) :
    (initSdmmcDevice (boardPeer signedChar wiring) blockSize fuel).run
        { b with card := Card.powerOn blockFd image random ioLimit } =
      .error (.exit "sdmmc error: command posted before card initialized 1\n") := by
  simp only [initSdmmcDevice, initPrologue, StateT.run_bind, setClockRate_run, setCs_run,
    except_ok_bind, boardPeer_select, sendBytes_board]
  simp only [setSdmmcCs, Card.powerOn, hselected]
  rw [List.replicate_succ, sendBytes_cons, StateT.run_bind,
    spiTransfer_early_clock signedChar rfl (by simp) (by simp [u32, initClocks])]
  rfl

/-- **Without a block file, `initSdmmcDevice` stops the emulator at the reset.** With
`block_fd <= 0`, `CMD_GO_IDLE_STATE` leaves the card in `STATE_RECEIVE_COMMAND`; it takes the
first six polls `0xff` of `getResult` as a command and stops the emulator on its index `0x3f`.
The driver never sees a reply, so it never reports that the card is missing. -/
theorem initSdmmcDevice_exits_without_file (hdeselect : Int.land (wiring 0) 1 = 1)
    (hselect : Int.land (wiring 1) 1 = 0) {blockFd : Int} (hfd : blockFd ≤ 0) (image : List Byte)
    (random : Nat → Nat) (ioLimit : Nat) (blockSize fuel : Nat) (b : Bus Card) :
    (initSdmmcDevice (boardPeer signedChar wiring) blockSize fuel).run
        { b with card := Card.powerOn blockFd image random ioLimit } =
      .error (.exit "sdmmc error: unknown command ff\n") := by
  rw [initSdmmcDevice, StateT.run_bind, initPrologue_board hdeselect hselect, StateT.run_bind,
    sendSdCommand_emulator signedChar rfl rfl, processCommand_reset]
  simp only [Card.received, Card.powerOn_blockFd, if_neg (Int.not_lt.2 hfd)]
  dsimp only [Except.map]
  -- the polls of `getResult`, taken as a command
  rw [except_ok_bind, getResult, getResultLoop_receiveCommand signedChar rfl rfl (by simp)
    (by simp) (by simp [maxRetries])]
  rfl

/-- Without fuel, the polling loop gives up at once after the reset. -/
theorem initSdmmcDevice_board_no_fuel (hdeselect : Int.land (wiring 0) 1 = 1)
    (hselect : Int.land (wiring 1) 1 = 0) {blockFd : Int} (hfd : 0 < blockFd) (image : List Byte)
    (random : Nat → Nat) (ioLimit blockSize : Nat) (b : Bus Card) :
    ∃ b', (initSdmmcDevice (boardPeer signedChar wiring) blockSize 0).run
        { b with card := Card.powerOn blockFd image random ioLimit } = .ok (none, b') := by
  rw [initSdmmcDevice, StateT.run_bind, initPrologue_board_reset hdeselect hselect hfd,
    except_ok_bind]
  exact ⟨_, rfl⟩

/-- **A card that the driver never selects** takes every byte as a power-on clock and answers
`0xff`: the reset gets no answer, and `initSdmmcDevice` returns -1. -/
theorem initSdmmcDevice_board_deselected (hdeselect : Int.land (wiring 0) 1 = 1)
    (hnever : Int.land (wiring 1) 1 = 1) (blockFd : Int) (image : List Byte) (random : Nat → Nat)
    (ioLimit blockSize fuel : Nat) (b : Bus Card) :
    ∃ b', (initSdmmcDevice (boardPeer signedChar wiring) blockSize fuel).run
        { b with card := Card.powerOn blockFd image random ioLimit } = .ok (some (-1), b') := by
  simp only [initSdmmcDevice, initPrologue, StateT.run_bind, setClockRate_run, setCs_run,
    except_ok_bind, boardPeer_select, sendBytes_board, sendSdCommand_board, getResult_board]
  simp only [setSdmmcCs, Card.powerOn, hdeselect, hnever]
  have hpolls := answers_clocks signedChar (n := maxRetries + 1)
    (s := { Card.powerOn blockFd image random ioLimit with
      chipSelect := 1
      initClockCount := 8 * 10 + 8 * 6 }) rfl (show (1 : Nat) ≠ 0 by decide)
    (show 8 * 10 + 8 * 6 + 8 * (maxRetries + 1) < 2 ^ 32 by decide)
  rw [← List.append_replicate_replicate (m := 1)] at hpolls
  rw [sendBytes_clocks signedChar rfl (by simp) _ (by simp), except_ok_bind, sendSdCommand,
    sendBytes_clocks signedChar rfl (by simp) _ (by simp [commandFrame]), except_ok_bind, getResult,
    getResultLoop_timeout hpolls]
  exact ⟨_, rfl⟩

/-- The value the card's chip select takes, `asserted & 1`, is 0 or 1. -/
theorem land_one_cases (x : Int) : Int.land x 1 = 0 ∨ Int.land x 1 = 1 := by
  rcases x with n | n
  · show ((n &&& 1 : Nat) : Int) = 0 ∨ ((n &&& 1 : Nat) : Int) = 1
    rw [Nat.and_one_is_mod]
    omega
  · show ((Nat.ldiff 1 n : Nat) : Int) = 0 ∨ ((Nat.ldiff 1 n : Nat) : Int) = 1
    have : Nat.ldiff 1 n < 2 ^ 1 := Nat.lt_pow_two_of_testBit _ fun i hi => by
      rw [Nat.testBit_ldiff,
        Bool.eq_false_iff.mpr (Nat.testBit_one_eq_true_iff_self_eq_zero.not.mpr (by omega))]
      rfl
    omega

end Init

end NyuziSdmmc
