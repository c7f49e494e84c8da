import NyuziSdmmc.Answers
import NyuziSdmmc.ReadReply

/-!
# The driver against the emulated card

In the emulator, each byte the driver writes to the SPI controller goes to
`transfer_sdmmc_byte`, and its result comes back as the byte the controller read. (The register
mapping is in the emulator's `device.c`, which is not part of this file.) `emulatorPeer` is that
link. Over it:

* `run_commandFrame`: the six bytes of a command, sent to an idle selected card, are answered
  `0xff` and reach `process_command` once, as one frame; `receivedFrame_index` and
  `receivedFrame_argument` read the command index and the argument back;
* `sendSdCommand_unknown_command`: the driver numbers `SD_CMD_SET_BLOCK_LEN` and
  `SD_CMD_READ_BLOCK` `0x16` and `0x17`, which the card does not know;
* `readResponse_stops_short`: after the card accepts a read, the driver's copy loop starts right
  after R1, not after the data token, and leaves the end of the reply unread.
-/

namespace NyuziSdmmc

/-- The emulated card as the driver's SPI peer on its data line: a transfer is a call of
`transfer_sdmmc_byte`. A write of the chip-select register does not reach the card here; the
driver's commands, `getResult` and `readSdmmcDevice` write none (`Board` wires it). -/
def emulatorPeer (signedChar : Bool) : SpiPeer Card Stop :=
  ⟨fun value s => transferSdmmcByte signedChar s value, fun _ s => s⟩

/-- The six bytes `current_command` holds after the card has received a command frame. -/
def receivedFrame (index parameter : Nat) : Fin 6 → Byte :=
  fun i => lowByte ((commandFrame index parameter).getD i 0)

/-- The card as `process_command` sees it: the frame stored, six bytes received. -/
def Card.received (s : Card) (command : Fin 6 → Byte) : Card :=
  { s with currentState := .receiveCommand, currentCommand := command, currentCommandLength := 6 }

/-! ### Command frames -/

theorem SDCommand.toNat_lt (command : SDCommand) : command.toNat < 0x40 := by
  cases command <;> decide

/-- The first byte of a frame is a start byte: its top bits are `01`. -/
theorem land_startByte {index : Nat} (h : index < 0x40) :
    Int.land ((0x40 ||| index : Nat) : Int) 0xc0 = 0x40 := by
  have hstart : ∀ i < 0x40, (0x40 ||| i) &&& 0xc0 = 0x40 := by decide
  exact congrArg Int.ofNat (hstart index h)

theorem update_receivedFrame (f : Fin 6 → Byte) (index parameter : Nat) :
    Function.update (Function.update (Function.update (Function.update (Function.update
      (Function.update f 0 (lowByte (0x40 ||| index : Nat))) 1
        (lowByte ((parameter >>> 24) &&& 0xff : Nat))) 2
          (lowByte ((parameter >>> 16) &&& 0xff : Nat))) 3
            (lowByte ((parameter >>> 8) &&& 0xff : Nat))) 4 (lowByte (parameter &&& 0xff : Nat))) 5
              (lowByte 0x95) = receivedFrame index parameter :=
  funext fun i => match i with
    | 0 | 1 | 2 | 3 | 4 | 5 => rfl

/-- **A command frame reaches `process_command` once.** From `STATE_IDLE` with the card
selected, the six bytes of a frame are each answered `0xff`, and the sixth hands the whole frame
to `process_command`. -/
theorem run_commandFrame (signedChar : Bool) {s : Card} (hidle : s.currentState = .idle)
    (hcs : s.chipSelect = 0) {index : Nat} (hindex : index < 0x40) (parameter : Nat) :
    Card.run signedChar s ((commandFrame index parameter).map .transfer) =
      (processCommand (s.received (receivedFrame index parameter))
        (receivedFrame index parameter)).map
        fun t => (List.replicate 6 0xff, { t with currentCommandLength := 0 }) := by
  simp [commandFrame, Card.run, Card.received, transferSdmmcByte, hidle, idleByte, hcs,
    land_startByte hindex, receiveCommandByte, sdCommandLength, u32, Except.bind, Except.map]
  rw [update_receivedFrame]
  cases processCommand _ _ <;> rfl

/-- The card reads the command index back from the first byte. -/
theorem receivedFrame_index {index : Nat} (h : index < 0x40) (parameter : Nat) :
    (receivedFrame index parameter 0).val &&& 0x3f = index := by
  have hindex : ∀ i < 0x40, (0x40 ||| i) % 256 &&& 0x3f = i := by decide
  exact (congrArg (· &&& 0x3f) (lowByte_natCast_val _)).trans (hindex index h)

/-- The card reads the argument back from the next four bytes, modulo `2 ^ 32`. -/
theorem receivedFrame_argument (index parameter : Nat) :
    commandArgument (receivedFrame index parameter) = u32 parameter := by
  show readLittleEndian (lowByte ((parameter >>> 24) &&& 0xff : Nat))
    (lowByte ((parameter >>> 16) &&& 0xff : Nat)) (lowByte ((parameter >>> 8) &&& 0xff : Nat))
    (lowByte (parameter &&& 0xff : Nat)) = u32 parameter
  simp only [readLittleEndian_eq, lowByte_natCast_val, Nat.shiftRight_eq_div_pow, u32,
    show (0xff : Nat) = 2 ^ 8 - 1 from rfl, Nat.and_pow_two_sub_one_eq_mod]
  omega

/-! ### The driver's commands -/

section Commands

variable (signedChar : Bool)

theorem spiTransfer_emulator (value : Int) (b : Bus Card) :
    (spiTransfer (emulatorPeer signedChar) value).run b =
      (transferSdmmcByte signedChar b.card (Int.land value 0xff)).map
        fun p => (p.1, { b with card := p.2 }) := by
  rw [spiTransfer_run]
  exact congrArg (fun v => (transferSdmmcByte signedChar b.card v).map _) (land_0xff_toNat value)

/-- `sendBytes` against the card runs the card on the bytes `& 0xff`. -/
theorem sendBytes_emulator (values : List Int) (b : Bus Card) :
    (sendBytes (emulatorPeer signedChar) values).run b =
      (Card.run signedChar b.card (values.map fun v => .transfer (Int.land v 0xff))).map
        fun q => ((), { b with card := q.2 }) := by
  induction values generalizing b with
  | nil => rfl
  | cons v vs ih =>
    rw [sendBytes_cons, StateT.run_bind, spiTransfer_emulator]
    rcases ht : transferSdmmcByte signedChar b.card (Int.land v 0xff) with e | ⟨r, t⟩
    · simp [ht, Card.run, Except.map, Except.bind]
    · simp only [ht, List.map_cons, Card.run_transfer_of_ok ht, ih, Except.map, except_ok_bind]
      cases Card.run signedChar t _ <;> rfl

theorem commandFrame_transfers (index parameter : Nat) (h : index < 0x40) :
    (commandFrame index parameter).map (fun v => Event.transfer (Int.land v 0xff)) =
      (commandFrame index parameter).map .transfer := by
  have hstart : ∀ i < 0x40, 0x40 ||| i < 256 := by decide
  have hbyte : ∀ n : Nat, n &&& 0xff < 256 := fun n =>
    Nat.lt_of_le_of_lt Nat.and_le_right (by decide)
  simp [commandFrame, land_0xff_of_lt (hstart index h), land_0xff_of_lt (hbyte _)]
  exact land_0xff_of_lt (by decide)

/-- A command frame sent to an idle selected card reaches `process_command`. -/
theorem sendBytes_commandFrame {b : Bus Card} (hidle : b.card.currentState = .idle)
    (hcs : b.card.chipSelect = 0) {index : Nat} (hindex : index < 0x40) (parameter : Nat) :
    (sendBytes (emulatorPeer signedChar) (commandFrame index parameter)).run b =
      (processCommand (b.card.received (receivedFrame index parameter))
        (receivedFrame index parameter)).map
        fun t => ((), { b with card := { t with currentCommandLength := 0 } }) := by
  rw [sendBytes_emulator, commandFrame_transfers _ _ hindex,
    run_commandFrame signedChar hidle hcs hindex]
  cases processCommand _ _ <;> rfl

theorem sendSdCommand_emulator {b : Bus Card} (hidle : b.card.currentState = .idle)
    (hcs : b.card.chipSelect = 0) (command : SDCommand) (parameter : Nat) :
    (sendSdCommand (emulatorPeer signedChar) command parameter).run b =
      (processCommand (b.card.received (receivedFrame command.toNat parameter))
        (receivedFrame command.toNat parameter)).map
        fun t => ((), { b with card := { t with currentCommandLength := 0 } }) :=
  sendBytes_commandFrame signedChar hidle hcs command.toNat_lt parameter

theorem hex2_setBlockLen (parameter : Nat) : hex2 (receivedFrame 0x16 parameter 0) = "56" := by
  show hex2 (lowByte (0x40 ||| 0x16 : Nat)) = "56"
  decide

theorem hex2_readBlock (parameter : Nat) : hex2 (receivedFrame 0x17 parameter 0) = "57" := by
  show hex2 (lowByte (0x40 ||| 0x17 : Nat)) = "57"
  decide

/-! What `process_command` makes of the frames of the driver's four commands. -/

theorem processCommand_reset (s : Card) (parameter : Nat) :
    processCommand s (receivedFrame SDCommand.reset.toNat parameter) =
      .ok (if 0 < s.blockFd then { s with inIdleState := true, currentState := .sendResult }
        else s) := by
  simp [processCommand, receivedFrame_index, SDCommand.toNat, cmdGoIdleState]

theorem processCommand_init (s : Card) (parameter : Nat) :
    processCommand s (receivedFrame SDCommand.init.toNat parameter) =
      .ok { s with currentState := .sendResult, inIdleState := false } := by
  simp [processCommand, receivedFrame_index, SDCommand.toNat, cmdGoIdleState, cmdSendOpCond]

theorem processCommand_setBlockLen (s : Card) (parameter : Nat) :
    processCommand s (receivedFrame SDCommand.setBlockLen.toNat parameter) =
      .error (.exit "sdmmc error: unknown command 56\n") := by
  simp [processCommand, receivedFrame_index, SDCommand.toNat, cmdGoIdleState, cmdSendOpCond,
    cmdSetBlocklen, cmdReadSingleBlock, cmdWriteSingleBlock, hex2_setBlockLen]

theorem processCommand_readBlock (s : Card) (parameter : Nat) :
    processCommand s (receivedFrame SDCommand.readBlock.toNat parameter) =
      .error (.exit "sdmmc error: unknown command 57\n") := by
  simp [processCommand, receivedFrame_index, SDCommand.toNat, cmdGoIdleState, cmdSendOpCond,
    cmdSetBlocklen, cmdReadSingleBlock, cmdWriteSingleBlock, hex2_readBlock]

theorem hex2_ff : hex2 0xff = "ff" := by decide

/-- A frame whose first byte is `0xff` has index `0x3f`, which is no command. -/
theorem processCommand_ff (s : Card) {command : Fin 6 → Byte} (h : command 0 = 0xff) :
    processCommand s command = .error (.exit "sdmmc error: unknown command ff\n") := by
  have hindex : (command 0).val &&& 0x3f = 0x3f := by rw [h]; rfl
  simp only [processCommand, hindex, cmdGoIdleState, cmdSendOpCond, cmdSetBlocklen,
    cmdReadSingleBlock, cmdWriteSingleBlock]
  rw [h, hex2_ff]
  rfl

/-- **The card does not know the driver's `SD_CMD_SET_BLOCK_LEN` and `SD_CMD_READ_BLOCK`.** The
driver numbers them `0x16` and `0x17`, where the card has `CMD_SET_BLOCKLEN = 16` and
`CMD_READ_SINGLE_BLOCK = 17`. Sent to an idle selected card, with any argument, either frame
stops the emulator in `process_command` with its unknown-command message. -/
theorem sendSdCommand_unknown_command {b : Bus Card} (hidle : b.card.currentState = .idle)
    (hcs : b.card.chipSelect = 0) (parameter : Nat) :
    (sendSdCommand (emulatorPeer signedChar) .setBlockLen parameter).run b =
        .error (.exit "sdmmc error: unknown command 56\n") ∧
      (sendSdCommand (emulatorPeer signedChar) .readBlock parameter).run b =
        .error (.exit "sdmmc error: unknown command 57\n") := by
  rw [sendSdCommand_emulator signedChar hidle hcs, sendSdCommand_emulator signedChar hidle hcs,
    processCommand_setBlockLen, processCommand_readBlock]
  exact ⟨rfl, rfl⟩

/-- An idle selected card, and `BLOCK_SIZE` 512. -/
theorem sendSdCommand_unknown_command_512 :
    ({ Card.powerOn 3 [] (fun _ => 0) maxRwCount with currentState := .idle } : Card).currentState =
        .idle ∧
      ({ Card.powerOn 3 [] (fun _ => 0) maxRwCount with currentState := .idle } : Card).chipSelect =
        0 ∧
      ((sendSdCommand (emulatorPeer true) .setBlockLen 512).run
          ⟨{ Card.powerOn 3 [] (fun _ => 0) maxRwCount with currentState := .idle }, 1, 0, []⟩ =
        .error (.exit "sdmmc error: unknown command 56\n") ∧
      (sendSdCommand (emulatorPeer true) .readBlock 512).run
          ⟨{ Card.powerOn 3 [] (fun _ => 0) maxRwCount with currentState := .idle }, 1, 0, []⟩ =
        .error (.exit "sdmmc error: unknown command 57\n")) :=
  ⟨rfl, rfl, sendSdCommand_unknown_command true rfl rfl 512⟩

/-- **A command frame round-trips from the driver to the card.** For every command and every
argument, the six bytes `sendSdCommand` sends to an idle selected card are answered `0xff` and
reach `process_command` once, as one frame whose index is the driver's number for the command and
whose `read_little_endian` argument is the driver's, modulo `2 ^ 32`. -/
theorem sendSdCommand_frame_roundtrip (command : SDCommand) (parameter : Nat) {s : Card}
    (hidle : s.currentState = .idle) (hcs : s.chipSelect = 0) :
    Card.run signedChar s ((commandFrame command.toNat parameter).map .transfer) =
        (processCommand (s.received (receivedFrame command.toNat parameter))
          (receivedFrame command.toNat parameter)).map
          (fun t => (List.replicate 6 0xff, { t with currentCommandLength := 0 })) ∧
      (receivedFrame command.toNat parameter 0).val &&& 0x3f = command.toNat ∧
      commandArgument (receivedFrame command.toNat parameter) = u32 parameter :=
  ⟨run_commandFrame signedChar hidle hcs command.toNat_lt parameter,
    receivedFrame_index command.toNat_lt parameter, receivedFrame_argument _ _⟩

/-- `SD_CMD_READ_BLOCK` of block 7 to an idle selected card. -/
theorem sendSdCommand_frame_roundtrip_read :
    ({ Card.powerOn 3 [] (fun _ => 0) maxRwCount with currentState := .idle } : Card).currentState =
        .idle ∧
      ({ Card.powerOn 3 [] (fun _ => 0) maxRwCount with currentState := .idle } : Card).chipSelect =
        0 ∧
      (Card.run false { Card.powerOn 3 [] (fun _ => 0) maxRwCount with currentState := .idle }
          ((commandFrame SDCommand.readBlock.toNat 7).map .transfer) =
        (processCommand ((Card.powerOn 3 [] (fun _ => 0) maxRwCount).received
          (receivedFrame SDCommand.readBlock.toNat 7))
            (receivedFrame SDCommand.readBlock.toNat 7)).map
          (fun t => (List.replicate 6 0xff, { t with currentCommandLength := 0 })) ∧
      (receivedFrame SDCommand.readBlock.toNat 7 0).val &&& 0x3f = SDCommand.readBlock.toNat ∧
      commandArgument (receivedFrame SDCommand.readBlock.toNat 7) = u32 7) :=
  ⟨rfl, rfl, sendSdCommand_frame_roundtrip false .readBlock 7 rfl rfl⟩

end Commands

/-! ### Reading a block -/

section Read

variable {signedChar : Bool}

/-- A card that owes `xs ++ ys` answers `xs` to any transfers, keeps its setup and chip select,
and then owes `ys`. -/
theorem answers_of_owes {s : Card} {xs ys : List Int} (h : Owes signedChar s (xs ++ ys)) :
    ∃ t, Answers (emulatorPeer signedChar) s xs t ∧ Owes signedChar t ys ∧ t.setup = s.setup ∧
      t.chipSelect = s.chipSelect := by
  induction xs generalizing s with
  | nil => exact ⟨s, .nil s, h, rfl, rfl⟩
  | cons x xs ih =>
    obtain ⟨t, ht, hsetup, hcs, howes⟩ := h.cons
    obtain ⟨u, hu, howes', hsetup', hcs'⟩ := ih howes
    exact ⟨u, .cons (fun w => ht w) hu, howes', hsetup'.trans hsetup, hcs'.trans hcs⟩

/-- `readSdmmcDevice` after its command, against a card that owes a read reply: `getResult` takes
the busy bytes and R1, the copy loop the next `block.length` bytes of the data part, and the
checksum read one more. -/
theorem readResponse_of_owes {b : Bus Card} {d1 d2 : Nat} {block : List Byte}
    (hd1 : d1 < maxRetries) (h : Owes signedChar b.card (readReply signedChar d1 d2 block)) :
    ∃ t, (readResponse (emulatorPeer signedChar) block.length).run b =
        .ok ((block.length, ((dataReply signedChar d2 block).take block.length).map toChar),
          { b with card := t }) ∧
      Owes signedChar t ((dataReply signedChar d2 block).drop (block.length + 1)) := by
  have hreply : readReply signedChar d1 d2 block =
      (List.replicate d1 0xff ++ [0]) ++ dataReply signedChar d2 block := by simp [readReply]
  have hlen : ((dataReply signedChar d2 block).take block.length).length = block.length := by
    simp; omega
  -- `getResult`: the busy bytes and R1
  obtain ⟨t₁, hr1, howes₁, -⟩ := answers_of_owes (hreply ▸ h)
  have hget := getResultLoop_found (b := b) hd1 (by decide) hr1
  -- the copy loop
  have hsplit : Owes signedChar t₁ ((dataReply signedChar d2 block).take block.length ++
      (dataReply signedChar d2 block).drop block.length) := by rwa [List.take_append_drop]
  obtain ⟨t₂, hdata, howes₂, -⟩ := answers_of_owes hsplit
  have hread := readBytes_of_answers (b := { b with card := t₁ }) hdata
  rw [hlen] at hread
  -- the checksum read
  cases hrest : (dataReply signedChar d2 block).drop block.length with
  | nil => exact absurd (congrArg List.length hrest) (by simp; omega)
  | cons c rest =>
    rw [hrest] at howes₂
    obtain ⟨t₃, ht₃, -, -, howes₃⟩ := howes₂.cons
    have hcrc : (spiTransfer (emulatorPeer signedChar) 0xff).run { b with card := t₂ } =
        .ok (c, { b with card := t₃ }) := spiTransfer_answer (fun w => ht₃ w) _
    refine ⟨t₃, ?_, ?_⟩
    · simp [readResponse, StateT.run_bind, getResult, hget, hread, hcrc]
    · rwa [← List.drop_drop, hrest]

/-- **The driver's read does not take the card's whole reply.** Once `process_command` has
accepted `CMD_READ_SINGLE_BLOCK` for a block of `block_length` bytes, the part of
`readSdmmcDevice` after its command, with `BLOCK_SIZE = block_length`, returns `BLOCK_SIZE`, but
its copy loop starts right after R1: it stores the `d2` busy bytes and the data token `0xfe`
before the block, and drops the last `d2 + 1` block bytes. The card is left in a read state, still
owing the rest of its reply. -/
theorem readResponse_stops_short (signedChar : Bool) {s t : Card} {command : Fin 6 → Byte}
    (hread : (command 0).val &&& 0x3f = cmdReadSingleBlock)
    (hbuf : s.blockBuffer.length = s.blockLength) (hbl : s.blockLength + 1 < 2 ^ 32)
    (h : processCommand s command = .ok t) (b : Bus Card) :
    ∃ u, (readResponse (emulatorPeer signedChar) s.blockLength).run { b with card := t } =
        .ok ((s.blockLength, ((dataReply signedChar (s.random 1 &&& 0xf)
          (readBlock s command)).take s.blockLength).map toChar), { b with card := u }) ∧
      u.currentState ≠ .idle := by
  rw [processCommand_of_read hread] at h
  obtain ⟨hlen, howes⟩ := readSingleBlock_owes signedChar hbuf hbl h
  have hd1 : s.random 0 &&& 0xf < maxRetries := Nat.lt_of_lt_of_le (land_0xf_lt _) (by decide)
  obtain ⟨u, hrun, howes'⟩ := readResponse_of_owes (b := { b with card := t }) hd1 howes
  rw [hlen] at hrun
  refine ⟨u, hrun, howes'.ne_idle fun hnil => ?_⟩
  have := congrArg List.length hnil
  simp only [List.length_drop, dataReply_length, hlen, List.length_nil] at this
  omega

/-- A four-byte block `1 2 3 4` with no delays: the driver stores `0xfe 1 2 3`. -/
theorem readResponse_stops_short_four_bytes :
    processCommand { Card.powerOn 3 [1, 2, 3, 4] (fun _ => 0) maxRwCount with
        blockLength := 4
        blockBuffer := [0, 0, 0, 0] } (fun i => if i = 0 then 0x51 else 0) =
      .ok { Card.powerOn 3 [1, 2, 3, 4] (fun _ => 0) maxRwCount with
        currentState := .readCmdResponse
        blockLength := 4
        blockBuffer := [1, 2, 3, 4] } ∧
    ∃ u, (readResponse (emulatorPeer true) 4).run
        ⟨{ Card.powerOn 3 [1, 2, 3, 4] (fun _ => 0) maxRwCount with
          currentState := .readCmdResponse
          blockLength := 4
          blockBuffer := [1, 2, 3, 4] }, 1, 0, []⟩ =
      .ok ((4, [0xfe, 1, 2, 3]), ⟨u, 1, 0, []⟩) ∧ u.currentState ≠ .idle :=
  ⟨rfl, @readResponse_stops_short true { Card.powerOn 3 [1, 2, 3, 4] (fun _ => 0) maxRwCount with
      blockLength := 4
      blockBuffer := [0, 0, 0, 0] } _ (fun i => if i = 0 then 0x51 else 0) rfl rfl (by decide) rfl
    ⟨Card.powerOn 3 [] (fun _ => 0) maxRwCount, 1, 0, []⟩⟩

end Read

end NyuziSdmmc
