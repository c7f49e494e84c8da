import NyuziSdmmc.Board

/-!
# Single-block transactions on the emulated card

The driver never writes a block, and its read skips the data token (`Link`), so the card's
single-block transactions are driven here by a host that follows the SPI protocol:

* `hostInit`: the driver's power-on clocks and reset, one `CMD_SEND_OP_COND`, and
  `CMD_SET_BLOCKLEN` under the card's number 16;
* `hostRead`, `hostWrite`: a command frame, R1, the data token, the block and two checksum
  bytes; a write may send any fill bytes before its data token, any two checksum bytes, and then
  clocks in the data response;
* `Ready bl image s`: the card is idle, selected and out of its idle state, its block length is
  `bl` with a `bl`-byte buffer, the host's `read` and `write` move `bl` bytes in one call, and
  its file holds `image`;
* `hostInit_ready`: on the board, from power-on with a file open, the init gets the R1s 1, 0, 0
  and leaves the card ready;
* `run_writeDataToken`: waiting for a write's data token, the card ignores every other byte;
* `hostRead_spec`, `hostWrite_spec`: from a ready card, a read returns the `bl` bytes of the file
  at `(address * bl) mod 2 ^ 32`, and a write whose fill bytes are not the data token is
  answered `0x05` and puts its data there; the card is ready again.
-/

namespace NyuziSdmmc

section Host

variable {σ ε : Type} (peer : SpiPeer σ ε)

/-- A host initializing the card as `initSdmmcDevice` does, with one poll of `SD_CMD_INIT`, but
sending `CMD_SET_BLOCKLEN` under the card's number; it returns the three R1s. -/
def hostInit (blockLength : Nat) : Driver σ ε (Int × Int × Int) := do
  let reset ← initPrologue peer
  sendSdCommand peer .init 0
  let ready ← getResult peer
  sendBytes peer (commandFrame cmdSetBlocklen blockLength)
  let set ← getResult peer
  pure (reset, ready, set)

/-- A host reading block `address` of `blockLength` bytes by the SPI single-block protocol. -/
def hostRead (blockLength address : Nat) : Driver σ ε (List Byte) := do
  sendBytes peer (commandFrame cmdReadSingleBlock address)
  let _ ← getResult peer  -- R1
  let _ ← getResult peer  -- the data token
  let data ← readBytes peer blockLength
  sendBytes peer [0xff, 0xff]  -- checksum
  pure data

/-- A host writing `data` to block `address` by the SPI single-block protocol: after R1 it sends
the bytes `fill`, then the data token, the data and the checksum `crc`; it returns the data
response. -/
def hostWrite (address : Nat) (fill : List Int) (data : List Byte) (crc : Int × Int) :
    Driver σ ε Int := do
  sendBytes peer (commandFrame cmdWriteSingleBlock address)
  let _ ← getResult peer  -- R1
  sendBytes peer fill
  sendBytes peer [(dataToken : Int)]
  sendBytes peer (data.map fun b => (b.val : Int))
  sendBytes peer [crc.1, crc.2]
  spiTransfer peer 0xff

end Host

/-- The card between transactions: idle, selected, out of its idle state, with block length `bl`,
a `bl`-byte buffer, a host whose `read` and `write` move `bl` bytes in one call, and its file
open and holding `image`. -/
structure Ready (bl : Nat) (image : List Byte) (s : Card) : Prop where
  idle : s.currentState = .idle
  selected : s.chipSelect = 0
  initialized : s.inIdleState = false
  block_length : s.blockLength = bl
  buffer_length : s.blockBuffer.length = bl
  io_fits : bl ≤ s.ioLimit
  file_open : 0 ≤ s.blockFd
  file : s.image = image

/-- A card is ready again when it is idle, its chip select and setup are those of a ready card,
except for a new `bl`-byte buffer and a new file content. -/
theorem Ready.of_setup {bl : Nat} {image image' block : List Byte} {s t : Card}
    (hs : Ready bl image s) (hidle : t.currentState = .idle) (hcs : t.chipSelect = s.chipSelect)
    (hsetup : t.setup = ⟨s.blockFd, image', s.blockLength, block, s.inIdleState, s.ioLimit⟩)
    (hblock : block.length = bl) : Ready bl image' t := by
  simp only [Card.setup, Setup.mk.injEq] at hsetup
  obtain ⟨hfd, himage, hbl, hbuf, hinit, hio⟩ := hsetup
  exact ⟨hidle, hcs.trans hs.selected, hinit.trans hs.initialized, hbl.trans hs.block_length,
    by rw [hbuf, hblock], hio ▸ hs.io_fits, hfd ▸ hs.file_open, himage⟩

/-- Within the host's limit, a `read` stops only at the end of the file. -/
theorem fileRead_of_le {image : List Byte} {offset count limit : Nat} (h : count ≤ limit) :
    fileRead image offset count limit = (image.drop offset).take count := by
  rw [fileRead, min_eq_left h]

/-- The address of a block that starts below `2 ^ 32` does not wrap. -/
theorem u32_address {address bl : Nat} (h : address * bl < 2 ^ 32) :
    u32 (u32 address * bl) = address * bl := by
  rcases Nat.eq_zero_or_pos bl with rfl | hpos
  · simp [u32]
  · have hle : address ≤ address * bl := Nat.le_mul_of_pos_right _ hpos
    rw [u32_of_lt (by omega : address < 2 ^ 32), u32_of_lt h]

/-! ### Initializing the card -/

section Init

variable {signedChar : Bool} {wiring : Int → Int}

/-- `CMD_SET_BLOCKLEN` on a card out of its idle state sets the block length and reallocates the
buffer. -/
theorem processCommand_setBlocklen (s : Card) (parameter : Nat) (hinit : s.inIdleState = false) :
    processCommand s (receivedFrame cmdSetBlocklen parameter) = .ok { s with
      blockLength := u32 parameter
      blockBuffer := realloc s.blockBuffer (u32 parameter)
      currentState := .sendResult } := by
  simp [processCommand, receivedFrame_index, cmdGoIdleState, cmdSendOpCond, cmdSetBlocklen,
    setBlocklen, hinit, receivedFrame_argument]

/-- `realloc` of an empty buffer is zero-filled. -/
theorem realloc_nil (size : Nat) : realloc [] size = List.replicate size 0 := by
  simp [realloc]

/-- **The host's init leaves the card ready.** On a board whose wiring inverts the driver's
chip-select value, from power-on with a file open, the reset is answered 1,
`CMD_SEND_OP_COND` 0 and `CMD_SET_BLOCKLEN bl` 0, and the card is then ready with block length
`bl`, a zero-filled buffer, and the file unchanged. -/
theorem hostInit_ready (hdeselect : Int.land (wiring 0) 1 = 1)
    (hselect : Int.land (wiring 1) 1 = 0) {blockFd : Int} (hfd : 0 < blockFd) (image : List Byte)
    (random : Nat → Nat) {ioLimit bl : Nat} (hbl : bl < 2 ^ 32) (hio : bl ≤ ioLimit)
    (b : Bus Card) :
    ∃ t, (hostInit (boardPeer signedChar wiring) bl).run
        { b with card := Card.powerOn blockFd image random ioLimit } =
      .ok ((1, 0, 0), { b with
        card := t
        chipSelect := 1
        clockDivider := (sysClockHz.tdiv 400000).tdiv 2 - 1 }) ∧ Ready bl image t := by
  refine ⟨{ Card.powerOn blockFd image random ioLimit with
    currentState := .idle
    blockLength := bl
    blockBuffer := List.replicate bl 0
    initClockCount := 88
    currentCommand := receivedFrame cmdSetBlocklen bl }, ?_,
    ⟨rfl, rfl, rfl, rfl, List.length_replicate _ _, hio, Int.le_of_lt hfd, rfl⟩⟩
  -- the driver's clocks and `SD_CMD_RESET`, answered 1
  rw [hostInit, StateT.run_bind, initPrologue_board_reset hdeselect hselect hfd, except_ok_bind]
  dsimp only
  -- `CMD_SEND_OP_COND`, answered 0
  rw [StateT.run_bind, sendSdCommand_board, sendSdCommand_emulator signedChar rfl rfl,
    processCommand_init]
  dsimp only [Card.received, Except.map]
  rw [except_ok_bind, StateT.run_bind, getResult_board, getResult_sendResult signedChar rfl,
    except_ok_bind]
  dsimp only
  -- `CMD_SET_BLOCKLEN`, answered 0
  rw [StateT.run_bind, sendBytes_board, sendBytes_commandFrame signedChar rfl rfl (by decide),
    processCommand_setBlocklen _ _ rfl]
  dsimp only [Card.received, Except.map]
  rw [except_ok_bind, StateT.run_bind, getResult_sendResult signedChar rfl, except_ok_bind]
  simp only [u32_of_lt hbl, Card.powerOn, realloc_nil]
  rfl

end Init

/-! ### Reading a block -/

section Read

variable (signedChar : Bool) {bl : Nat} {image : List Byte} {s : Card}

/-- `CMD_READ_SINGLE_BLOCK` on a card whose file holds the whole block. -/
theorem readSingleBlock_of_fits {command : Fin 6 → Byte} (hidle : s.inIdleState = false)
    (hfd : 0 ≤ s.blockFd) (hbuf : s.blockBuffer.length = s.blockLength)
    (hlen : (readBlock s command).length = s.blockLength) :
    readSingleBlock s command = .ok { s.nextRandom.2 with
      transferBlockAddress := u32 (commandArgument command * s.blockLength)
      blockBuffer := readBlock s command
      transferCount := 0
      currentState := .readCmdResponse
      stateDelay := s.random 0 &&& 0xf } := by
  simp only [readBlock] at hlen
  simp [readSingleBlock, hidle, show ¬ s.blockFd < 0 by omega, hlen, hbuf,
    List.drop_eq_nil_of_le hbuf.le, readBlock, Card.nextRandom]

/-- The command of a read leaves the card owing the whole reply for the block at
`(address * bl) mod 2 ^ 32`. -/
theorem sendBytes_read_ready (hs : Ready bl image s) (hbl : bl + 1 < 2 ^ 32) (address : Nat)
    (hfits : u32 (u32 address * bl) + bl ≤ image.length) (b : Bus Card) :
    ∃ t, (sendBytes (emulatorPeer signedChar) (commandFrame cmdReadSingleBlock address)).run
        { b with card := s } = .ok ((), { b with card := t }) ∧
      Owes signedChar t (readReply signedChar (s.random 0 &&& 0xf) (s.random 1 &&& 0xf)
        ((image.drop (u32 (u32 address * bl))).take bl)) ∧
      t.setup = ⟨s.blockFd, image, s.blockLength, (image.drop (u32 (u32 address * bl))).take bl,
        s.inIdleState, s.ioLimit⟩ ∧ t.chipSelect = s.chipSelect := by
  have hblock : readBlock (s.received (receivedFrame cmdReadSingleBlock address))
      (receivedFrame cmdReadSingleBlock address) =
        (image.drop (u32 (u32 address * bl))).take bl := by
    simp only [readBlock, Card.received, receivedFrame_argument, hs.block_length, hs.file]
    exact fileRead_of_le hs.io_fits
  have hbuf := hs.buffer_length.trans hs.block_length.symm
  have hread := readSingleBlock_of_fits (s := s.received (receivedFrame cmdReadSingleBlock address))
    hs.initialized hs.file_open hbuf (by rw [hblock]; simp [Card.received, hs.block_length]; omega)
  obtain ⟨-, howes⟩ :=
    readSingleBlock_owes (s := s.received (receivedFrame cmdReadSingleBlock address)) signedChar
      hbuf (hs.block_length ▸ hbl) hread
  rw [hblock] at hread howes
  refine ⟨_, ?_, howes.clearCommand, ?_, rfl⟩
  · rw [sendBytes_commandFrame signedChar hs.idle hs.selected (by decide) address,
      processCommand_of_read (receivedFrame_index (by decide) address), hread]
    rfl
  · simp [Card.setup, Card.received, Card.nextRandom, hs.file]

/-- **A read transaction on a ready card** returns the `bl` bytes of the file at
`(address * bl) mod 2 ^ 32` and leaves the card ready. -/
theorem hostRead_spec (hs : Ready bl image s) (hbl : bl + 1 < 2 ^ 32) (address : Nat)
    (hfits : u32 (u32 address * bl) + bl ≤ image.length) (b : Bus Card) :
    ∃ t, (hostRead (emulatorPeer signedChar) bl address).run { b with card := s } =
        .ok ((image.drop (u32 (u32 address * bl))).take bl, { b with card := t }) ∧
      Ready bl image t := by
  obtain ⟨t₁, hcmd, howes, hsetup, hcs⟩ := sendBytes_read_ready signedChar hs hbl address hfits b
  have hblock : ((image.drop (u32 (u32 address * bl))).take bl).length = bl := by simp; omega
  generalize (image.drop (u32 (u32 address * bl))).take bl = block at hblock howes hsetup ⊢
  have hreply : readReply signedChar (s.random 0 &&& 0xf) (s.random 1 &&& 0xf) block =
      (List.replicate (s.random 0 &&& 0xf) 0xff ++ [0]) ++
        ((List.replicate (s.random 1 &&& 0xf) 0xff ++ [(dataToken : Int)]) ++
          (block.map (charValue signedChar) ++ ([0xff, 0xff] ++ []))) := by
    simp [readReply, dataReply]
  rw [hreply] at howes
  -- R1, the data token, the block, the checksum
  obtain ⟨t₂, hr1, howes₂, hsetup₂, hcs₂⟩ := answers_of_owes howes
  obtain ⟨t₃, htoken, howes₃, hsetup₃, hcs₃⟩ := answers_of_owes howes₂
  obtain ⟨t₄, hdata, howes₄, hsetup₄, hcs₄⟩ := answers_of_owes howes₃
  obtain ⟨t₅, hcrc, howes₅, hsetup₅, hcs₅⟩ := answers_of_owes howes₄
  have hdelay : ∀ n : Nat, n &&& 0xf < maxRetries := fun n =>
    Nat.lt_of_lt_of_le (land_0xf_lt n) (by decide)
  have hget₁ := getResultLoop_found (b := { b with card := t₁ }) (hdelay _) (by decide) hr1
  have hget₂ := getResultLoop_found (b := { b with card := t₂ }) (hdelay _) (by decide) htoken
  have hread := readBytes_of_answers (b := { b with card := t₃ }) hdata
  have hsend := sendBytes_of_answers (b := { b with card := t₄ }) [0xff, 0xff] rfl hcrc
  rw [List.length_map, hblock] at hread
  refine ⟨t₅, ?_, hs.of_setup howes₅.idle_of_nil (by rw [hcs₅, hcs₄, hcs₃, hcs₂, hcs])
    (by rw [hsetup₅, hsetup₄, hsetup₃, hsetup₂, hsetup]) hblock⟩
  simp [hostRead, StateT.run_bind, hcmd, getResult, hget₁, hget₂, hread, hsend]

end Read

/-! ### Writing a block -/

section Write

variable (signedChar : Bool) {bl : Nat} {image : List Byte} {s : Card}

theorem processCommand_of_write {command : Fin 6 → Byte}
    (hwrite : (command 0).val &&& 0x3f = cmdWriteSingleBlock) :
    processCommand s command = writeSingleBlock s command := by
  simp [processCommand, hwrite, cmdGoIdleState, cmdSendOpCond, cmdSetBlocklen, cmdReadSingleBlock,
    cmdWriteSingleBlock]

/-- The command of a write: the card takes the block address `(address * bl) mod 2 ^ 32` and
waits a random delay before its R1. -/
theorem sendBytes_write_ready (hs : Ready bl image s) (address : Nat) (b : Bus Card) :
    ∃ t, (sendBytes (emulatorPeer signedChar) (commandFrame cmdWriteSingleBlock address)).run
        { b with card := s } = .ok ((), { b with card := t }) ∧
      t.currentState = .writeCmdResponse ∧ t.stateDelay < 16 ∧ t.transferCount = 0 ∧
      t.transferBlockAddress = u32 (u32 address * bl) ∧ t.setup = s.setup ∧
      t.chipSelect = s.chipSelect := by
  refine ⟨{ s.nextRandom.2 with
      currentCommand := receivedFrame cmdWriteSingleBlock address
      currentCommandLength := 0
      transferBlockAddress := u32 (u32 address * bl)
      transferCount := 0
      currentState := .writeCmdResponse
      stateDelay := s.random 0 &&& 0xf }, ?_, rfl, land_0xf_lt _,
    rfl, rfl, rfl, rfl⟩
  rw [sendBytes_commandFrame signedChar hs.idle hs.selected (by decide) address,
    processCommand_of_write (receivedFrame_index (by decide) address)]
  simp [writeSingleBlock, Card.received, hs.initialized, receivedFrame_argument, hs.block_length,
    Card.nextRandom, Except.map]

/-- In `STATE_WRITE_CMD_RESPONSE` the card answers its delay's worth of `0xff`, then R1 `0`,
whatever is sent. -/
theorem answers_writeCmdResponse {t : Card} (hst : t.currentState = .writeCmdResponse) :
    Answers (emulatorPeer signedChar) t (List.replicate t.stateDelay 0xff ++ [0])
      { t with currentState := .writeDataToken, stateDelay := u32 (t.blockLength + 2) } := by
  obtain ⟨d, hd⟩ : ∃ d, t.stateDelay = d := ⟨_, rfl⟩
  induction d generalizing t with
  | zero =>
    rw [hd]
    exact .cons (fun w => by simp [emulatorPeer, transferSdmmcByte, hst, hd]) (.nil _)
  | succ d ih =>
    rw [hd]
    exact .cons (t := { t with stateDelay := d })
      (fun w => by simp [emulatorPeer, transferSdmmcByte, hst, hd])
      (ih (t := { t with stateDelay := d }) hst rfl)

theorem sendBytes_dataToken {t : Card} (hst : t.currentState = .writeDataToken) (b : Bus Card) :
    (sendBytes (emulatorPeer signedChar) [(dataToken : Int)]).run { b with card := t } =
      .ok ((), { b with card := { t with currentState := .writeTransfer } }) := by
  have htoken : Int.land (dataToken : Int) 0xff = dataToken := land_0xff_of_lt (by decide)
  simp [sendBytes_emulator, htoken, Card.run, transferSdmmcByte, hst, Except.map, Except.bind]

/-- **A card waiting for a data token ignores every other byte.** In `STATE_WRITE_DATA_TOKEN`
the card answers `0xff` to every byte but `0xfe` and does not change, so a host may send any
number of fill bytes before the token. -/
theorem run_writeDataToken {s : Card} (hst : s.currentState = .writeDataToken) (values : List Int)
    (hfill : ∀ v ∈ values, v ≠ dataToken) :
    Card.run signedChar s (values.map .transfer) = .ok (List.replicate values.length 0xff, s) := by
  induction values with
  | nil => rfl
  | cons v values ih =>
    have hstep : transferSdmmcByte signedChar s v = .ok (0xff, s) := by
      simp [transferSdmmcByte, hst, hfill v (List.mem_cons_self _ _)]
    rw [List.map_cons, Card.run_transfer_of_ok hstep,
      ih fun w hw => hfill w (List.mem_cons_of_mem _ hw)]
    rfl

/-- The host's fill bytes, none of which is the data token to the card. -/
theorem sendBytes_fill {t : Card} (hst : t.currentState = .writeDataToken) (fill : List Int)
    (hfill : ∀ v ∈ fill, Int.land v 0xff ≠ dataToken) (b : Bus Card) :
    (sendBytes (emulatorPeer signedChar) fill).run { b with card := t } =
      .ok ((), { b with card := t }) := by
  rw [sendBytes_emulator, show fill.map (fun v => Event.transfer (Int.land v 0xff)) =
      (fill.map fun v => Int.land v 0xff).map Event.transfer from (List.map_map _ _ _).symm,
    run_writeDataToken signedChar hst _ (by simpa using hfill)]
  rfl

/-- In `STATE_WRITE_TRANSFER` each byte sent is stored at `transfer_count`. -/
theorem run_writeTransfer {t : Card} (hst : t.currentState = .writeTransfer)
    (hbl : t.blockLength < 2 ^ 32) {pre rest : List Byte} (hbuf : t.blockBuffer = pre ++ rest)
    (htc : t.transferCount = pre.length) (hlen : pre.length + rest.length = t.blockLength)
    (bytes : List Byte) (hbytes : bytes.length ≤ rest.length) :
    Card.run signedChar t (bytes.map fun v => .transfer v.val) =
      .ok (List.replicate bytes.length 0xff, { t with
        blockBuffer := pre ++ bytes ++ rest.drop bytes.length
        transferCount := pre.length + bytes.length }) := by
  induction bytes generalizing t pre rest with
  | nil =>
    simp only [List.map_nil, List.length_nil, List.append_nil, List.drop_zero, Nat.add_zero,
      ← hbuf, ← htc]
    rfl
  | cons v bytes ih =>
    obtain _ | ⟨r, rest⟩ := rest
    · simp at hbytes
    have ht : transferSdmmcByte signedChar t v.val =
        .ok (0xff, { t with
          blockBuffer := pre ++ v :: rest, transferCount := pre.length + 1 }) := by
      simp only [List.length_cons] at hlen
      simp [transferSdmmcByte, hst, writeTransferByte, htc, hbuf,
        show pre.length < t.blockLength by omega,
        u32_of_lt (by omega : pre.length + 1 < 2 ^ 32), Except.map]
    have hnext :=
      ih (t := { t with blockBuffer := pre ++ v :: rest, transferCount := pre.length + 1 })
      hst hbl (show _ = (pre ++ [v]) ++ rest by simp) (by simp) (by simp at hlen ⊢; omega)
      (by simpa using hbytes)
    rw [List.map_cons, Card.run_transfer_of_ok ht, hnext]
    simp [Except.map, List.replicate_succ, Nat.add_assoc, Nat.add_comm 1]

theorem sendBytes_writeTransfer {t : Card} (hst : t.currentState = .writeTransfer)
    (hbl : t.blockLength < 2 ^ 32) (htc : t.transferCount = 0)
    (hbuf : t.blockBuffer.length = t.blockLength) (bytes : List Byte)
    (hbytes : bytes.length = t.blockLength) (b : Bus Card) :
    (sendBytes (emulatorPeer signedChar) (bytes.map fun v => (v.val : Int))).run
        { b with card := t } =
      .ok ((), { b with card :=
        { t with blockBuffer := bytes, transferCount := t.blockLength } }) := by
  have hmap : (bytes.map fun v => (v.val : Int)).map (fun v => Event.transfer (Int.land v 0xff)) =
      bytes.map fun v => .transfer v.val := by
    simp [Function.comp_def, land_0xff_of_lt]
  rw [sendBytes_emulator, hmap, run_writeTransfer signedChar hst hbl
    (show _ = [] ++ t.blockBuffer from rfl) htc (by simpa using hbuf) bytes
    (by simpa [hbuf] using hbytes.le)]
  simp [Except.map, hbytes, List.drop_eq_nil_of_le, hbuf]

/-- The two checksum bytes end the block, whatever their values. -/
theorem sendBytes_checksum {t : Card} (hst : t.currentState = .writeTransfer)
    (htc : t.transferCount = t.blockLength) (hbl : t.blockLength + 1 < 2 ^ 32) (crc : Int × Int)
    (b : Bus Card) :
    (sendBytes (emulatorPeer signedChar) [crc.1, crc.2]).run { b with card := t } =
      .ok ((), { b with card := { t with
        currentState := .writeDataResponse
        transferCount := u32 (t.blockLength + 2) } }) := by
  simp [sendBytes_emulator, Card.run, transferSdmmcByte, hst, writeTransferByte, htc,
    u32_of_lt hbl, show ¬ t.blockLength + 1 < t.blockLength by omega, Except.map, Except.bind]

/-- The data response, when the file is open and the host's `write` moves the whole block. -/
theorem spiTransfer_dataResponse {t : Card} (hst : t.currentState = .writeDataResponse)
    (hfd : 0 ≤ t.blockFd) (hbuf : t.blockLength ≤ t.blockBuffer.length)
    (hio : t.blockLength ≤ t.ioLimit) (b : Bus Card) :
    (spiTransfer (emulatorPeer signedChar) 0xff).run { b with card := t } =
      .ok (0x05, { b with card := { t with
        currentState := .idle
        image := fileWrite t.image t.transferBlockAddress (t.blockBuffer.take t.blockLength) } }) :=
    by
  simp [spiTransfer_emulator, transferSdmmcByte, hst, writeDataResponse,
    show ¬ t.blockFd < 0 by omega, not_lt.2 hbuf, min_eq_left hio, Except.map]

/-- **A write transaction on a ready card**, whose fill bytes are not the data token to the card,
is answered `0x05`, puts its data at `(address * bl) mod 2 ^ 32` in the file, and leaves the card
ready. -/
theorem hostWrite_spec (hs : Ready bl image s) (hbl : bl + 1 < 2 ^ 32) (address : Nat)
    (fill : List Int) (hfill : ∀ v ∈ fill, Int.land v 0xff ≠ dataToken) (data : List Byte)
    (hdata : data.length = bl) (crc : Int × Int) (b : Bus Card) :
    ∃ t, (hostWrite (emulatorPeer signedChar) address fill data crc).run { b with card := s } =
        .ok (0x05, { b with card := t }) ∧
      Ready bl (fileWrite image (u32 (u32 address * bl)) data) t := by
  obtain ⟨t₁, h₁, hst, hdelay, htc, haddr, hsetup, hcs⟩ :=
    sendBytes_write_ready signedChar hs address b
  simp only [Card.setup, Setup.mk.injEq] at hsetup
  obtain ⟨hfd, himage, hblock, hbuf, hinit, hio⟩ := hsetup
  rw [hs.block_length] at hblock
  -- R1, the fill bytes, the data token, the data, the checksum, the data response
  have h₂ := getResultLoop_found (b := { b with card := t₁ }) (n := maxRetries)
    (Nat.lt_of_lt_of_le hdelay (by decide)) (by decide) (answers_writeCmdResponse signedChar hst)
  have hf := sendBytes_fill signedChar
    (t := { t₁ with currentState := .writeDataToken, stateDelay := u32 (t₁.blockLength + 2) }) rfl
    fill hfill b
  have h₃ := sendBytes_dataToken signedChar
    (t := { t₁ with currentState := .writeDataToken, stateDelay := u32 (t₁.blockLength + 2) }) rfl b
  have h₄ := sendBytes_writeTransfer signedChar (t := { t₁ with
      currentState := .writeTransfer
      stateDelay := u32 (t₁.blockLength + 2) }) rfl (by simp only [hblock]; omega) htc
    (by simp only [hbuf, hblock, hs.buffer_length]) data (by simp only [hblock, hdata]) b
  have h₅ := sendBytes_checksum signedChar (t := { t₁ with
      currentState := .writeTransfer
      stateDelay := u32 (t₁.blockLength + 2)
      blockBuffer := data
      transferCount := t₁.blockLength }) rfl rfl (by simp only [hblock]; omega) crc b
  have h₆ := spiTransfer_dataResponse signedChar (t := { t₁ with
      currentState := .writeDataResponse
      stateDelay := u32 (t₁.blockLength + 2)
      blockBuffer := data
      transferCount := u32 (t₁.blockLength + 2) }) rfl (hfd ▸ hs.file_open)
    (by simp only [hblock, hdata, le_refl]) (by simp only [hblock, hio, hs.io_fits]) b
  refine ⟨{ t₁ with
      currentState := .idle
      stateDelay := u32 (t₁.blockLength + 2)
      blockBuffer := data
      transferCount := u32 (t₁.blockLength + 2)
      image := fileWrite t₁.image t₁.transferBlockAddress (data.take t₁.blockLength) },
    ?run, ?ready⟩
  case run =>
    simp only [hostWrite, StateT.run_bind, getResult]
    rw [h₁, except_ok_bind, h₂, except_ok_bind, hf, except_ok_bind, h₃, except_ok_bind, h₄,
      except_ok_bind, h₅, except_ok_bind, h₆]
  case ready =>
    exact ⟨rfl, hcs.trans hs.selected, hinit.trans hs.initialized, hblock, hdata,
      hio ▸ hs.io_fits, hfd ▸ hs.file_open, by simp [himage, hs.file, haddr, hblock, ← hdata]⟩

end Write

end NyuziSdmmc
