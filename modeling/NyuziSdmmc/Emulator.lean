import NyuziSdmmc.Bytes

/-!
# The emulated SD/MMC card

The emulator's `sdmmc.c` answers the guest's SPI transfers as an SD card in SPI mode, backed by
a block file. Its `static` variables are the record `Card`; `process_command`,
`transfer_sdmmc_byte` and `set_sdmmc_cs` are functions on it.

* `exit(1)` after a message stops the run (`Stop.exit`). An index past the end of
  `current_command` or `block_buffer` is undefined behaviour in C; the model makes it an outcome
  of its own, `Stop.overrun`, which `Safety` shows no run reaches;
* `next_random` lives in `util.c`: the card holds the stream of values it will return;
* the block file is a list of bytes. `lseek` fails only on a negative descriptor. One `read` or
  `write` moves at most `ioLimit` bytes, the host's cap on a call (`0x7ffff000` on Linux), and
  `read` also stops at the end of the file; the card exits when either moves fewer bytes than
  `block_length`;
* `realloc` keeps the old bytes; the new ones, indeterminate in C, are zero here.

The messages of a failed write name `CMD_READ_SINGLE_BLOCK`, as the source has them.
-/

namespace NyuziSdmmc

/-- `INIT_CLOCKS` -/
def initClocks : Nat := 80

/-- `SD_COMMAND_LENGTH` -/
def sdCommandLength : Nat := 6

/-- `DATA_TOKEN` -/
def dataToken : Nat := 0xfe

/-- `CMD_GO_IDLE_STATE` -/
def cmdGoIdleState : Nat := 0

/-- `CMD_SEND_OP_COND` -/
def cmdSendOpCond : Nat := 1

/-- `CMD_SET_BLOCKLEN` -/
def cmdSetBlocklen : Nat := 16

/-- `CMD_READ_SINGLE_BLOCK` -/
def cmdReadSingleBlock : Nat := 17

/-- `CMD_WRITE_SINGLE_BLOCK` -/
def cmdWriteSingleBlock : Nat := 24

/-- `enum sd_state` -/
inductive SdState
  | initWait
  | idle
  | receiveCommand
  | readCmdResponse
  | readDataToken
  | sendResult
  | readTransfer
  | writeCmdResponse
  | writeDataToken
  | writeTransfer
  | writeDataResponse
  deriving DecidableEq, Repr

/-- The emulator's `static` variables, the file behind `block_fd`, the values `next_random`
will return, and the most bytes the host's `read` and `write` move in one call. The `uint32_t`
variables are kept below `2 ^ 32` by `u32`. -/
structure Card where
  blockFd : Int
  image : List Byte
  currentState : SdState
  chipSelect : Nat
  stateDelay : Nat
  transferBlockAddress : Nat
  transferCount : Nat
  blockLength : Nat
  initClockCount : Nat
  currentCommand : Fin 6 → Byte
  currentCommandLength : Nat
  blockBuffer : List Byte
  inIdleState : Bool
  random : Nat → Nat
  ioLimit : Nat

/-- Why a run of the emulator stops. -/
inductive Stop
  | exit (message : String)
  | overrun
  deriving DecidableEq, Repr

/-- The cap Linux puts on one `read` or `write` (`MAX_RW_COUNT`). -/
def maxRwCount : Nat := 0x7ffff000

/-- The power-on state, with `block_fd` as `open_sdmmc_device` left it (`-1` if no file). -/
def Card.powerOn (blockFd : Int) (image : List Byte) (random : Nat → Nat) (ioLimit : Nat) :
    Card where
  blockFd := blockFd
  image := image
  currentState := .initWait
  chipSelect := 0
  stateDelay := 0
  transferBlockAddress := 0
  transferCount := 0
  blockLength := 0
  initClockCount := 0
  currentCommand := fun _ => 0
  currentCommandLength := 0
  blockBuffer := []
  inIdleState := false
  random := random
  ioLimit := ioLimit

@[simp] theorem Card.powerOn_blockFd (blockFd : Int) (image : List Byte) (random : Nat → Nat)
    (ioLimit : Nat) : (Card.powerOn blockFd image random ioLimit).blockFd = blockFd := rfl

/-- `next_random()`: the next value and the card with the stream advanced. -/
def Card.nextRandom (s : Card) : Nat × Card :=
  (s.random 0, { s with random := fun n => s.random (n + 1) })

/-- A delay `next_random() & 0xf` is below 16. -/
theorem land_0xf_lt (n : Nat) : n &&& 0xf < 16 :=
  Nat.lt_of_le_of_lt Nat.and_le_right (by decide)

/-- `read_little_endian`; the first byte is the most significant. -/
def readLittleEndian (v0 v1 v2 v3 : Byte) : Nat :=
  v0.val <<< 24 ||| v1.val <<< 16 ||| v2.val <<< 8 ||| v3.val

theorem or_eq_add_of_lt {a b c i : Nat} (ha : a = 2 ^ i * c) (hb : b < 2 ^ i) :
    a ||| b = a + b := by
  rw [ha, Nat.mul_add_lt_is_or hb]

/-- The bytes of `read_little_endian` do not overlap, so the `|` is a sum. -/
theorem readLittleEndian_eq (v0 v1 v2 v3 : Byte) :
    readLittleEndian v0 v1 v2 v3 = v0.val * 2 ^ 24 + v1.val * 2 ^ 16 + v2.val * 2 ^ 8 + v3.val := by
  have h1 := v1.isLt
  have h2 := v2.isLt
  have h3 := v3.isLt
  have e1 : v0.val * 2 ^ 24 ||| v1.val * 2 ^ 16 = v0.val * 2 ^ 24 + v1.val * 2 ^ 16 :=
    or_eq_add_of_lt (i := 24) (c := v0.val) (by omega) (by omega)
  have e2 : v0.val * 2 ^ 24 + v1.val * 2 ^ 16 ||| v2.val * 2 ^ 8 =
      v0.val * 2 ^ 24 + v1.val * 2 ^ 16 + v2.val * 2 ^ 8 :=
    or_eq_add_of_lt (i := 16) (c := v0.val * 2 ^ 8 + v1.val) (by omega) (by omega)
  simp only [readLittleEndian, Nat.shiftLeft_eq]
  rw [e1, e2, or_eq_add_of_lt (i := 8) (c := v0.val * 2 ^ 16 + v1.val * 2 ^ 8 + v2.val) (by omega)
    (by omega)]

/-- `realloc` -/
def realloc (buffer : List Byte) (size : Nat) : List Byte :=
  buffer.take size ++ List.replicate (size - buffer.length) 0

/-- `lseek` to `offset`, then one `read` of `count` bytes: it moves at most `limit` bytes and
stops at the end of the file. -/
def fileRead (image : List Byte) (offset count limit : Nat) : List Byte :=
  (image.drop offset).take (min count limit)

/-- `lseek` to `offset`, then `write`; a gap before the offset reads as zeros. -/
def fileWrite (image : List Byte) (offset : Nat) (bytes : List Byte) : List Byte :=
  image.take offset ++ List.replicate (offset - image.length) 0 ++ bytes ++
    image.drop (offset + bytes.length)

/-- `printf("%02x", b)` -/
def hex2 (b : Byte) : String :=
  String.mk (if b.val < 16 then '0' :: Nat.toDigits 16 b.val else Nat.toDigits 16 b.val)

/-! ### `process_command` -/

/-- The argument of a command: `read_little_endian(command + 1)`. -/
def commandArgument (command : Fin 6 → Byte) : Nat :=
  readLittleEndian (command 1) (command 2) (command 3) (command 4)

/-- `CMD_SET_BLOCKLEN` -/
def setBlocklen (s : Card) (command : Fin 6 → Byte) : Except Stop Card :=
  if s.inIdleState then .error (.exit "CMD_SET_BLOCKLEN: card not ready\n")
  else .ok { s with
    blockLength := commandArgument command
    blockBuffer := realloc s.blockBuffer (commandArgument command)
    currentState := .sendResult }

/-- `CMD_READ_SINGLE_BLOCK`: the block is read into `block_buffer`, then the card waits a random
delay before its R1. -/
def readSingleBlock (s : Card) (command : Fin 6 → Byte) : Except Stop Card :=
  if s.inIdleState then .error (.exit "CMD_READ_SINGLE_BLOCK: card not ready\n")
  else if s.blockFd < 0 then .error (.exit "CMD_READ_SINGLE_BLOCK: seek failed")
  else
    let address := u32 (commandArgument command * s.blockLength)
    let bytes := fileRead s.image address s.blockLength s.ioLimit
    if s.blockBuffer.length < bytes.length then .error .overrun
    else if bytes.length ≠ s.blockLength then
      .error (.exit "CMD_READ_SINGLE_BLOCK: read failed for block\n")
    else .ok { s.nextRandom.2 with
      transferBlockAddress := address
      blockBuffer := bytes ++ s.blockBuffer.drop bytes.length
      transferCount := 0
      currentState := .readCmdResponse
      stateDelay := s.nextRandom.1 &&& 0xf }

/-- `CMD_WRITE_SINGLE_BLOCK`; its "card not ready" message names `CMD_READ_SINGLE_BLOCK`. -/
def writeSingleBlock (s : Card) (command : Fin 6 → Byte) : Except Stop Card :=
  if s.inIdleState then .error (.exit "CMD_READ_SINGLE_BLOCK: card not ready\n")
  else .ok { s.nextRandom.2 with
    transferBlockAddress := u32 (commandArgument command * s.blockLength)
    transferCount := 0
    currentState := .writeCmdResponse
    stateDelay := s.nextRandom.1 &&& 0xf }

/-- `process_command`, dispatching on the command index `command[0] & 0x3f`. -/
def processCommand (s : Card) (command : Fin 6 → Byte) : Except Stop Card :=
  let index := (command 0).val &&& 0x3f
  if index = cmdGoIdleState then
    -- If a virtual block device wasn't specified, don't initialize
    .ok (if 0 < s.blockFd then { s with inIdleState := true, currentState := .sendResult } else s)
  else if index = cmdSendOpCond then
    .ok { s with currentState := .sendResult, inIdleState := false }
  else if index = cmdSetBlocklen then setBlocklen s command
  else if index = cmdReadSingleBlock then readSingleBlock s command
  else if index = cmdWriteSingleBlock then writeSingleBlock s command
  else .error (.exit ("sdmmc error: unknown command " ++ hex2 (command 0) ++ "\n"))

/-! ### `transfer_sdmmc_byte` -/

/-- `STATE_IDLE`, also reached from `STATE_INIT_WAIT` by falling through: a start byte begins a
command frame. -/
def idleByte (s : Card) (value : Int) : Card :=
  if s.chipSelect = 0 ∧ Int.land value 0xc0 = 0x40 then { s with
    currentState := .receiveCommand
    currentCommand := Function.update s.currentCommand 0 (lowByte value)
    currentCommandLength := 1 }
  else s

/-- `STATE_RECEIVE_COMMAND`: store a byte of the frame; the sixth one runs `process_command`. -/
def receiveCommandByte (s : Card) (value : Int) : Except Stop Card :=
  if s.chipSelect ≠ 0 then .ok s
  else if h : s.currentCommandLength < sdCommandLength then
    let command := Function.update s.currentCommand ⟨_, h⟩ (lowByte value)
    let length := u32 (s.currentCommandLength + 1)
    let s := { s with currentCommand := command, currentCommandLength := length }
    if length = sdCommandLength then
      (processCommand s command).map fun s => { s with currentCommandLength := 0 }
    else .ok s
  else .error .overrun

/-- `STATE_READ_TRANSFER`: the block, then two checksum bytes. -/
def readTransferByte (signedChar : Bool) (s : Card) : Except Stop (Int × Card) :=
  let next := u32 (s.transferCount + 1)
  if s.transferCount < s.blockLength then
    match s.blockBuffer[s.transferCount]? with
    | some b => .ok (charValue signedChar b, { s with transferCount := next })
    | none => .error .overrun
  else if s.transferCount = u32 (s.blockLength + 1) then
    .ok (0xff, { s with currentState := .idle, transferCount := next })
  else .ok (0xff, { s with transferCount := next })

/-- `STATE_WRITE_TRANSFER`: the block, then two checksum bytes. -/
def writeTransferByte (s : Card) (value : Int) : Except Stop Card :=
  let next := u32 (s.transferCount + 1)
  if s.transferCount < s.blockLength then
    if s.transferCount < s.blockBuffer.length then
      .ok { s with
        blockBuffer := s.blockBuffer.set s.transferCount (lowByte value)
        transferCount := next }
    else .error .overrun
  else if s.transferCount = u32 (s.blockLength + 1) then
    .ok { s with currentState := .writeDataResponse, transferCount := next }
  else .ok { s with transferCount := next }

/-- `STATE_WRITE_DATA_RESPONSE`: answer "data accepted" and write the block to the file, exiting
if the `write` moves fewer than `block_length` bytes; the messages name
`CMD_READ_SINGLE_BLOCK`. -/
def writeDataResponse (s : Card) : Except Stop (Int × Card) :=
  if s.blockFd < 0 then .error (.exit "CMD_READ_SINGLE_BLOCK: seek failed")
  else if s.blockBuffer.length < s.blockLength then .error .overrun
  else if min s.blockLength s.ioLimit ≠ s.blockLength then
    .error (.exit "CMD_READ_SINGLE_BLOCK: write failed for block\n")
  else .ok (0x05, { s with
    currentState := .idle
    image := fileWrite s.image s.transferBlockAddress (s.blockBuffer.take s.blockLength) })

/-- `transfer_sdmmc_byte`: the card's reply to a byte from the host, and its next state. -/
def transferSdmmcByte (signedChar : Bool) (s : Card) (value : Int) : Except Stop (Int × Card) :=
  match s.currentState with
  | .initWait =>
    let s := { s with initClockCount := u32 (s.initClockCount + 8) }
    if s.chipSelect = 0 ∧ s.initClockCount < initClocks then
      .error (.exit "sdmmc error: command posted before card initialized 1\n")
    else .ok (0xff, idleByte s value)
  | .idle => .ok (0xff, idleByte s value)
  | .receiveCommand => (receiveCommandByte s value).map ((0xff : Int), ·)
  | .sendResult => .ok (if s.inIdleState then 1 else 0, { s with currentState := .idle })
  | .readCmdResponse =>
    if s.stateDelay = 0 then
      .ok (0, { s.nextRandom.2 with
        currentState := .readDataToken
        stateDelay := s.nextRandom.1 &&& 0xf })
    else .ok (0xff, { s with stateDelay := s.stateDelay - 1 })
  | .readDataToken =>
    if s.stateDelay = 0 then
      .ok (dataToken, { s with
        currentState := .readTransfer
        stateDelay := u32 (s.blockLength + 2) })
    else .ok (0xff, { s with stateDelay := s.stateDelay - 1 })
  | .readTransfer => readTransferByte signedChar s
  | .writeCmdResponse =>
    if s.stateDelay = 0 then
      .ok (0, { s with
        currentState := .writeDataToken
        stateDelay := u32 (s.blockLength + 2) })
    else .ok (0xff, { s with stateDelay := s.stateDelay - 1 })
  | .writeDataToken =>
    .ok (0xff, if value = dataToken then { s with currentState := .writeTransfer } else s)
  | .writeTransfer => (writeTransferByte s value).map ((0xff : Int), ·)
  | .writeDataResponse => writeDataResponse s

/-- `set_sdmmc_cs` -/
def setSdmmcCs (s : Card) (value : Int) : Card :=
  { s with chipSelect := (Int.land value 1).toNat }

/-! ### Runs -/

/-- What the host does to the card: a byte transfer, or a change of the chip select. -/
inductive Event
  | transfer (value : Int)
  | setCs (value : Int)

/-- The replies to the transfers of `events`, and the card after them. -/
def Card.run (signedChar : Bool) : Card → List Event → Except Stop (List Int × Card)
  | s, [] => .ok ([], s)
  | s, .setCs value :: events => Card.run signedChar (setSdmmcCs s value) events
  | s, .transfer value :: events =>
    (transferSdmmcByte signedChar s value).bind fun p =>
      (Card.run signedChar p.2 events).map fun q => (p.1 :: q.1, q.2)

/-- The number of transfers among `events`. -/
def transfers : List Event → Nat
  | [] => 0
  | .transfer _ :: events => transfers events + 1
  | .setCs _ :: events => transfers events

/-! ### Messages -/

/-! The write path reports its failures under the name of the read: a write to a card in its
idle state, and a short `write`. -/

example (command : Fin 6 → Byte) :
    writeSingleBlock { Card.powerOn 3 [] (fun _ => 0) maxRwCount with inIdleState := true }
      command = .error (.exit "CMD_READ_SINGLE_BLOCK: card not ready\n") := rfl

example :
    writeDataResponse { Card.powerOn 3 [] (fun _ => 0) 2 with
      blockLength := 4, blockBuffer := [0, 0, 0, 0] } =
      .error (.exit "CMD_READ_SINGLE_BLOCK: write failed for block\n") := rfl

end NyuziSdmmc
