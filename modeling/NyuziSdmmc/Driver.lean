import NyuziSdmmc.Bytes

/-!
# The libos SD/MMC driver

The driver bit-bangs the SPI mode of an SD card through the memory-mapped SPI controller at
`REGISTERS`. The model keeps what the driver can observe or change: the chip-select and clock
registers it writes, the card behind the controller, and the console `printf` writes to. A
transfer writes `value & 0xff` to the data register `REGISTERS[0x44 / 4]`, which is the byte the
card receives, and returns the byte `REGISTERS[0x48 / 4]` holds once the status bit of
`REGISTERS[0x4c / 4]` is set. The model passes the byte to the card and returns its reply; what
the data register holds after a transfer is not kept, as no code reads it back.

* `SpiPeer σ ε`: what answers a transfer. It receives `value & 0xff` and returns the reply, or
  stops the whole run with `ε` (the emulated card calls `exit`). A write of the chip-select
  register reaches it too;
* `Bus σ` and `Driver σ ε α`: the driver's world and its computations;
* `spiTransfer`, `sendSdCommand`, `getResult`, `initSdmmcDevice`, `readSdmmcDevice`.

`BLOCK_SIZE` is defined in `sdmmc.h`, which is not part of this file, so it is the parameter
`blockSize`. The `while (1)` loop of `initSdmmcDevice` has no bound, so the model runs it for at
most `fuel` rounds and returns `none` when they run out.
-/

namespace NyuziSdmmc

/-- `SYS_CLOCK_HZ` -/
def sysClockHz : Int := 50000000

/-- `MAX_RETRIES` -/
def maxRetries : Nat := 100

/-- The driver's `SDCommand`. -/
inductive SDCommand
  | reset
  | init
  | setBlockLen
  | readBlock
  deriving DecidableEq, Repr

/-- The numbers of `SDCommand`; `SD_CMD_SET_BLOCK_LEN` and `SD_CMD_READ_BLOCK` are written in
hexadecimal. -/
def SDCommand.toNat : SDCommand → Nat
  | reset => 0
  | init => 1
  | setBlockLen => 0x16
  | readBlock => 0x17

/-- The card behind the SPI controller: one exchange sends a byte and returns the reply. -/
structure SpiPeer (σ ε : Type) where
  exchange : Nat → σ → Except ε (Int × σ)
  /-- what the card sees of a write `asserted` to the chip-select register -/
  select : Int → σ → σ

/-- The SPI controller's registers as the driver last wrote them, the card, and the console. -/
structure Bus (σ : Type) where
  card : σ
  /-- `REGISTERS[0x50 / 4]` -/
  chipSelect : Int
  /-- `REGISTERS[0x54 / 4]` -/
  clockDivider : Int
  /-- the lines `printf` wrote -/
  console : List String

/-- The driver's computations. -/
abbrev Driver (σ ε α : Type) := StateT (Bus σ) (Except ε) α

section Driver

variable {σ ε : Type} (peer : SpiPeer σ ε)

/-- `setCs`: `asserted = 1` means CS low, the hardware inverts the line. -/
def setCs (asserted : Int) : Driver σ ε Unit :=
  modify fun b => { b with chipSelect := asserted, card := peer.select asserted b.card }

/-- `setClockRate` -/
def setClockRate (hz : Int) : Driver σ ε Unit :=
  modify fun b => { b with clockDivider := (sysClockHz.tdiv hz).tdiv 2 - 1 }

/-- `printf` -/
def printf (message : String) : Driver σ ε Unit :=
  modify fun b => { b with console := b.console ++ [message] }

/-- `spiTransfer`: transfer a single byte bidirectionally. The exchange completes, so the wait for
the status bit is not modelled. -/
def spiTransfer (value : Int) : Driver σ ε Int := fun b =>
  (peer.exchange (Int.land value 0xff).toNat b.card).map fun p => (p.1, { b with card := p.2 })

/-- `spiTransfer` called on each value in turn, the replies dropped. -/
def sendBytes (values : List Int) : Driver σ ε Unit :=
  values.forM fun v => do let _ ← spiTransfer peer v

/-- The six bytes `sendSdCommand` passes to `spiTransfer`; the last is the checksum, which the
card ignores for all but the first command. -/
def commandFrame (index parameter : Nat) : List Int :=
  [(0x40 ||| index : Nat), ((parameter >>> 24) &&& 0xff : Nat),
    ((parameter >>> 16) &&& 0xff : Nat), ((parameter >>> 8) &&& 0xff : Nat),
    (parameter &&& 0xff : Nat), 0x95]

/-- `sendSdCommand` -/
def sendSdCommand (command : SDCommand) (parameter : Nat) : Driver σ ε Unit :=
  sendBytes peer (commandFrame command.toNat parameter)

/-- The do-while loop of `getResult`, where `remaining` is `MAX_RETRIES - retryCount`. The
counter is tested before the byte just read. -/
def getResultLoop : Nat → Driver σ ε Int
  | 0 => do
    let _ ← spiTransfer peer 0xff
    pure (-1)
  | remaining + 1 => do
    let result ← spiTransfer peer 0xff
    if result = 0xff then getResultLoop remaining else pure result

/-- `getResult`: wait while the card is busy. -/
def getResult : Driver σ ε Int := getResultLoop peer maxRetries

/-- The `while (1)` loop of `initSdmmcDevice` polling `SD_CMD_INIT`, run for at most `fuel`
rounds: `some true` after the `break`, `some false` after the error return, `none` if the card
still answers 1. -/
def pollInit : Nat → Driver σ ε (Option Bool)
  | 0 => pure none
  | fuel + 1 => do
    sendSdCommand peer .init 0
    let result ← getResult peer
    if result = 0 then pure (some true)
    else if result ≠ 1 then do
      printf ("initSdmmcDevice: error " ++ toString result ++ " SD_CMD_INIT\n")
      pure (some false)
    else pollInit fuel

variable (blockSize : Nat)

/-- `initSdmmcDevice` up to its polling loop: slow clock, the power-on clocks, and the reset. -/
def initPrologue : Driver σ ε Int := do
  setClockRate 400000
  -- After power on, send a bunch of clocks to initialize the chip
  setCs peer 0
  sendBytes peer (List.replicate 10 0xff)
  setCs peer 1
  sendSdCommand peer .reset 0
  getResult peer

/-- `initSdmmcDevice` after its polling loop: configure the block size, raise the clock. -/
def initEpilogue : Driver σ ε Int := do
  sendSdCommand peer .setBlockLen blockSize
  let result ← getResult peer
  if result ≠ 0 then do
    printf ("initSdmmcDevice: error " ++ toString result ++ " SD_CMD_SET_BLOCK_LEN\n")
    pure (-1)
  else do
    setClockRate 5000000
    pure 0

/-- `initSdmmcDevice`, its polling loop run for at most `fuel` rounds. -/
def initSdmmcDevice (fuel : Nat) : Driver σ ε (Option Int) := do
  let result ← initPrologue peer
  if result ≠ 1 then do
    printf ("initSdmmcDevice: error " ++ toString result ++ " SD_CMD_RESET\n")
    pure (some (-1))
  else
    match ← pollInit peer fuel with
    | none => pure none
    | some false => pure (some (-1))
    | some true => some <$> initEpilogue peer blockSize

/-- The copy loop of `readSdmmcDevice`: `n` bytes clocked in and stored through `(char *) ptr`. -/
def readBytes : Nat → Driver σ ε (List Byte)
  | 0 => pure []
  | n + 1 => do
    let value ← spiTransfer peer 0xff
    let rest ← readBytes n
    pure (toChar value :: rest)

/-- `readSdmmcDevice` after its `sendSdCommand`: the result and the bytes stored at `ptr`. -/
def readResponse : Driver σ ε (Int × List Byte) := do
  let result ← getResult peer
  if result ≠ 0 then do
    printf ("readSdmmcDevice: error " ++ toString result ++ " SD_CMD_READ_BLOCK\n")
    pure (-1, [])
  else do
    let data ← readBytes peer blockSize
    let _ ← spiTransfer peer 0xff  -- checksum (ignored)
    pure (blockSize, data)

/-- `readSdmmcDevice`: the result and the bytes stored at `ptr`. -/
def readSdmmcDevice (blockAddress : Nat) : Driver σ ε (Int × List Byte) := do
  sendSdCommand peer .readBlock blockAddress
  readResponse peer blockSize

end Driver

/-! ### Running driver computations -/

@[simp] theorem except_pure {ε α : Type} (a : α) : (pure a : Except ε α) = .ok a := rfl

@[simp] theorem except_ok_bind {ε α β : Type} (a : α) (f : α → Except ε β) :
    (Except.ok a >>= f) = f a := rfl

@[simp] theorem except_error_bind {ε α β : Type} (e : ε) (f : α → Except ε β) :
    (Except.error e >>= f) = .error e := rfl

/-- A mapped computation that succeeded: the computation succeeded. -/
theorem except_map_eq_ok {ε α β : Type} {f : α → β} {x : Except ε α} {b : β}
    (h : x.map f = .ok b) : ∃ a, x = .ok a ∧ f a = b := by
  cases x with
  | error e => cases h
  | ok a => exact ⟨a, rfl, Except.ok.inj h⟩

section Run

variable {σ ε : Type} (peer : SpiPeer σ ε) (b : Bus σ)

@[simp] theorem setCs_run (asserted : Int) :
    (setCs peer asserted).run b =
      .ok ((), { b with chipSelect := asserted, card := peer.select asserted b.card }) := rfl

@[simp] theorem setClockRate_run (hz : Int) :
    (setClockRate hz : Driver σ ε Unit).run b =
      .ok ((), { b with clockDivider := (sysClockHz.tdiv hz).tdiv 2 - 1 }) := rfl

@[simp] theorem printf_run (message : String) :
    (printf message : Driver σ ε Unit).run b =
      .ok ((), { b with console := b.console ++ [message] }) := rfl

theorem sendBytes_cons (v : Int) (vs : List Int) :
    sendBytes peer (v :: vs) = spiTransfer peer v >>= fun _ => sendBytes peer vs := by
  simp [sendBytes, List.forM]

theorem spiTransfer_run (value : Int) :
    (spiTransfer peer value).run b =
      (peer.exchange (Int.land value 0xff).toNat b.card).map
        fun p => (p.1, { b with card := p.2 }) := rfl

/-- A computation that succeeds: its first part succeeded, and the rest ran from there. Stated
for any state, as the testbench's simulation uses it too. -/
theorem run_bind_ok {S α β : Type} {m : StateT S (Except ε) α} {f : α → StateT S (Except ε) β}
    {b b' : S} {x : β} (h : (m >>= f).run b = .ok (x, b')) :
    ∃ a b₁, m.run b = .ok (a, b₁) ∧ (f a).run b₁ = .ok (x, b') := by
  rw [StateT.run_bind] at h
  rcases hm : m.run b with e | ⟨a, b₁⟩
  · rw [hm] at h; cases h
  · rw [hm] at h; exact ⟨a, b₁, rfl, h⟩

end Run

end NyuziSdmmc
