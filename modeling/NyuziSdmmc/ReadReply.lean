import NyuziSdmmc.Emulator

/-!
# The card's reply to a single-block read

After `process_command` accepts `CMD_READ_SINGLE_BLOCK`, the card answers every transfer from
its read states, whatever the host sends and whatever the chip select. `readPending s` is the
reply it still owes in such a state: busy bytes and R1, busy bytes and the data token, the rest
of the block, the rest of the two checksum bytes. One transfer hands over its head
(`readPending_step`), so a run hands over all of it and leaves the card idle (`run_owes`),
provided `block_length + 1` does not wrap around in 32 bits.
-/

namespace NyuziSdmmc

/-- The fields of the card that the transfers of a transaction leave alone. -/
structure Setup where
  blockFd : Int
  image : List Byte
  blockLength : Nat
  blockBuffer : List Byte
  inIdleState : Bool
  ioLimit : Nat

/-- The fields of the card that the transfers of a transaction leave alone. -/
def Card.setup (s : Card) : Setup :=
  ⟨s.blockFd, s.image, s.blockLength, s.blockBuffer, s.inIdleState, s.ioLimit⟩

/-- The data part of a read reply after delay `d2`: busy bytes, the data token, the block through
`char`, and two checksum bytes. -/
def dataReply (signedChar : Bool) (d2 : Nat) (block : List Byte) : List Int :=
  List.replicate d2 0xff ++ (dataToken : Int) :: (block.map (charValue signedChar) ++ [0xff, 0xff])

/-- The reply to a read of `block` after delays `d1` and `d2`: busy bytes, R1, and the data
part. -/
def readReply (signedChar : Bool) (d1 d2 : Nat) (block : List Byte) : List Int :=
  List.replicate d1 0xff ++ 0 :: dataReply signedChar d2 block

/-- The part of the block and checksum still to be sent in `STATE_READ_TRANSFER`. -/
def transferRest (signedChar : Bool) (s : Card) : List Int :=
  (s.blockBuffer.drop s.transferCount).map (charValue signedChar) ++
    List.replicate (s.blockLength + 2 - max s.transferCount s.blockLength) 0xff

/-- The reply a card in a read state still owes. -/
def readPending (signedChar : Bool) (s : Card) : Option (List Int) :=
  if s.transferCount ≤ s.blockLength + 1 then
    match s.currentState with
    | .readCmdResponse => some (List.replicate s.stateDelay 0xff ++ 0 ::
        (List.replicate (s.random 0 &&& 0xf) 0xff ++
          (dataToken : Int) :: transferRest signedChar s))
    | .readDataToken => some (List.replicate s.stateDelay 0xff ++ (dataToken : Int) ::
        transferRest signedChar s)
    | .readTransfer => some (transferRest signedChar s)
    | _ => none
  else none

/-- What the read states need: `block_buffer` holds the block, and `block_length + 1` fits in
32 bits. -/
structure ReadOK (s : Card) : Prop where
  buffer_length : s.blockBuffer.length = s.blockLength
  no_wrap : s.blockLength + 1 < 2 ^ 32

theorem ReadOK.congr {s t : Card} (h : ReadOK s) (hbuf : t.blockBuffer = s.blockBuffer)
    (hbl : t.blockLength = s.blockLength) : ReadOK t :=
  ⟨by rw [hbuf, hbl, h.buffer_length], hbl ▸ h.no_wrap⟩

theorem ReadOK.of_setup {s t : Card} (h : ReadOK s) (hst : t.setup = s.setup) : ReadOK t :=
  h.congr (congrArg Setup.blockBuffer hst) (congrArg Setup.blockLength hst)

/-- One transfer in a read state: whatever the host sends, the card answers the head of what it
owes, and either owes the rest or, when nothing is left, is idle. -/
def PendingStep (signedChar : Bool) (s : Card) (r : Int) (rest : List Int) : Prop :=
  ∃ t, (∀ value, transferSdmmcByte signedChar s value = .ok (r, t)) ∧ t.setup = s.setup ∧
    t.chipSelect = s.chipSelect ∧
    (rest = [] ∧ t.currentState = .idle ∨ readPending signedChar t = some rest)

section Step

variable {signedChar : Bool} {s : Card} {r : Int} {rest : List Int}

theorem readTransfer_pendingStep (h : ReadOK s) (hst : s.currentState = .readTransfer)
    (htc : s.transferCount ≤ s.blockLength + 1)
    (hp : transferRest signedChar s = r :: rest) : PendingStep signedChar s r rest := by
  have hbuf := h.buffer_length
  have hwrap := h.no_wrap
  unfold transferRest at hp
  rcases Nat.lt_or_ge s.transferCount s.blockLength with hlt | hge
  · have hget : s.blockBuffer[s.transferCount]? = some s.blockBuffer[s.transferCount] :=
      List.getElem?_eq_getElem (by omega)
    rw [List.drop_eq_getElem_cons (by omega), List.map_cons, List.cons_append] at hp
    obtain ⟨rfl, rfl⟩ := List.cons.inj hp
    have ht : ∀ value, transferSdmmcByte signedChar s value =
        .ok (charValue signedChar s.blockBuffer[s.transferCount],
          { s with transferCount := s.transferCount + 1 }) := by
      simp [transferSdmmcByte, readTransferByte, hst, hlt, hget,
        u32_of_lt (show s.transferCount + 1 < 2 ^ 32 by omega)]
    refine ⟨_, ht, rfl, rfl, .inr ?_⟩
    simp [readPending, transferRest, hst]
    omega
  · have hdrop : s.blockBuffer.drop s.transferCount = [] := List.drop_eq_nil_of_le (by omega)
    rw [hdrop, List.map_nil, List.nil_append, Nat.max_eq_left hge] at hp
    obtain htc' | htc' : s.transferCount = s.blockLength ∨ s.transferCount = s.blockLength + 1 := by
      omega
    · rw [htc', show s.blockLength + 2 - s.blockLength = 1 + 1 by omega] at hp
      obtain ⟨rfl, rfl⟩ := List.cons.inj hp
      have ht : ∀ value, transferSdmmcByte signedChar s value =
          .ok (0xff, { s with transferCount := s.blockLength + 1 }) := by
        simp [transferSdmmcByte, readTransferByte, hst, htc', u32_of_lt hwrap]
      refine ⟨_, ht, rfl, rfl, .inr ?_⟩
      simp [readPending, transferRest, hst]
      omega
    · rw [htc', show s.blockLength + 2 - (s.blockLength + 1) = 0 + 1 by omega] at hp
      obtain ⟨rfl, rfl⟩ := List.cons.inj hp
      have ht : ∀ value, transferSdmmcByte signedChar s value =
          .ok (0xff, { s with
            currentState := .idle, transferCount := u32 (s.blockLength + 1 + 1) }) := by
        simp [transferSdmmcByte, readTransferByte, hst, htc', u32_of_lt hwrap]
      exact ⟨_, ht, rfl, rfl, .inl ⟨rfl, rfl⟩⟩

/-- A busy byte before R1 or before the data token: the card answers `0xff` and counts down. -/
theorem delay_pendingStep {d : Nat}
    (hst : s.currentState = .readCmdResponse ∨ s.currentState = .readDataToken)
    (hd : s.stateDelay = d + 1)
    (hrest : readPending signedChar { s with stateDelay := d } = some rest) :
    PendingStep signedChar s 0xff rest :=
  ⟨{ s with stateDelay := d },
    fun _ => by rcases hst with hst | hst <;> simp [transferSdmmcByte, hst, hd],
    rfl, rfl, .inr hrest⟩

theorem readDataToken_pendingStep (hst : s.currentState = .readDataToken)
    (htc : s.transferCount ≤ s.blockLength + 1)
    (hp : List.replicate s.stateDelay 0xff ++ (dataToken : Int) :: transferRest signedChar s =
      r :: rest) : PendingStep signedChar s r rest := by
  cases hd : s.stateDelay with
  | zero =>
    rw [hd, List.replicate_zero, List.nil_append] at hp
    obtain ⟨rfl, rfl⟩ := List.cons.inj hp
    have ht : ∀ value, transferSdmmcByte signedChar s value = .ok (dataToken,
        { s with currentState := .readTransfer, stateDelay := u32 (s.blockLength + 2) }) := by
      simp [transferSdmmcByte, hst, hd]
    exact ⟨_, ht, rfl, rfl, .inr (by simp [readPending, htc, transferRest])⟩
  | succ d =>
    rw [hd, List.replicate_succ, List.cons_append] at hp
    obtain ⟨rfl, rfl⟩ := List.cons.inj hp
    exact delay_pendingStep (.inr hst) hd (by simp [readPending, htc, hst, transferRest])

theorem readCmdResponse_pendingStep (hst : s.currentState = .readCmdResponse)
    (htc : s.transferCount ≤ s.blockLength + 1)
    (hp : List.replicate s.stateDelay 0xff ++ 0 :: (List.replicate (s.random 0 &&& 0xf) 0xff ++
      (dataToken : Int) :: transferRest signedChar s) = r :: rest) :
    PendingStep signedChar s r rest := by
  cases hd : s.stateDelay with
  | zero =>
    rw [hd, List.replicate_zero, List.nil_append] at hp
    obtain ⟨rfl, rfl⟩ := List.cons.inj hp
    have ht : ∀ value, transferSdmmcByte signedChar s value = .ok (0, { s.nextRandom.2 with
        currentState := .readDataToken, stateDelay := s.random 0 &&& 0xf }) := by
      simp [transferSdmmcByte, hst, hd, Card.nextRandom]
    exact ⟨_, ht, rfl, rfl, .inr (by simp [readPending, htc, transferRest, Card.nextRandom])⟩
  | succ d =>
    rw [hd, List.replicate_succ, List.cons_append] at hp
    obtain ⟨rfl, rfl⟩ := List.cons.inj hp
    exact delay_pendingStep (.inl hst) hd (by simp [readPending, htc, hst, transferRest])

/-- **A transfer in a read state hands over the next byte owed**, whatever the host sends. -/
theorem readPending_step (h : ReadOK s) (hp : readPending signedChar s = some (r :: rest)) :
    PendingStep signedChar s r rest := by
  unfold readPending at hp
  split_ifs at hp with htc
  split at hp
  · exact readCmdResponse_pendingStep ‹_› htc (Option.some.inj hp)
  · exact readDataToken_pendingStep ‹_› htc (Option.some.inj hp)
  · exact readTransfer_pendingStep h ‹_› htc (Option.some.inj hp)
  · cases hp

end Step

/-! ### Runs through the read reply -/

section Run

variable {signedChar : Bool}

theorem readPending_ne_nil {s : Card} : readPending signedChar s ≠ some [] := by
  unfold readPending transferRest
  split_ifs with htc
  · split <;> simp
    omega
  · simp

/-- The card owes `rest` from a read state, or owes nothing and is idle. -/
def Owes (signedChar : Bool) (s : Card) (rest : List Int) : Prop :=
  rest = [] ∧ s.currentState = .idle ∨ ReadOK s ∧ readPending signedChar s = some rest

/-- What the card owes depends only on its state, its pending reply and its block. -/
theorem Owes.congr {s t : Card} {rest : List Int} (h : Owes signedChar s rest)
    (hstate : t.currentState = s.currentState)
    (hpending : readPending signedChar t = readPending signedChar s)
    (hbuffer : t.blockBuffer = s.blockBuffer) (hblock : t.blockLength = s.blockLength) :
    Owes signedChar t rest := by
  rcases h with ⟨hrest, hidle⟩ | ⟨hok, hp⟩
  · exact .inl ⟨hrest, hstate.trans hidle⟩
  · exact .inr ⟨hok.congr hbuffer hblock, hpending.trans hp⟩

theorem Owes.setSdmmcCs {s : Card} {rest : List Int} (h : Owes signedChar s rest) (value : Int) :
    Owes signedChar (setSdmmcCs s value) rest :=
  h.congr rfl rfl rfl rfl

theorem Owes.idle_of_nil {s : Card} (h : Owes signedChar s []) : s.currentState = .idle := by
  obtain ⟨-, hidle⟩ | ⟨-, hp⟩ := h
  · exact hidle
  · exact absurd hp readPending_ne_nil

/-- A card that still owes bytes is not idle. -/
theorem Owes.ne_idle {s : Card} {rest : List Int} (h : Owes signedChar s rest) (hne : rest ≠ []) :
    s.currentState ≠ .idle := by
  obtain ⟨rfl, -⟩ | ⟨-, hp⟩ := h
  · exact absurd rfl hne
  · intro hidle
    simp [readPending, hidle] at hp

/-- A card that owes a byte answers it to any transfer, keeps its setup and chip select, and
owes the rest. -/
theorem Owes.cons {s : Card} {r : Int} {rest : List Int} (h : Owes signedChar s (r :: rest)) :
    ∃ t, (∀ value, transferSdmmcByte signedChar s value = .ok (r, t)) ∧ t.setup = s.setup ∧
      t.chipSelect = s.chipSelect ∧ Owes signedChar t rest := by
  obtain ⟨⟨⟩, -⟩ | ⟨hok, hp⟩ := h
  obtain ⟨t, ht, hsetup, hcs, hnext⟩ := readPending_step hok hp
  exact ⟨t, ht, hsetup, hcs, hnext.imp id fun hp => ⟨hok.of_setup hsetup, hp⟩⟩

/-- What the card owes does not depend on its frame buffer. -/
theorem Owes.clearCommand {s : Card} {rest : List Int} (h : Owes signedChar s rest) :
    Owes signedChar { s with currentCommandLength := 0 } rest :=
  h.congr rfl rfl rfl rfl

theorem Card.run_transfer_of_ok {s t : Card} {value r : Int} {events : List Event}
    (ht : transferSdmmcByte signedChar s value = .ok (r, t)) :
    Card.run signedChar s (.transfer value :: events) =
      (Card.run signedChar t events).map fun q => (r :: q.1, q.2) := by
  simp [Card.run, ht, Except.bind]

/-- **A run hands over the whole reply owed** and leaves the card idle with its setup intact,
whatever the host sends and however it sets the chip select. -/
theorem run_owes {s : Card} {rest : List Int} (h : Owes signedChar s rest) (events : List Event)
    (hn : transfers events = rest.length) :
    ∃ t, Card.run signedChar s events = .ok (rest, t) ∧ t.currentState = .idle ∧
      t.setup = s.setup := by
  induction events generalizing s rest with
  | nil =>
    obtain rfl := List.eq_nil_of_length_eq_zero hn.symm
    exact ⟨s, rfl, h.idle_of_nil, rfl⟩
  | cons event events ih =>
    cases event with
    | setCs value => exact ih (h.setSdmmcCs value) hn
    | transfer value =>
      obtain _ | ⟨r, rest⟩ := rest
      · simp [transfers] at hn
      obtain ⟨t, ht, hsetup, -, howes⟩ := h.cons
      obtain ⟨u, hrun, hidle, hsetup'⟩ := ih howes (by simpa [transfers] using hn)
      exact ⟨u, by simp [Card.run_transfer_of_ok (ht value), hrun, Except.map], hidle,
        hsetup'.trans hsetup⟩

end Run

/-! ### From `CMD_READ_SINGLE_BLOCK` to the end of the reply -/

section Command

variable {s t : Card} {command : Fin 6 → Byte}

theorem processCommand_of_read (hread : (command 0).val &&& 0x3f = cmdReadSingleBlock) :
    processCommand s command = readSingleBlock s command := by
  simp [processCommand, hread, cmdGoIdleState, cmdSendOpCond, cmdSetBlocklen, cmdReadSingleBlock]

@[simp] theorem dataReply_length (signedChar : Bool) (d2 : Nat) (block : List Byte) :
    (dataReply signedChar d2 block).length = block.length + d2 + 3 := by
  simp [dataReply]; omega

@[simp] theorem readReply_length (signedChar : Bool) (d1 d2 : Nat) (block : List Byte) :
    (readReply signedChar d1 d2 block).length = block.length + d1 + d2 + 4 := by
  simp [readReply]; omega

/-- The block the card reads for `command`: `block_length` bytes at `argument * block_length`,
taken modulo `2 ^ 32`, in one `read`. -/
def readBlock (s : Card) (command : Fin 6 → Byte) : List Byte :=
  fileRead s.image (u32 (commandArgument command * s.blockLength)) s.blockLength s.ioLimit

/-- An accepted read owes the whole reply, with the block it read and the next two values of
`next_random` as delays. -/
theorem readSingleBlock_owes (signedChar : Bool) (hbuf : s.blockBuffer.length = s.blockLength)
    (hbl : s.blockLength + 1 < 2 ^ 32) (h : readSingleBlock s command = .ok t) :
    (readBlock s command).length = s.blockLength ∧ Owes signedChar t
      (readReply signedChar (s.random 0 &&& 0xf) (s.random 1 &&& 0xf) (readBlock s command)) := by
  unfold readSingleBlock at h
  dsimp only at h
  split_ifs at h with hidle hfd hover hlen
  cases h
  have hdrop : s.blockBuffer.drop (readBlock s command).length = [] :=
    List.drop_eq_nil_of_le (by rw [hbuf, readBlock]; omega)
  refine ⟨not_not.mp hlen, .inr ⟨⟨?_, hbl⟩, ?_⟩⟩ <;>
    simp only [readBlock] at hdrop hlen ⊢ <;>
    simp_all [readPending, readReply, dataReply, transferRest, Card.nextRandom]

/-- **The card's reply to a single-block read.** Once `process_command` has accepted
`CMD_READ_SINGLE_BLOCK` with `block_buffer` holding `block_length` bytes and
`block_length + 1 < 2 ^ 32`, the next `block_length + d1 + d2 + 4` transfers return `d1` bytes
`0xff`, R1 `0`, `d2` bytes `0xff`, `DATA_TOKEN`, the block read from the file through `char`,
and two bytes `0xff`, whatever the host sends and however it sets the chip select; the card is
then idle. -/
theorem processCommand_read_reply (signedChar : Bool)
    (hread : (command 0).val &&& 0x3f = cmdReadSingleBlock)
    (hbuf : s.blockBuffer.length = s.blockLength) (hbl : s.blockLength + 1 < 2 ^ 32)
    (h : processCommand s command = .ok t) (events : List Event)
    (hn : transfers events = s.blockLength + (s.random 0 &&& 0xf) + (s.random 1 &&& 0xf) + 4) :
    ∃ u, Card.run signedChar t events = .ok (readReply signedChar (s.random 0 &&& 0xf)
      (s.random 1 &&& 0xf) (readBlock s command), u) ∧ u.currentState = .idle := by
  rw [processCommand_of_read hread] at h
  obtain ⟨hlen, howes⟩ := readSingleBlock_owes signedChar hbuf hbl h
  obtain ⟨u, hrun, hidle, -⟩ := run_owes howes events (by rw [readReply_length, hlen, hn])
  exact ⟨u, hrun, hidle⟩

/-- A one-byte block at address 0, with no delays, on a host where `char` is unsigned. -/
theorem processCommand_read_reply_one_byte :
    processCommand
        { Card.powerOn 3 [0x80] (fun _ => 0) maxRwCount with blockLength := 1, blockBuffer := [0] }
        (fun i => if i = 0 then 0x51 else 0) =
      .ok { Card.powerOn 3 [0x80] (fun _ => 0) maxRwCount with
        currentState := .readCmdResponse
        blockLength := 1
        blockBuffer := [0x80] } ∧
    ∃ u, Card.run false { Card.powerOn 3 [0x80] (fun _ => 0) maxRwCount with
        currentState := .readCmdResponse
        blockLength := 1
        blockBuffer := [0x80] } (List.replicate 5 (.transfer 0xff)) =
      .ok (readReply false 0 0 [0x80], u) ∧ u.currentState = .idle :=
  ⟨rfl, @processCommand_read_reply
    { Card.powerOn 3 [0x80] (fun _ => 0) maxRwCount with blockLength := 1, blockBuffer := [0] } _
    (fun i => if i = 0 then 0x51 else 0) false rfl rfl (by decide) rfl
    (List.replicate 5 (.transfer 0xff)) rfl⟩

/-- **On a host where `char` is signed, a block byte `0x80` comes back as `-128`.** A whole session
from power-on, with a one-byte block file holding `0x80`: the guest deselects the card for the
power-on clocks, then sends `CMD_GO_IDLE_STATE`, `CMD_SEND_OP_COND`, `CMD_SET_BLOCKLEN 1` and
`CMD_READ_SINGLE_BLOCK 0`, each followed by a transfer for its result. The last five replies are
R1, the data token, the block byte and the two checksum bytes. -/
theorem readReply_sign_extends :
    (Card.run true (Card.powerOn 3 [0x80] (fun _ => 0) maxRwCount)
      (.setCs 1 :: List.replicate 10 (.transfer 0xff) ++ .setCs 0 ::
        ([0x40, 0, 0, 0, 0, 0x95, 0xff, 0x41, 0, 0, 0, 0, 0x95, 0xff, 0x50, 0, 0, 0, 1, 0x95, 0xff,
          0x51, 0, 0, 0, 0, 0x95, 0xff, 0xff, 0xff, 0xff, 0xff].map .transfer))).map
      (fun p => p.1.drop 37) = .ok [0, 0xfe, -128, 0xff, 0xff] :=
  rfl

end Command

/-! ### A block length of `2 ^ 32 - 1` -/

section Wrap

/-- `STATE_READ_TRANSFER` with `block_length = 0xffffffff`: `block_length + 1` wraps to 0, which
`transfer_count` only equals again after it has wrapped itself. -/
structure Wrapped (s : Card) : Prop where
  state : s.currentState = .readTransfer
  block_length : s.blockLength = 2 ^ 32 - 1
  buffer_length : s.blockBuffer.length = s.blockLength
  count_lt : s.transferCount < 2 ^ 32

theorem Wrapped.step {s : Card} (h : Wrapped s) (signedChar : Bool) (value : Int) :
    ∃ r t, transferSdmmcByte signedChar s value = .ok (r, t) ∧ Wrapped t := by
  have hnext : u32 (s.transferCount + 1) < 2 ^ 32 := u32_lt _
  simp only [transferSdmmcByte, h.state, readTransferByte]
  split_ifs with hlt heq
  · rw [List.getElem?_eq_getElem (by rw [h.buffer_length]; exact hlt)]
    exact ⟨_, _, rfl, rfl, h.block_length, h.buffer_length, hnext⟩
  · simp only [h.block_length, u32] at hlt heq
    omega
  · exact ⟨_, _, rfl, rfl, h.block_length, h.buffer_length, hnext⟩

/-- **With `block_length = 2 ^ 32 - 1` the read reply never ends**: whatever the host does, the
card stays in `STATE_READ_TRANSFER`. -/
theorem readTransfer_wraps_forever (signedChar : Bool) {s : Card} (h : Wrapped s)
    (events : List Event) :
    ∃ rs t, Card.run signedChar s events = .ok (rs, t) ∧ t.currentState = .readTransfer := by
  induction events generalizing s with
  | nil => exact ⟨[], s, rfl, h.state⟩
  | cons event events ih =>
    cases event with
    | setCs value => exact ih (show Wrapped (setSdmmcCs s value) from ⟨h.1, h.2, h.3, h.4⟩)
    | transfer value =>
      obtain ⟨r, t, ht, hw⟩ := h.step signedChar value
      obtain ⟨rs, u, hrun, hst⟩ := ih hw
      exact ⟨r :: rs, u, by simp [Card.run_transfer_of_ok ht, hrun, Except.map], hst⟩

/-- A card left in `STATE_READ_TRANSFER` with `block_length = 0xffffffff` and a full buffer. -/
theorem readTransfer_wraps_forever_full_buffer :
    Wrapped { Card.powerOn 3 [] (fun _ => 0) maxRwCount with
        currentState := .readTransfer
        blockLength := 2 ^ 32 - 1
        blockBuffer := List.replicate (2 ^ 32 - 1) 0 } ∧
      ∃ rs t, Card.run true { Card.powerOn 3 [] (fun _ => 0) maxRwCount with
          currentState := .readTransfer
          blockLength := 2 ^ 32 - 1
          blockBuffer := List.replicate (2 ^ 32 - 1) 0 } (List.replicate 3 (.transfer 0xff)) =
        .ok (rs, t) ∧ t.currentState = .readTransfer :=
  have wrapped : Wrapped { Card.powerOn 3 [] (fun _ => 0) maxRwCount with
      currentState := .readTransfer
      blockLength := 2 ^ 32 - 1
      blockBuffer := List.replicate (2 ^ 32 - 1) 0 } :=
    ⟨rfl, rfl, List.length_replicate _ _, by decide⟩
  ⟨wrapped, readTransfer_wraps_forever true wrapped _⟩

end Wrap

end NyuziSdmmc
