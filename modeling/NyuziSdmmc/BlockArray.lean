import NyuziSdmmc.Host

/-!
# The emulated card as an array of blocks

What the card is for: a file cut into blocks of `bl` bytes, read and written one block at a
time. The block array answers a read with the data of the most recent write to the same block,
or with the file's own bytes there, and a write replaces exactly the bytes of its block.

* `Op`, `lastWrite`, `arrayRun`, `arrayImage`: the block array's operations, replies and file;
* `Txn`, `Reply`, `hostRun`: a host running single-block transactions (`Host`) one after the
  other. A write carries the host's own choices, its fill bytes and checksum, which `Txn.op`
  forgets;
* `hostRun_refines`: on a ready card, with every block inside the file and starting below
  `2 ^ 32`, the host gets the block array's replies and the card's file ends as the array's;
* `hostInit_run_refines`: the same from power-on, after the host's init;
* `hostWrite_wraps`: a block that starts at byte `2 ^ 32` is written at its address modulo
  `2 ^ 32`.
-/

namespace NyuziSdmmc

/-- An operation of the block array. -/
inductive Op
  | read (address : Nat)
  | write (address : Nat) (data : List Byte)

/-- A single-block transaction as the host sends it: a write also carries the bytes the host
sends before the data token and its two checksum bytes. -/
inductive Txn
  | read (address : Nat)
  | write (address : Nat) (fill : List Int) (data : List Byte) (crc : Int × Int)

/-- The operation a transaction asks of the block array. -/
def Txn.op : Txn → Op
  | .read address => .read address
  | .write address _ data _ => .write address data

/-- What the host gets back from a transaction. -/
inductive Reply
  | block (data : List Byte)
  | accepted (response : Int)
  deriving DecidableEq

section Host

variable {σ ε : Type} (peer : SpiPeer σ ε) (blockLength : Nat)

/-- One transaction. -/
def hostOp : Txn → Driver σ ε Reply
  | .read address => Reply.block <$> hostRead peer blockLength address
  | .write address fill data crc => Reply.accepted <$> hostWrite peer address fill data crc

/-- Transactions one after the other. -/
def hostRun : List Txn → Driver σ ε (List Reply)
  | [] => pure []
  | txn :: txns => do
    let reply ← hostOp peer blockLength txn
    let replies ← hostRun txns
    pure (reply :: replies)

end Host

/-! ### The block array -/

/-- The data of the most recent write to block `address` among `past`, most recent first. -/
def lastWrite (address : Nat) : List Op → Option (List Byte)
  | [] => none
  | .read _ :: past => lastWrite address past
  | .write a data :: past => if a = address then some data else lastWrite address past

/-- What a read of block `address` delivers after `past`: the data of the most recent write to
it, or the bytes of `file` there. -/
def expectedBlock (bl : Nat) (file : List Byte) (past : List Op) (address : Nat) : List Byte :=
  (lastWrite address past).getD ((file.drop (address * bl)).take bl)

/-- The block array's reply to `op` after `past`. -/
def arrayReply (bl : Nat) (file : List Byte) (past : List Op) : Op → Reply
  | .read address => .block (expectedBlock bl file past address)
  | .write _ _ => .accepted 0x05

/-- The block array's replies to `ops` after `past`. -/
def arrayRun (bl : Nat) (file : List Byte) : List Op → List Op → List Reply
  | _, [] => []
  | past, op :: ops => arrayReply bl file past op :: arrayRun bl file (op :: past) ops

/-- `file` with the bytes `[address * bl, address * bl + bl)` replaced by `data`. -/
def writeBlock (bl : Nat) (file : List Byte) (address : Nat) (data : List Byte) : List Byte :=
  file.take (address * bl) ++ data ++ file.drop (address * bl + bl)

/-- The file after `ops`. -/
def arrayImage (bl : Nat) : List Byte → List Op → List Byte
  | file, [] => file
  | file, .read _ :: ops => arrayImage bl file ops
  | file, .write address data :: ops => arrayImage bl (writeBlock bl file address data) ops

/-- A transaction on a block inside a file of `n` bytes that starts below byte `2 ^ 32`; a write
carries a whole block, and none of its fill bytes is the data token to the card. -/
def Txn.Fits (bl n : Nat) : Txn → Prop
  | .read address => (address + 1) * bl ≤ n ∧ address * bl < 2 ^ 32
  | .write address fill data _ => (address + 1) * bl ≤ n ∧ address * bl < 2 ^ 32 ∧
      data.length = bl ∧ ∀ v ∈ fill, Int.land v 0xff ≠ dataToken

/-! ### Blocks of a file -/

section Blocks

variable {bl : Nat} {file data : List Byte}

theorem getElem?_block (image : List Byte) (offset count i : Nat) :
    ((image.drop offset).take count)[i]? = if i < count then image[offset + i]? else none := by
  split_ifs with h <;> simp [List.getElem?_take, List.getElem?_drop, h]

theorem getElem?_writeBlock {address : Nat} (hdata : data.length = bl)
    (h : address * bl + bl ≤ file.length) (j : Nat) :
    (writeBlock bl file address data)[j]? =
      if address * bl ≤ j ∧ j < address * bl + bl then data[j - address * bl]? else file[j]? := by
  have htake : (file.take (address * bl)).length = address * bl := by simp; omega
  unfold writeBlock
  split_ifs with hj
  · rw [List.getElem?_append_left (by simp; omega), List.getElem?_append_right (by omega), htake]
  · rcases Nat.lt_or_ge j (address * bl) with hlt | hge
    · rw [List.getElem?_append_left (by simp; omega), List.getElem?_append_left (by omega),
        List.getElem?_take_of_lt hlt]
    · rw [List.getElem?_append_right (by simp; omega), List.getElem?_drop]
      simp only [List.length_append, htake, hdata]
      congr 1
      omega

theorem writeBlock_length {address : Nat} (hdata : data.length = bl)
    (h : address * bl + bl ≤ file.length) :
    (writeBlock bl file address data).length = file.length := by
  simp [writeBlock, hdata]; omega

/-- Distinct blocks do not overlap. -/
theorem blocks_disjoint {a a' : Nat} (hne : a' ≠ a) :
    a * bl + bl ≤ a' * bl ∨ a' * bl + bl ≤ a * bl := by
  rcases Nat.lt_or_gt_of_ne hne with hlt | hgt
  · exact .inr (by rw [← Nat.succ_mul]; exact Nat.mul_le_mul_right bl hlt)
  · exact .inl (by rw [← Nat.succ_mul]; exact Nat.mul_le_mul_right bl hgt)

/-- **Reading a block after writing one**: the written data if it is the same block, the old
bytes otherwise. -/
theorem block_writeBlock {a a' : Nat} (hdata : data.length = bl)
    (h' : (a' + 1) * bl ≤ file.length) :
    ((writeBlock bl file a' data).drop (a * bl)).take bl =
      if a' = a then data else (file.drop (a * bl)).take bl := by
  rw [Nat.succ_mul] at h'
  apply List.ext_getElem?
  intro i
  rw [getElem?_block, getElem?_writeBlock hdata h']
  by_cases heq : a' = a
  · subst heq
    by_cases hi : i < bl
    · rw [if_pos hi, if_pos ⟨by omega, by omega⟩, if_pos rfl, Nat.add_sub_cancel_left]
    · rw [if_neg hi, if_pos rfl, List.getElem?_eq_none (by omega)]
  · have hd : a * bl + bl ≤ a' * bl ∨ a' * bl + bl ≤ a * bl := blocks_disjoint heq
    rw [if_neg heq, getElem?_block]
    split_ifs <;> first | rfl | omega

/-- Inside the file, the card's write is the array's. -/
theorem fileWrite_eq_writeBlock {address : Nat} (hdata : data.length = bl)
    (h : address * bl ≤ file.length) :
    fileWrite file (address * bl) data = writeBlock bl file address data := by
  simp [fileWrite, writeBlock, hdata, Nat.sub_eq_zero_of_le h]

end Blocks

/-! ### The card refines the block array -/

/-- `image` is a file as the block array presents it after `past`: the size of `file`, and every
block inside it reads as the array says. -/
def Represents (bl : Nat) (file : List Byte) (past : List Op) (image : List Byte) : Prop :=
  image.length = file.length ∧
    ∀ address, (address + 1) * bl ≤ file.length →
      (image.drop (address * bl)).take bl = expectedBlock bl file past address

section Represents

variable {bl : Nat} {file image : List Byte} {past : List Op}

theorem represents_start : Represents bl file [] file := ⟨rfl, fun _ _ => rfl⟩

theorem Represents.read (h : Represents bl file past image) (address : Nat) :
    Represents bl file (.read address :: past) image := h

theorem Represents.write (h : Represents bl file past image) {address : Nat} {data : List Byte}
    (hfit : (address + 1) * bl ≤ file.length) (hdata : data.length = bl) :
    Represents bl file (.write address data :: past) (writeBlock bl image address data) := by
  refine ⟨(writeBlock_length hdata (by rw [h.1, ← Nat.succ_mul]; exact hfit)).trans h.1,
    fun a ha => ?_⟩
  rw [block_writeBlock hdata (h.1 ▸ hfit)]
  simp only [expectedBlock, lastWrite]
  split_ifs
  · rfl
  · exact h.2 a ha

end Represents

section Run

variable (signedChar : Bool) {bl : Nat} {file : List Byte}

/-- The run lemma: from a ready card whose file represents the array after `past`, the host's
transactions get the array's replies. -/
theorem hostRun_represents {image : List Byte} {past : List Op} {s : Card}
    (hs : Ready bl image s) (hbl : bl + 1 < 2 ^ 32) (hrep : Represents bl file past image)
    (txns : List Txn) (hfits : ∀ txn ∈ txns, txn.Fits bl file.length) (b : Bus Card) :
    ∃ t, (hostRun (emulatorPeer signedChar) bl txns).run { b with card := s } =
        .ok (arrayRun bl file past (txns.map Txn.op), { b with card := t }) ∧
      Ready bl (arrayImage bl image (txns.map Txn.op)) t := by
  induction txns generalizing s image past with
  | nil => exact ⟨s, rfl, hs⟩
  | cons txn txns ih =>
    have hrest : ∀ txn ∈ txns, txn.Fits bl file.length :=
      fun t ht => hfits t (List.mem_cons_of_mem _ ht)
    cases txn with
    | read address =>
      obtain ⟨hfit, hwrap⟩ := hfits (.read address) (List.mem_cons_self _ _)
      have hin : u32 (u32 address * bl) + bl ≤ image.length := by
        rw [u32_address hwrap, hrep.1, ← Nat.succ_mul]; exact hfit
      obtain ⟨t, hrun, ht⟩ := hostRead_spec signedChar hs hbl address hin b
      obtain ⟨u, hrun', hu⟩ := ih ht (hrep.read address) hrest
      rw [u32_address hwrap, hrep.2 address hfit] at hrun
      exact ⟨u, by simp [hostRun, hostOp, StateT.run_bind, hrun, hrun', Txn.op, arrayRun,
        arrayReply], hu⟩
    | write address fill data crc =>
      obtain ⟨hfit, hwrap, hdata, hfill⟩ :=
        hfits (.write address fill data crc) (List.mem_cons_self _ _)
      obtain ⟨t, hrun, ht⟩ := hostWrite_spec signedChar hs hbl address fill hfill data hdata crc b
      have hin : address * bl ≤ image.length := by
        rw [hrep.1]; exact Nat.le_trans (Nat.mul_le_mul_right bl (Nat.le_succ address)) hfit
      rw [u32_address hwrap, fileWrite_eq_writeBlock hdata hin] at ht
      obtain ⟨u, hrun', hu⟩ := ih ht (hrep.write hfit hdata) hrest
      exact ⟨u, by simp [hostRun, hostOp, StateT.run_bind, hrun, hrun', Txn.op, arrayRun,
        arrayReply], hu⟩

/-- **Below `2 ^ 32` bytes, the card is an array of blocks.** From a ready card with block length
`bl` (`bl + 1 < 2 ^ 32`, and `bl` bytes moved by one `read` or `write` of the host) and file
`file`, run any single-block reads and writes whose blocks lie inside the file and start below
byte `2 ^ 32`, each write carrying a whole block after any fill bytes but the data token, and any
checksum. Every read returns the data of the most recent write to its block, or the file's bytes
there if there was none; every write is answered `0x05` and replaces exactly the bytes of its
block. The card ends ready, holding the array's file. -/
theorem hostRun_refines {s : Card} (hs : Ready bl file s) (hbl : bl + 1 < 2 ^ 32)
    (txns : List Txn) (hfits : ∀ txn ∈ txns, txn.Fits bl file.length) (b : Bus Card) :
    ∃ t, (hostRun (emulatorPeer signedChar) bl txns).run { b with card := s } =
        .ok (arrayRun bl file [] (txns.map Txn.op), { b with card := t }) ∧
      Ready bl (arrayImage bl file (txns.map Txn.op)) t :=
  hostRun_represents signedChar hs hbl represents_start txns hfits b

/-- Two blocks of four bytes: write block 1 after one fill byte, read it back, read block 0. -/
theorem hostRun_refines_two_blocks :
    Ready 4 (List.replicate 8 0) { Card.powerOn 3 (List.replicate 8 0) (fun _ => 0) maxRwCount with
        currentState := .idle
        blockLength := 4
        blockBuffer := List.replicate 4 0 } ∧ 4 + 1 < 2 ^ 32 ∧
      (∀ txn ∈ [Txn.write 1 [0xff] [1, 2, 3, 4] (0, 0), .read 1, .read 0],
        txn.Fits 4 (List.replicate 8 0).length) ∧
      ∃ t, (hostRun (emulatorPeer true) 4
          [.write 1 [0xff] [1, 2, 3, 4] (0, 0), .read 1, .read 0]).run
          ⟨{ Card.powerOn 3 (List.replicate 8 0) (fun _ => 0) maxRwCount with
            currentState := .idle
            blockLength := 4
            blockBuffer := List.replicate 4 0 }, 1, 0, []⟩ =
        .ok (arrayRun 4 (List.replicate 8 0) [] [.write 1 [1, 2, 3, 4], .read 1, .read 0],
          ⟨t, 1, 0, []⟩) ∧
      Ready 4 (arrayImage 4 (List.replicate 8 0) [.write 1 [1, 2, 3, 4], .read 1, .read 0]) t :=
  have ready : Ready 4 (List.replicate 8 0)
      { Card.powerOn 3 (List.replicate 8 0) (fun _ => 0) maxRwCount with
        currentState := .idle
        blockLength := 4
        blockBuffer := List.replicate 4 0 } := ⟨rfl, rfl, rfl, rfl, rfl, by decide, by decide, rfl⟩
  have fits : ∀ txn ∈ [Txn.write 1 [0xff] [1, 2, 3, 4] (0, 0), .read 1, .read 0],
      txn.Fits 4 (List.replicate 8 0).length := by simp [Txn.Fits, dataToken]; decide
  ⟨ready, by decide, fits, hostRun_refines true ready (by decide) _ fits
    ⟨Card.powerOn 3 [] (fun _ => 0) maxRwCount, 1, 0, []⟩⟩

end Run

/-! ### From power-on -/

section PowerOn

variable (signedChar : Bool) (wiring : Int → Int)

/-! The transactions never write the chip-select register, so on the board they are those of
the data line. -/

theorem readBytes_board (n : Nat) :
    readBytes (boardPeer signedChar wiring) n = readBytes (emulatorPeer signedChar) n := by
  induction n with
  | zero => rfl
  | succ n ih => simp only [readBytes, ih]; rfl

theorem hostRun_board (bl : Nat) (txns : List Txn) :
    hostRun (boardPeer signedChar wiring) bl txns = hostRun (emulatorPeer signedChar) bl txns := by
  induction txns with
  | nil => rfl
  | cons txn txns ih =>
    cases txn <;> simp only [hostRun, hostOp, hostRead, hostWrite, ih, sendBytes_board,
      getResult_board, readBytes_board, spiTransfer_board]

/-- **From power-on, the card is an array of blocks.** On a board whose wiring inverts the
driver's chip-select value, with a block file open and a host whose `read` and `write` move `bl`
bytes in one call: a host that initializes the card with `hostInit bl` (`bl + 1 < 2 ^ 32`) gets
the R1s 1, 0 and 0, and then every sequence of single-block reads and writes whose blocks lie
inside the file and start below byte `2 ^ 32` gets the block array's replies; the card ends
ready, holding the array's file. -/
theorem hostInit_run_refines {signedChar : Bool} {wiring : Int → Int}
    (hdeselect : Int.land (wiring 0) 1 = 1) (hselect : Int.land (wiring 1) 1 = 0) {blockFd : Int}
    (hfd : 0 < blockFd) (file : List Byte) (random : Nat → Nat) {ioLimit bl : Nat}
    (hbl : bl + 1 < 2 ^ 32) (hio : bl ≤ ioLimit) (txns : List Txn)
    (hfits : ∀ txn ∈ txns, txn.Fits bl file.length) (b : Bus Card) :
    ∃ t, (do
        let replies ← hostInit (boardPeer signedChar wiring) bl
        let data ← hostRun (boardPeer signedChar wiring) bl txns
        pure (replies, data)).run { b with card := Card.powerOn blockFd file random ioLimit } =
      .ok (((1, 0, 0), arrayRun bl file [] (txns.map Txn.op)), { b with
        card := t
        chipSelect := 1
        clockDivider := (sysClockHz.tdiv 400000).tdiv 2 - 1 }) ∧
      Ready bl (arrayImage bl file (txns.map Txn.op)) t := by
  obtain ⟨t, hinit, hready⟩ := hostInit_ready hdeselect hselect hfd file random
    (show bl < 2 ^ 32 by omega) hio b
  obtain ⟨u, hrun, hu⟩ := hostRun_represents signedChar hready hbl represents_start txns hfits
    { b with chipSelect := 1, clockDivider := (sysClockHz.tdiv 400000).tdiv 2 - 1 }
  refine ⟨u, ?_, hu⟩
  rw [StateT.run_bind, hinit, except_ok_bind, StateT.run_bind, hostRun_board]
  exact congrArg (· >>= _) hrun

/-- A file of two four-byte blocks on descriptor 3 under Linux's cap: write block 1, then read
it back. -/
theorem hostInit_run_refines_two_blocks :
    Int.land (1 - 0) 1 = 1 ∧ Int.land (1 - 1) 1 = 0 ∧ (0 : Int) < 3 ∧ 4 + 1 < 2 ^ 32 ∧
      4 ≤ maxRwCount ∧
      (∀ txn ∈ [Txn.write 1 [] [1, 2, 3, 4] (0xff, 0xff), .read 1],
        txn.Fits 4 (List.replicate 8 0).length) ∧
      ∃ t, (do
          let replies ← hostInit (boardPeer true fun asserted => 1 - asserted) 4
          let data ← hostRun (boardPeer true fun asserted => 1 - asserted) 4
            [.write 1 [] [1, 2, 3, 4] (0xff, 0xff), .read 1]
          pure (replies, data)).run
            ⟨Card.powerOn 3 (List.replicate 8 0) (fun _ => 0) maxRwCount, 0, 0, []⟩ =
        .ok (((1, 0, 0), arrayRun 4 (List.replicate 8 0) [] [.write 1 [1, 2, 3, 4], .read 1]),
          ⟨t, 1, (sysClockHz.tdiv 400000).tdiv 2 - 1, []⟩) ∧
        Ready 4 (arrayImage 4 (List.replicate 8 0) [.write 1 [1, 2, 3, 4], .read 1]) t :=
  have fits : ∀ txn ∈ [Txn.write 1 [] [1, 2, 3, 4] (0xff, 0xff), .read 1],
      txn.Fits 4 (List.replicate 8 0).length := by simp [Txn.Fits]
  ⟨by decide, by decide, by decide, by decide, by decide, fits,
    @hostInit_run_refines true (fun asserted => 1 - asserted) (by decide) (by decide) 3 (by decide)
      (List.replicate 8 0) (fun _ => 0) maxRwCount 4 (by decide) (by decide) _ fits
      ⟨Card.powerOn 3 [] (fun _ => 0) maxRwCount, 0, 0, []⟩⟩

end PowerOn

/-! ### Past `2 ^ 32` bytes -/

/-- **The block address wraps at `2 ^ 32` bytes.** `transfer_block_address` is the `uint32_t`
product `argument * block_length`, so in a file of `2 ^ 32 + 512` bytes, a write of 512 bytes of
`1` to block `2 ^ 23`, which starts at byte `2 ^ 32`, lands on block 0: the file ends as 512
bytes of `1` followed by zeros, not as the block array's file. -/
theorem hostWrite_wraps :
    ∃ t, (hostWrite (emulatorPeer true) (2 ^ 23) [] (List.replicate 512 1) (0xff, 0xff)).run
        ⟨{ Card.powerOn 3 (List.replicate (2 ^ 32 + 512) 0) (fun _ => 0) maxRwCount with
          currentState := .idle
          blockLength := 512
          blockBuffer := List.replicate 512 0 }, 1, 0, []⟩ = .ok (0x05, ⟨t, 1, 0, []⟩) ∧
      t.image = List.replicate 512 1 ++ List.replicate (2 ^ 32) 0 ∧
      t.image ≠ arrayImage 512 (List.replicate (2 ^ 32 + 512) 0)
        [.write (2 ^ 23) (List.replicate 512 1)] := by
  have ready : Ready 512 (List.replicate (2 ^ 32 + 512) 0)
      { Card.powerOn 3 (List.replicate (2 ^ 32 + 512) 0) (fun _ => 0) maxRwCount with
        currentState := .idle
        blockLength := 512
        blockBuffer := List.replicate 512 0 } :=
    ⟨rfl, rfl, rfl, rfl, List.length_replicate _ _, by decide, by decide, rfl⟩
  obtain ⟨t, hrun, ht⟩ := hostWrite_spec true ready (by decide) (2 ^ 23) [] (by simp)
    (List.replicate 512 1) (List.length_replicate _ _) (0xff, 0xff)
    ⟨Card.powerOn 3 [] (fun _ => 0) maxRwCount, 1, 0, []⟩
  have hoffset : u32 (u32 (2 ^ 23) * 512) = 0 := by decide
  have himage : t.image = List.replicate 512 1 ++ List.replicate (2 ^ 32) 0 := by
    rw [ht.file, hoffset]
    simp only [fileWrite, List.take_zero, List.nil_append, Nat.zero_sub, List.replicate_zero,
      List.length_replicate, Nat.zero_add, List.drop_replicate, Nat.add_sub_cancel]
  have harray : arrayImage 512 (List.replicate (2 ^ 32 + 512) 0)
      [.write (2 ^ 23) (List.replicate 512 1)] =
      List.replicate (2 ^ 32) 0 ++ List.replicate 512 1 := by
    have hprefix : min (2 ^ 23 * 512) (2 ^ 32 + 512) = 2 ^ 32 := by decide
    have hsuffix : 2 ^ 32 + 512 - (2 ^ 23 * 512 + 512) = 0 := by decide
    simp only [arrayImage, writeBlock, List.take_replicate, List.drop_replicate, List.append_nil,
      List.length_replicate, hprefix, hsuffix, List.replicate_zero]
  refine ⟨t, hrun, himage, fun h => ?_⟩
  have hhead := congrArg List.head? (himage.symm.trans (h.trans harray))
  simp only [List.head?_append, List.head?_replicate] at hhead
  simp at hhead

end NyuziSdmmc
