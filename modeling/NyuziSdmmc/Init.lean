import NyuziSdmmc.Answers

/-!
# `initSdmmcDevice`: termination, and what it leaves on the bus

`getResult` gives up after `MAX_RETRIES` retries, but the loop that polls `SD_CMD_INIT` around
it is a `while (1)` with no counter. The model runs that loop for at most `fuel` rounds, and a
larger `fuel` never changes a result already reached (`initSdmmcDevice_add_fuel`). So the
function terminates on a card exactly when some `fuel` gives `some v`.

* `streamResult`, `pollStart`, `pollR1`: on a card answering a fixed sequence, what `getResult`
  reads, and the R1 that each round of the `SD_CMD_INIT` loop reads;
* `initSdmmcDevice_returns_unless_polls_one`: the function returns 0 or -1 within `n + 1` rounds
  when the reset's R1 or the `n`-th round's R1 is not 1, and runs out of every `fuel` when they
  are all 1;
* `initSdmmcDevice_polls_forever`: a card that answers 1 to everything is such a card;
* `initSdmmcDevice_bus`: whatever the card answers, a return leaves the card selected, and the
  clock is raised to 5 MHz exactly when the function returns 0; a -1 comes with one line on the
  console naming the failed command.
-/

namespace NyuziSdmmc

/-! ### More fuel does not change a result -/

section Fuel

variable {σ ε : Type} (peer : SpiPeer σ ε)

theorem pollInit_succ_of_some {fuel : Nat} {b b' : Bus σ} {x : Bool}
    (h : (pollInit peer fuel).run b = .ok (some x, b')) :
    (pollInit peer (fuel + 1)).run b = .ok (some x, b') := by
  induction fuel generalizing b with
  | zero => cases h
  | succ fuel ih =>
    obtain ⟨_, b₁, h₁, h⟩ := run_bind_ok h
    obtain ⟨res, b₂, h₂, h⟩ := run_bind_ok h
    rw [pollInit, StateT.run_bind, h₁, except_ok_bind, StateT.run_bind, h₂, except_ok_bind]
    split_ifs at h ⊢
    · exact h
    · exact h
    · exact ih h

theorem pollInit_add_of_some {fuel : Nat} {b b' : Bus σ} {x : Bool}
    (h : (pollInit peer fuel).run b = .ok (some x, b')) (more : Nat) :
    (pollInit peer (fuel + more)).run b = .ok (some x, b') := by
  induction more with
  | zero => exact h
  | succ more ih => exact pollInit_succ_of_some peer ih

variable (blockSize : Nat)

/-- A result `initSdmmcDevice` reaches within `fuel` polls stays its result for more fuel. -/
theorem initSdmmcDevice_add_fuel {fuel : Nat} {b b' : Bus σ} {v : Int}
    (h : (initSdmmcDevice peer blockSize fuel).run b = .ok (some v, b')) (more : Nat) :
    (initSdmmcDevice peer blockSize (fuel + more)).run b = .ok (some v, b') := by
  obtain ⟨res, b₁, h₁, h⟩ := run_bind_ok h
  rw [initSdmmcDevice, StateT.run_bind, h₁, except_ok_bind]
  split_ifs at h ⊢
  · exact h
  obtain ⟨_ | x, b₂, h₂, h⟩ := run_bind_ok h
  · cases h
  · rw [StateT.run_bind, pollInit_add_of_some peer h₂, except_ok_bind]
    exact h

end Fuel

/-! ### Polling a card that answers a fixed sequence -/

section Stream

variable (r : Nat → Int)

/-- What `getResult` reads from a card answering `r` from its `q`-th reply on: the R1, and the
position of the next reply. -/
def streamResult (q : Nat) : Int × Nat :=
  match (getResult (streamPeer r)).run ⟨q, 0, 0, []⟩ with
  | .ok (res, b) => (res, b.card)
  | .error e => nomatch e

/-- Where the `n`-th round of the `SD_CMD_INIT` loop starts, the first at reply `p`: a round sends
six command bytes and then reads its R1. -/
def pollStart : Nat → Nat → Nat
  | p, 0 => p
  | p, n + 1 => pollStart (streamResult r (p + 6)).2 n

/-- The R1 that `getResult` reads in the `n`-th round of the `SD_CMD_INIT` loop, the first round
starting at reply `p`. -/
def pollR1 (p n : Nat) : Int := (streamResult r (pollStart r p n + 6)).1

/-- `getResult` reads `streamResult`, whatever the rest of the bus. -/
theorem getResult_streamResult (b : Bus Nat) :
    (getResult (streamPeer r)).run b =
      .ok ((streamResult r b.card).1, { b with card := (streamResult r b.card).2 }) := by
  by_cases h : ∃ k, k < maxRetries ∧ r (b.card + k) ≠ 0xff
  · rw [getResult_stream_found h, streamResult, getResult_stream_found (b := ⟨b.card, 0, 0, []⟩) h]
  · rw [getResult_stream_timeout h, streamResult,
      getResult_stream_timeout (b := ⟨b.card, 0, 0, []⟩) h]

/-- A card that answers 1 to every byte answers 1 to `getResult` at once. -/
theorem streamResult_ones (q : Nat) : streamResult (fun _ => 1) q = (1, q + 1) := by
  rw [streamResult, getResult_stream_found (b := ⟨q, 0, 0, []⟩) ⟨0, by decide, by decide⟩]
  simp [maxRetries]

/-- `initSdmmcDevice` up to its loop: ten clock bytes and the six bytes of `SD_CMD_RESET`, then
its R1. -/
theorem initPrologue_streamResult (b : Bus Nat) :
    (initPrologue (streamPeer r)).run b = .ok ((streamResult r (b.card + 16)).1, { b with
      card := (streamResult r (b.card + 16)).2
      chipSelect := 1
      clockDivider := (sysClockHz.tdiv 400000).tdiv 2 - 1 }) := by
  simp [initPrologue, sendSdCommand, sendBytes_stream, getResult_streamResult, commandFrame]

/-- One round of the `SD_CMD_INIT` loop: it ends the loop on an R1 other than 1, and goes on to
the next round on 1. -/
theorem pollInit_stream_round (fuel : Nat) (b : Bus Nat) :
    (pollInit (streamPeer r) (fuel + 1)).run b =
      (if pollR1 r b.card 0 = 0 then pure (some true)
        else if pollR1 r b.card 0 ≠ 1 then do
          printf ("initSdmmcDevice: error " ++ toString (pollR1 r b.card 0) ++ " SD_CMD_INIT\n")
          pure (some false)
        else pollInit (streamPeer r) fuel).run { b with card := pollStart r b.card 1 } := by
  simp only [pollInit, StateT.run_bind, sendSdCommand, sendBytes_stream, commandFrame,
    List.length_cons, List.length_nil, except_ok_bind, getResult_streamResult]
  rfl

/-- The loop ends within `n + 1` rounds when its `n`-th round reads an R1 other than 1. -/
theorem pollInit_stream_ends {n : Nat} {b : Bus Nat} (hn : pollR1 r b.card n ≠ 1) :
    ∃ x b', (pollInit (streamPeer r) (n + 1)).run b = .ok (some x, b') := by
  induction n generalizing b with
  | zero => rw [pollInit_stream_round]; split_ifs <;> exact ⟨_, _, rfl⟩
  | succ n ih =>
    rw [pollInit_stream_round]
    split_ifs
    exacts [⟨_, _, rfl⟩, ⟨_, _, rfl⟩, ih hn]

/-- The loop runs out of fuel when every round reads 1. -/
theorem pollInit_stream_ones {b : Bus Nat} (hones : ∀ n, pollR1 r b.card n = 1) (fuel : Nat) :
    ∃ b', (pollInit (streamPeer r) fuel).run b = .ok (none, b') := by
  induction fuel generalizing b with
  | zero => exact ⟨b, rfl⟩
  | succ fuel ih =>
    rw [pollInit_stream_round, if_neg (by rw [hones 0]; decide), if_neg (not_not.2 (hones 0))]
    exact ih fun n => hones (n + 1)

theorem initEpilogue_stream (blockSize : Nat) (b : Bus Nat) :
    ∃ v b', (v = 0 ∨ v = -1) ∧ (initEpilogue (streamPeer r) blockSize).run b = .ok (v, b') := by
  simp only [initEpilogue, StateT.run_bind, sendSdCommand, sendBytes_stream,
    getResult_streamResult, except_ok_bind]
  split_ifs
  · exact ⟨-1, _, .inr rfl, rfl⟩
  · exact ⟨0, _, .inl rfl, rfl⟩

/-- **`initSdmmcDevice` returns unless the card answers 1 to the reset and to every poll.** On a
card answering the sequence `r`, the R1 of `SD_CMD_RESET` is read at reply `16` and the loop starts
after it. If that R1 is not 1, or the R1 read in the `n`-th round of the `SD_CMD_INIT` loop is not
1, the function returns 0 or -1 within `n + 1` rounds, and more fuel does not change the result.
If that R1 and the R1 of every round are 1, the loop runs out of every fuel. -/
theorem initSdmmcDevice_returns_unless_polls_one (blockSize : Nat) (b : Bus Nat) :
    (∀ n, (streamResult r (b.card + 16)).1 ≠ 1 ∨
        pollR1 r (streamResult r (b.card + 16)).2 n ≠ 1 →
      ∃ v b', (v = 0 ∨ v = -1) ∧ ∀ more,
        (initSdmmcDevice (streamPeer r) blockSize (n + 1 + more)).run b = .ok (some v, b')) ∧
    ((streamResult r (b.card + 16)).1 = 1 →
      (∀ n, pollR1 r (streamResult r (b.card + 16)).2 n = 1) →
      ∀ fuel, ∃ b', (initSdmmcDevice (streamPeer r) blockSize fuel).run b = .ok (none, b')) := by
  refine ⟨fun n hn => ?returns, fun hreset hones fuel => ?polls⟩
  case returns =>
    suffices h : ∃ v b', (v = 0 ∨ v = -1) ∧
        (initSdmmcDevice (streamPeer r) blockSize (n + 1)).run b = .ok (some v, b') by
      obtain ⟨v, b', hv, h⟩ := h
      exact ⟨v, b', hv, initSdmmcDevice_add_fuel _ blockSize h⟩
    simp only [initSdmmcDevice, StateT.run_bind, initPrologue_streamResult, except_ok_bind]
    split_ifs with h1
    · exact ⟨-1, _, .inr rfl, rfl⟩
    obtain ⟨x, b₂, hpoll⟩ := pollInit_stream_ends r (b := { b with
      card := (streamResult r (b.card + 16)).2
      chipSelect := 1
      clockDivider := (sysClockHz.tdiv 400000).tdiv 2 - 1 }) (hn.resolve_left h1)
    simp only [StateT.run_bind, hpoll, except_ok_bind]
    cases x
    · exact ⟨-1, _, .inr rfl, rfl⟩
    · obtain ⟨v, b₃, hv, hepi⟩ := initEpilogue_stream r blockSize b₂
      exact ⟨v, b₃, hv, by simp [hepi, Except.map]⟩
  case polls =>
    obtain ⟨b₂, hpoll⟩ := pollInit_stream_ones r (b := { b with
      card := (streamResult r (b.card + 16)).2
      chipSelect := 1
      clockDivider := (sysClockHz.tdiv 400000).tdiv 2 - 1 }) hones fuel
    simp only [initSdmmcDevice, StateT.run_bind, initPrologue_streamResult, except_ok_bind,
      hreset, ne_eq, not_true_eq_false, if_false, hpoll]
    exact ⟨b₂, rfl⟩

/-- A card that answers 1 until the reset is done and 0 afterwards is ready at the first poll;
one that answers 1 to every byte polls forever. -/
theorem initSdmmcDevice_returns_on_ready_card :
    ((streamResult (fun i => if i < 17 then 1 else 0) (0 + 16)).1 ≠ 1 ∨
        pollR1 (fun i => if i < 17 then 1 else 0)
          (streamResult (fun i => if i < 17 then 1 else 0) (0 + 16)).2 0 ≠ 1) ∧
      (∃ v b', (v = 0 ∨ v = -1) ∧ ∀ more,
        (initSdmmcDevice (streamPeer fun i => if i < 17 then 1 else 0) 512 (0 + 1 + more)).run
          ⟨0, 0, 0, []⟩ = .ok (some v, b')) ∧
      (streamResult (fun _ => 1) (0 + 16)).1 = 1 ∧
      (∀ n, pollR1 (fun _ => 1) (streamResult (fun _ => 1) (0 + 16)).2 n = 1) ∧
      ∀ fuel, ∃ b', (initSdmmcDevice (streamPeer fun _ => 1) 512 fuel).run ⟨0, 0, 0, []⟩ =
        .ok (none, b') :=
  have ready : (streamResult (fun i => if i < 17 then 1 else 0) (0 + 16)).1 ≠ 1 ∨
      pollR1 (fun i => if i < 17 then 1 else 0)
        (streamResult (fun i => if i < 17 then 1 else 0) (0 + 16)).2 0 ≠ 1 := .inr (by decide)
  have ones : ∀ n, pollR1 (fun _ => 1) (streamResult (fun _ => 1) (0 + 16)).2 n = 1 :=
    fun n => by rw [pollR1, streamResult_ones]
  ⟨ready, (initSdmmcDevice_returns_unless_polls_one _ 512 ⟨0, 0, 0, []⟩).1 0 ready,
    by rw [streamResult_ones], ones,
    (initSdmmcDevice_returns_unless_polls_one _ 512 ⟨0, 0, 0, []⟩).2 (by rw [streamResult_ones])
      ones⟩

end Stream

/-! ### A card that always answers 1 -/

/-- **A card that answers 1 to every byte keeps `initSdmmcDevice` polling forever**: no fuel is
enough for its `while (1)` loop. -/
theorem initSdmmcDevice_polls_forever :
    ¬ ∃ fuel v b', (initSdmmcDevice (streamPeer fun _ => 1) 512 fuel).run ⟨0, 0, 0, []⟩ =
      .ok (some v, b') := by
  rintro ⟨fuel, v, b', h⟩
  obtain ⟨b₂, hpoll⟩ := pollInit_stream_ones (fun _ => 1)
    (b := ⟨17, 1, (sysClockHz.tdiv 400000).tdiv 2 - 1, []⟩)
    (fun n => by rw [pollR1, streamResult_ones]) fuel
  simp [initSdmmcDevice, initPrologue_streamResult, hpoll, streamResult_ones] at h

/-! ### What the driver leaves on the bus -/

section Bus

variable {σ ε : Type} {peer : SpiPeer σ ε}

/-- A driver computation that writes neither the SPI registers nor the console. -/
def OnlyCard {α : Type} (m : Driver σ ε α) : Prop :=
  ∀ b x b', m.run b = .ok (x, b') → ∃ c, b' = { b with card := c }

theorem OnlyCard.pure {α : Type} (a : α) : OnlyCard (pure a : Driver σ ε α) := by
  intro b x b' h
  cases h
  exact ⟨b.card, rfl⟩

theorem OnlyCard.bind {α β : Type} {m : Driver σ ε α} {f : α → Driver σ ε β}
    (hm : OnlyCard m) (hf : ∀ a, OnlyCard (f a)) : OnlyCard (m >>= f) := by
  intro b x b' h
  obtain ⟨a, b₁, h₁, h₂⟩ := run_bind_ok h
  obtain ⟨c₁, rfl⟩ := hm _ _ _ h₁
  obtain ⟨c₂, rfl⟩ := hf a _ _ _ h₂
  exact ⟨c₂, rfl⟩

theorem spiTransfer_onlyCard (value : Int) : OnlyCard (spiTransfer peer value) := by
  intro b x b' h
  rw [spiTransfer_run] at h
  rcases hx : peer.exchange (Int.land value 0xff).toNat b.card with e | ⟨r, c⟩ <;>
    rw [hx] at h <;> cases h
  exact ⟨c, rfl⟩

theorem sendBytes_onlyCard (values : List Int) : OnlyCard (sendBytes peer values) := by
  induction values with
  | nil => exact .pure ()
  | cons v vs ih =>
    rw [sendBytes_cons]
    exact (spiTransfer_onlyCard v).bind fun _ => ih

theorem getResultLoop_onlyCard (n : Nat) : OnlyCard (getResultLoop peer n) := by
  induction n with
  | zero => exact (spiTransfer_onlyCard _).bind fun _ => .pure _
  | succ n ih =>
    refine (spiTransfer_onlyCard _).bind fun result => ?_
    split
    · exact ih
    · exact .pure _

/-- `initSdmmcDevice` up to its loop leaves the clock slow and the card selected. -/
theorem initPrologue_bus {b b' : Bus σ} {res : Int}
    (h : (initPrologue peer).run b = .ok (res, b')) :
    ∃ c, b' = { b with card := c, chipSelect := 1, clockDivider := 61 } := by
  obtain ⟨_, b₁, h₁, h⟩ := run_bind_ok h
  obtain ⟨_, b₂, h₂, h⟩ := run_bind_ok h
  obtain ⟨_, b₃, h₃, h⟩ := run_bind_ok h
  obtain ⟨_, b₄, h₄, h⟩ := run_bind_ok h
  obtain ⟨_, b₅, h₅, h⟩ := run_bind_ok h
  rw [setClockRate_run] at h₁
  rw [setCs_run] at h₂ h₄
  cases h₁; cases h₂; cases h₄
  obtain ⟨c₃, rfl⟩ := sendBytes_onlyCard _ _ _ _ h₃
  obtain ⟨c₅, rfl⟩ := sendBytes_onlyCard _ _ _ _ h₅
  obtain ⟨c, rfl⟩ := getResultLoop_onlyCard _ _ _ _ h
  exact ⟨c, rfl⟩

/-- The polling loop writes no register, and a line on the console only when it gives up. -/
theorem pollInit_bus {fuel : Nat} {b b' : Bus σ} {x : Option Bool}
    (h : (pollInit peer fuel).run b = .ok (x, b')) :
    ∃ c, (x ≠ some false ∧ b' = { b with card := c }) ∨
      (x = some false ∧ ∃ result : Int, b' = { b with
        card := c
        console := b.console ++
          ["initSdmmcDevice: error " ++ toString result ++ " SD_CMD_INIT\n"] }) := by
  induction fuel generalizing b with
  | zero => cases h; exact ⟨_, .inl ⟨by simp, rfl⟩⟩
  | succ fuel ih =>
    obtain ⟨_, b₁, h₁, h⟩ := run_bind_ok h
    obtain ⟨result, b₂, h₂, h⟩ := run_bind_ok h
    obtain ⟨c₁, rfl⟩ := sendBytes_onlyCard _ _ _ _ h₁
    obtain ⟨c₂, rfl⟩ := getResultLoop_onlyCard _ _ _ _ h₂
    split_ifs at h
    · cases h; exact ⟨c₂, .inl ⟨by simp, rfl⟩⟩
    · obtain ⟨_, b₃, h₃, h⟩ := run_bind_ok h
      rw [printf_run] at h₃
      cases h₃; cases h
      exact ⟨c₂, .inr ⟨rfl, result, rfl⟩⟩
    · obtain ⟨c, hc⟩ := ih h
      exact ⟨c, hc⟩

/-- After the loop: the clock is raised only when `SD_CMD_SET_BLOCK_LEN` is answered 0. -/
theorem initEpilogue_bus {blockSize : Nat} {b b' : Bus σ} {v : Int}
    (h : (initEpilogue peer blockSize).run b = .ok (v, b')) :
    ∃ c, (v = 0 ∧ b' = { b with card := c, clockDivider := 4 }) ∨
      (v = -1 ∧ ∃ result : Int, b' = { b with
        card := c
        console := b.console ++
          ["initSdmmcDevice: error " ++ toString result ++ " SD_CMD_SET_BLOCK_LEN\n"] }) := by
  obtain ⟨_, b₁, h₁, h⟩ := run_bind_ok h
  obtain ⟨result, b₂, h₂, h⟩ := run_bind_ok h
  obtain ⟨c₁, rfl⟩ := sendBytes_onlyCard _ _ _ _ h₁
  obtain ⟨c₂, rfl⟩ := getResultLoop_onlyCard _ _ _ _ h₂
  split_ifs at h
  · obtain ⟨_, b₃, h₃, h⟩ := run_bind_ok h
    rw [printf_run] at h₃
    cases h₃; cases h
    exact ⟨c₂, .inr ⟨rfl, result, rfl⟩⟩
  · obtain ⟨_, b₃, h₃, h⟩ := run_bind_ok h
    rw [setClockRate_run] at h₃
    cases h₃; cases h
    exact ⟨c₂, .inl ⟨rfl, rfl⟩⟩

/-- **What `initSdmmcDevice` leaves on the bus**, whatever the card answers. When it returns, the
card is selected (`REGISTERS[0x50 / 4] = 1`). It returns 0 only with the clock divider raised to
4 (5 MHz) and nothing printed; otherwise it returns -1 with the divider still 61 (400 kHz) and one
line printed, naming the command that failed and its result. -/
theorem initSdmmcDevice_bus {blockSize fuel : Nat} {b b' : Bus σ} {v : Int}
    (h : (initSdmmcDevice peer blockSize fuel).run b = .ok (some v, b')) :
    ∃ c, (v = 0 ∧ b' = { b with card := c, chipSelect := 1, clockDivider := 4 }) ∨
      (v = -1 ∧ ∃ (result : Int) (command : String),
        command ∈ [" SD_CMD_RESET\n", " SD_CMD_INIT\n", " SD_CMD_SET_BLOCK_LEN\n"] ∧
        b' = { b with
          card := c
          chipSelect := 1
          clockDivider := 61
          console := b.console ++ ["initSdmmcDevice: error " ++ toString result ++ command] }) := by
  obtain ⟨res, b₁, h₁, h⟩ := run_bind_ok h
  obtain ⟨c₁, rfl⟩ := initPrologue_bus h₁
  split_ifs at h
  · -- the reset is not answered 1
    obtain ⟨_, b₂, h₂, h⟩ := run_bind_ok h
    rw [printf_run] at h₂
    cases h₂; cases h
    exact ⟨c₁, .inr ⟨rfl, res, _, by simp, rfl⟩⟩
  obtain ⟨x, b₂, h₂, h⟩ := run_bind_ok h
  obtain ⟨c₂, ⟨hx, rfl⟩ | ⟨rfl, result, rfl⟩⟩ := pollInit_bus h₂
  · rcases x with _ | _ | _
    · cases h
    · exact absurd rfl hx
    · -- the card is ready: the epilogue
      rw [StateT.run_map] at h
      rcases he : (initEpilogue peer blockSize).run _ with e | ⟨w, b₃⟩ <;> rw [he] at h <;> cases h
      obtain ⟨c₃, ⟨rfl, rfl⟩ | ⟨rfl, result, rfl⟩⟩ := initEpilogue_bus he
      · exact ⟨c₃, .inl ⟨rfl, rfl⟩⟩
      · exact ⟨c₃, .inr ⟨rfl, result, _, by simp, rfl⟩⟩
  · cases h
    exact ⟨c₂, .inr ⟨rfl, result, _, by simp, rfl⟩⟩

/-- A card that answers 1 until the reset is done and 0 afterwards: one poll, and the clock is
raised. -/
theorem initSdmmcDevice_bus_ready :
    (initSdmmcDevice (streamPeer fun i => if i < 17 then 1 else 0) 512 1).run ⟨0, 0, 0, []⟩ =
        .ok (some 0, ⟨31, 1, 4, []⟩) ∧
      ∃ c, ((0 : Int) = 0 ∧ (⟨31, 1, 4, []⟩ : Bus Nat) = { (⟨0, 0, 0, []⟩ : Bus Nat) with
          card := c, chipSelect := 1, clockDivider := 4 }) ∨
        ((0 : Int) = -1 ∧ ∃ (result : Int) (command : String),
          command ∈ [" SD_CMD_RESET\n", " SD_CMD_INIT\n", " SD_CMD_SET_BLOCK_LEN\n"] ∧
          (⟨31, 1, 4, []⟩ : Bus Nat) = { (⟨0, 0, 0, []⟩ : Bus Nat) with
            card := c
            chipSelect := 1
            clockDivider := 61
            console := [] ++ ["initSdmmcDevice: error " ++ toString result ++ command] }) :=
  have h : (initSdmmcDevice (streamPeer fun i => if i < 17 then 1 else 0) 512 1).run
      ⟨0, 0, 0, []⟩ = .ok (some 0, ⟨31, 1, 4, []⟩) := by
    simp [initSdmmcDevice, initPrologue, pollInit, initEpilogue, sendSdCommand, sendBytes_stream,
      getResult_stream_ready, commandFrame]
    decide
  ⟨h, initSdmmcDevice_bus h⟩

end Bus

end NyuziSdmmc
