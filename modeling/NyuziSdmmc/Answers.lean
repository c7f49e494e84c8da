import Mathlib.Data.Nat.Find
import NyuziSdmmc.Driver

/-!
# The driver against a card whose replies do not depend on what it sends

While the card is busy, or while it streams a block, its reply to a transfer does not depend on
the byte the driver sends. `Answers peer s rs t` says that from state `s` the card answers the
next transfers with `rs`, whatever is sent, and is then in state `t`. Over it:

* `getResultLoop_found`, `getResultLoop_timeout`: what `getResult` returns and consumes;
* `readBytes_of_answers`, `sendBytes_of_answers`;
* `streamPeer r`: a card answering the fixed sequence `r`; `getResult_stream` and
  `readSdmmcDevice_stream`, the behaviour of `getResult` and of `readSdmmcDevice` on every such
  sequence.
-/

namespace NyuziSdmmc

section Answers

variable {σ ε : Type} (peer : SpiPeer σ ε)

/-- From `s` the card answers the next transfers with `rs`, whatever is sent, ending in `t`. -/
inductive Answers : σ → List Int → σ → Prop
  | nil (s : σ) : Answers s [] s
  | cons {s t u : σ} {r : Int} {rs : List Int} :
      (∀ w, peer.exchange w s = .ok (r, t)) → Answers t rs u → Answers s (r :: rs) u

variable {peer}

theorem Answers.append {s t u : σ} {xs ys : List Int} (h₁ : Answers peer s xs t)
    (h₂ : Answers peer t ys u) : Answers peer s (xs ++ ys) u := by
  induction h₁ with
  | nil => exact h₂
  | cons hx _ ih => exact .cons hx (ih h₂)

theorem Answers.split {s u : σ} {xs ys : List Int} (h : Answers peer s (xs ++ ys) u) :
    ∃ t, Answers peer s xs t ∧ Answers peer t ys u := by
  induction xs generalizing s with
  | nil => exact ⟨s, .nil s, h⟩
  | cons x xs ih =>
    obtain _ | ⟨hx, hrest⟩ := h
    obtain ⟨t, h₁, h₂⟩ := ih hrest
    exact ⟨t, .cons hx h₁, h₂⟩

variable {b : Bus σ} {r : Int} {t : σ}

theorem spiTransfer_answer (h : ∀ w, peer.exchange w b.card = .ok (r, t)) (value : Int) :
    (spiTransfer peer value).run b = .ok (r, { b with card := t }) := by
  simp [spiTransfer_run, h, Except.map]

/-- `getResult` returns the first reply other than `0xff` if it comes before its last retry. -/
theorem getResultLoop_found {k n : Nat} (hk : k < n) (hr : r ≠ 0xff)
    (h : Answers peer b.card (List.replicate k 0xff ++ [r]) t) :
    (getResultLoop peer n).run b = .ok (r, { b with card := t }) := by
  induction k generalizing n b with
  | zero =>
    obtain ⟨n, rfl⟩ : ∃ m, n = m + 1 := ⟨n - 1, by omega⟩
    obtain _ | ⟨h₁, _ | _⟩ := h
    simp [getResultLoop, spiTransfer_answer h₁, hr]
  | succ k ih =>
    obtain ⟨n, rfl⟩ : ∃ m, n = m + 1 := ⟨n - 1, by omega⟩
    obtain _ | ⟨h₁, h₂⟩ := h
    simpa [getResultLoop, spiTransfer_answer h₁] using
      ih (n := n) (b := { b with card := _ }) (by omega) h₂

/-- After `n` busy replies, `getResult` reads one more byte and returns `-1`, whatever that
byte is. -/
theorem getResultLoop_timeout {n : Nat}
    (h : Answers peer b.card (List.replicate n 0xff ++ [r]) t) :
    (getResultLoop peer n).run b = .ok (-1, { b with card := t }) := by
  induction n generalizing b with
  | zero =>
    obtain _ | ⟨h₁, _ | _⟩ := h
    simp [getResultLoop, spiTransfer_answer h₁]
  | succ n ih =>
    obtain _ | ⟨h₁, h₂⟩ := h
    simpa [getResultLoop, spiTransfer_answer h₁] using ih (b := { b with card := _ }) h₂

/-- A transfer that stops the run stops `getResult`. -/
theorem getResultLoop_of_error {e : ε}
    (h : (spiTransfer peer 0xff).run b = .error e) (n : Nat) :
    (getResultLoop peer n).run b = .error e := by
  cases n <;> simp [getResultLoop, h]

/-- A busy reply costs `getResult` one retry. -/
theorem getResultLoop_of_busy {b' : Bus σ}
    (h : (spiTransfer peer 0xff).run b = .ok (0xff, b')) (n : Nat) :
    (getResultLoop peer (n + 1)).run b = (getResultLoop peer n).run b' := by
  simp [getResultLoop, h]

theorem readBytes_of_answers {rs : List Int} (h : Answers peer b.card rs t) :
    (readBytes peer rs.length).run b = .ok (rs.map toChar, { b with card := t }) := by
  induction rs generalizing b with
  | nil => obtain _ | _ := h; rfl
  | cons r rs ih =>
    obtain _ | ⟨h₁, h₂⟩ := h
    simp [readBytes, spiTransfer_answer h₁, ih (b := { b with card := _ }) h₂]

theorem sendBytes_of_answers {rs : List Int} (values : List Int) (hlen : values.length = rs.length)
    (h : Answers peer b.card rs t) :
    (sendBytes peer values).run b = .ok ((), { b with card := t }) := by
  induction values generalizing rs b with
  | nil => obtain _ | _ := h <;> simp_all [sendBytes]
  | cons v vs ih =>
    obtain _ | ⟨h₁, h₂⟩ := h
    · simp at hlen
    have := ih (b := { b with card := _ }) (by simpa using hlen) h₂
    simpa [sendBytes, spiTransfer_answer h₁] using this

end Answers

/-! ### Cards answering a fixed sequence -/

/-- A card whose `n`-th reply is `r n`; its state is the number of bytes exchanged so far. It
ignores the chip select. -/
def streamPeer (r : Nat → Int) : SpiPeer Nat Empty := ⟨fun _ n => .ok (r n, n + 1), fun _ n => n⟩

@[simp] theorem streamPeer_select (r : Nat → Int) (asserted : Int) (n : Nat) :
    (streamPeer r).select asserted n = n := rfl

theorem answers_stream (r : Nat → Int) (p n : Nat) :
    Answers (streamPeer r) p ((List.range n).map fun i => r (p + i)) (p + n) := by
  induction n generalizing p with
  | zero => exact .nil p
  | succ n ih =>
    rw [List.range_succ_eq_map, List.map_cons, List.map_map]
    refine .cons (fun _ => rfl) ?_
    convert ih (p + 1) using 1
    · simp [Function.comp_def, Nat.add_assoc, Nat.add_comm 1]
    · omega

theorem sendBytes_stream (r : Nat → Int) (values : List Int) (b : Bus Nat) :
    (sendBytes (streamPeer r) values).run b = .ok ((), { b with card := b.card + values.length }) :=
  sendBytes_of_answers values (by simp) (answers_stream r b.card values.length)

theorem readBytes_stream (r : Nat → Int) (n : Nat) (b : Bus Nat) :
    (readBytes (streamPeer r) n).run b =
      .ok ((List.range n).map (fun i => toChar (r (b.card + i))),
        { b with card := b.card + n }) := by
  have h := readBytes_of_answers (answers_stream r b.card n)
  rw [List.length_map, List.length_range, List.map_map] at h
  exact h

/-- A stream that is busy for `k` replies answers them and then its `k`-th value. -/
theorem answers_stream_busy {r : Nat → Int} {p k : Nat} (busy : ∀ j < k, r (p + j) = 0xff) :
    Answers (streamPeer r) p (List.replicate k 0xff ++ [r (p + k)]) (p + k + 1) := by
  have hbusy : (List.range k).map (fun i => r (p + i)) = List.replicate k 0xff :=
    List.eq_replicate_iff.2 ⟨by simp, by simpa using busy⟩
  simpa [List.range_succ, hbusy, Nat.add_assoc] using answers_stream r p (k + 1)

/-- `getResult` on a fixed reply sequence that is ready within `MAX_RETRIES` replies: the first
reply that is not `0xff`, and nothing after it. -/
theorem getResult_stream_found {r : Nat → Int} {b : Bus Nat}
    (h : ∃ k, k < maxRetries ∧ r (b.card + k) ≠ 0xff) :
    (getResult (streamPeer r)).run b =
      .ok (r (b.card + Nat.find h), { b with card := b.card + Nat.find h + 1 }) := by
  have hk := Nat.find_spec h
  have busy : ∀ j < Nat.find h, r (b.card + j) = 0xff := fun j hj =>
    not_not.1 fun hj' => Nat.find_min h hj ⟨hj.trans hk.1, hj'⟩
  exact getResultLoop_found hk.1 hk.2 (answers_stream_busy busy)

/-- `getResult` on a fixed reply sequence that stays busy: `-1`, after one reply more. -/
theorem getResult_stream_timeout {r : Nat → Int} {b : Bus Nat}
    (h : ¬ ∃ k, k < maxRetries ∧ r (b.card + k) ≠ 0xff) :
    (getResult (streamPeer r)).run b = .ok (-1, { b with card := b.card + maxRetries + 1 }) := by
  push_neg at h
  exact getResultLoop_timeout (answers_stream_busy h)

/-- **`getResult` on a fixed reply sequence.** It returns the first of the next `MAX_RETRIES`
replies that is not `0xff`, having consumed it and nothing after it. If they are all `0xff`, it
consumes one reply more, drops it, and returns `-1`. -/
theorem getResult_stream (r : Nat → Int) (b : Bus Nat) :
    (getResult (streamPeer r)).run b =
      if h : ∃ k, k < maxRetries ∧ r (b.card + k) ≠ 0xff then
        .ok (r (b.card + Nat.find h), { b with card := b.card + Nat.find h + 1 })
      else .ok (-1, { b with card := b.card + maxRetries + 1 }) := by
  split_ifs with h
  · exact getResult_stream_found h
  · exact getResult_stream_timeout h

/-- A card that is busy for `MAX_RETRIES` replies and then answers `0x00`: `getResult` reads the
`0x00` and returns `-1`. -/
theorem getResult_drops_last_reply :
    (getResult (streamPeer fun i => if i < maxRetries then 0xff else 0)).run ⟨0, 0, 0, []⟩ =
      .ok (-1, ⟨maxRetries + 1, 0, 0, []⟩) :=
  getResultLoop_timeout (answers_stream_busy fun j hj => by simp [hj])

/-- A card that is ready at once: `getResult` takes its first reply. -/
theorem getResult_stream_ready {r : Nat → Int} {b : Bus Nat} (h : r b.card ≠ 0xff) :
    (getResult (streamPeer r)).run b = .ok (r b.card, { b with card := b.card + 1 }) :=
  getResultLoop_found (k := 0) (by decide) h
    (answers_stream_busy fun j hj => absurd hj (Nat.not_lt_zero j))

/-- **`readSdmmcDevice` on a fixed reply sequence.** After its six command bytes, `getResult`
waits for R1. If R1 is 0, the copy loop stores the `BLOCK_SIZE` replies right after it, and one
more reply is read as the checksum; there is no wait for a data token. Otherwise, or if the card
stays busy, the driver prints the error and returns -1. -/
theorem readSdmmcDevice_stream (r : Nat → Int) (blockSize address : Nat) (b : Bus Nat) :
    (readSdmmcDevice (streamPeer r) blockSize address).run b =
      if h : ∃ k, k < maxRetries ∧ r (b.card + 6 + k) ≠ 0xff then
        if r (b.card + 6 + Nat.find h) = 0 then
          .ok ((blockSize, (List.range blockSize).map fun i =>
              toChar (r (b.card + 6 + Nat.find h + 1 + i))),
            { b with card := b.card + 6 + Nat.find h + 1 + blockSize + 1 })
        else .ok ((-1, []), { b with
          card := b.card + 6 + Nat.find h + 1
          console := b.console ++ ["readSdmmcDevice: error " ++
            toString (r (b.card + 6 + Nat.find h)) ++ " SD_CMD_READ_BLOCK\n"] })
      else .ok ((-1, []), { b with
        card := b.card + 6 + maxRetries + 1
        console := b.console ++ ["readSdmmcDevice: error -1 SD_CMD_READ_BLOCK\n"] }) := by
  have hsend : (sendSdCommand (streamPeer r) .readBlock address).run b =
      .ok ((), { b with card := b.card + 6 }) := sendBytes_stream r _ b
  simp only [readSdmmcDevice, readResponse, StateT.run_bind, hsend, except_ok_bind]
  by_cases h : ∃ k, k < maxRetries ∧ r (b.card + 6 + k) ≠ 0xff
  · -- R1 within `MAX_RETRIES` replies
    rw [dif_pos h, getResult_stream_found (b := { b with card := b.card + 6 }) h]
    split_ifs with hzero
    · simp only [except_ok_bind, ne_eq, hzero, not_true_eq_false, if_false, StateT.run_bind,
        readBytes_stream, spiTransfer_run]
      rfl
    · simp [hzero]
  · rw [dif_neg h, getResult_stream_timeout (b := { b with card := b.card + 6 }) h]
    simp
    rfl

end NyuziSdmmc
