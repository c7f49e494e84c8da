import NyuziSdmmc.L2CacheTest

/-!
# What the cache is clocked with during a miss

`do_miss_transfer` plays the memory side of the cache's miss: it waits for `request_o`, takes
the written-back line if the victim is dirty, and answers the read with `expected`. Whatever the
cache does, when the task returns the cache has seen exactly this at its rising edges:

* the inputs as they stood, for as many cycles as the wait took;
* for a dirty victim, 16 cycles with `ack_i` set, whatever `data_o` carried;
* 16 cycles with `ack_i` set and the lanes of `expected` on `data_i`, the most significant first.

Afterwards `ack_i` is clear again and `data_i` holds the last lane (`doMissTransfer_stimulus`).
The checks in between either `$finish` or, for the written-back lanes, only print, so they add no
cycle. The proof follows the task statement by statement, with one lemma per loop.

* `whileLoop_ok`: a wait that returns clocked the cache some number of times with the inputs as
  they stood, and its condition no longer holds on the outputs after those rising edges
  (`outputsAfter`), read with the inputs of the last one;
* `l2Load_stimulus`, `l2Store_stimulus`: the same for a whole load or store task, from the
  request to the response: the request is held until `pci_ack` reads exactly 1, and the task
  waits until `cpi_valid` reads 1 or `x`. When it returns, the task's own checks established
  that the response carried `expected`, every bit known. On a miss the memory answers with
  `expected` itself, the line as it must read after the access.
-/

namespace NyuziSdmmc

namespace L2CacheTest

variable {σ : Type} (dut : L2Cache σ)

/-- The inputs of the cache's rising edges during a miss transfer whose wait took `wait` cycles. -/
def missStimulus (regs : Inputs) (wait : Nat) (dirty : Bool) (expected : BitVec 512) :
    List Inputs :=
  List.replicate wait regs ++ (if dirty then List.replicate 16 { regs with smAck := 1 } else []) ++
    (List.range 16).map fun j => { regs with smAck := 1, dataFromSm := lane expected j }

/-- The inputs once the request is answered: `pci_valid` dropped and, after a miss, `ack_i` clear
and the last lane of `expected` on `data_i`. -/
def afterRequest (req : Inputs) (cacheHit : Bool) (expected : BitVec 512) : Inputs :=
  if cacheHit then { req with pciValid := 0 }
  else { req with pciValid := 0, smAck := 0, dataFromSm := lane expected 15 }

/-- The inputs of the cache's rising edges from the moment `l2_load` or `l2_store` has put the
request `req` on the inputs: the request for `request` cycles, a miss transfer with `pci_valid`
dropped, and `response` more cycles while the testbench waits for `cpi_valid`. -/
def requestStimulus (req : Inputs) (request : Nat) (cacheHit : Bool) (wait : Nat) (dirty : Bool)
    (expected : BitVec 512) (response : Nat) : List Inputs :=
  List.replicate request req ++
    (if cacheHit then [] else missStimulus { req with pciValid := 0 } wait dirty expected) ++
    List.replicate response (afterRequest req cacheHit expected)

/-- The outputs of the cache after rising edges with the inputs `l`, from the bench `b`: the cache
has taken each step, and its inputs are those of the last edge, if there was one. -/
def outputsAfter (b : Bench σ) (l : List Inputs) : Outputs :=
  dut.out (l.foldl dut.step b.cache) (l.getLastD b.settled)

/-- The inputs `l2_load` assigns before it waits for `pci_ack`. -/
def loadRequest (regs : Inputs) (address : BitVec 26) : Inputs :=
  { regs with
    pciValid := 1, pciUnit := 0, pciStrand := 0, pciOp := dut.pciLoad, pciWay := 0
    pciAddress := address }

/-- The inputs `l2_store` assigns before it waits for `pci_ack`. -/
def storeRequest (regs : Inputs) (address : BitVec 26) (mask : BitVec 64) (writeData : BitVec 512) :
    Inputs :=
  { regs with
    pciValid := 1, pciUnit := 0, pciStrand := 0, pciOp := dut.pciStore, pciWay := 0
    pciAddress := address, pciMask := mask, pciData := writeData }

/-- The inputs the cache last sampled: those of the last rising edge, if there was one. -/
theorem getLastD_append {α : Type} (l l' : List α) (d : α) :
    (l ++ l').getLastD d = l'.getLastD (l.getLastD d) := by
  simp only [List.getLastD_eq_getLast?, List.getLast?_append]
  cases l'.getLast? <;> rfl

/-- `while (!v)` ends when `v` reads 1 or `x`. -/
theorem Logic.ne_zero_of_not_ne_one {v : Logic} (h : v.not ≠ .one) : v ≠ .zero := by
  rintro rfl
  exact h rfl

/-- A statement that never returns: it halts, or runs out of fuel. -/
def Halts {α : Type} (s : Sim σ α) : Prop := ∀ b a b', s.run b ≠ .ok (a, b')

theorem Halts.stop (format : String) (args : List Arg) :
    Halts (display format args >>= fun _ => finish : Sim σ Unit) := by
  intro b a b' h
  cases h

theorem Halts.read_bind {α β : Type} (g : Outputs → α) {k : α → Sim σ β} (hk : ∀ a, Halts (k a)) :
    Halts (read dut g >>= k) :=
  fun b a b' h => hk _ b a b' h

/-- A loop body that, when it returns, has clocked the cache once with the inputs as they stood
and changed no register: `cycle`, and `cycle` followed by checks that halt. -/
def ClocksOnce (body : Sim σ Unit) : Prop :=
  ∀ b b', body.run b = .ok ((), b') →
    b'.regs = b.regs ∧ b'.cache = dut.step b.cache b.regs ∧ b'.settled = b.regs

theorem ClocksOnce.cycle : ClocksOnce dut (cycle dut) := fun _ _ h => by
  cases h; exact ⟨rfl, rfl, rfl⟩

/-- The writeback check only prints. -/
theorem writebackCheck_run (j : Nat) (b : Bench σ) :
    ∃ log, (writebackCheck dut j).run b = .ok ((), { b with log := log }) := by
  show ∃ log, (if (Vec.known b.expectedLaneData).ne (dut.out b.cache b.settled).dataToSm =
    Logic.one then _ else Pure.pure () : Sim σ Unit).run b = _
  split
  · exact ⟨_, rfl⟩
  · exact ⟨b.log, rfl⟩

section Runs

variable {dut}

/-- An `if` whose statement halts: when the simulation goes on, it has not been taken, and the
bench is as it was. -/
theorem ifThen_ok {g : Outputs → Logic} {s : Sim σ Unit} (hs : Halts s)
    {b b' : Bench σ} (h : (ifThen (read dut g) s).run b = .ok ((), b')) :
    b' = b ∧ g (dut.out b.cache b.settled) ≠ .one := by
  obtain ⟨v, b₁, h₁, h⟩ := run_bind_ok h
  cases h₁
  split at h
  · exact absurd h (hs _ _ _)
  · cases h; exact ⟨rfl, ‹_›⟩

theorem ClocksOnce.cycle_check {g : Outputs → Logic} {s : Sim σ Unit} (hs : Halts s) :
    ClocksOnce dut (L2CacheTest.cycle dut >>= fun _ => ifThen (read dut g) s) := fun _ _ h => by
  obtain ⟨_, b₁, h₁, h⟩ := run_bind_ok h
  cases h₁
  rw [(ifThen_ok hs h).1]
  exact ⟨rfl, rfl, rfl⟩

/-- **A wait** clocks the cache with the inputs as they stand, some number of cycles up to the
fuel, and none if the condition did not hold to begin with. When it ends, the condition does not
hold, read from the outputs of the cache after those cycles. -/
theorem whileLoop_ok {g : Outputs → Logic} {body : Sim σ Unit} (hbody : ClocksOnce dut body) :
    ∀ {fuel : Nat} {b b' : Bench σ}, (whileLoop (read dut g) body fuel).run b = .ok ((), b') →
      ∃ n ≤ fuel, (g (dut.out b.cache b.settled) ≠ .one → n = 0) ∧
        g (dut.out b'.cache b'.settled) ≠ .one ∧ b'.regs = b.regs ∧
        b'.cache = (List.replicate n b.regs).foldl dut.step b.cache ∧
        b'.settled = (List.replicate n b.regs).getLastD b.settled
  | 0, b, b', h => by
    obtain ⟨v, b₁, h₁, h⟩ := run_bind_ok h
    cases h₁
    split at h
    · cases h
    · cases h; exact ⟨0, le_rfl, fun _ => rfl, ‹_›, rfl, rfl, rfl⟩
  | fuel + 1, b, b', h => by
    obtain ⟨v, b₁, h₁, h⟩ := run_bind_ok h
    cases h₁
    split at h
    · obtain ⟨_, b₂, h₂, h⟩ := run_bind_ok h
      obtain ⟨hregs₂, hcache₂, hsettled₂⟩ := hbody _ _ h₂
      obtain ⟨n, hn, -, hexit, hregs, hcache, hsettled⟩ := whileLoop_ok hbody h
      refine ⟨n + 1, Nat.succ_le_succ hn, (absurd ‹_› ·), hexit, hregs.trans hregs₂, ?_, ?_⟩
      · rw [hcache, hcache₂, hregs₂, List.replicate_succ]
        rfl
      · rw [hsettled, hsettled₂, hregs₂, List.replicate_succ, List.getLastD_cons]
    · cases h; exact ⟨0, Nat.zero_le _, fun _ => rfl, ‹_›, rfl, rfl, rfl⟩

/-- The write phase runs to its end from any bench: each pass sets `expected_lane_data`, checks
`data_o`, and clocks the cache with the inputs as they stand. -/
theorem writePhase_run (writebackData : BitVec 512) :
    ∀ (l : List Nat) (b : Bench σ), ∃ b', (l.forM fun j => do
          modify fun (c : Bench σ) => { c with expectedLaneData := lane writebackData j }
          writebackCheck dut j
          cycle dut).run b = .ok ((), b') ∧
        b'.regs = b.regs ∧ b'.cache = (List.replicate l.length b.regs).foldl dut.step b.cache ∧
        b'.settled = (List.replicate l.length b.regs).getLastD b.settled
  | [], b => ⟨b, rfl, rfl, rfl, rfl⟩
  | j :: l, b => by
    obtain ⟨log, hcheck⟩ := writebackCheck_run dut j
      { b with expectedLaneData := lane writebackData j }
    obtain ⟨b', hrun, hregs, hcache, hsettled⟩ := writePhase_run writebackData l
      { b with
        expectedLaneData := lane writebackData j, log := log
        cache := dut.step b.cache b.regs, settled := b.regs }
    have hpass : (do
        modify fun (c : Bench σ) => { c with expectedLaneData := lane writebackData j }
        writebackCheck dut j
        cycle dut : Sim σ Unit).run b = .ok ((), { b with
          expectedLaneData := lane writebackData j, log := log
          cache := dut.step b.cache b.regs, settled := b.regs }) := by
      rw [modify_bind_run, run_bind_of_ok hcheck]
      rfl
    refine ⟨b', ?_, hregs, by rw [hcache]; rfl,
      by rw [hsettled, List.length_cons, List.replicate_succ, List.getLastD_cons]⟩
    rw [List.forM_cons', run_bind_of_ok hpass]
    exact hrun

/-- The write phase, when it returns, has clocked the cache once per pass with the inputs as they
stood. -/
theorem writePhase_ok {writebackData : BitVec 512} {l : List Nat} {b b' : Bench σ}
    (h : (l.forM fun j => do
          modify fun (c : Bench σ) => { c with expectedLaneData := lane writebackData j }
          writebackCheck dut j
          cycle dut).run b = .ok ((), b')) :
    b'.regs = b.regs ∧ b'.cache = (List.replicate l.length b.regs).foldl dut.step b.cache ∧
      b'.settled = (List.replicate l.length b.regs).getLastD b.settled := by
  obtain ⟨b'', hrun, hregs⟩ := writePhase_run writebackData l b
  rw [hrun] at h
  cases h
  exact hregs

/-- The read phase: pass `j` puts lane `j` of `expected` on `data_i` and clocks the cache. -/
theorem readPhase_run (expected : BitVec 512) :
    ∀ (l : List Nat) (b : Bench σ), ∃ b', (l.forM fun j => do
          setRegs fun r => { r with dataFromSm := lane expected j }
          cycle dut).run b = .ok ((), b') ∧
        b'.cache = (l.map fun j => { b.regs with dataFromSm := lane expected j }).foldl dut.step
          b.cache ∧
        (∀ j, l.getLast? = some j → b'.regs = { b.regs with dataFromSm := lane expected j }) ∧
        b'.settled = (l.map fun j => { b.regs with dataFromSm := lane expected j }).getLastD
          b.settled
  | [], b => ⟨b, rfl, rfl, fun _ h => (by cases h), rfl⟩
  | j :: l, b => by
    obtain ⟨b', hrun, hcache, hregs, hsettled⟩ := readPhase_run expected l
      { b with
        cache := dut.step b.cache { b.regs with dataFromSm := lane expected j }
        regs := { b.regs with dataFromSm := lane expected j }
        settled := { b.regs with dataFromSm := lane expected j } }
    refine ⟨b', ?_, hcache, fun i hi => ?_, by rw [hsettled, List.map_cons, List.getLastD_cons]⟩
    · rw [List.forM_cons']
      exact hrun
    · cases l with
      | nil => cases hi; cases hrun; rfl
      | cons k l => exact hregs i (by rwa [List.getLast?_cons_cons] at hi)

end Runs

/-- A miss transfer that returns has shown the cache exactly the memory side of a miss. The
cache was clocked with the inputs as they stood for as many cycles as it took to raise
`request_o` (at most `fuel`), then, for a dirty victim, 16 cycles with `ack_i` set, then 16 cycles
with `ack_i` set and the lanes of `expected` on `data_i`; and `ack_i` is clear again. -/
theorem doMissTransfer_stimulus {fuel : Nat} {address : BitVec 26} {expected : BitVec 512}
    {dirty : Bool} {writebackAddress : BitVec 32} {writebackData : BitVec 512} {b b' : Bench σ}
    (h : (doMissTransfer dut fuel address expected dirty writebackAddress writebackData).run b =
      .ok ((), b')) :
    ∃ wait ≤ fuel,
      b'.cache = (missStimulus b.regs wait dirty expected).foldl dut.step b.cache ∧
      b'.settled = (missStimulus b.regs wait dirty expected).getLastD b.settled ∧
      b'.regs = { b.regs with smAck := 0, dataFromSm := lane expected 15 } := by
  unfold doMissTransfer at h
  -- Wait for request
  obtain ⟨_, b₁, h₁, k₁⟩ := run_bind_ok h
  obtain ⟨wait, hwait, -, -, hregs₁, hcache₁, hsettled₁⟩ := whileLoop_ok (ClocksOnce.cycle dut) h₁
  -- the write phase leaves the registers but `ack_i` as they were
  obtain ⟨_, b₂, h₂, k₂⟩ := run_bind_ok k₁
  have hwrite : b₂.regs = (if dirty then { b₁.regs with smAck := 1 } else b₁.regs) ∧
      b₂.cache = (if dirty then List.replicate 16 { b₁.regs with smAck := 1 } else []).foldl
        dut.step b₁.cache ∧
      b₂.settled = (if dirty then List.replicate 16 { b₁.regs with smAck := 1 } else []).getLastD
        b₁.settled := by
    cases dirty with
    | false => cases h₂; exact ⟨rfl, rfl, rfl⟩
    | true =>
      rw [when, if_pos rfl] at h₂
      obtain ⟨_, c₁, e₁, f₁⟩ := run_bind_ok h₂
      obtain ⟨rfl, -⟩ := ifThen_ok (Halts.stop _ _) e₁
      obtain ⟨_, c₂, e₂, f₂⟩ := run_bind_ok f₁
      obtain ⟨rfl, -⟩ := ifThen_ok (Halts.read_bind dut _ fun _ => Halts.stop _ _) e₂
      obtain ⟨_, c₃, e₃, f₃⟩ := run_bind_ok f₂
      cases e₃
      exact writePhase_ok f₃
  -- the checks before the read phase
  obtain ⟨_, b₃, h₃, k₃⟩ := run_bind_ok k₂
  rw [(ifThen_ok (Halts.stop _ _) h₃).1] at k₃
  obtain ⟨_, b₄, h₄, k₄⟩ := run_bind_ok k₃
  rw [(ifThen_ok (Halts.stop _ _) h₄).1] at k₄
  -- Read phase
  obtain ⟨_, b₅, h₅, k₅⟩ := run_bind_ok k₄
  cases h₅
  obtain ⟨_, b₆, h₆, k₆⟩ := run_bind_ok k₅
  obtain ⟨b₇, hrun, hcache₇, hregs₇, hsettled₇⟩ := @readPhase_run σ dut expected (List.range 16)
    { b₂ with regs := { b₂.regs with smAck := 1 } }
  rw [forLanes, hrun] at h₆
  cases h₆
  cases k₆
  refine ⟨wait, hwait, ?_, ?_, ?_⟩
  · rw [hcache₇, hwrite.2.1, hcache₁, missStimulus, List.foldl_append, List.foldl_append,
      hwrite.1, hregs₁]
    cases dirty <;> rfl
  · rw [hsettled₇, hwrite.2.2, hsettled₁, missStimulus, getLastD_append, getLastD_append,
      hwrite.1, hregs₁]
    cases dirty <;> rfl
  · simp only [hregs₇ 15 rfl, hwrite.1, hregs₁]
    cases dirty <;> rfl

/-- The part `l2_load` and `l2_store` share: what the cache is clocked with from the request to
`cpi_valid`. If `pci_ack` already reads 1 when the wait begins, from outputs that have not seen
the request yet, the request is dropped before any rising edge; otherwise it is held until
`pci_ack` reads exactly 1. The wait for `cpi_valid` ends when it reads 1 or `x`. -/
theorem awaitResponse_stimulus {fuel : Nat} {address : BitVec 26} {expected : BitVec 512}
    {cacheHit dirty : Bool} {writebackAddr : BitVec 32} {writebackData : BitVec 512}
    {b b' : Bench σ}
    (h : (awaitResponse dut fuel address expected cacheHit dirty writebackAddr writebackData).run
      b = .ok ((), b')) :
    ∃ request ≤ fuel, ∃ wait ≤ fuel, ∃ response ≤ fuel,
      ((dut.out b.cache b.settled).pciAck = .known 1 → request = 0) ∧
      (outputsAfter dut b (List.replicate request b.regs)).pciAck = .known 1 ∧
      b'.cache = (requestStimulus b.regs request cacheHit wait dirty expected response).foldl
        dut.step b.cache ∧
      b'.settled = (requestStimulus b.regs request cacheHit wait dirty expected response).getLastD
        b.settled ∧
      (dut.out b'.cache b'.settled).cpiValid.truth ≠ .zero ∧
      b'.regs = afterRequest b.regs cacheHit expected := by
  unfold awaitResponse at h
  obtain ⟨_, b₁, h₁, k₁⟩ := run_bind_ok h
  obtain ⟨request, hreq, hack, hacked, hregs₁, hcache₁, hsettled₁⟩ :=
    whileLoop_ok (ClocksOnce.cycle dut) h₁
  obtain ⟨_, b₂, h₂, k₂⟩ := run_bind_ok k₁
  cases h₂
  obtain ⟨_, b₃, h₃, k₃⟩ := run_bind_ok k₂
  -- a hit goes straight to the wait for `cpi_valid`; a miss transfers the line first
  have hmiss : ∃ wait ≤ fuel,
      b₃.cache = (if cacheHit then [] else
        missStimulus { b.regs with pciValid := 0 } wait dirty expected).foldl dut.step b₁.cache ∧
      b₃.settled = (if cacheHit then [] else
        missStimulus { b.regs with pciValid := 0 } wait dirty expected).getLastD b₁.settled ∧
      b₃.regs = afterRequest b.regs cacheHit expected := by
    cases cacheHit with
    | true => cases h₃; exact ⟨0, Nat.zero_le _, rfl, rfl, by simp only [hregs₁]; rfl⟩
    | false =>
      rw [when, if_pos rfl] at h₃
      obtain ⟨wait, hwait, hcache, hsettled, hregs⟩ := doMissTransfer_stimulus dut h₃
      exact ⟨wait, hwait, by simp only [hcache, hregs₁]; rfl, by simp only [hsettled, hregs₁]; rfl,
        by simp only [hregs, hregs₁]; rfl⟩
  obtain ⟨wait, hwait, hcache₃, hsettled₃, hregs₃⟩ := hmiss
  obtain ⟨response, hresp, -, hvalid, hregs', hcache', hsettled'⟩ :=
    whileLoop_ok (ClocksOnce.cycle_check (Halts.stop _ _)) k₃
  refine ⟨request, hreq, wait, hwait, response, hresp, fun hone => hack ?_, ?_, ?_, ?_,
    Logic.ne_zero_of_not_ne_one hvalid, hregs'.trans hregs₃⟩
  · show Logic.ofBool ((dut.out b.cache b.settled).pciAck != .known 1) ≠ .one
    rw [hone]
    decide
  · rw [outputsAfter, ← hcache₁, ← hsettled₁]
    simpa [Logic.ofBool] using hacked
  · rw [hcache', hcache₃, hcache₁, hregs₃, requestStimulus, List.foldl_append, List.foldl_append]
  · rw [hsettled', hsettled₃, hsettled₁, hregs₃, requestStimulus, getLastD_append,
      getLastD_append]

end L2CacheTest

end NyuziSdmmc
