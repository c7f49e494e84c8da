import NyuziSdmmc.Report
import NyuziSdmmc.Stimulus
import NyuziSdmmc.Unknown

/-!
# A device that is not a cache passes `l2_cache_test`

`do_miss_transfer` checks the memory side with `!` and `!=`, which an unknown value passes
(`Unknown`), and the check for an unexpected memory request on a hit is `sm_request && cache_hit`,
which an unknown `sm_request` passes too. So the testbench cannot tell a cache from a device that
never drives its memory interface:

* `scratchpad`: a device with the cache's interface and no cache in it. It holds a line for every
  address and answers from it; it acknowledges a request at the next rising edge and answers at
  the one after; a store request merges the data into the line under the byte mask, and every
  rising edge with `ack_i` set shifts the lane on `data_i` into the line. It leaves `sm_request`,
  `sm_write` and `sm_addr` unknown and drives 0 on `data_o`;
* `shiftIn_lanes`: the 16 lanes of a line, shifted in most significant first, give the line back,
  whatever was there before;
* `scratchpad_l2Load`, `scratchpad_l2Store`: each task returns and leaves its expected line at its
  address, given that on a hit the line is already there;
* `Task`, `initialTasks`, `initial_eq`: the `initial` block as the list of its 22 calls, and
  `Consistent`: every hit of a list finds the line the tasks before it left. The list of the
  `initial` block is consistent from any contents (`initialTasks_consistent`), and the tasks run
  one after the other (`scratchpad_tasks`);
* `scratchpad_passes_consistent`: for every consistent list of tasks, every bound of at least one
  cycle per wait and every state of the device, a testbench that runs the tasks between a first
  clock and `test complete` gets to `test complete`, with only progress lines before it. The
  `initial` block is one of them.
-/

namespace NyuziSdmmc

namespace L2CacheTest

/-! ### The device -/

/-- The state of `scratchpad`: a line for every address, the address the last rising edge sampled,
and whether that edge sampled a request. -/
structure Scratchpad where
  lines : BitVec 26 → BitVec 512
  address : BitVec 26
  acked : Bool

/-- The bits of the bytes whose bit is set in a byte mask, byte `i` for bit `i`. -/
def byteMask (mask : BitVec 64) : BitVec 512 :=
  (List.range 64).foldl (fun m i => if mask.getLsbD i then m ||| (0xff#512 <<< (8 * i)) else m) 0

/-- A store of `new` into `old` under a byte mask. -/
def storeMerge (old new : BitVec 512) (mask : BitVec 64) : BitVec 512 :=
  (old &&& ~~~byteMask mask) ||| (new &&& byteMask mask)

/-- A lane shifted in below the line so far. -/
def shiftIn (line : BitVec 512) (data : BitVec 32) : BitVec 512 :=
  (line <<< 32) ||| data.zeroExtend 512

/-- The device. Its outputs depend on its state only. -/
def scratchpad : L2Cache Scratchpad where
  out s _ :=
    { pciAck := .known (if s.acked then 1 else 0)
      cpiValid := .known (if s.acked then 0 else 1)
      cpiUpdate := .known 1
      cpiData := .known (s.lines s.address)
      smAddr := .unknown 32
      smRequest := .unknown 1
      smWrite := .unknown 1
      dataToSm := .known 0 }
  step s i :=
    { lines :=
        if i.pciValid = 1 ∧ i.pciOp = 1 then
          Function.update s.lines i.pciAddress
            (storeMerge (s.lines i.pciAddress) i.pciData i.pciMask)
        else if i.smAck = 1 then
          Function.update s.lines i.pciAddress (shiftIn (s.lines i.pciAddress) i.dataFromSm)
        else s.lines
      address := i.pciAddress
      acked := i.pciValid = 1 }
  pciLoad := 0
  pciStore := 1

/-- The wait for `pci_ack` goes on until the device has sampled the request. -/
theorem scratchpad_waitAck (s : Scratchpad) (i : Inputs) :
    Logic.ofBool ((scratchpad.out s i).pciAck != .known 1) = if s.acked then .zero else .one := by
  cases s with
  | mk lines address acked => cases acked <;> rfl

/-- The wait for `cpi_valid` goes on while the device has a request it has not answered. -/
theorem scratchpad_waitValid (s : Scratchpad) (i : Inputs) :
    (scratchpad.out s i).cpiValid.truth.not = if s.acked then .one else .zero := by
  cases s with
  | mk lines address acked =>
    cases acked
    · exact (by decide : (Vec.known (1 : BitVec 1)).truth.not = .zero)
    · exact (by decide : (Vec.known (0 : BitVec 1)).truth.not = .one)

@[simp] theorem scratchpad_out_smRequest (s : Scratchpad) (i : Inputs) :
    (scratchpad.out s i).smRequest = .unknown 1 := rfl

@[simp] theorem scratchpad_out_smWrite (s : Scratchpad) (i : Inputs) :
    (scratchpad.out s i).smWrite = .unknown 1 := rfl

@[simp] theorem scratchpad_out_smAddr (s : Scratchpad) (i : Inputs) :
    (scratchpad.out s i).smAddr = .unknown 32 := rfl

@[simp] theorem scratchpad_out_cpiUpdate (s : Scratchpad) (i : Inputs) :
    (scratchpad.out s i).cpiUpdate = .known 1 := rfl

@[simp] theorem scratchpad_out_cpiData (s : Scratchpad) (i : Inputs) :
    (scratchpad.out s i).cpiData = .known (s.lines s.address) := rfl

@[simp] theorem scratchpad_step_address (s : Scratchpad) (i : Inputs) :
    (scratchpad.step s i).address = i.pciAddress := rfl

@[simp] theorem scratchpad_step_acked (s : Scratchpad) (i : Inputs) :
    (scratchpad.step s i).acked = decide (i.pciValid = 1) := rfl

theorem not_store_of_idle {i : Inputs} (h : i.pciValid = 0) : ¬(i.pciValid = 1 ∧ i.pciOp = 1) :=
  fun hs => absurd (h.symm.trans hs.1) (by decide)

theorem not_store_of_load {i : Inputs} (h : i.pciOp = 0) : ¬(i.pciValid = 1 ∧ i.pciOp = 1) :=
  fun hs => absurd (h.symm.trans hs.2) (by decide)

/-- A rising edge that samples neither a store request nor `ack_i` leaves the lines alone. -/
theorem scratchpad_step_lines_quiet {s : Scratchpad} {i : Inputs}
    (hstore : ¬(i.pciValid = 1 ∧ i.pciOp = 1)) (hack : i.smAck = 0) :
    (scratchpad.step s i).lines = s.lines := by
  have hnack : ¬i.smAck = 1 := by rw [hack]; decide
  show (if i.pciValid = 1 ∧ i.pciOp = 1 then _ else if i.smAck = 1 then _ else s.lines) = _
  rw [if_neg hstore, if_neg hnack]

/-- A rising edge that samples a store request merges the store into the line it addresses. -/
theorem scratchpad_step_lines_store {s : Scratchpad} {i : Inputs} (hvalid : i.pciValid = 1)
    (hop : i.pciOp = 1) :
    (scratchpad.step s i).lines = Function.update s.lines i.pciAddress
      (storeMerge (s.lines i.pciAddress) i.pciData i.pciMask) := by
  show (if i.pciValid = 1 ∧ i.pciOp = 1 then _ else _) = _
  rw [if_pos ⟨hvalid, hop⟩]

/-! ### Shifting a line in lane by lane -/

theorem shiftIn_lane (v x : BitVec 512) {k : Nat} (hk : k < 16) :
    shiftIn ((x <<< (32 * k)) ||| (v >>> (32 * (16 - k)))) (lane v k) =
      (x <<< (32 * (k + 1))) ||| (v >>> (32 * (16 - (k + 1)))) := by
  ext ⟨i, hi⟩
  simp only [shiftIn, lane, BitVec.getLsbD_or, BitVec.getLsbD_shiftLeft,
    BitVec.getLsbD_ushiftRight, BitVec.getLsbD_setWidth]
  by_cases h : i < 32
  · have h1 : i < 32 * (k + 1) := by omega
    simp [h, h1, hi]
  · have h2 : 32 * (16 - k) + (i - 32) = 32 * (16 - (k + 1)) + i := by omega
    have h3 : i - 32 - 32 * k = i - 32 * (k + 1) := by omega
    have h4 : (i - 32 < 32 * k) = (i < 32 * (k + 1)) := by apply propext; omega
    have h5 : i - 32 < 512 := by omega
    simp [h, h2, h3, h4, h5, hi]

/-- After the lanes `0 .. k - 1`: the old line moved up by `k` lanes, and the top `k` lanes of the
new one below it. -/
theorem shiftIn_lanes_take (v x : BitVec 512) :
    ∀ k ≤ 16, (List.range k).foldl (fun acc j => shiftIn acc (lane v j)) x =
      (x <<< (32 * k)) ||| (v >>> (32 * (16 - k)))
  | 0, _ => by
    ext ⟨i, hi⟩
    simp [hi]
  | k + 1, hk => by
    rw [List.range_succ, List.foldl_append, shiftIn_lanes_take v x k (by omega), List.foldl_cons,
      List.foldl_nil, shiftIn_lane v x (by omega)]

/-- **The 16 lanes of a line give the line back**, whatever the line shifted out was. -/
theorem shiftIn_lanes (v x : BitVec 512) :
    (List.range 16).foldl (fun acc j => shiftIn acc (lane v j)) x = v := by
  rw [shiftIn_lanes_take v x 16 le_rfl]
  ext ⟨i, hi⟩
  simp [hi]

/-- Rising edges that each sample `ack_i` and no request shift their lanes of `data_i` into the
line at `address`. -/
theorem scratchpad_foldl_shift (address : BitVec 26) :
    ∀ (l : List Inputs) (s : Scratchpad), l ≠ [] →
      (∀ i ∈ l, i.pciValid = 0 ∧ i.smAck = 1 ∧ i.pciAddress = address) →
      l.foldl scratchpad.step s = ⟨Function.update s.lines address
        (l.foldl (fun acc i => shiftIn acc i.dataFromSm) (s.lines address)), address, false⟩
  | [], _, hl, _ => absurd rfl hl
  | i :: l, s, _, hl => by
    obtain ⟨hv, ha, haddr⟩ := hl i (List.mem_cons_self _ _)
    have hstep : scratchpad.step s i = ⟨Function.update s.lines address
        (shiftIn (s.lines address) i.dataFromSm), address, false⟩ := by
      simp [scratchpad, hv, ha, haddr]
    rw [List.foldl_cons, hstep]
    cases l with
    | nil => rfl
    | cons j l =>
      rw [scratchpad_foldl_shift address (j :: l) _ (List.cons_ne_nil _ _)
        fun k hk => hl k (List.mem_cons_of_mem _ hk)]
      simp only [Function.update_same, Function.update_idem, List.foldl_cons]

/-! ### Running the tasks against the device -/

section Forward

variable {σ : Type} {dut : L2Cache σ}

/-- A wait whose condition holds once: one pass of the body, and the wait ends. -/
theorem whileLoop_run_once {g : Outputs → Logic} {body : Sim σ Unit} {fuel : Nat}
    {b c : Bench σ} (hfuel : 0 < fuel) (hg : g (dut.out b.cache b.settled) = .one)
    (hbody : body.run b = .ok ((), c)) (hg₁ : g (dut.out c.cache c.settled) ≠ .one) :
    (whileLoop (read dut g) body fuel).run b = .ok ((), c) := by
  obtain ⟨n, rfl⟩ : ∃ n, fuel = n + 1 := ⟨fuel - 1, by omega⟩
  show (if g (dut.out b.cache b.settled) = .one then
    body >>= fun _ => whileLoop (read dut g) body n else Pure.pure () : Sim σ Unit).run b = _
  rw [if_pos hg, run_bind_of_ok hbody]
  exact whileLoop_run_skip hg₁ body n

/-- Sequencing: a first part that returns in a bench satisfying `Q`, and a rest that returns from
every such bench. -/
theorem exists_run_bind {m : Sim σ Unit} {k : Unit → Sim σ Unit} {b : Bench σ}
    {Q P : Bench σ → Prop} (hm : ∃ b₁, m.run b = .ok ((), b₁) ∧ Q b₁)
    (hk : ∀ b₁, Q b₁ → ∃ b', (k ()).run b₁ = .ok ((), b') ∧ P b') :
    ∃ b', (m >>= k).run b = .ok ((), b') ∧ P b' := by
  obtain ⟨b₁, h₁, hq⟩ := hm
  obtain ⟨b', h', hp⟩ := hk b₁ hq
  exact ⟨b', by rw [run_bind_of_ok h₁]; exact h', hp⟩

end Forward

/-- The memory-side checks are never taken: the device leaves its memory interface unknown. -/
theorem scratchpad_skip_not_write (b : Bench Scratchpad) (stmt : Sim Scratchpad Unit) :
    (ifThen (read scratchpad fun o => o.smWrite.truth.not) stmt).run b = .ok ((), b) :=
  ifThen_run_skip (by rw [scratchpad_out_smWrite]; decide) stmt

theorem scratchpad_skip_write (b : Bench Scratchpad) (stmt : Sim Scratchpad Unit) :
    (ifThen (read scratchpad fun o => o.smWrite.truth) stmt).run b = .ok ((), b) :=
  ifThen_run_skip (by rw [scratchpad_out_smWrite]; decide) stmt

theorem scratchpad_skip_addr (b : Bench Scratchpad) (a : BitVec 32) (stmt : Sim Scratchpad Unit) :
    (ifThen (read scratchpad fun o => o.smAddr.ne (.known a)) stmt).run b = .ok ((), b) :=
  ifThen_run_skip (by rw [scratchpad_out_smAddr, Vec.unknown_ne (by decide)]; decide) stmt

/-- On a hit, the check for a memory request is not taken either. -/
theorem scratchpad_skip_request (b : Bench Scratchpad) (stmt : Sim Scratchpad Unit) :
    (ifThen (read scratchpad fun o => o.smRequest.truth.and (.ofBool true)) stmt).run b =
      .ok ((), b) :=
  ifThen_run_skip (by rw [scratchpad_out_smRequest]; decide) stmt

/-- A miss transfer against the device returns and leaves `expected` as the line at `address`. -/
theorem scratchpad_doMissTransfer (fuel : Nat) (address : BitVec 26) (expected : BitVec 512)
    (dirty : Bool) (writebackAddress : BitVec 32) (writebackData : BitVec 512)
    (b : Bench Scratchpad) (hvalid : b.regs.pciValid = 0) (haddr : b.regs.pciAddress = address) :
    ∃ b', (doMissTransfer scratchpad fuel address expected dirty writebackAddress
        writebackData).run b = .ok ((), b') ∧
      b'.cache = ⟨Function.update b.cache.lines address expected, address, false⟩ ∧
      b'.regs = { b.regs with smAck := 0, dataFromSm := lane expected 15 } := by
  unfold doMissTransfer
  -- the wait for the request ends at once
  have hrequest : (scratchpad.out b.cache b.settled).smRequest.truth.not ≠ .one := by
    rw [scratchpad_out_smRequest]
    decide
  rw [run_bind_of_ok (whileLoop_run_skip hrequest _ fuel)]
  -- the write phase: rising edges with `ack_i` set, whatever `data_o` shows
  refine exists_run_bind (Q := fun c => c.regs = { b.regs with smAck := c.regs.smAck } ∧
      ∃ W : List Inputs, (∀ i ∈ W, i.pciValid = 0 ∧ i.smAck = 1 ∧ i.pciAddress = address) ∧
        c.cache = W.foldl scratchpad.step b.cache) ?_ fun c ⟨hregs, W, hW, hcache⟩ => ?_
  · cases dirty with
    | false => exact ⟨b, rfl, rfl, [], fun _ h => absurd h (List.not_mem_nil _), rfl⟩
    | true =>
      rw [when, if_pos rfl, run_bind_of_ok (scratchpad_skip_not_write _ _),
        run_bind_of_ok (scratchpad_skip_addr _ _ _), run_bind_of_ok (setRegs_run _ _)]
      obtain ⟨b₂, hrun, hregs₂, hcache₂, -⟩ := @writePhase_run _ scratchpad writebackData
        (List.range 16) { b with regs := { b.regs with smAck := 1 } }
      refine ⟨b₂, hrun, by rw [hregs₂], List.replicate 16 { b.regs with smAck := 1 },
        fun i hi => ?_, by rw [hcache₂, List.length_range]⟩
      rw [List.eq_of_mem_replicate hi]
      exact ⟨hvalid, rfl, haddr⟩
  -- the read phase: the lanes of `expected` on `data_i`
  rw [run_bind_of_ok (scratchpad_skip_write _ _), run_bind_of_ok (scratchpad_skip_addr _ _ _),
    run_bind_of_ok (setRegs_run _ _)]
  obtain ⟨b₇, hrun, hcache₇, hregs₇, -⟩ := @readPhase_run _ scratchpad expected (List.range 16)
    { c with regs := { c.regs with smAck := 1 } }
  rw [forLanes, run_bind_of_ok hrun]
  refine ⟨_, rfl, ?_, ?_⟩
  · show b₇.cache = _
    rw [hcache₇, hcache, ← List.foldl_append]
    refine (scratchpad_foldl_shift address _ b.cache (by simp) fun i hi => ?_).trans ?_
    · rcases List.mem_append.1 hi with hi | hi
      · exact hW i hi
      · obtain ⟨j, -, rfl⟩ := List.mem_map.1 hi
        exact ⟨hregs ▸ hvalid, rfl, hregs ▸ haddr⟩
    · rw [List.foldl_append, List.foldl_map, shiftIn_lanes]
  · show { b₇.regs with smAck := 0 } = _
    rw [hregs₇ 15 rfl, hregs]

/-- `cpi_update` is always 1. -/
theorem scratchpad_skip_update (b : Bench Scratchpad) (stmt : Sim Scratchpad Unit) :
    (ifThen (read scratchpad fun o => .ofBool (o.cpiUpdate != .known 1)) stmt).run b =
      .ok ((), b) :=
  ifThen_run_skip (by rw [scratchpad_out_cpiUpdate]; decide) stmt

/-- The response check: the device shows the line at the address it last sampled. -/
theorem scratchpad_skip_data {b : Bench Scratchpad} {expected : BitVec 512}
    (h : b.cache.lines b.cache.address = expected) (stmt : Sim Scratchpad Unit) :
    (ifThen (read scratchpad fun o => .ofBool (o.cpiData != .known expected)) stmt).run b =
      .ok ((), b) :=
  ifThen_run_skip (by rw [scratchpad_out_cpiData, h, bne_self_eq_false]; decide) stmt

/-- The wait for `cpi_valid` after a hit: the device answers at the next rising edge, which
samples no request. -/
theorem scratchpad_respond_hit {fuel : Nat} (hfuel : 0 < fuel) (c : Bench Scratchpad)
    (hacked : c.cache.acked = true) (hvalid : c.regs.pciValid = 0) (stmt : Sim Scratchpad Unit) :
    (whileLoop (read scratchpad fun o => o.cpiValid.truth.not) (do
        cycle scratchpad
        ifThen (read scratchpad fun o => o.smRequest.truth.and (.ofBool true)) stmt) fuel).run c =
      .ok ((), { c with cache := scratchpad.step c.cache c.regs, settled := c.regs }) := by
  have hwait : (scratchpad.out c.cache c.settled).cpiValid.truth.not = .one := by
    rw [scratchpad_waitValid, hacked]
    rfl
  have hanswered : (scratchpad.out (scratchpad.step c.cache c.regs) c.regs).cpiValid.truth.not ≠
      .one := by
    rw [scratchpad_waitValid, scratchpad_step_acked, hvalid]
    decide
  refine whileLoop_run_once (g := fun o => o.cpiValid.truth.not) (b := c) hfuel hwait ?_ hanswered
  rw [run_bind_of_ok (cycle_run scratchpad c)]
  exact scratchpad_skip_request _ _

/-- From a request on the inputs to `cpi_valid`: the device acknowledges at the first rising edge
and, on a hit, answers at the second. On a miss the transfer leaves `expected` as the line. -/
theorem scratchpad_awaitResponse {fuel : Nat} (hfuel : 0 < fuel) {address : BitVec 26}
    {expected : BitVec 512} {cacheHit dirty : Bool} {writebackAddr : BitVec 32}
    {writebackData : BitVec 512} {b : Bench Scratchpad} (hacked : b.cache.acked = false)
    (hvalid : b.regs.pciValid = 1) (haddr : b.regs.pciAddress = address) (hack : b.regs.smAck = 0)
    (lines : BitVec 26 → BitVec 512) (hlines : (scratchpad.step b.cache b.regs).lines = lines) :
    ∃ b', (awaitResponse scratchpad fuel address expected cacheHit dirty writebackAddr
        writebackData).run b = .ok ((), b') ∧
      b'.cache.acked = false ∧ b'.cache.address = address ∧ b'.regs.pciValid = 0 ∧
      b'.regs.smAck = 0 ∧
      b'.cache.lines = if cacheHit then lines else Function.update lines address expected := by
  unfold awaitResponse
  -- the request is acknowledged at the first rising edge
  have hacked₁ : (scratchpad.step b.cache b.regs).acked = true := by
    rw [scratchpad_step_acked, hvalid]
    rfl
  have hwaitAck : Logic.ofBool ((scratchpad.out b.cache b.settled).pciAck != .known 1) = .one := by
    rw [scratchpad_waitAck, hacked]
    rfl
  have hsawAck : Logic.ofBool
      ((scratchpad.out (scratchpad.step b.cache b.regs) b.regs).pciAck != .known 1) ≠ .one := by
    rw [scratchpad_waitAck, hacked₁]
    decide
  rw [run_bind_of_ok (whileLoop_run_once (g := fun o => .ofBool (o.pciAck != .known 1)) (b := b)
    hfuel hwaitAck (cycle_run scratchpad b) hsawAck), run_bind_of_ok (setRegs_run _ _)]
  cases cacheHit with
  | true =>
    -- a hit: one more rising edge, with no request, answers
    rw [when, if_neg (by decide : ¬(true = false)), pure_bind]
    refine ⟨_, scratchpad_respond_hit hfuel _ hacked₁ rfl _, rfl, haddr, rfl, hack, ?_⟩
    exact (scratchpad_step_lines_quiet (i := { b.regs with pciValid := 0 }) (not_store_of_idle rfl)
      hack).trans hlines
  | false =>
    rw [when, if_pos rfl]
    obtain ⟨b₃, hrun, hcache₃, hregs₃⟩ := scratchpad_doMissTransfer fuel address expected dirty
      writebackAddr writebackData { b with
        cache := scratchpad.step b.cache b.regs, settled := b.regs
        regs := { b.regs with pciValid := 0 } } rfl haddr
    have hanswered : (scratchpad.out b₃.cache b₃.settled).cpiValid.truth.not ≠ .one := by
      rw [scratchpad_waitValid, hcache₃]
      exact (by decide : (if false = true then Logic.one else .zero) ≠ .one)
    rw [run_bind_of_ok hrun]
    exact ⟨b₃, whileLoop_run_skip hanswered _ fuel, by rw [hcache₃], by rw [hcache₃],
      by rw [hregs₃], by rw [hregs₃], by rw [hcache₃, ← hlines]; rfl⟩

/-- **A load against the device returns** and leaves `expected` as the line at `address`, given
that on a hit the line is already there. -/
theorem scratchpad_l2Load {fuel : Nat} (hfuel : 0 < fuel) {address : BitVec 26}
    {expected : BitVec 512} {cacheHit dirty : Bool} {writebackAddr : BitVec 32}
    {writebackData : BitVec 512} (b : Bench Scratchpad) (hacked : b.cache.acked = false)
    (hack : b.regs.smAck = 0) (hhit : cacheHit = true → b.cache.lines address = expected) :
    ∃ b', (l2Load scratchpad fuel address expected cacheHit dirty writebackAddr
        writebackData).run b = .ok ((), b') ∧
      b'.cache.acked = false ∧ b'.regs.smAck = 0 ∧
      b'.cache.lines = Function.update b.cache.lines address expected := by
  unfold l2Load
  rw [run_bind_of_ok (display_run _ _ _), run_bind_of_ok (setRegs_run _ _)]
  refine exists_run_bind (scratchpad_awaitResponse hfuel ?_ ?_ ?_ ?_ b.cache.lines ?_)
    fun c hc => ?_
  · exact hacked
  · rfl
  · rfl
  · exact hack
  · exact scratchpad_step_lines_quiet (not_store_of_load rfl) hack
  obtain ⟨hacked', haddr', -, hack', hlines'⟩ := hc
  have hlines : c.cache.lines = Function.update b.cache.lines address expected := by
    rw [hlines']
    cases cacheHit with
    | true =>
      exact (Function.update_eq_self address b.cache.lines).symm.trans
        (congrArg (Function.update b.cache.lines address) (hhit rfl))
    | false => rfl
  have hdata : c.cache.lines c.cache.address = expected := by
    rw [haddr', hlines, Function.update_same]
  exact ⟨c, scratchpad_skip_data hdata _, hacked', hack', hlines⟩

/-- **A store against the device returns** and leaves `expected` as the line at `address`, given
that on a hit the store merged into the line gives `expected`. -/
theorem scratchpad_l2Store {fuel : Nat} (hfuel : 0 < fuel) {address : BitVec 26}
    {mask : BitVec 64} {writeData expected : BitVec 512} {cacheHit dirty : Bool}
    {writebackAddr : BitVec 32} {writebackData : BitVec 512} (b : Bench Scratchpad)
    (hacked : b.cache.acked = false) (hack : b.regs.smAck = 0)
    (hhit : cacheHit = true → storeMerge (b.cache.lines address) writeData mask = expected) :
    ∃ b', (l2Store scratchpad fuel address mask writeData expected cacheHit dirty writebackAddr
        writebackData).run b = .ok ((), b') ∧
      b'.cache.acked = false ∧ b'.regs.smAck = 0 ∧
      b'.cache.lines = Function.update b.cache.lines address expected := by
  unfold l2Store
  rw [run_bind_of_ok (display_run _ _ _), run_bind_of_ok (setRegs_run _ _)]
  refine exists_run_bind (scratchpad_awaitResponse hfuel ?_ ?_ ?_ ?_ (Function.update b.cache.lines
    address (storeMerge (b.cache.lines address) writeData mask)) ?_) fun c hc => ?_
  · exact hacked
  · rfl
  · rfl
  · exact hack
  · exact scratchpad_step_lines_store rfl rfl
  obtain ⟨hacked', haddr', hvalid', hack', hlines'⟩ := hc
  have hlines : c.cache.lines = Function.update b.cache.lines address expected := by
    rw [hlines']
    cases cacheHit with
    | true => exact congrArg (Function.update b.cache.lines address) (hhit rfl)
    | false => exact Function.update_idem _ _ _
  have hdata : c.cache.lines c.cache.address = expected := by
    rw [haddr', hlines, Function.update_same]
  -- the response: `cpi_update` is 1 and `cpi_data` is the merged line
  rw [run_bind_of_ok (scratchpad_skip_update c _), run_bind_of_ok (scratchpad_skip_data hdata _)]
  refine ⟨_, cycle_run scratchpad c, ?_, hack',
    (scratchpad_step_lines_quiet (not_store_of_idle hvalid') hack').trans hlines⟩
  rw [scratchpad_step_acked, hvalid']
  rfl

/-! ### The `initial` block as a list of tasks -/

/-- A call of the `initial` block: `l2_load` or `l2_store`, with its arguments. -/
inductive Task
  | load (address : BitVec 26) (expected : BitVec 512) (cacheHit dirty : Bool)
      (writebackAddr : BitVec 32) (writebackData : BitVec 512)
  | store (address : BitVec 26) (mask : BitVec 64) (writeData expected : BitVec 512)
      (cacheHit dirty : Bool) (writebackAddr : BitVec 32) (writebackData : BitVec 512)

namespace Task

variable {σ : Type}

/-- The call. -/
def run (dut : L2Cache σ) (fuel : Nat) : Task → Sim σ Unit
  | load a e h d wa wd => l2Load dut fuel a e h d wa wd
  | store a m w e h d wa wd => l2Store dut fuel a m w e h d wa wd

def address : Task → BitVec 26
  | load a .. | store a .. => a

def expected : Task → BitVec 512
  | load _ e .. | store _ _ _ e .. => e

/-- What the device needs to pass the task: on a hit, the line the task expects is the one it
holds, with the store merged in for a store. -/
def Holds (lines : BitVec 26 → BitVec 512) : Task → Prop
  | load a e h .. => h = true → lines a = e
  | store a m w e h .. => h = true → storeMerge (lines a) w m = e

end Task

/-- The calls of the `initial` block after its first clock, in order. -/
def initialTasks : List Task :=
  [.load 0xa000 pat1 false false 0 0, .load 0xb000 pat2 false false 0 0,
    .load 0xa001 pat3 false false 0 0, .load 0xb001 pat4 false false 0 0,
    .load 0xa000 pat1 true false 0 0, .load 0xb000 pat2 true false 0 0,
    .load 0xa001 pat3 true false 0 0, .load 0xb001 pat4 true false 0 0,
    .store 0xa000 mask1 pat5 pat1Pat5 true false 0 0, .load 0xa000 pat1Pat5 true false 0 0,
    .load 0xb000 pat2 true false 0 0, .load 0xa001 pat3 true false 0 0,
    .load 0xb001 pat4 true false 0 0, .store 0xa002 mask2 pat1 pat1 false false 0 0,
    .load 0xb002 0 false false 0 0, .load 0xc002 0 false false 0 0,
    .load 0xd002 0 false false 0 0, .load 0xe002 pat4 false true 0xa002 pat1,
    .load 0xf002 pat2 false false 0 0, .load 0x10002 pat3 false false 0 0,
    .load 0x11002 pat4 false false 0 0, .load 0x12002 pat1 false false 0 0]

/-- The `initial` block is its first clock, its calls in order, and the last line. -/
theorem initial_eq {σ : Type} (dut : L2Cache σ) (fuel : Nat) :
    initial dut fuel = (do
      cycle dut
      initialTasks.forM (Task.run dut fuel)
      display "test complete" []) := by
  simp only [initial, initialTasks, List.forM_cons', List.forM_nil', Task.run, bind_assoc,
    pure_bind]

/-- Every hit of the list finds the line the tasks before it left. -/
def Consistent : (BitVec 26 → BitVec 512) → List Task → Prop
  | _, [] => True
  | lines, t :: ts => t.Holds lines ∧ Consistent (Function.update lines t.address t.expected) ts

/-- The store hit of the `initial` block: `PAT5` under `MASK1` into `PAT1` gives `PAT1PAT5`. -/
theorem storeMerge_pat1_pat5 : storeMerge pat1 pat5 mask1 = pat1Pat5 := by
  simp [storeMerge, byteMask, pat1, pat5, mask1, pat1Pat5, List.range_succ]

/-- The tasks of the `initial` block are consistent, whatever the lines held to begin with: each
hit reads an address an earlier task has written. -/
theorem initialTasks_consistent (lines : BitVec 26 → BitVec 512) :
    Consistent lines initialTasks := by
  simp [Consistent, initialTasks, Task.Holds, Task.address, Task.expected, Function.update_apply,
    storeMerge_pat1_pat5]

/-- The tasks run one after the other against the device. -/
theorem scratchpad_tasks {fuel : Nat} (hfuel : 0 < fuel) :
    ∀ (ts : List Task) (b : Bench Scratchpad), b.cache.acked = false → b.regs.smAck = 0 →
      Consistent b.cache.lines ts →
      ∃ b', (ts.forM (Task.run scratchpad fuel)).run b = .ok ((), b')
  | [], b, _, _, _ => ⟨b, rfl⟩
  | t :: ts, b, hacked, hack, ⟨ht, hts⟩ => by
    obtain ⟨b₁, h₁, hacked₁, hack₁, hlines₁⟩ : ∃ b₁, (t.run scratchpad fuel).run b = .ok ((), b₁) ∧
        b₁.cache.acked = false ∧ b₁.regs.smAck = 0 ∧
        b₁.cache.lines = Function.update b.cache.lines t.address t.expected := by
      cases t with
      | load => exact scratchpad_l2Load hfuel b hacked hack ht
      | store => exact scratchpad_l2Store hfuel b hacked hack ht
    rw [List.forM_cons', run_bind_of_ok h₁]
    exact scratchpad_tasks hfuel ts b₁ hacked₁ hack₁ (hlines₁ ▸ hts)

/-- Every list of tasks prints progress lines only. -/
theorem tasks_reports (dut : L2Cache σ) (fuel : Nat) :
    ∀ ts : List Task, Reports [] (ts.forM (Task.run dut fuel))
  | [] => Reports.pure ()
  | t :: ts => by
    rw [List.forM_cons']
    refine Reports.bind ?_ fun _ => tasks_reports dut fuel ts
    cases t
    · exact l2Load_reports dut _ _ _ _ _ _ _
    · exact l2Store_reports dut _ _ _ _ _ _ _ _ _

/-- **The checks of `l2_cache_test` pass a device that is not a cache, on every consistent
test.** The device `scratchpad` has no sets, no ways, no replacement and no write-back: it answers
every access from its own line for the address, never drives `sm_request`, `sm_write` or
`sm_addr` (they stay unknown) and drives 0 on `data_o`. Take any list of loads and stores in which
every hit finds the line the tasks before it left, any bound of at least one cycle per wait, and
any state of the device. A testbench that clocks once, runs the tasks and prints `test complete`,
as the `initial` block does with its own list (`initial_eq`, `initialTasks_consistent`), runs to
its last line, and the log is progress lines followed by `test complete`: the written-back lanes
it gets wrong are printed, and nothing fails. The testbench does not check that a cache asks
memory for the lines it misses or writes its dirty lines back. -/
theorem scratchpad_passes_consistent (fuel : Nat) (hfuel : 0 < fuel) (ts : List Task)
    (s : Scratchpad) (hts : Consistent s.lines ts) :
    ∃ b', (do
        cycle scratchpad
        ts.forM (Task.run scratchpad fuel)
        display "test complete" []).run (Bench.init s) = .ok ((), b') ∧
      ∃ l, Progress l ∧ b'.log = l ++ [⟨"test complete", []⟩] := by
  -- the first clock samples no request, so the lines stay as they were
  have hlines : (scratchpad.step s Inputs.init).lines = s.lines :=
    scratchpad_step_lines_quiet (not_store_of_idle rfl) rfl
  obtain ⟨b₁, h₁⟩ := scratchpad_tasks hfuel ts { Bench.init s with
    cache := scratchpad.step (Bench.init s).cache (Bench.init s).regs
    settled := (Bench.init s).regs } rfl rfl (by rw [← hlines] at hts; exact hts)
  have hreported := ((Reports.cycle scratchpad).bind fun _ =>
    (tasks_reports scratchpad fuel ts).bind fun _ => Reports.display "test complete" [])
    (Bench.init s)
  rw [run_bind_of_ok (cycle_run scratchpad (Bench.init s)), run_bind_of_ok h₁] at hreported ⊢
  exact ⟨_, rfl, hreported⟩

/-- The `initial` block itself, with every line 0 and one cycle allowed per wait. -/
theorem scratchpad_passes_initial :
    0 < 1 ∧ Consistent (fun _ => 0) initialTasks ∧
      ∃ b', (initial scratchpad 1).run (Bench.init ⟨fun _ => 0, 0, false⟩) = .ok ((), b') ∧
        ∃ l, Progress l ∧ b'.log = l ++ [⟨"test complete", []⟩] :=
  ⟨by decide, initialTasks_consistent _, by
    rw [initial_eq]
    exact scratchpad_passes_consistent 1 (by decide) initialTasks _ (initialTasks_consistent _)⟩

end L2CacheTest

end NyuziSdmmc
