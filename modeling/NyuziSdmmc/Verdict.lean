import NyuziSdmmc.L2CacheTest

/-!
# The written-back data does not change the testbench's verdict

`do_miss_transfer` compares each lane the cache writes back with `writeback_data`. Unlike every
other check of the testbench, a difference is only printed: there is no `$finish`. So whatever
the cache drives on `data_o`, the test ends the same way:

* `L2Cache.withDataToSm`: the same cache with `data_o` replaced by any function of its state and
  inputs;
* `Bench.erase`: the bench with the writeback-mismatch lines dropped from the log;
* `Similar m m'`: from benches equal up to those lines, `m` and `m'` end equal up to those lines,
  with the same value or the same halt. Every statement of the testbench is similar to itself run
  against the other cache, and `Similar` composes (`Similar.bind`, `Similar.ite`,
  `Similar.whileLoop`, `Similar.forM`);
* `initial_ignores_dataToSm`: so the `initial` block ends the same way, halting or not, with the
  same cache state, registers and log apart from the writeback-mismatch lines. A cache that writes
  back wrong data passes the test exactly when the same cache with the right data does.
-/

namespace NyuziSdmmc

namespace L2CacheTest

variable {σ : Type}

/-- The cache `dut` with `data_o` replaced by `f`. -/
def L2Cache.withDataToSm (dut : L2Cache σ) (f : σ → Inputs → Vec 32) : L2Cache σ :=
  { dut with out := fun s i => { dut.out s i with dataToSm := f s i } }

/-- The bench without the lines of the writeback check. -/
def Bench.erase (b : Bench σ) : Bench σ :=
  { b with log := b.log.filter fun d => d.format != writebackMismatch }

/-- The outcome of a simulation with the bench erased, whether it halted or not. -/
def eraseResult {α : Type} :
    Except (Halt × Bench σ) (α × Bench σ) → Except (Halt × Bench σ) (α × Bench σ)
  | .ok (a, b) => .ok (a, b.erase)
  | .error (h, b) => .error (h, b.erase)

/-- Two simulations that end alike, up to the lines of the writeback check, from benches alike
up to those lines. -/
def Similar {α : Type} (m m' : Sim σ α) : Prop :=
  ∀ b b', b.erase = b'.erase → eraseResult (m.run b) = eraseResult (m'.run b')

/-- A mismatch line is erased. -/
theorem Bench.erase_display_mismatch (b : Bench σ) (args : List Arg) :
    ({ b with log := b.log ++ [⟨writebackMismatch, args⟩] } : Bench σ).erase = b.erase := by
  simp [Bench.erase, List.filter_append]

namespace Similar

/-! ### `Similar` composes -/

variable {α β : Type}

theorem bind {m m' : Sim σ α} {k k' : α → Sim σ β} (hm : Similar m m')
    (hk : ∀ a, Similar (k a) (k' a)) : Similar (m >>= k) (m' >>= k') := by
  intro b b' hb
  have h := hm b b' hb
  rw [StateT.run_bind, StateT.run_bind]
  rcases hr : m.run b with ⟨e, c⟩ | ⟨a, c⟩ <;> rcases hr' : m'.run b' with ⟨e', c'⟩ | ⟨a', c'⟩ <;>
    rw [hr, hr'] at h <;>
    simp only [eraseResult, Except.error.injEq, Except.ok.injEq, Prod.mk.injEq,
      reduceCtorEq] at h
  · obtain ⟨rfl, hc⟩ := h
    exact congrArg (fun c => Except.error (e, c)) hc
  · obtain ⟨rfl, hc⟩ := h
    exact hk a c c' hc

theorem pure (a : α) : Similar (Pure.pure a : Sim σ α) (Pure.pure a) :=
  fun _ _ hb => congrArg (fun c => Except.ok (a, c)) hb

theorem ite {c : Prop} [Decidable c] {x x' y y' : Sim σ α} (hx : Similar x x')
    (hy : Similar y y') : Similar (if c then x else y) (if c then x' else y') := by
  split
  · exact hx
  · exact hy

/-- An update of the bench that the erasure factors through. -/
theorem of_modify {f : Bench σ → Bench σ} (g : Bench σ → Bench σ)
    (hf : ∀ b, (f b).erase = g b.erase) : Similar (modify f : Sim σ Unit) (modify f) :=
  fun b b' hb => congrArg (fun c => Except.ok ((), c)) (by rw [hf, hf, hb])

theorem finish : Similar (L2CacheTest.finish : Sim σ Unit) L2CacheTest.finish :=
  fun _ _ hb => congrArg (fun c => Except.error (Halt.finish, c)) hb

theorem timeout : Similar (L2CacheTest.timeout : Sim σ Unit) L2CacheTest.timeout :=
  fun _ _ hb => congrArg (fun c => Except.error (Halt.timeout, c)) hb

theorem display (format : String) (args : List Arg) :
    Similar (L2CacheTest.display format args : Sim σ Unit) (L2CacheTest.display format args) :=
  of_modify (fun c => { c with
      log := c.log ++ ([⟨format, args⟩].filter fun d => d.format != writebackMismatch) })
    fun b => by simp [Bench.erase, List.filter_append]

theorem setRegs (f : Inputs → Inputs) :
    Similar (L2CacheTest.setRegs f : Sim σ Unit) (L2CacheTest.setRegs f) :=
  of_modify (fun c => { c with regs := f c.regs }) fun _ => rfl

theorem setExpectedLaneData (v : BitVec 32) :
    Similar (modify fun b => { b with expectedLaneData := v } : Sim σ Unit)
      (modify fun b => { b with expectedLaneData := v }) :=
  of_modify (fun c => { c with expectedLaneData := v }) fun _ => rfl

theorem ifThen {c c' : Sim σ Logic} {stmt stmt' : Sim σ Unit} (hc : Similar c c')
    (hstmt : Similar stmt stmt') :
    Similar (L2CacheTest.ifThen c stmt) (L2CacheTest.ifThen c' stmt') :=
  hc.bind fun _ => ite hstmt (pure ())

theorem when {c : Prop} [Decidable c] {x x' : Sim σ Unit} (hx : Similar x x') :
    Similar (when c x) (when c x') :=
  ite hx (pure ())

theorem whileLoop {c c' : Sim σ Logic} {body body' : Sim σ Unit} (hc : Similar c c')
    (hbody : Similar body body') :
    ∀ fuel, Similar (L2CacheTest.whileLoop c body fuel) (L2CacheTest.whileLoop c' body' fuel)
  | 0 => hc.bind fun _ => ite timeout (pure ())
  | fuel + 1 => hc.bind fun _ => ite (hbody.bind fun _ => whileLoop hc hbody fuel) (pure ())

theorem forM {body body' : Nat → Sim σ Unit} (h : ∀ j, Similar (body j) (body' j)) :
    ∀ l : List Nat, Similar (l.forM body) (l.forM body')
  | [] => pure ()
  | j :: l => (h j).bind fun _ => forM h l

theorem forLanes {body body' : Nat → Sim σ Unit} (h : ∀ j, Similar (body j) (body' j)) :
    Similar (L2CacheTest.forLanes body) (L2CacheTest.forLanes body') :=
  forM h _

/-! ### Each statement, against the other cache -/

variable (dut : L2Cache σ) (f : σ → Inputs → Vec 32)

/-- A read of anything but `data_o` sees the same in both. -/
theorem read (g : Outputs → α) (hg : ∀ o v, g { o with dataToSm := v } = g o := by intro _ _; rfl) :
    Similar (L2CacheTest.read dut g) (L2CacheTest.read (dut.withDataToSm f) g) := by
  intro b b' hb
  have hcache : b.cache = b'.cache := @congrArg _ _ b.erase b'.erase Bench.cache hb
  have hsettled : b.settled = b'.settled := @congrArg _ _ b.erase b'.erase Bench.settled hb
  show Except.ok (g (dut.out b.cache b.settled), b.erase) =
    Except.ok (g ((dut.withDataToSm f).out b'.cache b'.settled), b'.erase)
  rw [hcache, hsettled, hb]
  exact congrArg (fun v => Except.ok (v, b'.erase)) (hg _ _).symm

theorem cycle : Similar (L2CacheTest.cycle dut) (L2CacheTest.cycle (dut.withDataToSm f)) :=
  of_modify (fun c => { c with cache := dut.step c.cache c.regs, settled := c.regs }) fun _ => rfl

/-- **The writeback check leaves no trace** but the line it may print. -/
theorem writebackCheck (j : Nat) :
    Similar (L2CacheTest.writebackCheck dut j)
      (L2CacheTest.writebackCheck (dut.withDataToSm f) j) := by
  have herase : ∀ (dut : L2Cache σ) b,
      eraseResult ((L2CacheTest.writebackCheck dut j).run b) = .ok ((), b.erase) := by
    intro dut b
    show eraseResult ((if (Vec.known b.expectedLaneData).ne (dut.out b.cache b.settled).dataToSm =
      Logic.one then _ else Pure.pure () : Sim σ Unit).run b) = _
    split
    · exact congrArg (fun c => Except.ok ((), c)) (Bench.erase_display_mismatch b _)
    · rfl
  intro b b' hb
  rw [herase, herase, hb]

end Similar

/-! ### The tasks and the `initial` block -/

section Tasks

variable (dut : L2Cache σ) (f : σ → Inputs → Vec 32)

/-- A check that halts: `$display(...); $finish;`. -/
theorem Similar.stop (format : String) (args : List Arg) :
    Similar (L2CacheTest.display format args >>= fun _ => L2CacheTest.finish : Sim σ Unit)
      (L2CacheTest.display format args >>= fun _ => L2CacheTest.finish) :=
  Similar.bind (Similar.display _ _) fun _ => Similar.finish

theorem doMissTransfer_similar (fuel : Nat) (address : BitVec 26) (expected : BitVec 512)
    (dirty : Bool) (writebackAddress : BitVec 32) (writebackData : BitVec 512) :
    Similar (doMissTransfer dut fuel address expected dirty writebackAddress writebackData)
      (doMissTransfer (dut.withDataToSm f) fuel address expected dirty writebackAddress
        writebackData) := by
  have hcycle := Similar.cycle dut f
  unfold doMissTransfer
  refine Similar.bind (Similar.whileLoop (Similar.read dut f _) hcycle fuel) fun _ => ?_
  refine Similar.bind (Similar.when ?_) fun _ => ?_
  · -- the write phase
    refine Similar.bind (Similar.ifThen (Similar.read dut f _) (Similar.stop _ _)) fun _ => ?_
    refine Similar.bind (Similar.ifThen (Similar.read dut f _)
      (Similar.bind (Similar.read dut f _) fun _ => Similar.stop _ _)) fun _ => ?_
    refine Similar.bind (Similar.setRegs _) fun _ => ?_
    exact Similar.forLanes fun j => Similar.bind (Similar.setExpectedLaneData _) fun _ =>
      Similar.bind (Similar.writebackCheck dut f j) fun _ => hcycle
  -- the read phase
  refine Similar.bind (Similar.ifThen (Similar.read dut f _) (Similar.stop _ _)) fun _ => ?_
  refine Similar.bind (Similar.ifThen (Similar.read dut f _) (Similar.stop _ _)) fun _ => ?_
  refine Similar.bind (Similar.setRegs _) fun _ => ?_
  exact Similar.bind (Similar.forLanes fun _ => Similar.bind (Similar.setRegs _) fun _ => hcycle)
    fun _ => Similar.setRegs _

theorem awaitResponse_similar (fuel : Nat) (address : BitVec 26) (expected : BitVec 512)
    (cacheHit dirty : Bool) (writebackAddr : BitVec 32) (writebackData : BitVec 512) :
    Similar (awaitResponse dut fuel address expected cacheHit dirty writebackAddr writebackData)
      (awaitResponse (dut.withDataToSm f) fuel address expected cacheHit dirty writebackAddr
        writebackData) := by
  have hcycle := Similar.cycle dut f
  unfold awaitResponse
  refine Similar.bind (Similar.whileLoop (Similar.read dut f _) hcycle fuel) fun _ => ?_
  refine Similar.bind (Similar.setRegs _) fun _ => ?_
  refine Similar.bind (Similar.when (doMissTransfer_similar dut f _ _ _ _ _ _)) fun _ => ?_
  exact Similar.whileLoop (Similar.read dut f _)
    (Similar.bind hcycle fun _ => Similar.ifThen (Similar.read dut f _) (Similar.stop _ _)) fuel

theorem l2Load_similar (fuel : Nat) (address : BitVec 26) (expected : BitVec 512)
    (cacheHit dirty : Bool) (writebackAddr : BitVec 32) (writebackData : BitVec 512) :
    Similar (l2Load dut fuel address expected cacheHit dirty writebackAddr writebackData)
      (l2Load (dut.withDataToSm f) fuel address expected cacheHit dirty writebackAddr
        writebackData) := by
  unfold l2Load
  refine Similar.bind (Similar.display _ _) fun _ => Similar.bind (Similar.setRegs _) fun _ =>
    Similar.bind (awaitResponse_similar dut f _ _ _ _ _ _ _) fun _ => ?_
  exact Similar.ifThen (Similar.read dut f _)
    (Similar.bind (Similar.read dut f _) fun _ => Similar.stop _ _)

theorem l2Store_similar (fuel : Nat) (address : BitVec 26) (mask : BitVec 64)
    (writeData expected : BitVec 512) (cacheHit dirty : Bool) (writebackAddr : BitVec 32)
    (writebackData : BitVec 512) :
    Similar (l2Store dut fuel address mask writeData expected cacheHit dirty writebackAddr
        writebackData)
      (l2Store (dut.withDataToSm f) fuel address mask writeData expected cacheHit dirty
        writebackAddr writebackData) := by
  unfold l2Store
  refine Similar.bind (Similar.display _ _) fun _ => Similar.bind (Similar.setRegs _) fun _ =>
    Similar.bind (awaitResponse_similar dut f _ _ _ _ _ _ _) fun _ => ?_
  refine Similar.bind (Similar.ifThen (Similar.read dut f _) (Similar.stop _ _)) fun _ => ?_
  exact Similar.bind (Similar.ifThen (Similar.read dut f _)
    (Similar.bind (Similar.read dut f _) fun _ => Similar.stop _ _)) fun _ => Similar.cycle dut f

theorem initial_similar (fuel : Nat) :
    Similar (initial dut fuel) (initial (dut.withDataToSm f) fuel) := by
  unfold initial
  -- the first clock, then the 22 tasks in order
  iterate 23
    refine Similar.bind (by
      first
        | with_reducible exact l2Load_similar dut f _ _ _ _ _ _ _
        | with_reducible exact l2Store_similar dut f _ _ _ _ _ _ _ _ _
        | exact Similar.cycle dut f) fun _ => ?_
  exact Similar.display _ _

/-- **The written-back data does not change the verdict.** Replace what the cache drives on
`data_o` by anything at all. From any bench, the `initial` block ends the same way: it halts on
`$finish` in both runs or in neither, it times out in both or in neither, and it ends with the
same cache state, registers and `expected_lane_data`, and the same log once the
`writeback mismatch` lines are dropped. -/
theorem initial_ignores_dataToSm (fuel : Nat) (b : Bench σ) :
    eraseResult ((initial dut fuel).run b) =
      eraseResult ((initial (dut.withDataToSm f) fuel).run b) :=
  initial_similar dut f fuel b b rfl

end Tasks

end L2CacheTest

end NyuziSdmmc
