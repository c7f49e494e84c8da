import NyuziSdmmc.L2CacheTest

/-!
# The testbench's log tells how it ended

Every `$finish` of `l2_cache_test` comes right after a `$display` of what went wrong, and the
`initial` block ends with `$display("test complete")`. The other lines it prints are a task's
header and the writeback check, which does not stop the test. So the last line printed tells how a
run ended:

* `progressFormats`, `failureFormats`: the lines printed on the way, and those printed right
  before `$finish`;
* `Reported last b r`: the run from `b` that ended as `r` printed progress lines, then `last` if
  it completed, or one failure line if it halted on `$finish`. `Reports last s`: every run of `s`
  is reported. It composes (`Reports.bind`, `Reports.whileLoop`, `Reports.forM`), and every task
  of the testbench reports with nothing after its progress lines;
* `initial_log_tells_outcome`: for every cache, the log of the `initial` block is progress lines
  and at most one line after them, and reading its last line (`Outcome.ofLog`) gives how the
  block really ended (`Outcome.ofResult`): it passed, failed a check, or was still waiting when
  the cycles allowed ran out.
-/

namespace NyuziSdmmc

namespace L2CacheTest

variable {σ : Type}

/-- The lines printed on the way: a task's header, and the writeback check. -/
def progressFormats : List String :=
  ["test load %s %s %x", "test store %s %s %08x", writebackMismatch]

/-- The lines printed right before `$finish`. -/
def failureFormats : List String :=
  ["write not asserted", "bad write address want %08x got %08x", "write asserted for read phase",
    "bad read address", "unexpected sm request", "load mismatch want \n\t%x\n got \n\t%x",
    "no update", "data update mismatch want \n\t%x\n got \n\t%x"]

/-- Lines that only report progress. -/
def Progress (l : List Display) : Prop := ∀ d ∈ l, d.format ∈ progressFormats

theorem Progress.append {l l' : List Display} (h : Progress l) (h' : Progress l') :
    Progress (l ++ l') :=
  List.forall_mem_append.2 ⟨h, h'⟩

/-- The run from `b` that ended as `r` printed progress lines and then, if it completed, the lines
`last`; if it halted on `$finish`, one failure line. -/
def Reported {α : Type} (last : List Display) (b : Bench σ) :
    Except (Halt × Bench σ) (α × Bench σ) → Prop
  | .ok (_, b') => ∃ l, Progress l ∧ b'.log = b.log ++ l ++ last
  | .error (.finish, b') =>
    ∃ l d, Progress l ∧ d.format ∈ failureFormats ∧ b'.log = b.log ++ l ++ [d]
  | .error (.timeout, b') => ∃ l, Progress l ∧ b'.log = b.log ++ l

/-- Every run of `s` is reported. -/
def Reports {α : Type} (last : List Display) (s : Sim σ α) : Prop :=
  ∀ b, Reported last b (s.run b)

/-- A run reported from where a first part that printed progress only left off is reported from
the start. -/
theorem Reported.of_progress {α : Type} {last l : List Display} {b c : Bench σ}
    (hl : Progress l) (hc : c.log = b.log ++ l) :
    ∀ {r : Except (Halt × Bench σ) (α × Bench σ)}, Reported last c r → Reported last b r
  | .ok (_, _), ⟨l', hl', h⟩ => ⟨l ++ l', hl.append hl', by simp only [h, hc, List.append_assoc]⟩
  | .error (.finish, _), ⟨l', d, hl', hd, h⟩ =>
    ⟨l ++ l', d, hl.append hl', hd, by simp only [h, hc, List.append_assoc]⟩
  | .error (.timeout, _), ⟨l', hl', h⟩ =>
    ⟨l ++ l', hl.append hl', by simp only [h, hc, List.append_assoc]⟩

theorem Reported.same {α : Type} (b : Bench σ) (a : α) {c : Bench σ} (hc : c.log = b.log) :
    Reported [] b (.ok (a, c)) :=
  ⟨[], nofun, by rw [hc, List.append_nil, List.append_nil]⟩

namespace Reports

/-! ### `Reports` composes -/

variable {α β : Type}

theorem bind {last : List Display} {m : Sim σ α} {k : α → Sim σ β} (hm : Reports [] m)
    (hk : ∀ a, Reports last (k a)) : Reports last (m >>= k) := by
  intro b
  have h := hm b
  rw [StateT.run_bind]
  rcases hr : m.run b with ⟨_ | _, c⟩ | ⟨a, c⟩ <;> rw [hr] at h
  · exact h
  · exact h
  · obtain ⟨l, hl, hc⟩ := h
    exact Reported.of_progress hl (by rw [hc, List.append_nil]) (hk a c)

theorem pure (a : α) : Reports [] (Pure.pure a : Sim σ α) := fun b => Reported.same b a rfl

theorem get : Reports [] (MonadState.get : Sim σ (Bench σ)) := fun b => Reported.same b b rfl

/-- An update of the bench that leaves the log alone. -/
theorem of_modify {f : Bench σ → Bench σ} (hf : ∀ b, (f b).log = b.log) :
    Reports [] (modify f : Sim σ Unit) :=
  fun b => Reported.same b () (hf b)

theorem timeout : Reports [] (L2CacheTest.timeout : Sim σ Unit) :=
  fun _ => ⟨[], nofun, (List.append_nil _).symm⟩

/-- A line printed last. -/
theorem display (format : String) (args : List Arg) :
    Reports [⟨format, args⟩] (L2CacheTest.display format args : Sim σ Unit) :=
  fun b => ⟨[], nofun, by rw [List.append_nil]⟩

/-- A progress line. -/
theorem progress {format : String} (args : List Arg) (h : format ∈ progressFormats) :
    Reports [] (L2CacheTest.display format args : Sim σ Unit) :=
  fun b => ⟨[⟨format, args⟩], List.forall_mem_singleton.2 h, by rw [List.append_nil]⟩

/-- A check that halts: `$display(...); $finish;`. -/
theorem stop {format : String} (args : List Arg) (h : format ∈ failureFormats) :
    Reports [] (L2CacheTest.display format args >>= fun _ => finish : Sim σ Unit) :=
  fun b => ⟨[], ⟨format, args⟩, nofun, h, by rw [List.append_nil]⟩

theorem ite {c : Prop} [Decidable c] {x y : Sim σ α} (hx : Reports [] x) (hy : Reports [] y) :
    Reports [] (if c then x else y) := by
  split
  · exact hx
  · exact hy

theorem ifThen {c : Sim σ Logic} {stmt : Sim σ Unit} (hc : Reports [] c) (hstmt : Reports [] stmt) :
    Reports [] (L2CacheTest.ifThen c stmt) :=
  hc.bind fun _ => ite hstmt (pure ())

theorem when {c : Prop} [Decidable c] {x : Sim σ Unit} (hx : Reports [] x) :
    Reports [] (when c x) :=
  ite hx (pure ())

theorem whileLoop {c : Sim σ Logic} {body : Sim σ Unit} (hc : Reports [] c)
    (hbody : Reports [] body) : ∀ fuel, Reports [] (L2CacheTest.whileLoop c body fuel)
  | 0 => hc.bind fun _ => ite timeout (pure ())
  | fuel + 1 => hc.bind fun _ => ite (hbody.bind fun _ => whileLoop hc hbody fuel) (pure ())

theorem forM {body : Nat → Sim σ Unit} (h : ∀ j, Reports [] (body j)) :
    ∀ l : List Nat, Reports [] (l.forM body)
  | [] => pure ()
  | j :: l => (h j).bind fun _ => forM h l

theorem forLanes {body : Nat → Sim σ Unit} (h : ∀ j, Reports [] (body j)) :
    Reports [] (L2CacheTest.forLanes body) :=
  forM h _

/-! ### The statements of the testbench -/

variable (dut : L2Cache σ)

theorem read (g : Outputs → α) : Reports [] (L2CacheTest.read dut g) :=
  fun b => Reported.same b _ rfl

theorem cycle : Reports [] (L2CacheTest.cycle dut) := of_modify fun _ => rfl

theorem setRegs (f : Inputs → Inputs) : Reports [] (L2CacheTest.setRegs f : Sim σ Unit) :=
  of_modify fun _ => rfl

theorem writebackCheck (j : Nat) : Reports [] (L2CacheTest.writebackCheck dut j) :=
  ifThen (get.bind fun _ => (read dut _).bind fun _ => pure _)
    (get.bind fun _ => (read dut _).bind fun _ => progress _ (by decide))

end Reports

/-! ### The tasks and the `initial` block -/

section Tasks

variable (dut : L2Cache σ)

theorem doMissTransfer_reports (fuel : Nat) (address : BitVec 26) (expected : BitVec 512)
    (dirty : Bool) (writebackAddress : BitVec 32) (writebackData : BitVec 512) :
    Reports [] (doMissTransfer dut fuel address expected dirty writebackAddress writebackData) := by
  have hcycle := Reports.cycle dut
  unfold doMissTransfer
  refine Reports.bind (Reports.whileLoop (Reports.read dut _) hcycle fuel) fun _ => ?_
  refine Reports.bind (Reports.when ?_) fun _ => ?_
  · -- the write phase
    refine Reports.bind (Reports.ifThen (Reports.read dut _) (Reports.stop _ (by decide)))
      fun _ => ?_
    refine Reports.bind (Reports.ifThen (Reports.read dut _)
      ((Reports.read dut _).bind fun _ => Reports.stop _ (by decide))) fun _ => ?_
    refine Reports.bind (Reports.setRegs _) fun _ => ?_
    exact Reports.forLanes fun j => Reports.bind (Reports.of_modify fun _ => rfl) fun _ =>
      (Reports.writebackCheck dut j).bind fun _ => hcycle
  -- the read phase
  refine Reports.bind (Reports.ifThen (Reports.read dut _) (Reports.stop _ (by decide)))
    fun _ => ?_
  refine Reports.bind (Reports.ifThen (Reports.read dut _) (Reports.stop _ (by decide)))
    fun _ => ?_
  refine Reports.bind (Reports.setRegs _) fun _ => ?_
  exact (Reports.forLanes fun _ => (Reports.setRegs _).bind fun _ => hcycle).bind
    fun _ => Reports.setRegs _

theorem awaitResponse_reports (fuel : Nat) (address : BitVec 26) (expected : BitVec 512)
    (cacheHit dirty : Bool) (writebackAddr : BitVec 32) (writebackData : BitVec 512) :
    Reports [] (awaitResponse dut fuel address expected cacheHit dirty writebackAddr
      writebackData) := by
  have hcycle := Reports.cycle dut
  unfold awaitResponse
  refine Reports.bind (Reports.whileLoop (Reports.read dut _) hcycle fuel) fun _ => ?_
  refine Reports.bind (Reports.setRegs _) fun _ => ?_
  refine Reports.bind (Reports.when (doMissTransfer_reports dut _ _ _ _ _ _)) fun _ => ?_
  exact Reports.whileLoop (Reports.read dut _)
    (hcycle.bind fun _ => Reports.ifThen (Reports.read dut _) (Reports.stop _ (by decide))) fuel

theorem l2Load_reports (fuel : Nat) (address : BitVec 26) (expected : BitVec 512)
    (cacheHit dirty : Bool) (writebackAddr : BitVec 32) (writebackData : BitVec 512) :
    Reports [] (l2Load dut fuel address expected cacheHit dirty writebackAddr writebackData) := by
  unfold l2Load
  refine (Reports.progress _ (by decide)).bind fun _ => (Reports.setRegs _).bind fun _ =>
    (awaitResponse_reports dut _ _ _ _ _ _ _).bind fun _ => ?_
  exact Reports.ifThen (Reports.read dut _)
    ((Reports.read dut _).bind fun _ => Reports.stop _ (by decide))

theorem l2Store_reports (fuel : Nat) (address : BitVec 26) (mask : BitVec 64)
    (writeData expected : BitVec 512) (cacheHit dirty : Bool) (writebackAddr : BitVec 32)
    (writebackData : BitVec 512) :
    Reports [] (l2Store dut fuel address mask writeData expected cacheHit dirty writebackAddr
      writebackData) := by
  unfold l2Store
  refine (Reports.progress _ (by decide)).bind fun _ => (Reports.setRegs _).bind fun _ =>
    (awaitResponse_reports dut _ _ _ _ _ _ _).bind fun _ => ?_
  refine Reports.bind (Reports.ifThen (Reports.read dut _) (Reports.stop _ (by decide)))
    fun _ => ?_
  exact (Reports.ifThen (Reports.read dut _)
    ((Reports.read dut _).bind fun _ => Reports.stop _ (by decide))).bind fun _ => Reports.cycle dut

/-- **Every `$finish` comes right after a failure line.** A run of the `initial` block prints
task headers and writeback mismatches only, and then `test complete` if it completes, or one
failure line if it halts on `$finish`. -/
theorem initial_reports (fuel : Nat) :
    Reports [⟨"test complete", []⟩] (initial dut fuel) := by
  unfold initial
  -- the first clock, then the 22 tasks in order
  iterate 23
    refine Reports.bind (by
      first
        | with_reducible exact l2Load_reports dut _ _ _ _ _ _ _
        | with_reducible exact l2Store_reports dut _ _ _ _ _ _ _ _ _
        | exact Reports.cycle dut) fun _ => ?_
  exact Reports.display _ _

end Tasks

/-! ### Reading the log -/

/-- How a run of the testbench ended. -/
inductive Outcome
  | passed
  | failed
  | unfinished
  deriving DecidableEq, Repr

/-- How the run ended: it completed, halted on `$finish`, or ran out of cycles in a wait. -/
def Outcome.ofResult {α : Type} : Except (Halt × Bench σ) (α × Bench σ) → Outcome
  | .ok _ => .passed
  | .error (.finish, _) => .failed
  | .error (.timeout, _) => .unfinished

/-- How the run ended, as the last line printed tells it. -/
def Outcome.ofLog (log : List Display) : Outcome :=
  match log.getLast? with
  | some d =>
    if d.format = "test complete" then .passed
    else if d.format ∈ failureFormats then .failed
    else .unfinished
  | none => .unfinished

/-- The bench a run ended with, halted or not. -/
def endBench {α : Type} : Except (Halt × Bench σ) (α × Bench σ) → Bench σ
  | .ok (_, b) | .error (_, b) => b

theorem Outcome.ofLog_complete (l : List Display) :
    Outcome.ofLog (l ++ [⟨"test complete", []⟩]) = .passed := by
  simp [Outcome.ofLog]

theorem Outcome.ofLog_failure (l : List Display) {d : Display} (hd : d.format ∈ failureFormats) :
    Outcome.ofLog (l ++ [d]) = .failed := by
  have hne : d.format ≠ "test complete" := fun h => absurd (h ▸ hd) (by decide)
  simp [Outcome.ofLog, hne, hd]

theorem Outcome.ofLog_progress {l : List Display} (hl : Progress l) :
    Outcome.ofLog l = .unfinished := by
  unfold Outcome.ofLog
  split
  · next d hd =>
    have hformat : ∀ f ∈ progressFormats, f ≠ "test complete" ∧ f ∉ failureFormats := by decide
    obtain ⟨hne, hnot⟩ := hformat _ (hl d (List.mem_of_mem_getLast? hd))
    simp [hne, hnot]
  · rfl

/-- **The log tells how the test ended.** Whatever the cache does, a run of the `initial` block
(from an empty log) prints progress lines only, then `test complete` if it completed, one failure
line if it halted on `$finish`, and nothing more if a wait ran out of cycles. So the last line
printed says how the run really ended. -/
theorem initial_log_tells_outcome (dut : L2Cache σ) (fuel : Nat) (b : Bench σ) :
    Outcome.ofLog (endBench ((initial dut fuel).run { b with log := [] })).log =
        Outcome.ofResult ((initial dut fuel).run { b with log := [] }) ∧
      ∃ l, Progress l ∧
        ((endBench ((initial dut fuel).run { b with log := [] })).log =
            l ++ [⟨"test complete", []⟩] ∨
          (∃ d, d.format ∈ failureFormats ∧
            (endBench ((initial dut fuel).run { b with log := [] })).log = l ++ [d]) ∨
          (endBench ((initial dut fuel).run { b with log := [] })).log = l) := by
  have h := initial_reports dut fuel { b with log := [] }
  generalize (initial dut fuel).run { b with log := [] } = r at h ⊢
  rcases r with ⟨_ | _, b'⟩ | ⟨_, b'⟩
  · obtain ⟨l, d, hl, hd, hlog⟩ := h
    rw [endBench, hlog]
    exact ⟨Outcome.ofLog_failure _ hd, l, hl, .inr (.inl ⟨d, hd, rfl⟩)⟩
  · obtain ⟨l, hl, hlog⟩ := h
    rw [endBench, hlog]
    exact ⟨Outcome.ofLog_progress hl, l, hl, .inr (.inr rfl)⟩
  · obtain ⟨l, hl, hlog⟩ := h
    rw [endBench, hlog]
    exact ⟨Outcome.ofLog_complete _, l, hl, .inl rfl⟩

end L2CacheTest

end NyuziSdmmc
