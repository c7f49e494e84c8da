import NyuziSdmmc.L2CacheTest

/-!
# The memory-side checks pass on unknown values

`do_miss_transfer` tests the cache's memory interface with `!` and `!=`: `while (!sm_request)`,
`if (!sm_write)`, `if (sm_write)` and `if (sm_addr != ...)`. On an unknown operand these give `x`,
and an `if` or a `while` on `x` is not taken. The checks `l2_load` and `l2_store` make on the
processor side, `pci_ack !== 1` and `cpi_data !== expected`, compare all four states instead, and
an unknown bit fails them. So on the memory side:

* `Vec.unknown`: a vector with every bit `x`; `Vec.unknown_ne`: `!=` with it gives `x`;
* `ifThen_run_skip`, `whileLoop_run_skip`: a check or a wait whose condition is not `1` leaves
  the bench as it was;
* `Returns s`: `s` returns from every bench. It composes (`Returns.bind`, `Returns.forM`), and a
  check whose condition is never `1` returns (`Returns.ifThen_skip`, `Returns.whileLoop_skip`);
* an example of their use: a cache whose `sm_request` is not a known 0 and whose `sm_write` and
  `sm_addr` are unknown passes every check of the transfer, whether the victim is dirty or not,
  for every address and line: the task returns.
-/

namespace NyuziSdmmc

namespace L2CacheTest

variable {σ : Type}

/-- A vector with every bit `x`. -/
def Vec.unknown (w : Nat) : Vec w := ⟨BitVec.allOnes w, BitVec.allOnes w⟩

theorem allOnes_ne_zero {w : Nat} (hw : 0 < w) : BitVec.allOnes w ≠ 0#w := fun h => by
  have h2 := congrArg BitVec.toNat h
  rw [BitVec.toNat_allOnes, BitVec.toNat_ofNat, Nat.zero_mod] at h2
  have := Nat.one_lt_two_pow (Nat.pos_iff_ne_zero.1 hw)
  omega

/-- `!=` with an unknown vector is `x`, whatever the other operand. -/
theorem Vec.unknown_ne {w : Nat} (hw : 0 < w) (v : Vec w) : (Vec.unknown w).ne v = .x := by
  simp [Vec.ne, Vec.unknown, allOnes_ne_zero hw]

/-- `!` of a value that is not a known 0 is not `1`. -/
theorem Logic.not_ne_one {l : Logic} (h : l ≠ .zero) : l.not ≠ .one := by
  cases l <;> simp_all [Logic.not]

/-! ### Checks that are not taken -/

section Skip

variable {dut : L2Cache σ} {g : Outputs → Logic} {b : Bench σ}

/-- An `if` whose condition is not `1` leaves the bench as it was. -/
theorem ifThen_run_skip (hg : g (dut.out b.cache b.settled) ≠ .one) (stmt : Sim σ Unit) :
    (L2CacheTest.ifThen (L2CacheTest.read dut g) stmt).run b = .ok ((), b) := by
  show (if g (dut.out b.cache b.settled) = .one then stmt else Pure.pure () : Sim σ Unit).run b = _
  rw [if_neg hg]
  rfl

/-- A wait whose condition is not `1` ends at once. -/
theorem whileLoop_run_skip (hg : g (dut.out b.cache b.settled) ≠ .one) (body : Sim σ Unit) :
    ∀ fuel, (L2CacheTest.whileLoop (L2CacheTest.read dut g) body fuel).run b = .ok ((), b)
  | 0 => ifThen_run_skip hg _
  | _ + 1 => ifThen_run_skip hg _

end Skip

/-- A statement that returns from every bench. -/
def Returns {α : Type} (s : Sim σ α) : Prop := ∀ b, ∃ a b', s.run b = .ok (a, b')

namespace Returns

/-! ### `Returns` composes -/

variable {α β : Type}

theorem bind {m : Sim σ α} {k : α → Sim σ β} (hm : Returns m) (hk : ∀ a, Returns (k a)) :
    Returns (m >>= k) := by
  intro b
  obtain ⟨a, c, h⟩ := hm b
  obtain ⟨x, b', h'⟩ := hk a c
  exact ⟨x, b', by rw [StateT.run_bind, h]; exact h'⟩

theorem pure (a : α) : Returns (Pure.pure a : Sim σ α) := fun b => ⟨a, b, rfl⟩

theorem get : Returns (MonadState.get : Sim σ (Bench σ)) := fun b => ⟨b, b, rfl⟩

theorem of_modify (f : Bench σ → Bench σ) : Returns (modify f : Sim σ Unit) :=
  fun b => ⟨(), f b, rfl⟩

theorem ite {c : Prop} [Decidable c] {x y : Sim σ α} (hx : Returns x) (hy : Returns y) :
    Returns (if c then x else y) := by
  split
  · exact hx
  · exact hy

theorem ifThen {c : Sim σ Logic} {stmt : Sim σ Unit} (hc : Returns c) (hstmt : Returns stmt) :
    Returns (L2CacheTest.ifThen c stmt) :=
  hc.bind fun _ => ite hstmt (pure ())

theorem when {c : Prop} [Decidable c] {x : Sim σ Unit} (hx : Returns x) : Returns (when c x) :=
  ite hx (pure ())

theorem forM {body : Nat → Sim σ Unit} (h : ∀ j, Returns (body j)) :
    ∀ l : List Nat, Returns (l.forM body)
  | [] => pure ()
  | j :: l => (h j).bind fun _ => forM h l

theorem forLanes {body : Nat → Sim σ Unit} (h : ∀ j, Returns (body j)) :
    Returns (L2CacheTest.forLanes body) :=
  forM h _

/-! ### The statements of the testbench -/

variable (dut : L2Cache σ)

theorem read (g : Outputs → α) : Returns (L2CacheTest.read dut g) := fun b => ⟨_, b, rfl⟩

/-- A check whose condition is never `1`, whatever the cache's state and inputs, is not taken. -/
theorem ifThen_skip {g : Outputs → Logic} (hg : ∀ s i, g (dut.out s i) ≠ .one)
    (stmt : Sim σ Unit) : Returns (L2CacheTest.ifThen (L2CacheTest.read dut g) stmt) :=
  fun _ => ⟨(), _, ifThen_run_skip (hg _ _) stmt⟩

/-- A wait whose condition is never `1` ends at once. -/
theorem whileLoop_skip {g : Outputs → Logic} (hg : ∀ s i, g (dut.out s i) ≠ .one)
    (body : Sim σ Unit) (fuel : Nat) :
    Returns (L2CacheTest.whileLoop (L2CacheTest.read dut g) body fuel) :=
  fun _ => ⟨(), _, whileLoop_run_skip (hg _ _) body fuel⟩

theorem writebackCheck (j : Nat) : Returns (L2CacheTest.writebackCheck dut j) :=
  ifThen (get.bind fun _ => (read dut _).bind fun _ => pure _)
    (get.bind fun _ => (read dut _).bind fun _ => of_modify _)

end Returns

/-- A cache that leaves its memory interface unknown passes the transfer. Take a cache whose
`sm_request` is never a known 0 and whose `sm_write` and `sm_addr` are always unknown. From any
bench, for every address, line, writeback address and writeback line, and dirty victim or not,
`do_miss_transfer` returns: the wait for the request ends, and neither the write checks nor the
read checks are taken, since `!` and `!=` give `x` on these outputs. -/
example (dut : L2Cache σ)
    (hrequest : ∀ s i, (dut.out s i).smRequest.truth ≠ .zero)
    (hwrite : ∀ s i, (dut.out s i).smWrite = .unknown 1)
    (haddr : ∀ s i, (dut.out s i).smAddr = .unknown 32) (fuel : Nat) (address : BitVec 26)
    (expected : BitVec 512) (dirty : Bool) (writebackAddress : BitVec 32)
    (writebackData : BitVec 512) (b : Bench σ) :
    ∃ b', (doMissTransfer dut fuel address expected dirty writebackAddress writebackData).run b =
      .ok ((), b') := by
  have hcycle : Returns (cycle dut) := Returns.of_modify _
  -- what the checks of the two phases read
  have hnotWrite : ∀ s i, (dut.out s i).smWrite.truth.not ≠ .one := fun s i => by
    rw [hwrite]
    decide
  have hisWrite : ∀ s i, (dut.out s i).smWrite.truth ≠ .one := fun s i => by
    rw [hwrite]
    decide
  have hbadAddr : ∀ (a : BitVec 32) s i, (dut.out s i).smAddr.ne (.known a) ≠ .one :=
    fun a s i => by
      rw [haddr, Vec.unknown_ne (by decide)]
      decide
  have hruns : Returns
      (doMissTransfer dut fuel address expected dirty writebackAddress writebackData) := by
    unfold doMissTransfer
    refine Returns.bind (Returns.whileLoop_skip dut (g := fun o => o.smRequest.truth.not)
      (fun s i => Logic.not_ne_one (hrequest s i)) _ fuel) fun _ => ?_
    refine Returns.bind (Returns.when ?_) fun _ => ?_
    · -- the write phase
      refine Returns.bind (Returns.ifThen_skip dut hnotWrite _) fun _ => ?_
      refine Returns.bind (Returns.ifThen_skip dut (hbadAddr _) _) fun _ => ?_
      exact (Returns.of_modify _).bind fun _ => Returns.forLanes fun j =>
        (Returns.of_modify _).bind fun _ => (Returns.writebackCheck dut j).bind fun _ => hcycle
    -- the read phase
    refine Returns.bind (Returns.ifThen_skip dut hisWrite _) fun _ => ?_
    refine Returns.bind (Returns.ifThen_skip dut (hbadAddr _) _) fun _ => ?_
    exact (Returns.of_modify _).bind fun _ =>
      (Returns.forLanes fun _ => (Returns.of_modify _).bind fun _ => hcycle).bind fun _ =>
        Returns.of_modify _
  obtain ⟨_, b', h⟩ := hruns b
  exact ⟨b', h⟩

end L2CacheTest

end NyuziSdmmc
