import NyuziSdmmc.Driver

/-!
# The `l2_cache_test` testbench

The Verilog module `l2_cache_test` drives an `l2_cache` through 22 loads and stores and checks
what comes back. The cache itself, and the header `l2_cache.h` with `PCI_LOAD` and `PCI_STORE`,
are not in this file: the cache is a parameter. The model reads the testbench at the level of
its clock:

* `Vec w`: a four-state vector in the simulator's `aval`/`bval` encoding. The cache's outputs may
  hold `x` or `z`, since nothing resets it. Every register of the testbench is initialised and
  only ever assigned known values, so those are `BitVec`s;
* `Vec.ne`, `Vec.truth` and `Logic`: `!=`, and the value that `if`, `while`, `!` and `&&` take.
  A condition is taken only when it is `1`. `!==` compares all four states, which is inequality
  of the encodings;
* `L2Cache σ`: the cache as a clocked machine: its outputs, from its state and the inputs as they
  stood when time last moved, and its state after a rising edge of `clk`;
* `Bench σ` and `Sim σ α`: the cache, the testbench registers wired to it, the inputs its outputs
  last saw, `expected_lane_data`, and the lines `$display` printed. A computation may halt, on
  `$finish` or on a wait the cache does not end within `fuel` cycles, and keeps the state it
  halted in;
* `cycle`: `#5 clk = 1; #5 clk = 0;`, the only place where time moves. An assignment followed
  by a read with no delay in between reads what the cache showed before the assignment;
* `doMissTransfer`, `l2Load`, `l2Store` and `initial`: the tasks and the `initial` block.

Left out: `$dumpfile` and `$dumpvars`, which only record a trace; the outputs `cpi_status`,
`cpi_unit`, `cpi_strand`, `cpi_op` and `cpi_way`, which nothing reads; the loop variable `j` as
a register (only the loops read it); the formatting `$display` applies to its arguments.
-/

namespace NyuziSdmmc

namespace L2CacheTest

/-! ### Four-state values -/

/-- A one-bit result: `!=`, `!` and `&&` give `x` where the answer depends on unknown bits. -/
inductive Logic
  | zero
  | one
  | x
  deriving DecidableEq, Repr

namespace Logic

/-- `!` -/
def not : Logic → Logic
  | zero => one
  | one => zero
  | x => x

/-- `&&` -/
def and : Logic → Logic → Logic
  | zero, _ => zero
  | _, zero => zero
  | one, one => one
  | _, _ => x

/-- A known bit. -/
def ofBool (b : Bool) : Logic := if b then one else zero

end Logic

/-- A four-state vector of `w` bits, as a simulator stores it: where `bval` is clear the bit is
`aval`, where it is set the bit is `z` (`aval` clear) or `x` (`aval` set). -/
structure Vec (w : Nat) where
  aval : BitVec w
  bval : BitVec w
  deriving DecidableEq, Repr

namespace Vec

variable {w : Nat}

/-- A vector with every bit known. -/
def known (v : BitVec w) : Vec w := ⟨v, 0⟩

/-- The value of a vector as a condition: `1` if some known bit is `1`, `0` if every bit is a
known `0`, `x` otherwise. -/
def truth (v : Vec w) : Logic :=
  if v.aval &&& ~~~v.bval ≠ 0 then .one else if v.bval ≠ 0 then .x else .zero

/-- `a != b`: `1` if some bit is known in both and differs, else `x` if some bit is unknown in
either, else `0`. -/
def ne (a b : Vec w) : Logic :=
  if (a.aval ^^^ b.aval) &&& ~~~(a.bval ||| b.bval) ≠ 0 then .one
  else if a.bval ||| b.bval ≠ 0 then .x else .zero

end Vec

/-! ### The cache and the bench -/

/-- The registers of the testbench wired to the cache's inputs. -/
structure Inputs where
  pciValid : BitVec 1
  pciUnit : BitVec 2
  pciStrand : BitVec 2
  pciOp : BitVec 3
  pciWay : BitVec 2
  pciAddress : BitVec 26
  pciData : BitVec 512
  pciMask : BitVec 64
  /-- `ack_i` -/
  smAck : BitVec 1
  /-- `data_i` -/
  dataFromSm : BitVec 32
  deriving DecidableEq, Repr

/-- Each `reg` starts at its initialiser, `0`. -/
def Inputs.init : Inputs := ⟨0, 0, 0, 0, 0, 0, 0, 0, 0, 0⟩

/-- The cache's outputs the testbench reads. -/
structure Outputs where
  pciAck : Vec 1
  cpiValid : Vec 1
  cpiUpdate : Vec 1
  cpiData : Vec 512
  /-- `addr_o` -/
  smAddr : Vec 32
  /-- `request_o` -/
  smRequest : Vec 1
  /-- `write_o` -/
  smWrite : Vec 1
  /-- `data_o` -/
  dataToSm : Vec 32

/-- The `l2_cache` instance `l2c`, with the `PCI_LOAD` and `PCI_STORE` of `l2_cache.h`: its
outputs from its state and its inputs, and its state after a rising edge of `clk`, which samples
the inputs. -/
structure L2Cache (σ : Type) where
  out : σ → Inputs → Outputs
  step : σ → Inputs → σ
  pciLoad : BitVec 3
  pciStore : BitVec 3

/-- An argument of `$display`: a string, an `integer`, or a vector. -/
inductive Arg
  | text (s : String)
  | int (n : Nat)
  | bits (w : Nat) (v : Vec w)
  deriving DecidableEq, Repr

/-- A line `$display` printed: its format and its arguments. -/
structure Display where
  format : String
  args : List Arg
  deriving DecidableEq, Repr

/-- The simulation as the testbench sees it: the cache's state, the registers wired to it, the
inputs as they stood when time last moved, `expected_lane_data`, and what `$display` printed. -/
structure Bench (σ : Type) where
  cache : σ
  regs : Inputs
  settled : Inputs
  expectedLaneData : BitVec 32
  log : List Display

/-- The bench at time 0, with the cache in state `cache`. -/
def Bench.init {σ : Type} (cache : σ) : Bench σ := ⟨cache, Inputs.init, Inputs.init, 0, []⟩

/-- Why the simulation ends before the `initial` block does. -/
inductive Halt
  | finish
  | timeout
  deriving DecidableEq, Repr

/-- A piece of the testbench: it reads and writes the bench, and may halt, keeping the bench as
it was then. -/
abbrev Sim (σ α : Type) := StateT (Bench σ) (Except (Halt × Bench σ)) α

/-! ### Statements -/

section Statements

variable {σ : Type} (dut : L2Cache σ)

/-- A value computed from the cache's outputs as the testbench sees them now. -/
def read {α : Type} (g : Outputs → α) : Sim σ α := fun b =>
  .ok (g (dut.out b.cache b.settled), b)

/-- `#5 clk = 1; #5 clk = 0;`: the rising edge clocks the cache with the registers as they are,
and the outputs then settle on them. -/
def cycle : Sim σ Unit :=
  modify fun b => { b with cache := dut.step b.cache b.regs, settled := b.regs }

/-- Assignments to the registers wired to the cache. -/
def setRegs (f : Inputs → Inputs) : Sim σ Unit :=
  modify fun b => { b with regs := f b.regs }

/-- `$display` -/
def display (format : String) (args : List Arg) : Sim σ Unit :=
  modify fun b => { b with log := b.log ++ [⟨format, args⟩] }

/-- `$finish` -/
def finish : Sim σ Unit := fun b => .error (.finish, b)

/-- A wait the cache has not ended within the cycles allowed. -/
def timeout : Sim σ Unit := fun b => .error (.timeout, b)

/-- `if (cond) stmt`: taken only when `cond` is `1`. -/
def ifThen (cond : Sim σ Logic) (stmt : Sim σ Unit) : Sim σ Unit := do
  if (← cond) = .one then stmt

/-- `while (cond) body`, allowed `fuel` more iterations. -/
def whileLoop (cond : Sim σ Logic) (body : Sim σ Unit) : Nat → Sim σ Unit
  | 0 => do if (← cond) = .one then timeout
  | fuel + 1 => do
    if (← cond) = .one then
      body
      whileLoop cond body fuel

@[simp] theorem read_run {α : Type} (g : Outputs → α) (b : Bench σ) :
    (read dut g).run b = .ok (g (dut.out b.cache b.settled), b) := rfl

@[simp] theorem cycle_run (b : Bench σ) :
    (cycle dut).run b = .ok ((), { b with cache := dut.step b.cache b.regs, settled := b.regs }) :=
  rfl

@[simp] theorem setRegs_run (f : Inputs → Inputs) (b : Bench σ) :
    (setRegs f).run b = .ok ((), { b with regs := f b.regs }) := rfl

@[simp] theorem display_run (format : String) (args : List Arg) (b : Bench σ) :
    (display format args).run b = .ok ((), { b with log := b.log ++ [⟨format, args⟩] }) := rfl

@[simp] theorem finish_run (b : Bench σ) : (finish : Sim σ Unit).run b = .error (.finish, b) := rfl

@[simp] theorem timeout_run (b : Bench σ) : (timeout : Sim σ Unit).run b = .error (.timeout, b) :=
  rfl

/-- A statement followed by the rest: once the statement has returned, the rest runs from where it
left the bench. -/
theorem run_bind_of_ok {α β : Type} {m : Sim σ α} {k : α → Sim σ β} {b b₁ : Bench σ} {a : α}
    (h : m.run b = .ok (a, b₁)) : (m >>= k).run b = (k a).run b₁ := by
  rw [StateT.run_bind, h]
  rfl

theorem modify_bind_run {β : Type} (f : Bench σ → Bench σ) (k : Unit → Sim σ β) (b : Bench σ) :
    ((modify f : Sim σ Unit) >>= k).run b = (k ()).run (f b) := rfl

/-- `for (j = 0; j < 16; j = j + 1) body` -/
def forLanes (body : Nat → Sim σ Unit) : Sim σ Unit :=
  (List.range 16).forM body

/-- `(line >> (32 * (15 - j)))` assigned to a 32-bit register: lane `j` of a line, the most
significant first. -/
def lane (line : BitVec 512) (j : Nat) : BitVec 32 :=
  (line >>> (32 * (15 - j))).truncate 32

/-- The format of the one check that does not `$finish`. -/
def writebackMismatch : String := "writeback mismatch, offset %d want %x got %x"

/-- `if (expected_lane_data != data_to_sm) $display(...)`: a lane of the written-back line that
differs is printed, and the test goes on. -/
def writebackCheck (j : Nat) : Sim σ Unit :=
  ifThen (do pure ((Vec.known (← get).expectedLaneData).ne (← read dut Outputs.dataToSm))) do
    display writebackMismatch
      [.int j, .bits 32 (.known (← get).expectedLaneData), .bits 32 (← read dut Outputs.dataToSm)]

/-- `do_miss_transfer`: wait for the cache's memory request; if the victim is dirty, take the
written-back line lane by lane; then answer the read with `expected`, lane by lane. -/
def doMissTransfer (fuel : Nat) (address : BitVec 26) (expected : BitVec 512) (dirty : Bool)
    (writebackAddress : BitVec 32) (writebackData : BitVec 512) : Sim σ Unit := do
  -- Wait for request
  whileLoop (read dut fun o => o.smRequest.truth.not) (cycle dut) fuel
  when dirty do
    -- Write phase...
    ifThen (read dut fun o => o.smWrite.truth.not) do
      display "write not asserted" []
      finish
    ifThen (read dut fun o => o.smAddr.ne (.known (writebackAddress * 64))) do
      display "bad write address want %08x got %08x"
        [.bits 32 (.known writebackAddress), .bits 32 (← read dut Outputs.smAddr)]
      finish
    setRegs fun r => { r with smAck := 1 }
    forLanes fun j => do
      modify fun b => { b with expectedLaneData := lane writebackData j }
      writebackCheck dut j
      cycle dut
  ifThen (read dut fun o => o.smWrite.truth) do
    display "write asserted for read phase" []
    finish
  ifThen (read dut fun o => o.smAddr.ne (.known (address.zeroExtend 32 * 64))) do
    display "bad read address" []
    finish
  -- Read phase
  setRegs fun r => { r with smAck := 1 }
  forLanes fun j => do
    setRegs fun r => { r with dataFromSm := lane expected j }
    cycle dut
  setRegs fun r => { r with smAck := 0 }

/-- What `l2_load` and `l2_store` share once the request is on the inputs: wait for `pci_ack`,
drop `pci_valid`, serve a miss (`cache_hit == CACHE_MISS`), and wait for `cpi_valid`, checking
that a hit makes no memory request. -/
def awaitResponse (fuel : Nat) (address : BitVec 26) (expected : BitVec 512)
    (cacheHit dirty : Bool) (writebackAddr : BitVec 32) (writebackData : BitVec 512) :
    Sim σ Unit := do
  whileLoop (read dut fun o => .ofBool (o.pciAck != .known 1)) (cycle dut) fuel
  setRegs fun r => { r with pciValid := 0 }
  when (cacheHit = false) do
    doMissTransfer dut fuel address expected dirty writebackAddr writebackData
  whileLoop (read dut fun o => o.cpiValid.truth.not) (do
    cycle dut
    ifThen (read dut fun o => o.smRequest.truth.and (.ofBool cacheHit)) do
      display "unexpected sm request" []
      finish) fuel

/-- `l2_load` -/
def l2Load (fuel : Nat) (address : BitVec 26) (expected : BitVec 512) (cacheHit dirty : Bool)
    (writebackAddr : BitVec 32) (writebackData : BitVec 512) : Sim σ Unit := do
  display "test load %s %s %x" [.text (if cacheHit then "hit" else "miss"),
    .text (if dirty then "dirty" else ""), .bits 26 (.known address)]
  setRegs fun r => { r with
    pciValid := 1, pciUnit := 0, pciStrand := 0, pciOp := dut.pciLoad, pciWay := 0
    pciAddress := address }
  awaitResponse dut fuel address expected cacheHit dirty writebackAddr writebackData
  -- Check result
  ifThen (read dut fun o => .ofBool (o.cpiData != .known expected)) do
    display "load mismatch want \n\t%x\n got \n\t%x"
      [.bits 512 (.known expected), .bits 512 (← read dut Outputs.cpiData)]
    finish

/-- `l2_store` -/
def l2Store (fuel : Nat) (address : BitVec 26) (mask : BitVec 64) (writeData expected : BitVec 512)
    (cacheHit dirty : Bool) (writebackAddr : BitVec 32) (writebackData : BitVec 512) :
    Sim σ Unit := do
  display "test store %s %s %08x" [.text (if cacheHit then "hit" else "miss"),
    .text (if dirty then "dirty" else ""), .bits 26 (.known address)]
  setRegs fun r => { r with
    pciValid := 1, pciUnit := 0, pciStrand := 0, pciOp := dut.pciStore, pciWay := 0
    pciAddress := address, pciMask := mask, pciData := writeData }
  awaitResponse dut fuel address expected cacheHit dirty writebackAddr writebackData
  ifThen (read dut fun o => .ofBool (o.cpiUpdate != .known 1)) do
    display "no update" []
    finish
  -- Make sure new data is reflected
  ifThen (read dut fun o => .ofBool (o.cpiData != .known expected)) do
    display "data update mismatch want \n\t%x\n got \n\t%x"
      [.bits 512 (.known expected), .bits 512 (← read dut Outputs.cpiData)]
    finish
  cycle dut

end Statements

/-! ### The `initial` block -/

def pat1 : BitVec 512 :=
  0xe557b78bd40df4cde9ffa5ebf868c1cf7068c30a7587ddb37ad4cd9edb1d8751e885f505a44997b886a76f8a7caba015171b4022bc9b761ee23a11e00f19f338#512

def pat2 : BitVec 512 :=
  0xe6c17f8fe83fce2b441752d7754ab59e073efaacc228c3c2690616fb798c2decb02c0a260867862cd005317075dd9baefef44d272475f81730883ef97843afb7#512

def pat3 : BitVec 512 :=
  0x3b163cf22c8bb48e758bd67a2b43553e0ca7b1e050e3ee5d85c91d0e4b9b5700c54108ecb6a76fb3b9a097d10e96a9e8868b9ca0fd8cbf957d5738dbd1e481a2#512

def pat4 : BitVec 512 :=
  0x95ffd554d65f92f7b44c0c6870b298b72b8522878b2a3311b55ee570c46037870cb78e49c3bfb6deb65f42e72a80ae2cdf8fb98d71a2ecc1e495ec5d941d9c6f#512

def pat5 : BitVec 512 :=
  0x2610d6958316f1e812c733e5636488fdd31db1394410e9c98d57003d61bcf849fc26c1e1303516bd532828a1546b0c871228c78bc404f1f85d505827e4923f13#512

def pat1Pat5 : BitVec 512 :=
  0xe557b78b8316f1e8e9ffa5eb636488fd7068c30a4410e9c97ad4cd9e61bcf849e885f505303516bd86a76f8a546b0c87171b4022c404f1f8e23a11e0e4923f13#512

def mask1 : BitVec 64 := 0x0f0f0f0f0f0f0f0f

def mask2 : BitVec 64 := 0xffffffffffffffff

section Initial

variable {σ : Type} (dut : L2Cache σ)

/-- The `initial` block, each wait allowed `fuel` cycles. A hit is `true` (`CACHE_HIT`), a dirty
victim is `true` (`CACHE_DIRTY`). -/
def initial (fuel : Nat) : Sim σ Unit := do
  cycle dut
  -- Load data into 2 sets and 2 ways within each set.
  l2Load dut fuel 0xa000 pat1 false false 0 0
  l2Load dut fuel 0xb000 pat2 false false 0 0
  l2Load dut fuel 0xa001 pat3 false false 0 0
  l2Load dut fuel 0xb001 pat4 false false 0 0
  -- read the same data again, ensuring we get a cache hit
  l2Load dut fuel 0xa000 pat1 true false 0 0
  l2Load dut fuel 0xb000 pat2 true false 0 0
  l2Load dut fuel 0xa001 pat3 true false 0 0
  l2Load dut fuel 0xb001 pat4 true false 0 0
  -- Write a masked value to one of the lines.  Read it back again
  l2Store dut fuel 0xa000 mask1 pat5 pat1Pat5 true false 0 0
  l2Load dut fuel 0xa000 pat1Pat5 true false 0 0
  -- Read back the other data to ensure it is still intact.
  l2Load dut fuel 0xb000 pat2 true false 0 0
  l2Load dut fuel 0xa001 pat3 true false 0 0
  l2Load dut fuel 0xb001 pat4 true false 0 0
  -- Store miss (new set)
  l2Store dut fuel 0xa002 mask2 pat1 pat1 false false 0 0
  l2Load dut fuel 0xb002 0 false false 0 0
  l2Load dut fuel 0xc002 0 false false 0 0
  l2Load dut fuel 0xd002 0 false false 0 0
  -- This one will evict a dirty line (the first one that missed)
  l2Load dut fuel 0xe002 pat4 false true 0xa002 pat1
  -- Make sure these do not evict a line.
  l2Load dut fuel 0xf002 pat2 false false 0 0
  l2Load dut fuel 0x10002 pat3 false false 0 0
  l2Load dut fuel 0x11002 pat4 false false 0 0
  -- Now, this one will replace e002.
  l2Load dut fuel 0x12002 pat1 false false 0 0
  display "test complete" []

end Initial

end L2CacheTest

end NyuziSdmmc
