import NyuziSdmmc.Driver
import NyuziSdmmc.Emulator

/-!
# `open_sdmmc_device` and `close_sdmmc_device`

The emulator opens the block device file once, before the card runs, and closes it at the end.
What the two functions see of the host is a parameter: `stat` gives a file's size or fails,
`open` gives a descriptor or a negative value. The model keeps `block_fd`, `block_dev_size`, the
descriptors the host holds open for the emulator, and what `perror` wrote (its own text; the
`strerror` part is the host's).

* `openSdmmcDevice`: only a `block_fd` of `-1` lets it call `stat` and `open`; any other value
  counts as already open, and the call returns 0;
* `closeSdmmcDevice`: `assert(block_fd > 0)`, then `close`. It does not reset `block_fd`;
* `Device.run`: any sequence of the two calls, stopping at a failed assertion;
* `run_lifecycle`: over every such sequence the emulator holds at most one descriptor, and it is
  `block_fd`. Once `block_fd` is not `-1` it never changes and every `open_sdmmc_device` returns
  0, and once the file has been closed it stays closed. After `close_sdmmc_device`, `block_fd`
  names a closed descriptor for the rest of the run;
* the three functions that read `block_fd` test it three ways: `open_sdmmc_device` fails only on
  a negative descriptor, while `close_sdmmc_device` and `CMD_GO_IDLE_STATE` want it positive, so
  they disagree exactly on descriptor 0 (an example after `openSdmmcDevice_init_fd`).
-/

namespace NyuziSdmmc

/-- What `open_sdmmc_device` asks of the host: `stat(filename, &fs)` gives `fs.st_size`, or
fails; `open(filename, O_RDWR)` gives a descriptor, or a negative value. -/
structure HostFiles where
  stat : String → Option Nat
  openFile : String → Int

/-- The emulator's `block_fd` and `block_dev_size`, the descriptors the host holds open for it,
and the lines `perror` wrote. -/
structure Device where
  blockFd : Int
  blockDevSize : Nat
  openFds : List Int
  stderr : List String
  deriving DecidableEq, Repr

/-- The `static` initialisers: `block_fd = -1`, and nothing open. -/
def Device.init : Device := ⟨-1, 0, [], []⟩

/-- `open_sdmmc_device` -/
def openSdmmcDevice (host : HostFiles) (filename : String) (d : Device) : Int × Device :=
  if d.blockFd ≠ -1 then (0, d) -- Already open
  else match host.stat filename with
    | none => (-1, { d with
        stderr := d.stderr ++ ["open_sdmmc_device: failed to stat block device file"] })
    | some size =>
      let fd := host.openFile filename
      let d := { d with
        blockDevSize := u32 size
        blockFd := fd
        openFds := if fd < 0 then d.openFds else fd :: d.openFds }
      if fd < 0 then (-1, { d with
        stderr := d.stderr ++ ["open_sdmmc_device: failed to open block device file"] })
      else (0, d)

/-- How `close_sdmmc_device` stops the emulator: its `assert` fails. -/
inductive Abort
  | assertion
  deriving DecidableEq, Repr

/-- `close_sdmmc_device`: `assert(block_fd > 0); close(block_fd);` -/
def closeSdmmcDevice (d : Device) : Except Abort Device :=
  if 0 < d.blockFd then .ok { d with openFds := d.openFds.erase d.blockFd }
  else .error .assertion

/-- A call the emulator makes. -/
inductive Call
  | openDevice (filename : String)
  | closeDevice

/-- The results of the calls to `open_sdmmc_device`, and the device after all of them. -/
def Device.run (host : HostFiles) : Device → List Call → Except Abort (List Int × Device)
  | d, [] => .ok ([], d)
  | d, .openDevice filename :: calls =>
    (Device.run host (openSdmmcDevice host filename d).2 calls).map
      fun q => ((openSdmmcDevice host filename d).1 :: q.1, q.2)
  | d, .closeDevice :: calls => (closeSdmmcDevice d).bind fun d => Device.run host d calls

/-! ### The life of `block_fd` -/

/-- The emulator holds at most one descriptor, and it is `block_fd`. -/
def Device.OneFd (d : Device) : Prop := d.openFds = [] ∨ (d.openFds = [d.blockFd] ∧ 0 ≤ d.blockFd)

section Lifecycle

variable (host : HostFiles) {d : Device}

/-- Once `block_fd` is not `-1`, `open_sdmmc_device` returns 0 and changes nothing. -/
theorem openSdmmcDevice_of_open (filename : String) (h : d.blockFd ≠ -1) :
    openSdmmcDevice host filename d = (0, d) := if_pos h

theorem openSdmmcDevice_oneFd (filename : String) (hd : d.OneFd) :
    (openSdmmcDevice host filename d).2.OneFd := by
  unfold openSdmmcDevice
  split
  · exact hd
  -- `block_fd` is `-1`, so nothing was open
  have hnone : d.openFds = [] := hd.resolve_right fun ⟨_, h⟩ => by omega
  split
  · exact .inl hnone
  · dsimp only
    split
    · exact .inl hnone
    · exact .inr ⟨by rw [hnone], by dsimp only; omega⟩

theorem closeSdmmcDevice_closes {d' : Device} (hd : d.OneFd) (h : closeSdmmcDevice d = .ok d') :
    d'.blockFd = d.blockFd ∧ d'.openFds = [] := by
  unfold closeSdmmcDevice at h
  split at h
  · cases h
    refine ⟨rfl, ?_⟩
    rcases hd with hd | ⟨hd, -⟩ <;> simp [hd]
  · cases h

/-- **`block_fd` is set once, and a closed file stays closed.** Over any sequence of calls to
`open_sdmmc_device` and `close_sdmmc_device` that does not fail an assertion, the emulator holds
at most one descriptor, and it is `block_fd`. If `block_fd` was already set (not `-1`), it keeps
its value, every `open_sdmmc_device` returns 0, and a file that was closed is not opened again:
after `close_sdmmc_device`, `block_fd` names a closed descriptor for good. -/
theorem run_lifecycle {calls : List Call} {results : List Int} {d' : Device} (hd : d.OneFd)
    (h : Device.run host d calls = .ok (results, d')) :
    d'.OneFd ∧ (d.blockFd ≠ -1 → d'.blockFd = d.blockFd ∧ (∀ r ∈ results, r = 0) ∧
      (d.openFds = [] → d'.openFds = [])) := by
  induction calls generalizing d results with
  | nil => cases h; exact ⟨hd, fun _ => ⟨rfl, nofun, id⟩⟩
  | cons call calls ih =>
    cases call with
    | openDevice filename =>
      obtain ⟨⟨rs, d₁⟩, hrun, hq⟩ := except_map_eq_ok h
      cases hq
      obtain ⟨hd', hset⟩ := ih (openSdmmcDevice_oneFd host filename hd) hrun
      refine ⟨hd', fun hfd => ?_⟩
      rw [openSdmmcDevice_of_open host filename hfd] at hset ⊢
      obtain ⟨hfd', hzero, hclosed⟩ := hset hfd
      exact ⟨hfd', List.forall_mem_cons.2 ⟨rfl, hzero⟩, hclosed⟩
    | closeDevice =>
      rcases hc : closeSdmmcDevice d with e | d₁
      · rw [Device.run, hc] at h; cases h
      rw [Device.run, hc] at h
      obtain ⟨hfd₁, hopen₁⟩ := closeSdmmcDevice_closes hd hc
      obtain ⟨hd', hset⟩ := ih (.inl hopen₁) h
      refine ⟨hd', fun hfd => ?_⟩
      obtain ⟨hfd', hzero, hclosed⟩ := hset (hfd₁ ▸ hfd)
      exact ⟨hfd'.trans hfd₁, hzero, fun _ => hclosed hopen₁⟩

/-- A file open as descriptor 3, closed, then asked for again: the second call returns 0 and the
file stays closed. -/
theorem run_lifecycle_reopen :
    Device.OneFd ⟨3, 4096, [3], []⟩ ∧
      Device.run ⟨fun _ => some 4096, fun _ => 3⟩ ⟨3, 4096, [3], []⟩
        [.closeDevice, .openDevice "disk.img"] = .ok ([0], ⟨3, 4096, [], []⟩) ∧
      Device.OneFd ⟨3, 4096, [], []⟩ ∧
      ((3 : Int) ≠ -1 → (3 : Int) = 3 ∧ (∀ r ∈ [(0 : Int)], r = 0) ∧
        ([3] = ([] : List Int) → ([] : List Int) = [])) :=
  have hd : Device.OneFd ⟨3, 4096, [3], []⟩ := .inr ⟨rfl, by decide⟩
  have h : Device.run ⟨fun _ => some 4096, fun _ => 3⟩ ⟨3, 4096, [3], []⟩
      [.closeDevice, .openDevice "disk.img"] = .ok ([0], ⟨3, 4096, [], []⟩) := rfl
  ⟨hd, h, run_lifecycle _ hd h⟩

end Lifecycle

/-! ### The three checks of `block_fd` -/

section Checks

variable (host : HostFiles)

/-- What a successful `open_sdmmc_device` from the initial state leaves: a descriptor that is not
negative. -/
theorem openSdmmcDevice_init_fd {filename : String} {d : Device}
    (h : openSdmmcDevice host filename Device.init = (0, d)) : 0 ≤ d.blockFd := by
  unfold openSdmmcDevice at h
  rw [if_neg (fun h => h rfl)] at h
  split at h
  · have : (-1 : Int) = 0 := congrArg Prod.fst h
    omega
  · dsimp only at h
    split at h
    · have : (-1 : Int) = 0 := congrArg Prod.fst h
      omega
    · rw [← (Prod.mk.inj h).2]
      dsimp only
      omega

/-- `open_sdmmc_device` accepts a descriptor the rest of the emulator refuses. It fails only when
`open` gives a negative value, while `close_sdmmc_device` asserts `block_fd > 0` and
`CMD_GO_IDLE_STATE` initialises the card only if `block_fd > 0`. Once `open_sdmmc_device` has
returned 0 from the initial state, the other two agree with it exactly when the descriptor is not
0. With descriptor 0, closing the device fails its assertion, and a card in
`STATE_RECEIVE_COMMAND` that completes a reset frame changes nothing: it never initialises. -/
example {filename : String} {d : Device}
    (h : openSdmmcDevice host filename Device.init = (0, d)) :
    0 ≤ d.blockFd ∧ (closeSdmmcDevice d = .error .assertion ↔ d.blockFd = 0) ∧
      ∀ (s : Card) (command : Fin 6 → Byte), s.blockFd = d.blockFd →
        s.currentState = .receiveCommand → (command 0).val &&& 0x3f = cmdGoIdleState →
        (processCommand s command = .ok s ↔ d.blockFd = 0) := by
  have hfd := openSdmmcDevice_init_fd host h
  refine ⟨hfd, ?_, fun s command hs hstate hindex => ?_⟩
  · unfold closeSdmmcDevice
    split
    · exact iff_of_false nofun (by omega)
    · exact iff_of_true rfl (by omega)
  · rw [processCommand, if_pos hindex]
    split
    · refine iff_of_false (fun hsame => ?_) (by omega)
      have := congrArg Card.currentState (Except.ok.inj hsame)
      rw [hstate] at this
      cases this
    · exact iff_of_true rfl (by omega)

end Checks

end NyuziSdmmc
