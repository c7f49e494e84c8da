import Mathlib.Data.Int.Bitwise

/-!
# Bytes and the C integer conversions of the SD/MMC code

The driver and the emulated card pass bytes to each other as `int` values. This file fixes how
their C conversions are read:

* `Byte`: an 8-bit byte (`uint8_t`, a byte of the block file or of `block_buffer`);
* `u32`: `uint32_t` arithmetic, the value modulo `2 ^ 32`;
* `lowByte`: `value & 0xff` stored into a byte;
* `toChar`: an `int` stored through a `char *` (kept modulo 256);
* `charValue`: a `char` widened back to `int`. Whether `char` is signed is the host's choice,
  so it is a parameter: `true` on x86-64, where the emulator usually runs.
-/

namespace NyuziSdmmc

/-- An 8-bit byte. -/
abbrev Byte := Fin 256

/-- `uint32_t` arithmetic: the value modulo `2 ^ 32`. -/
def u32 (n : Nat) : Nat := n % 2 ^ 32

/-- `value & 0xff`, stored into a byte. -/
def lowByte (value : Int) : Byte := Fin.ofNat (Int.land value 0xff).toNat

/-- An `int` stored through `char *`: its value modulo 256. -/
def toChar (value : Int) : Byte := Fin.ofNat (value % 256).toNat

/-- A byte read through `char` and widened to `int`. -/
def charValue (signedChar : Bool) (b : Byte) : Int :=
  if signedChar ∧ 128 ≤ b.val then b.val - 256 else b.val

theorem u32_of_lt {n : Nat} (h : n < 2 ^ 32) : u32 n = n := Nat.mod_eq_of_lt h

theorem u32_lt (n : Nat) : u32 n < 2 ^ 32 := Nat.mod_lt _ (Nat.two_pow_pos 32)

/-- `& 0xff` keeps a non-negative `int` modulo 256. -/
theorem lowByte_natCast_val (n : Nat) : (lowByte n).val = n % 256 := by
  show (n &&& 2 ^ 8 - 1) % 256 = n % 256
  rw [Nat.and_pow_two_sub_one_eq_mod]
  omega

/-- A byte sent as a non-negative `int` is stored back unchanged by `& 0xff`. -/
@[simp] theorem lowByte_val (b : Byte) : lowByte b.val = b :=
  Fin.ext (by rw [lowByte_natCast_val, Nat.mod_eq_of_lt b.isLt])

/-- `value & 0xff` is never negative. -/
theorem land_0xff_toNat (value : Int) :
    ((Int.land value 0xff).toNat : Int) = Int.land value 0xff := by
  cases value <;> rfl

theorem land_0xff_of_lt {n : Nat} (h : n < 256) : Int.land (n : Int) 0xff = n :=
  congrArg Int.ofNat (Nat.and_pow_two_sub_one_of_lt_two_pow (n := 8) h)

/-- Storing a `char` value back through `char *` gives the byte, whatever the signedness. -/
@[simp] theorem toChar_charValue (signedChar : Bool) (b : Byte) :
    toChar (charValue signedChar b) = b := by
  ext
  show (charValue signedChar b % 256).toNat % 256 = b.val
  unfold charValue
  split_ifs <;> omega

@[simp] theorem toChar_comp_charValue (signedChar : Bool) : toChar ∘ charValue signedChar = id :=
  funext (toChar_charValue signedChar)

@[simp] theorem charValue_unsigned (b : Byte) : charValue false b = b.val := by
  simp [charValue]

end NyuziSdmmc
