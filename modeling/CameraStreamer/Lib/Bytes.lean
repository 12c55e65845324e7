import Mathlib.Tactic.Ring
/-!
# Big-endian integers in byte strings

The four-byte length a framed record starts with, and the bytes of a 64-bit
counter. `get_be32_put` and `be64_byte_inj` are what the framing and the nonce
proofs use.
-/

namespace CameraStreamer

abbrev Bytes := List UInt8

namespace BigEndian

/-- The four bytes of `n`, most significant first. -/
def put_be32 (n : UInt32) : Bytes :=
  [(n >>> 24).toUInt8, (n >>> 16).toUInt8, (n >>> 8).toUInt8, n.toUInt8]

def get_be32 (b0 b1 b2 b3 : UInt8) : UInt32 :=
  (b0.toUInt32 <<< 24) ||| (b1.toUInt32 <<< 16) ||| (b2.toUInt32 <<< 8) ||| b3.toUInt32

/-- Byte `i` of the eight bytes of `n`, most significant first. -/
def be64_byte (n : UInt64) (i : Nat) : UInt8 := (n >>> ((7 - i) * 8).toUInt64).toUInt8

theorem shiftLeft_or (a b i : Nat) (h : b < 2 ^ i) : a <<< i ||| b = a * 2 ^ i + b := by
  rw [← Nat.shiftLeft_add_eq_or_of_lt h, Nat.shiftLeft_eq]

theorem get_be32_toNat (b0 b1 b2 b3 : UInt8) :
    (get_be32 b0 b1 b2 b3).toNat = b0.toNat * 2 ^ 24 + b1.toNat * 2 ^ 16 + b2.toNat * 2 ^ 8 + b3.toNat := by
  have h0 := b0.toNat_lt
  have h1 := b1.toNat_lt
  have h2 := b2.toNat_lt
  have h3 := b3.toNat_lt
  have e0 : (b0.toUInt32 <<< 24).toNat = b0.toNat <<< 24 := by
    simp [UInt32.toNat_shiftLeft, Nat.shiftLeft_eq]; omega
  have e1 : (b1.toUInt32 <<< 16).toNat = b1.toNat <<< 16 := by
    simp [UInt32.toNat_shiftLeft, Nat.shiftLeft_eq]; omega
  have e2 : (b2.toUInt32 <<< 8).toNat = b2.toNat <<< 8 := by
    simp [UInt32.toNat_shiftLeft, Nat.shiftLeft_eq]; omega
  simp only [get_be32, UInt32.toNat_or, e0, e1, e2, UInt8.toNat_toUInt32]
  rw [Nat.or_assoc, Nat.or_assoc, shiftLeft_or b2.toNat b3.toNat 8 (by omega),
    shiftLeft_or b1.toNat _ 16 (by omega), shiftLeft_or b0.toNat _ 24 (by omega)]
  omega

/-- Reading back the bytes of a length gives the length. -/
theorem get_be32_put (n : UInt32) :
    get_be32 (n >>> 24).toUInt8 (n >>> 16).toUInt8 (n >>> 8).toUInt8 n.toUInt8 = n := by
  have hn := n.toNat_lt
  apply UInt32.toNat_inj.1
  rw [get_be32_toNat]
  simp [Nat.shiftRight_eq_div_pow]
  omega

@[simp] theorem put_be32_length (n : UInt32) : (put_be32 n).length = 4 := rfl

theorem be64_byte_toNat (n : UInt64) (i : Nat) : (be64_byte n i).toNat = n.toNat / 2 ^ ((7 - i) * 8) % 256 := by
  have hs : (((7 - i) * 8).toUInt64).toNat % 64 = (7 - i) * 8 := by simp; omega
  simp only [be64_byte, UInt64.toNat_toUInt8, UInt64.toNat_shiftRight, hs, Nat.shiftRight_eq_div_pow]

/-- The lowest `k` digits in base `b`, one after the other. -/
theorem mod_pow_eq_of_digits {b m n k : Nat} (h : ∀ i < k, m / b ^ i % b = n / b ^ i % b) : m % b ^ k = n % b ^ k := by
  induction k with
  | zero => rw [Nat.pow_zero, Nat.mod_one, Nat.mod_one]
  | succ k ih =>
    rw [Nat.mod_pow_succ, Nat.mod_pow_succ, ih fun i hi => h i (Nat.lt_succ_of_lt hi), h k (Nat.lt_succ_self k)]

/-- A counter is determined by its eight bytes. -/
theorem be64_byte_inj (m n : UInt64) (h : ∀ i < 8, be64_byte m i = be64_byte n i) : m = n := by
  have hdigits : ∀ i < 8, m.toNat / 256 ^ i % 256 = n.toNat / 256 ^ i % 256 := by
    intro i hi
    have hbyte := congrArg UInt8.toNat (h (7 - i) (by omega))
    -- Byte 7 - i from the left is digit i in base 256.
    rw [be64_byte_toNat, be64_byte_toNat, Nat.sub_sub_self (Nat.le_of_lt_succ hi), Nat.mul_comm, Nat.pow_mul] at hbyte
    exact hbyte
  have hmod := mod_pow_eq_of_digits hdigits
  rw [show 256 ^ 8 = 2 ^ 64 from rfl, Nat.mod_eq_of_lt m.toNat_lt, Nat.mod_eq_of_lt n.toNat_lt] at hmod
  exact UInt64.toNat_inj.1 hmod

end BigEndian

end CameraStreamer
