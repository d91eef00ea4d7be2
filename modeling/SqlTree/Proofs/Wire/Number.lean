/-
This file reads the numbers of the binary format back. So many bytes spell every
number below a bound, each in one way only. A signed number that fits them is
what they spell in two's complement.

Numbers are read from the most significant byte on. For naturals, writing and
reading are inverse to each other between the bytes of a width and the numbers
below a power of 256; a signed number is that of its residue, and its range is
stated in both ways in which it occurs, by the test that the encoder makes and by
powers of two. The uniqueness of the bytes is what lets later files describe an
encoding by how it is read.
-/

import SqlTree.Wire.Encode

namespace SqlTree.Wire

/-! ### Natural numbers -/

/-- The number that bytes spell, the most significant first. -/
def naturalOf : List UInt8 → Nat
  | [] => 0
  | byte :: rest => byte.toNat * Nat.pow 256 rest.length + naturalOf rest

theorem length_naturalBytes (width value : Nat) : (naturalBytes width value).length = width := by
  induction width with
  | zero => rfl
  | succ width inductionHypothesis => exact congrArg (· + 1) inductionHypothesis

/-- What is read of the bytes of a number is the number within their range. -/
theorem naturalOf_naturalBytes (width value : Nat) :
    naturalOf (naturalBytes width value) = value % Nat.pow 256 width := by
  induction width with
  | zero => exact (Nat.mod_one value).symm
  | succ width inductionHypothesis =>
    rw [naturalBytes, naturalOf, length_naturalBytes, inductionHypothesis, UInt8.toNat_ofNat',
      Nat.pow_succ, Nat.mul_comm (value / _ % _), Nat.add_comm]
    exact (Nat.mod_mul).symm

/-- So many bytes spell a number below a power of 256. -/
theorem naturalOf_lt (bytes : List UInt8) : naturalOf bytes < Nat.pow 256 bytes.length := by
  induction bytes with
  | nil => exact Nat.one_pos
  | cons byte rest inductionHypothesis =>
    have small : byte.toNat < 256 := byte.toNat_lt
    calc byte.toNat * Nat.pow 256 rest.length + naturalOf rest
        < byte.toNat * Nat.pow 256 rest.length + Nat.pow 256 rest.length :=
          Nat.add_lt_add_left inductionHypothesis _
      _ = (byte.toNat + 1) * Nat.pow 256 rest.length := (Nat.succ_mul _ _).symm
      _ ≤ 256 * Nat.pow 256 rest.length := Nat.mul_le_mul_right _ small
      _ = Nat.pow 256 (rest.length + 1) := Nat.mul_comm _ _

/-- So many bytes spell a number in one way only. -/
theorem eq_of_naturalOf_eq {first second : List UInt8} (length : first.length = second.length)
    (same : naturalOf first = naturalOf second) : first = second := by
  induction first generalizing second with
  | nil => exact (List.length_eq_zero_iff.mp length.symm).symm
  | cons byte rest inductionHypothesis =>
    cases second with
    | nil => cases length
    | cons other others =>
      have restLength : rest.length = others.length := Nat.succ.inj length
      have small := naturalOf_lt rest
      have otherSmall := naturalOf_lt others
      rw [naturalOf, naturalOf, ← restLength] at same
      rw [← restLength] at otherSmall
      have sameByte : byte = other := by
        have quotients := congrArg (· / Nat.pow 256 rest.length) same
        simp only [Nat.mul_comm _ (Nat.pow 256 rest.length),
          Nat.mul_add_div (Nat.zero_lt_of_lt small), Nat.div_eq_of_lt small,
          Nat.div_eq_of_lt otherSmall] at quotients
        exact UInt8.toNat_inj.mp quotients
      subst sameByte
      rw [inductionHypothesis restLength (Nat.add_left_cancel same)]

/-- So many bytes spell a number below the bound exactly if they are its bytes. -/
theorem eq_naturalBytes_iff {width value : Nat} (small : value < Nat.pow 256 width)
    (bytes : List UInt8) :
    bytes = naturalBytes width value ↔ bytes.length = width ∧ naturalOf bytes = value := by
  have spelled : naturalOf (naturalBytes width value) = value := by
    rw [naturalOf_naturalBytes]
    exact Nat.mod_eq_of_lt small
  constructor
  · rintro rfl
    exact ⟨length_naturalBytes width value, spelled⟩
  · rintro ⟨length, same⟩
    refine eq_of_naturalOf_eq (length.trans (length_naturalBytes width value).symm) ?_
    rw [same, spelled]

/-! ### Signed numbers -/

/-- The number that bytes spell in two's complement. -/
def signedOf (bytes : List UInt8) : Int :=
  if 2 * naturalOf bytes < Nat.pow 256 bytes.length then naturalOf bytes
  else naturalOf bytes - (Nat.pow 256 bytes.length : Nat)

theorem length_signedBytes (width : Nat) (value : Int) :
    (signedBytes width value).length = width :=
  length_naturalBytes _ _

theorem pow_eq_double {width : Nat} (positive : 0 < width) :
    Nat.pow 256 width = 2 * Nat.pow 2 (8 * width - 1) := by
  have exponent : 8 * width = 8 * width - 1 + 1 := by omega
  calc Nat.pow 256 width = Nat.pow (Nat.pow 2 8) width := rfl
    _ = Nat.pow 2 (8 * width) := (Nat.pow_mul 2 8 width).symm
    _ = Nat.pow 2 (8 * width - 1 + 1) := by rw [← exponent]
    _ = 2 * Nat.pow 2 (8 * width - 1) := Nat.mul_comm _ _

/-- A signed number fits its bytes if it is in the range of two's complement. -/
theorem fits_iff (width : Nat) (value : Int) :
    fits width value ↔ -(Nat.pow 2 (8 * width - 1) : Nat) ≤ value ∧
      value < (Nat.pow 2 (8 * width - 1) : Nat) := by
  rw [fits, Bool.and_eq_true, decide_eq_true_eq, decide_eq_true_eq]

/-- A number that fits so many bytes is what they spell. -/
theorem signedOf_signedBytes {width : Nat} {value : Int} (positive : 0 < width)
    (fitting : fits width value) : signedOf (signedBytes width value) = value := by
  obtain ⟨lower, upper⟩ := (fits_iff width value).mp fitting
  have double := pow_eq_double positive
  generalize Nat.pow 2 (8 * width - 1) = half at lower upper double
  rw [signedOf, length_signedBytes, signedBytes, naturalOf_naturalBytes, double]
  by_cases negative : value < 0
  · have wrapped : value % ((2 * half : Nat) : Int) = value + (2 * half : Nat) := by
      rw [← Int.add_emod_right, Int.emod_eq_of_lt] <;> omega
    rw [wrapped, Nat.mod_eq_of_lt (by omega), if_neg (by omega)]
    omega
  · have kept : value % ((2 * half : Nat) : Int) = value :=
      Int.emod_eq_of_lt (Int.not_lt.mp negative) (by omega)
    rw [kept, Nat.mod_eq_of_lt (by omega), if_pos (by omega)]
    omega

/-- Bytes spell a signed number that fits them. -/
theorem fits_signedOf {bytes : List UInt8} (positive : 0 < bytes.length) :
    fits bytes.length (signedOf bytes) := by
  rw [fits_iff, signedOf]
  have double := pow_eq_double positive
  have small := naturalOf_lt bytes
  generalize Nat.pow 2 (8 * bytes.length - 1) = half at double ⊢
  split <;> omega

/-- Bytes of one length that spell the same number are the same. -/
theorem eq_of_signedOf_eq {first second : List UInt8} (length : first.length = second.length)
    (same : signedOf first = signedOf second) : first = second := by
  have small := naturalOf_lt first
  have otherSmall := naturalOf_lt second
  refine eq_of_naturalOf_eq length ?_
  rw [signedOf, signedOf, length] at same
  rw [length] at small
  split at same <;> split at same <;> omega

/-- So many bytes spell a signed number exactly if it fits them and they are its
bytes. -/
theorem eq_signedBytes_iff {width : Nat} (positive : 0 < width) (value : Int)
    (bytes : List UInt8) :
    fits width value ∧ bytes = signedBytes width value ↔
      bytes.length = width ∧ signedOf bytes = value := by
  constructor
  · rintro ⟨fitting, rfl⟩
    exact ⟨length_signedBytes width value, signedOf_signedBytes positive fitting⟩
  · rintro ⟨rfl, rfl⟩
    have fitting := fits_signedOf positive
    refine ⟨fitting, eq_of_signedOf_eq (length_signedBytes _ _).symm ?_⟩
    rw [signedOf_signedBytes positive fitting]

end SqlTree.Wire
