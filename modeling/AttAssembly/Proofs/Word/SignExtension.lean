import Mathlib
import AttAssembly.Word

/-!
Two's complement. The low bits of an integer, read with a sign, are its balanced residue: the one
integer in the signed range of that width that is congruent to it modulo the power of two. Of two
widths one after the other only the smaller counts, and a width has to be positive.
-/

namespace AttAssembly

/-- The integers that `bits` bits hold in two's complement. -/
def SignedWidth (bits : Nat) (value : Int) : Prop :=
  -2 ^ (bits - 1) ≤ value ∧ value < 2 ^ (bits - 1)

section Widths

variable {bits : Nat} (positive : 0 < bits)
include positive

theorem twice_half : (2 : Int) ^ bits = 2 * 2 ^ (bits - 1) := by
  rw [← pow_succ', Nat.sub_add_cancel positive]

theorem signExtend_eq_bmod (x : Int) : signExtend bits x = x.bmod (2 ^ bits) := by
  have half : ((2 : Int) ^ bits + 1) / 2 = 2 ^ (bits - 1) := by
    rw [twice_half positive]
    omega
  rw [Int.bmod_def]
  push_cast
  rw [half]
  rfl

theorem signExtend_signed (x : Int) : SignedWidth bits (signExtend bits x) := by
  have twice := twice_half positive
  have least := Int.le_bmod (x := x) (Nat.two_pow_pos bits)
  have most := Int.bmod_lt (x := x) (Nat.two_pow_pos bits)
  push_cast at least most
  rw [signExtend_eq_bmod positive]
  constructor <;> omega

theorem signExtend_congruent (x : Int) : signExtend bits x ≡ x [ZMOD 2 ^ bits] := by
  have residue := Int.bmod_emod (x := x) (m := 2 ^ bits)
  push_cast at residue
  rw [signExtend_eq_bmod positive]
  exact residue

/-- An integer of the signed range is left alone. -/
theorem SignedWidth.signExtend_self {value : Int} (signed : SignedWidth bits value) :
    signExtend bits value = value := by
  have twice := twice_half positive
  obtain ⟨least, most⟩ := signed
  rw [signExtend_eq_bmod positive]
  apply Int.bmod_eq_of_le
  · push_cast
    omega
  · push_cast
    omega

omit positive in
theorem signExtend_of_congruent {x y : Int} (congruent : x ≡ y [ZMOD 2 ^ bits]) :
    signExtend bits x = signExtend bits y := by
  have low : x % Int.pow 2 bits = y % Int.pow 2 bits := congruent
  rw [signExtend, signExtend, low]

theorem signExtend_unique (x value : Int) :
    value = signExtend bits x ↔ SignedWidth bits value ∧ value ≡ x [ZMOD 2 ^ bits] := by
  constructor
  · rintro rfl
    exact ⟨signExtend_signed positive x, signExtend_congruent positive x⟩
  · rintro ⟨signed, congruent⟩
    calc
      value = signExtend bits value := (signed.signExtend_self positive).symm
      _ = signExtend bits x := signExtend_of_congruent congruent

end Widths

section Formula

theorem flip_top (n low : Nat) (below : low < 2 ^ (n + 1)) :
    low ^^^ 2 ^ n = if low < 2 ^ n then low + 2 ^ n else low - 2 ^ n := by
  have quotient : (low ^^^ 2 ^ n) / 2 ^ n = low / 2 ^ n ^^^ 1 := by
    rw [Nat.xor_div_two_pow, Nat.div_self (Nat.two_pow_pos n)]
  have remainder : (low ^^^ 2 ^ n) % 2 ^ n = low % 2 ^ n := by
    rw [Nat.xor_mod_two_pow, Nat.mod_self, Nat.xor_zero]
  rw [← Nat.div_add_mod (low ^^^ 2 ^ n) (2 ^ n), quotient, remainder]
  split
  · next small =>
      rw [Nat.div_eq_of_lt small, Nat.mod_eq_of_lt small, Nat.zero_xor, Nat.mul_one, Nat.add_comm]
  · next large =>
      -- The quotient is one, so the flip leaves nothing but the remainder.
      have top : low / 2 ^ n = 1 := by
        rw [Nat.pow_succ] at below
        exact Nat.div_eq_of_lt_le (by omega) (by omega)
      have rest := Nat.div_add_mod low (2 ^ n)
      rw [top] at rest ⊢
      rw [Nat.xor_self, Nat.mul_zero]
      omega

/-- The top bit is read as a sign by flipping it and taking its weight off again. -/
theorem signExtend_eq_flipped {bits : Nat} (positive : 0 < bits) (x : Int) :
    signExtend bits x =
      ((x % 2 ^ bits).toNat ^^^ 2 ^ (bits - 1) : Nat) - 2 ^ (bits - 1) := by
  have modulus : (0 : Int) < 2 ^ bits := by positivity
  have least := Int.emod_nonneg x modulus.ne'
  have most := Int.emod_lt_of_pos x modulus
  have twice := twice_half positive
  have low : signExtend bits x =
      if x % 2 ^ bits < 2 ^ (bits - 1) then x % 2 ^ bits else x % 2 ^ bits - 2 ^ bits := rfl
  have below : (x % 2 ^ bits).toNat < 2 ^ (bits - 1 + 1) := by
    rw [Nat.sub_add_cancel positive, Int.toNat_lt least]
    push_cast
    exact most
  rw [low, flip_top (bits - 1) _ below]
  generalize x % 2 ^ bits = residue at least most
  have small : residue.toNat < 2 ^ (bits - 1) ↔ residue < 2 ^ (bits - 1) := by
    rw [Int.toNat_lt least]
    push_cast
    exact Iff.rfl
  by_cases half : residue < 2 ^ (bits - 1)
  · rw [if_pos half, if_pos (small.mpr half)]
    push_cast
    omega
  · have large : ¬ residue.toNat < 2 ^ (bits - 1) := fun below => half (small.mp below)
    rw [if_neg half, if_neg large, Nat.cast_sub (Nat.le_of_not_lt large)]
    push_cast
    omega

end Formula

section Composition

variable {first second : Nat}

theorem SignedWidth.mono {value : Int} (signed : SignedWidth first value) (wider : first ≤ second) :
    SignedWidth second value := by
  have power : (2 : Int) ^ (first - 1) ≤ 2 ^ (second - 1) :=
    pow_le_pow_right₀ (by decide) (Nat.sub_le_sub_right wider 1)
  obtain ⟨least, most⟩ := signed
  constructor <;> omega

theorem signExtend_signExtend (positive : 0 < first) (also : 0 < second) (x : Int) :
    signExtend second (signExtend first x) = signExtend (min first second) x := by
  rcases Nat.le_total first second with wider | narrower
  · -- What the smaller width holds is left alone by the larger.
    rw [Nat.min_eq_left wider]
    exact ((signExtend_signed positive x).mono wider).signExtend_self also
  · -- The smaller width looks only at bits that the larger has kept.
    rw [Nat.min_eq_right narrower]
    have divides : (2 : Int) ^ second ∣ 2 ^ first := pow_dvd_pow 2 narrower
    exact signExtend_of_congruent ((signExtend_congruent positive x).of_dvd divides)

end Composition

section Requests

variable {bits : Int}

theorem signExtend?_positive (positive : 0 < bits) (x : Int) :
    signExtend? bits x = .ok (signExtend bits.toNat x) := if_pos positive

theorem signExtend?_error_iff (x : Int) :
    signExtend? bits x = .error .notPositive ↔ bits ≤ 0 := by
  rw [signExtend?]
  split
  · next positive => simpa using positive
  · next negative => simpa using negative

end Requests

/-- For a positive width the answer is the one integer of the signed range that is congruent to `x`,
got by flipping the top bit and taking its weight off. Two widths one after the other do what the
smaller does. The answer is an error exactly if the width is not positive. -/
theorem sign_extension_twos_complement :
    (∀ bits x : Int, 0 < bits → ∃ value, signExtend? bits x = .ok value ∧
      value = ((x % 2 ^ bits.toNat).toNat ^^^ 2 ^ (bits.toNat - 1) : Nat) - 2 ^ (bits.toNat - 1) ∧
      ∀ other, other = value ↔
        SignedWidth bits.toNat other ∧ other ≡ x [ZMOD 2 ^ bits.toNat]) ∧
    (∀ first second x : Int, 0 < first → 0 < second →
      (signExtend? first x >>= signExtend? second) = signExtend? (min first second) x) ∧
    ∀ bits x : Int, signExtend? bits x = .error .notPositive ↔ bits ≤ 0 := by
  refine ⟨?_, ?_, fun bits x => signExtend?_error_iff x⟩
  · intro bits x positive
    have width : 0 < bits.toNat := by omega
    exact ⟨_, signExtend?_positive positive x, signExtend_eq_flipped width x,
      signExtend_unique width x⟩
  · intro first second x positive also
    have smaller : min first.toNat second.toNat = (min first second).toNat := by omega
    have composed := @signExtend_signExtend first.toNat second.toNat (by omega) (by omega) x
    rw [signExtend?_positive positive, signExtend?_positive (lt_min positive also), ← smaller,
      ← composed]
    exact signExtend?_positive also _

/-- The only bit is the sign, and a byte is widened after it was cut off. -/
theorem sign_extension_twos_complement_narrow :
    (0 : Int) < 1 ∧ (0 : Int) < 8 ∧ (0 : Int) < 16 ∧ signExtend? 1 (-5) = .ok (-1) ∧
      (signExtend? 8 0x1FF >>= signExtend? 16) = signExtend? (min 8 16) 0x1FF := by
  obtain ⟨answers, composes, _⟩ := sign_extension_twos_complement
  obtain ⟨value, answered, _, unique⟩ := answers 1 (-5) (by decide)
  have signed : SignedWidth (1 : Int).toNat (-1) := ⟨by decide, by decide⟩
  obtain rfl : -1 = value := (unique (-1)).mpr ⟨signed, by decide⟩
  exact ⟨by decide, by decide, by decide, answered, composes 8 16 0x1FF (by decide) (by decide)⟩

end AttAssembly
