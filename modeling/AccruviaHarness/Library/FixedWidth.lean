import Mathlib.Algebra.Group.Nat.Defs
import Mathlib.Data.Char
import Mathlib.Order.Basic

/-!
# Numbers in a fixed width

Decimal numbers that are filled with zeros to one width compare as texts the
way they compare as numbers, whatever follows them.
-/

namespace Library

open List

def zeroFilled (width number : Nat) : List Char := (Nat.toDigits 10 number).leftpad width '0'

variable {first second width base high highToo low lowToo : Nat}

theorem digitChar_lt_iff (small : first < 10) (smallToo : second < 10) :
    first.digitChar < second.digitChar ↔ first < second := by
  have value : ∀ digit < 10, digit.digitChar.val.toNat = 48 + digit :=
    fun _ bound => Nat.toNat_digitChar_of_lt_ten bound
  rw [Char.lt_def, UInt32.lt_iff_toNat_lt, value first small, value second smallToo]
  omega

theorem digitChar_inj (small : first < 10) (smallToo : second < 10) :
    first.digitChar = second.digitChar ↔ first = second := by
  constructor
  · intro same
    have values := congrArg Char.toNat same
    rw [Nat.toNat_digitChar_of_lt_ten small, Nat.toNat_digitChar_of_lt_ten smallToo] at values
    omega
  · exact congrArg Nat.digitChar

theorem zeroFilled_succ (width number : Nat) (wide : 0 < width) :
    zeroFilled (width + 1) number =
      zeroFilled width (number / 10) ++ [(number % 10).digitChar] := by
  unfold zeroFilled List.leftpad
  rw [Nat.toDigits_eq_if (n := number) (by decide)]
  by_cases small : number < 10
  · rw [if_pos small, Nat.mod_eq_of_lt small, Nat.div_eq_of_lt small,
      Nat.toDigits_of_lt_base (n := 0) (by decide)]
    obtain ⟨_, rfl⟩ := Nat.exists_eq_add_of_lt wide
    simp [replicate_succ']
  · rw [if_neg small, length_append, length_singleton,
      Nat.add_sub_add_right, append_assoc]

theorem zeroFilled_append_lt_iff (wide : 0 < width) (fits : first < 10 ^ width)
    (fitsToo : second < 10 ^ width) (rest restToo : List Char) :
    zeroFilled width first ++ rest < zeroFilled width second ++ restToo ↔
      first < second ∨ first = second ∧ rest < restToo := by
  induction width, wide using Nat.le_induction generalizing first second rest restToo with
  | base =>
    have one : ∀ number < 10, zeroFilled 1 number = [number.digitChar] := by
      intro number small
      unfold zeroFilled List.leftpad
      rw [Nat.toDigits_of_lt_base small]
      rfl
    rw [one first fits, one second fitsToo, singleton_append,
      singleton_append, cons_lt_cons_iff, digitChar_lt_iff fits fitsToo,
      digitChar_inj fits fitsToo]
  | succ width wide ih =>
    rw [Nat.pow_succ] at fits fitsToo
    have higher : first / 10 < 10 ^ width := by omega
    have higherToo : second / 10 < 10 ^ width := by omega
    have lower : first % 10 < 10 := by omega
    have lowerToo : second % 10 < 10 := by omega
    rw [zeroFilled_succ width first wide, zeroFilled_succ width second wide,
      append_assoc, append_assoc, ih higher higherToo,
      singleton_append, singleton_append, cons_lt_cons_iff,
      digitChar_lt_iff lower lowerToo, digitChar_inj lower lowerToo]
    have split := Nat.div_add_mod first 10
    have splitToo := Nat.div_add_mod second 10
    constructor
    · rintro (less | ⟨same, less | ⟨sameDigit, later⟩⟩)
      · left; omega
      · left; omega
      · exact .inr ⟨by omega, later⟩
    · rintro (less | ⟨rfl, later⟩)
      · by_cases same : first / 10 = second / 10
        · exact .inr ⟨same, .inl (by omega)⟩
        · left; omega
      · exact .inr ⟨rfl, .inr ⟨rfl, later⟩⟩

theorem zeroFilled_separated_lt_iff (wide : 0 < width) (fits : first < 10 ^ width)
    (fitsToo : second < 10 ^ width) (separator : Char)
    (rest restToo : List Char) :
    zeroFilled width first ++ separator :: rest < zeroFilled width second ++ separator :: restToo ↔
      first < second ∨ first = second ∧ rest < restToo := by
  rw [zeroFilled_append_lt_iff wide fits fitsToo, cons_lt_cons_iff]
  simp

theorem positional_lt (digit : low < base)
    (before : high < highToo ∨ high = highToo ∧ low < lowToo) :
    high * base + low < highToo * base + lowToo := by
  rcases before with less | ⟨rfl, less⟩
  · calc high * base + low < high * base + base := Nat.add_lt_add_left digit _
      _ = (high + 1) * base := (Nat.succ_mul high base).symm
      _ ≤ highToo * base := Nat.mul_le_mul_right base less
      _ ≤ highToo * base + lowToo := Nat.le_add_right _ _
  · exact Nat.add_lt_add_left less _

theorem positional_step {later : Prop} (digit : low < base)
    (before : high < highToo ∨ high = highToo ∧ (low < lowToo ∨ low = lowToo ∧ later)) :
    high * base + low < highToo * base + lowToo ∨
      high * base + low = highToo * base + lowToo ∧ later := by
  rcases before with less | ⟨rfl, less | ⟨rfl, least⟩⟩
  · exact .inl (positional_lt digit (.inl less))
  · exact .inl (positional_lt digit (.inr ⟨rfl, less⟩))
  · exact .inr ⟨rfl, least⟩

end Library
