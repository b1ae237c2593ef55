import Mathlib.Data.List.Basic
import Mathlib.Tactic.IntervalCases

/-!
# Decimal numbers as bytes

The decimal digits of a natural number as ASCII bytes, most significant first,
and the parser that reads them back.  A list of digits that starts with a zero
denotes a number too, but only the number zero is printed with one.
-/

namespace Decimal

/-- The byte of a digit. -/
def digit (d : Nat) : UInt8 := UInt8.ofNat (48 + d)

/-- The digits of `n`. -/
def digits (n : Nat) : List UInt8 := (Nat.toDigits 10 n).map fun c => UInt8.ofNat c.toNat

def isDigit (b : UInt8) : Bool := decide (48 ≤ b.toNat ∧ b.toNat ≤ 57)

/-- The number that digits denote. -/
def value (s : List UInt8) : Nat := s.foldl (fun n b => 10 * n + (b.toNat - 48)) 0

/-- Reads one digit or more, and nothing else. -/
def parse (s : List UInt8) : Option Nat :=
  if s ≠ [] ∧ s.all isDigit = true then some (value s) else none

/-! ## Digits -/

theorem toNat_digit {d : Nat} (h : d < 10) : (digit d).toNat = 48 + d := by
  unfold digit
  rw [UInt8.toNat_ofNat']
  omega

theorem isDigit_digit {d : Nat} (h : d < 10) : isDigit (digit d) = true := by
  unfold isDigit
  rw [toNat_digit h]
  simp
  omega

private theorem ofNat_digitChar {d : Nat} (h : d < 10) :
    UInt8.ofNat (Nat.digitChar d).toNat = digit d := by
  interval_cases d <;> rfl

/-- The last digit comes off the end. -/
theorem digits_eq (n : Nat) :
    digits n = (if n < 10 then [] else digits (n / 10)) ++ [digit (n % 10)] := by
  unfold digits
  rw [Nat.toDigits_eq_if (by omega)]
  split
  · rename_i h
    simp [ofNat_digitChar h, Nat.mod_eq_of_lt h]
  · simp [ofNat_digitChar (Nat.mod_lt n (by omega : 0 < 10))]

theorem digits_ne_nil (n : Nat) : digits n ≠ [] := by
  rw [digits_eq]
  simp

theorem all_isDigit_digits (n : Nat) : (digits n).all isDigit = true := by
  induction n using Nat.strongRecOn with
  | ind n ih =>
    rw [digits_eq, List.all_append]
    have hlast : [digit (n % 10)].all isDigit = true := by
      simp [isDigit_digit (Nat.mod_lt n (by omega : 0 < 10))]
    rw [hlast, Bool.and_true]
    split
    · rfl
    · exact ih (n / 10) (by omega)

theorem isDigit_of_mem_digits {n : Nat} {b : UInt8} (h : b ∈ digits n) : isDigit b = true :=
  List.all_eq_true.mp (all_isDigit_digits n) b h

/-- No number but zero starts with a zero. -/
theorem head_digits_ne_zero {n : Nat} (h : 0 < n) : (digits n).head? ≠ some 48 := by
  induction n using Nat.strongRecOn with
  | ind n ih =>
    rw [digits_eq]
    split
    · rename_i hlt
      intro hzero
      rw [Nat.mod_eq_of_lt hlt, List.nil_append, List.head?_cons, Option.some.injEq] at hzero
      have := congrArg UInt8.toNat hzero
      rw [toNat_digit hlt] at this
      simp at this
      omega
    · rename_i hge
      have hne := digits_ne_nil (n / 10)
      rw [List.head?_append_of_ne_nil _ hne]
      exact ih (n / 10) (by omega) (by omega)

/-! ## Reading back -/

theorem value_append_digit (s : List UInt8) {d : Nat} (h : d < 10) :
    value (s ++ [digit d]) = 10 * value s + d := by
  unfold value
  rw [List.foldl_append, List.foldl_cons, List.foldl_nil, toNat_digit h]
  omega

theorem value_digits (n : Nat) : value (digits n) = n := by
  induction n using Nat.strongRecOn with
  | ind n ih =>
    rw [digits_eq, value_append_digit _ (Nat.mod_lt n (by omega : 0 < 10))]
    split
    · rename_i h
      simp [value, Nat.mod_eq_of_lt h]
    · rw [ih (n / 10) (by omega)]
      omega

@[simp] theorem parse_digits (n : Nat) : parse (digits n) = some n := by
  unfold parse
  rw [if_pos ⟨digits_ne_nil n, all_isDigit_digits n⟩, value_digits]

theorem digits_injective : Function.Injective digits := by
  intro m n h
  rw [← value_digits m, ← value_digits n, h]

end Decimal
