import Mathlib.Tactic.Common

/-!
# Go's `int32`

Every replica count the in-place rollout reads or writes (`Spec.Replicas`,
`Status.AvailableReplicas`, the counters of its loops and the sums over machine sets) is a
Go `int32`, and Go's `int32` arithmetic wraps modulo `2^32`. `Int32` carries its range as
fields, so a value outside `[-2^31, 2^31)` cannot be built; `Int32.ofInt` is Go's conversion
`int32(x)`, and `+`, `-` are Go's wrapping operations.

The lemmas below say when no wrap happens (`toInt_add`, `toInt_sub`, `toInt_ofInt`): the
proofs about the controller move to `Int` through them and finish with `omega`.
-/

namespace MachineControllerManager

/-- A Go `int32`: an integer in `[-2^31, 2^31)`. -/
structure Int32 where
  /-- The value as a mathematical integer. -/
  toInt : Int
  /-- The value is at least `-2^31`. -/
  le_toInt : -2147483648 ≤ toInt
  /-- The value is below `2^31`. -/
  toInt_lt : toInt < 2147483648
  deriving DecidableEq, Repr

namespace Int32

/-- Go's conversion `int32(x)`: `x` wrapped modulo `2^32` into `[-2^31, 2^31)`. -/
def ofInt (x : Int) : Int32 :=
  ⟨x.bmod 4294967296,
    by have := @Int.le_bmod x 4294967296 (by decide); omega,
    by have := @Int.bmod_lt x 4294967296 (by decide); omega⟩

/-- A numeral, converted as Go converts an untyped constant. -/
instance : OfNat Int32 n := ⟨ofInt n⟩

/-- Go's `+` on `int32`, which wraps. -/
instance : Add Int32 := ⟨fun a b => ofInt (a.toInt + b.toInt)⟩

/-- Go's `-` on `int32`, which wraps. -/
instance : Sub Int32 := ⟨fun a b => ofInt (a.toInt - b.toInt)⟩

/-- Go's `<` on `int32`: the values compared. -/
instance : LT Int32 := ⟨fun a b => a.toInt < b.toInt⟩

/-- Go's `<=` on `int32`: the values compared. -/
instance : LE Int32 := ⟨fun a b => a.toInt ≤ b.toInt⟩

/-- `<` is decided on the values. -/
instance (a b : Int32) : Decidable (a < b) := inferInstanceAs (Decidable (a.toInt < b.toInt))

/-- `<=` is decided on the values. -/
instance (a b : Int32) : Decidable (a ≤ b) := inferInstanceAs (Decidable (a.toInt ≤ b.toInt))

/-- The smaller of two `int32`s. -/
instance : Min Int32 := minOfLe

/-- `<` compares the values. -/
theorem lt_def {a b : Int32} : a < b ↔ a.toInt < b.toInt := Iff.rfl

/-- `<=` compares the values. -/
theorem le_def {a b : Int32} : a ≤ b ↔ a.toInt ≤ b.toInt := Iff.rfl

/-- Two `int32`s are equal when their values are. -/
theorem ext_iff' {a b : Int32} : a = b ↔ a.toInt = b.toInt := by
  cases a; cases b; simp

/-- In range, `int32(x)` is `x`. -/
theorem toInt_ofInt {x : Int} (h₁ : -2147483648 ≤ x) (h₂ : x < 2147483648) :
    (ofInt x).toInt = x := by
  simp only [ofInt, Int.bmod_def]
  split <;> omega

/-- A numeral below `2^31` keeps its value. -/
@[simp]
theorem toInt_ofNat {n : Nat} (h : n < 2147483648) : (OfNat.ofNat n : Int32).toInt = n :=
  toInt_ofInt (by omega) (by omega)

/-- The value of `0`. -/
@[simp]
theorem toInt_zero : (0 : Int32).toInt = 0 := rfl

/-- The value of `1`. -/
@[simp]
theorem toInt_one : (1 : Int32).toInt = 1 := rfl

/-- A sum that stays in range does not wrap. -/
theorem toInt_add {a b : Int32} (h₁ : -2147483648 ≤ a.toInt + b.toInt)
    (h₂ : a.toInt + b.toInt < 2147483648) : (a + b).toInt = a.toInt + b.toInt :=
  toInt_ofInt h₁ h₂

/-- A difference that stays in range does not wrap. -/
theorem toInt_sub {a b : Int32} (h₁ : -2147483648 ≤ a.toInt - b.toInt)
    (h₂ : a.toInt - b.toInt < 2147483648) : (a - b).toInt = a.toInt - b.toInt :=
  toInt_ofInt h₁ h₂

/-- `toInt_sub`, for operands whose values are known. -/
theorem toInt_sub_eq {a b : Int32} {x y : Int} (ha : a.toInt = x) (hb : b.toInt = y)
    (h₁ : -2147483648 ≤ x - y) (h₂ : x - y < 2147483648) : (a - b).toInt = x - y := by
  subst ha hb; exact toInt_sub h₁ h₂

/-- `min` on `int32` is the minimum of the values, as Go's `integer.IntMin` over `int`. -/
theorem toInt_min (a b : Int32) : (min a b).toInt = min a.toInt b.toInt := by
  change (if a ≤ b then a else b).toInt = _
  split
  · next h => rw [le_def] at h; omega
  · next h => rw [le_def] at h; omega

/-- `int32(n)` for a count `n < 2^31` (a slice length) is `n`. -/
theorem toInt_ofInt_natCast {n : Nat} (h : n < 2147483648) : (ofInt n).toInt = n :=
  toInt_ofInt (by omega) (by omega)

end Int32

end MachineControllerManager
