import Mathlib.Algebra.Group.Nat.Defs
import Mathlib.Data.Nat.Size
import Mathlib.Order.Bounds.Defs

/-!
# Smearing the bits of a number

`y ||| y >>> w` sets every bit of `y` that has a set bit `w` places above it. Started from `x`
and repeated with `w = 1, 2, 4, …`, it sets bit `i` exactly when `x` has a set bit among
`i, …, i + w - 1` for the sum `w` of the shifts so far (`Window.or_shiftRight`). When the bits
of `x` lying more than `w` places below its top bit are set already, the result is all ones up
to the top bit, `2 ^ size x - 1` (`Window.eq_two_pow_size_sub_one`), and one more is the least
power of two above `x` (`isLeast_two_pow_size`). Nothing here mentions the program being
modelled.
-/

namespace Nat

/-- Bit `i` of `y` is set exactly when `x` has a set bit among `i, …, i + w - 1`. -/
def Window (x y w : ℕ) : Prop := ∀ i, y.testBit i = true ↔ ∃ j < w, x.testBit (i + j) = true

variable {x y w : ℕ}

lemma window_one (x : ℕ) : Window x x 1 := by
  intro i
  constructor
  · intro h
    exact ⟨0, Nat.one_pos, h⟩
  · rintro ⟨j, hj, h⟩
    rwa [Nat.lt_one_iff.mp hj] at h

/-- One smearing step doubles the window. -/
lemma Window.or_shiftRight (h : Window x y w) : Window x (y ||| y >>> w) (2 * w) := by
  intro i
  rw [testBit_or, testBit_shiftRight, Bool.or_eq_true, h i, h (w + i)]
  constructor
  · rintro (⟨j, hj, hx⟩ | ⟨j, hj, hx⟩)
    · exact ⟨j, by omega, hx⟩
    · exact ⟨w + j, by omega, by rwa [show i + (w + j) = w + i + j by omega]⟩
  · rintro ⟨j, hj, hx⟩
    by_cases hjw : j < w
    · exact .inl ⟨j, hjw, hx⟩
    · exact .inr ⟨j - w, by omega, by rwa [show w + i + (j - w) = i + j by omega]⟩

/-- Smearing sets no bit above the top bit of the number smeared. -/
lemma Window.lt_two_pow {n : ℕ} (h : Window x y w) (hx : x < 2 ^ n) : y < 2 ^ n := by
  apply lt_pow_two_of_testBit
  intro i hi
  rw [Bool.eq_false_iff]
  intro hy
  obtain ⟨j, -, hxj⟩ := (h i).mp hy
  rw [testBit_lt_two_pow (Nat.lt_of_lt_of_le hx (Nat.pow_le_pow_right Nat.two_pos (by omega)))]
    at hxj
  cases hxj

/-- The top bit of a positive number is set. -/
lemma testBit_size_sub_one (hx : 0 < x) : x.testBit (size x - 1) = true := by
  have hpos : 0 < size x := size_pos.mpr hx
  apply testBit_of_two_pow_le_and_two_pow_add_one_gt
  · exact lt_size.mp (by omega)
  · rw [Nat.sub_add_cancel hpos]
    exact lt_size_self x

/-- A smeared number whose window reaches every unset bit below the top one is all ones up to
the top bit. -/
lemma Window.eq_two_pow_size_sub_one (h : Window x y w) (hw : 0 < w)
    (hlow : ∀ i, i + w < size x → x.testBit i = true) : y = 2 ^ size x - 1 := by
  apply eq_of_testBit_eq
  intro i
  rw [testBit_two_pow_sub_one]
  by_cases hi : i < size x
  · -- the top bit is in the window of `i`, or else bit `i` itself is set
    rw [decide_eq_true hi, h i]
    by_cases hfar : i + w < size x
    · exact ⟨0, hw, by rw [Nat.add_zero]; exact hlow i hfar⟩
    · refine ⟨size x - 1 - i, by omega, ?_⟩
      rw [show i + (size x - 1 - i) = size x - 1 by omega]
      exact testBit_size_sub_one (size_pos.mp (by omega))
  · rw [decide_eq_false hi, Bool.eq_false_iff]
    intro hy
    obtain ⟨j, -, hx⟩ := (h i).mp hy
    have hlt : x < 2 ^ (i + j) :=
      Nat.lt_of_lt_of_le (lt_size_self x) (Nat.pow_le_pow_right Nat.two_pos (by omega))
    rw [testBit_lt_two_pow hlt] at hx
    cases hx

/-- Masking off the low `k` bits of a number below `2 ^ n` rounds it down to a multiple of
`2 ^ k`. -/
lemma land_two_pow_sub_two_pow {a n k : ℕ} (ha : a < 2 ^ n) (hk : k ≤ n) :
    a &&& (2 ^ n - 1 - (2 ^ k - 1)) = a / 2 ^ k * 2 ^ k := by
  have hmask : 2 ^ n - 1 - (2 ^ k - 1) = (2 ^ (n - k) - 1) <<< k := by
    have hsplit : 2 ^ n = 2 ^ (n - k) * 2 ^ k := by rw [← Nat.pow_add, Nat.sub_add_cancel hk]
    have hpos : 0 < 2 ^ k := Nat.two_pow_pos k
    have hpos' : 0 < 2 ^ (n - k) := Nat.two_pow_pos (n - k)
    rw [Nat.shiftLeft_eq, Nat.sub_mul, Nat.one_mul, ← hsplit]
    omega
  rw [hmask, ← Nat.shiftRight_eq_div_pow, ← Nat.shiftLeft_eq]
  apply eq_of_testBit_eq
  intro i
  rw [testBit_and, testBit_shiftLeft, testBit_shiftLeft, testBit_two_pow_sub_one,
    testBit_shiftRight]
  by_cases hki : k ≤ i
  · by_cases hin : i < n
    · simp [hki, show k + (i - k) = i by omega, show i - k < n - k by omega]
    · -- the bits from `n` on are clear in `a`
      have hclear : a.testBit i = false :=
        testBit_lt_two_pow (Nat.lt_of_lt_of_le ha (Nat.pow_le_pow_right Nat.two_pos (by omega)))
      simp [hki, show ¬ i - k < n - k by omega, show k + (i - k) = i by omega, hclear]
  · simp [hki]

/-- `2 ^ size x` is the least power of two above `x`. -/
lemma isLeast_two_pow_size (x : ℕ) :
    IsLeast {p | (∃ k, p = 2 ^ k) ∧ x + 1 ≤ p} (2 ^ size x) := by
  refine ⟨⟨⟨size x, rfl⟩, lt_size_self x⟩, ?_⟩
  rintro p ⟨⟨k, rfl⟩, hle⟩
  exact Nat.pow_le_pow_right Nat.two_pos (size_le.mpr hle)

/-- `2 ^ (k + 1)` is the least power of two above any number past `2 ^ k` and up to it. -/
lemma isLeast_two_pow_succ {a k : ℕ} (hlo : 2 ^ k < a) (hhi : a ≤ 2 ^ (k + 1)) :
    IsLeast {p | (∃ j, p = 2 ^ j) ∧ a ≤ p} (2 ^ (k + 1)) := by
  refine ⟨⟨⟨k + 1, rfl⟩, hhi⟩, ?_⟩
  rintro p ⟨⟨j, rfl⟩, hle⟩
  have hkj : k < j := (Nat.pow_lt_pow_iff_right (by omega)).mp (Nat.lt_of_lt_of_le hlo hle)
  exact Nat.pow_le_pow_right Nat.two_pos hkj

end Nat
