import Mathlib.Probability.Distributions.Uniform
import Mathlib.Data.Int.Interval

/-!
# Uniform draws

Lua's `math.random(m)` draws one of the integers `1, ..., m`, each alike. A program that takes
a branch when the draw is at most a threshold `w` takes it for `w` of the `m` draws, cut to
`0, ..., m`; under the uniform draw, that share is the probability of the branch.
-/

open scoped ENNReal

namespace Random

/-- The values of `math.random(m)`: `1, ..., m`. -/
def draws (m : ℕ) : Finset ℤ := (Finset.range m).image fun i : ℕ => (i : ℤ) + 1

lemma mem_draws {m : ℕ} {d : ℤ} : d ∈ draws m ↔ 1 ≤ d ∧ d ≤ m := by
  simp only [draws, Finset.mem_image, Finset.mem_range]
  constructor
  · rintro ⟨i, hi, rfl⟩
    omega
  · intro hd
    exact ⟨d.toNat - 1, by omega, by omega⟩

@[simp] lemma card_draws (m : ℕ) : (draws m).card = m := by
  rw [draws, Finset.card_image_of_injective _ (fun i j h => by simpa using h),
    Finset.card_range]

lemma draws_nonempty {m : ℕ} (hm : 0 < m) : (draws m).Nonempty :=
  ⟨1, mem_draws.mpr ⟨le_rfl, by omega⟩⟩

/-- The draws up to a threshold are an interval. -/
lemma filter_le_draws (m : ℕ) (w : ℤ) :
    (draws m).filter (· ≤ w) = Finset.Icc 1 (min w m) := by
  ext d
  simp only [Finset.mem_filter, mem_draws, Finset.mem_Icc, le_min_iff]
  omega

/-- A threshold `w` lets through `w` of the draws, cut to `0, ..., m`. -/
lemma card_filter_le_draws (m : ℕ) (w : ℤ) :
    ((draws m).filter (· ≤ w)).card = (min w m).toNat := by
  rw [filter_le_draws, Int.card_Icc, add_sub_cancel_right]

/-- `math.random(m)`, for `m ≥ 1`, as a distribution. -/
noncomputable def uniform {m : ℕ} (hm : 0 < m) : PMF ℤ :=
  PMF.uniformOfFinset (draws m) (draws_nonempty hm)

/-- An event of a uniform draw has the probability of its share of the draws. -/
lemma uniform_apply {m : ℕ} (hm : 0 < m) (S : Set ℤ) [DecidablePred (· ∈ S)] :
    (uniform hm).toOuterMeasure S = ((draws m).filter (· ∈ S)).card / m := by
  rw [uniform, PMF.toOuterMeasure_uniformOfFinset_apply, card_draws]
  congr

/-- An event that holds of exactly the draws up to `w` has probability `w / m`, cut to
`[0, 1]`. -/
lemma uniform_of_iff_le {m : ℕ} (hm : 0 < m) {S : Set ℤ} [DecidablePred (· ∈ S)] {w : ℤ}
    (hS : ∀ d ∈ draws m, d ∈ S ↔ d ≤ w) :
    (uniform hm).toOuterMeasure S = ((min w m).toNat : ℝ≥0∞) / m := by
  rw [uniform_apply, ← card_filter_le_draws, Finset.filter_congr hS]

end Random
