import Mathlib.Algebra.BigOperators.Fin
import Mathlib.Data.Fintype.EquivFin

/-!
# Greedy matching of two lists

`firstFit r as bs` walks `as` and gives each element the first element of `bs` that it is
related to and that no earlier element took. Two lists are `Matched` when some bijection of
their indices relates every element of the first to its image in the second.

The greedy walk never goes back on a choice. When `r` is an equivalence this costs nothing:
the walk succeeds exactly when each class has at most as many members in `as` as in `bs`
(`firstFit_iff_countP_le`), and a bijection exists exactly when each class has as many
(`matched_iff_countP_eq`). For lists of one length the two agree (`firstFit_iff_matched`).
The bijection is built class by class, over the quotient by `r`.
-/

namespace Matching

variable {α β : Type*}

/-- Greedy first-fit matching of `as` into `bs`. -/
def firstFit (r : α → β → Bool) : List α → List β → Bool
  | [], _ => true
  | a :: as, bs => bs.any (r a) && firstFit r as (bs.eraseP (r a))

/-- A bijection of the indices of `as` and `bs` relates each element of `as` to its image. -/
def Matched (r : α → β → Bool) (as : List α) (bs : List β) : Prop :=
  ∃ π : Fin as.length ≃ Fin bs.length, ∀ i, r as[i] bs[π i] = true

lemma Matched.length_eq {r : α → β → Bool} {as : List α} {bs : List β} (h : Matched r as bs) :
    as.length = bs.length := by
  obtain ⟨π, -⟩ := h
  simpa using Fintype.card_congr π

/-! ### Counting the indices of a class -/

lemma sum_ite_getElem_eq_countP (l : List α) (p : α → Bool) :
    ∑ i : Fin l.length, (if p l[i] then 1 else 0) = l.countP p := by
  induction l with
  | nil => simp
  | cons a l ih =>
    calc ∑ i : Fin (l.length + 1), (if p (a :: l)[i] then 1 else 0)
        = (if p a then 1 else 0) + ∑ i : Fin l.length, (if p l[i] then 1 else 0) :=
          Fin.sum_univ_succ _
      _ = l.countP p + (if p a then 1 else 0) := by rw [ih, add_comm]
      _ = (a :: l).countP p := (List.countP_cons ..).symm

lemma card_fiber_eq_countP (l : List α) (p : α → Bool) :
    Fintype.card {i : Fin l.length // p l[i] = true} = l.countP p := by
  rw [Fintype.card_subtype, Finset.card_filter, sum_ite_getElem_eq_countP]

/-! ### Under an equivalence -/

section Equivalence

variable {r : α → α → Bool} (hr : Equivalence fun a b => r a b = true)
include hr

/-- Taking out the first element related to `a` lowers the count of the class of `a` by one
and leaves the other classes alone. -/
lemma countP_eraseP {a : α} {bs : List α} (hany : bs.any (r a) = true) (x : α) :
    bs.countP (r x) = (bs.eraseP (r a)).countP (r x) + if r x a then 1 else 0 := by
  obtain ⟨b, hb, hab⟩ := List.any_eq_true.mp hany
  obtain ⟨b, l₁, l₂, -, hab, rfl, herase⟩ := List.exists_of_eraseP hb hab
  have hxb : r x b = r x a :=
    Bool.eq_iff_iff.mpr ⟨fun h => hr.trans h (hr.symm hab), fun h => hr.trans h hab⟩
  rw [herase, List.perm_middle.countP_eq, List.countP_cons, hxb, add_comm]

/-- The greedy walk succeeds exactly when no class has more members in `as` than in `bs`. -/
theorem firstFit_iff_countP_le (as bs : List α) :
    firstFit r as bs = true ↔ ∀ x, as.countP (r x) ≤ bs.countP (r x) := by
  induction as generalizing bs with
  | nil => simp [firstFit]
  | cons a as ih =>
    rw [firstFit, Bool.and_eq_true, ih]
    constructor
    · rintro ⟨hany, hle⟩ x
      rw [countP_eraseP hr hany x, List.countP_cons]
      have := hle x
      omega
    · intro hle
      -- `a` is in its own class, so `bs` has a member of it
      have hany : bs.any (r a) = true := by
        have hpos := hle a
        rw [List.countP_cons, if_pos (hr.refl a)] at hpos
        obtain ⟨b, hb, hab⟩ := List.countP_pos_iff.mp (by omega : 0 < bs.countP (r a))
        exact List.any_eq_true.mpr ⟨b, hb, hab⟩
      refine ⟨hany, fun x => ?_⟩
      have hx := hle x
      rw [List.countP_cons, countP_eraseP hr hany x] at hx
      omega

/-- A walk that succeeds on lists of one length matches each class exactly. -/
theorem countP_eq_of_firstFit {as bs : List α} (h : firstFit r as bs = true)
    (hlen : as.length = bs.length) (x : α) : as.countP (r x) = bs.countP (r x) := by
  induction as generalizing bs with
  | nil =>
    rw [List.length_nil, eq_comm, List.length_eq_zero_iff] at hlen
    simp [hlen]
  | cons a as ih =>
    rw [firstFit, Bool.and_eq_true] at h
    obtain ⟨hany, hrest⟩ := h
    have hlen' : as.length = (bs.eraseP (r a)).length := by
      rw [List.length_eraseP, if_pos hany]
      simp only [List.length_cons] at hlen
      omega
    rw [List.countP_cons, countP_eraseP hr hany x, ih hrest hlen']

/-- A bijection relating the two lists exists exactly when every class has as many members
in one as in the other. -/
theorem matched_iff_countP_eq (as bs : List α) :
    Matched r as bs ↔ ∀ x, as.countP (r x) = bs.countP (r x) := by
  classical
  constructor
  · rintro ⟨π, hπ⟩ x
    rw [← card_fiber_eq_countP, ← card_fiber_eq_countP]
    exact Fintype.card_congr (π.subtypeEquiv fun i =>
      ⟨fun h => hr.trans h (hπ i), fun h => hr.trans h (hr.symm (hπ i))⟩)
  · intro hcount
    -- the indices of each list, fibred over the classes of their elements
    let S : Setoid α := ⟨fun a b => r a b = true, hr⟩
    let ka : Fin as.length → Quotient S := fun i => Quotient.mk S as[i]
    let kb : Fin bs.length → Quotient S := fun j => Quotient.mk S bs[j]
    have hfiber : ∀ (l : List α) (x : α),
        Fintype.card {i : Fin l.length // Quotient.mk S l[i] = Quotient.mk S x} =
          l.countP (r x) := by
      intro l x
      rw [← card_fiber_eq_countP]
      exact Fintype.card_congr (Equiv.subtypeEquivRight fun i =>
        Quotient.eq.trans ⟨hr.symm, hr.symm⟩)
    have hcard : ∀ q, Fintype.card {i // ka i = q} = Fintype.card {j // kb j = q} := by
      intro q
      induction q using Quotient.ind with
      | _ x => exact (hfiber as x).trans ((hcount x).trans (hfiber bs x).symm)
    -- one bijection per class, glued along the fibres
    let e : ∀ q, {i // ka i = q} ≃ {j // kb j = q} := fun q => Fintype.equivOfCardEq (hcard q)
    refine ⟨(Equiv.sigmaFiberEquiv ka).symm.trans
      ((Equiv.sigmaCongrRight e).trans (Equiv.sigmaFiberEquiv kb)), fun i => ?_⟩
    have hk : kb ((e (ka i)) ⟨i, rfl⟩) = ka i := ((e (ka i)) ⟨i, rfl⟩).property
    exact hr.symm (Quotient.exact hk)

/-- On lists of one length, the greedy walk succeeds exactly when a bijection relating them
exists. -/
theorem firstFit_iff_matched {as bs : List α} (hlen : as.length = bs.length) :
    firstFit r as bs = true ↔ Matched r as bs := by
  rw [matched_iff_countP_eq hr]
  constructor
  · intro h
    exact countP_eq_of_firstFit hr h hlen
  · intro h
    exact (firstFit_iff_countP_le hr as bs).mpr fun x => (h x).le

end Equivalence

end Matching
