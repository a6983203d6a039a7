import IngressNginx.Lib.Go
import IngressNginx.Lib.Matching

/-!
# Order-insensitive slice comparison

`internal/sets/match.go`. `Compare` matches every element of the first slice with the first
element of the second one that is still free and equal to it under the given function; two
`nil` slices match, a `nil` and a non-`nil` one do not. `StringElementsMatch` is `Compare`
with string equality.

The element function takes typed arguments here: the source passes `interface{}` values
and type-asserts them, which never fails on the slices it is given.
-/

namespace IngressNginx

namespace Sets

variable {α β : Type}

/-- The inner loop of `Compare`: mark the first index `j` with `!visited[j]` and
`eq(a, b[j])`, or report that there is none. -/
def markFirst (eq : α → β → Bool) (a : α) : List β → List Bool → Option (List Bool)
  | b :: bs, v :: vs =>
    if !v && eq a b then some (true :: vs) else (markFirst eq a bs vs).map (v :: ·)
  | _, _ => none

/-- The outer loop of `Compare` over the elements of the first slice. -/
def matchAll (eq : α → β → Bool) (bs : List β) : List α → List Bool → Bool
  | [], _ => true
  | a :: as, visited =>
    match markFirst eq a bs visited with
    | some visited' => matchAll eq bs as visited'
    | none => false

/-- `sets.Compare(listA, listB, eq)`. -/
def compare (a : Go.Slice α) (b : Go.Slice β) (eq : α → β → Bool) : Bool :=
  match a, b with
  | none, none => true
  | some as, some bs => as.length == bs.length && matchAll eq bs as (bs.map fun _ => false)
  | _, _ => false

/-- `sets.StringElementsMatch(a, b)`. -/
def stringElementsMatch (a b : Go.Slice String) : Bool :=
  compare a b (· == ·)

/-! ### Lemmas -/

section Lemmas

/-- `Compare` skips the indices already visited. -/
lemma markFirst_visited (eq : α → β → Bool) (a : α) (pre bs : List β) (vs : List Bool) :
    markFirst eq a (pre ++ bs) (List.replicate pre.length true ++ vs) =
      (markFirst eq a bs vs).map (List.replicate pre.length true ++ ·) := by
  induction pre with
  | nil => simp
  | cons b pre ih =>
    simp [markFirst, List.replicate_succ, ih, Option.map_map, Function.comp_def]

/-- A slice matched against itself: each element takes its own index, which is the first
one not visited. -/
lemma matchAll_self {eq : α → α → Bool} (pre as : List α) (h : ∀ a ∈ as, eq a a = true) :
    matchAll eq (pre ++ as) as (List.replicate pre.length true ++ List.replicate as.length false) =
      true := by
  induction as generalizing pre with
  | nil => simp [matchAll]
  | cons a as ih =>
    have hmark : markFirst eq a (pre ++ a :: as)
        (List.replicate pre.length true ++ List.replicate (as.length + 1) false) =
        some (List.replicate pre.length true ++ true :: List.replicate as.length false) := by
      rw [markFirst_visited]
      simp [markFirst, List.replicate_succ, h a List.mem_cons_self]
    rw [List.length_cons, matchAll, hmark]
    have hrest := ih (pre ++ [a]) fun b hb => h b (List.mem_cons_of_mem a hb)
    simpa [List.replicate_succ'] using hrest

/-- `Compare` relates a slice to itself when its function relates each element to itself. -/
lemma compare_refl {eq : α → α → Bool} (s : Go.Slice α) (h : ∀ a ∈ s.elems, eq a a = true) :
    compare s s eq = true := by
  cases s with
  | none => rfl
  | some as => simpa [compare] using matchAll_self [] as h

@[simp] lemma stringElementsMatch_refl (s : Go.Slice String) : stringElementsMatch s s = true :=
  compare_refl s fun _ _ => beq_self_eq_true _

section MapRight

variable {eq : α → β → Bool} {g : β → β}

lemma markFirst_map_right (hg : ∀ a b, eq a (g b) = eq a b) (a : α) (bs : List β)
    (vs : List Bool) : markFirst eq a (bs.map g) vs = markFirst eq a bs vs := by
  induction bs generalizing vs with
  | nil => rfl
  | cons b bs ih =>
    cases vs with
    | nil => rfl
    | cons v vs => simp [markFirst, hg, ih]

lemma matchAll_map_right (hg : ∀ a b, eq a (g b) = eq a b) (bs : List β) (as : List α)
    (vs : List Bool) : matchAll eq (bs.map g) as vs = matchAll eq bs as vs := by
  induction as generalizing vs with
  | nil => rfl
  | cons a as ih => simp only [matchAll, markFirst_map_right hg, ih]

/-- `Compare` does not see a change of the second slice's elements that its function does not
see. -/
lemma compare_map_right (hg : ∀ a b, eq a (g b) = eq a b) (a : Go.Slice α) (b : Go.Slice β) :
    compare a (b.map (List.map g)) eq = compare a b eq := by
  cases a <;> cases b <;> simp [compare, matchAll_map_right hg, List.map_map, Function.comp_def]

end MapRight

/-! ### The matching `Compare` computes -/

/-- The elements of `bs` whose index `visited` leaves unmarked: those the inner loop may
still take. -/
def freeOf : List β → List Bool → List β
  | b :: bs, v :: vs => if v then freeOf bs vs else b :: freeOf bs vs
  | _, _ => []

@[simp] lemma freeOf_unvisited (bs : List β) : freeOf bs (bs.map fun _ => false) = bs := by
  induction bs with
  | nil => rfl
  | cons b bs ih => simp only [List.map_cons, freeOf, Bool.false_eq_true, if_false, ih]

/-- The inner loop either finds no free element related to `a`, or marks the one that
`eraseP` takes out of the free elements. -/
lemma markFirst_cases (eq : α → β → Bool) (a : α) (bs : List β) (vs : List Bool)
    (hlen : vs.length = bs.length) :
    (markFirst eq a bs vs = none ∧ (freeOf bs vs).any (eq a) = false) ∨
      ∃ vs', markFirst eq a bs vs = some vs' ∧ vs'.length = bs.length ∧
        (freeOf bs vs).any (eq a) = true ∧ freeOf bs vs' = (freeOf bs vs).eraseP (eq a) := by
  induction bs generalizing vs with
  | nil =>
    rw [List.length_nil, List.length_eq_zero_iff] at hlen
    subst hlen
    exact .inl ⟨rfl, rfl⟩
  | cons b bs ih =>
    obtain _ | ⟨v, vs⟩ := vs
    · simp at hlen
    simp only [List.length_cons, Nat.add_right_cancel_iff] at hlen
    by_cases hmark : (!v && eq a b) = true
    · -- the free element `b` is the first one related to `a`
      simp only [Bool.and_eq_true, Bool.not_eq_eq_eq_not, Bool.not_true] at hmark
      obtain ⟨rfl, hab⟩ := hmark
      refine .inr ⟨true :: vs, ?_, by simp [hlen], ?_, ?_⟩
      · simp [markFirst, hab]
      · simp [freeOf, hab]
      · simp [freeOf, List.eraseP_cons_of_pos hab]
    · have hrest : ∀ r, (markFirst eq a (b :: bs) (v :: vs) = r) ↔
          ((markFirst eq a bs vs).map (v :: ·) = r) := by
        simp [markFirst, hmark]
      rcases ih vs hlen with ⟨hnone, hany⟩ | ⟨vs', hsome, hlen', hany, hfree⟩
      · refine .inl ⟨(hrest _).mpr (by simp [hnone]), ?_⟩
        cases v with
        | true => simpa [freeOf] using hany
        | false =>
          have hab : eq a b = false := by simpa using hmark
          simp [freeOf, hab, hany]
      · refine .inr ⟨v :: vs', (hrest _).mpr (by simp [hsome]), by simp [hlen'], ?_, ?_⟩
        · cases v <;> simp [freeOf, hany]
        · cases v with
          | true => simpa [freeOf] using hfree
          | false =>
            have hab : eq a b = false := by simpa using hmark
            simp [freeOf, hab, hfree]

/-- The outer loop of `Compare` is the greedy walk over the free elements. -/
lemma matchAll_eq_firstFit (eq : α → β → Bool) (bs : List β) (as : List α) (vs : List Bool)
    (hlen : vs.length = bs.length) :
    matchAll eq bs as vs = Matching.firstFit eq as (freeOf bs vs) := by
  induction as generalizing vs with
  | nil => rfl
  | cons a as ih =>
    rcases markFirst_cases eq a bs vs hlen with ⟨hnone, hany⟩ | ⟨vs', hsome, hlen', hany, hfree⟩
    · simp [matchAll, Matching.firstFit, hnone, hany]
    · rw [matchAll, hsome, Matching.firstFit, hany, Bool.true_and, ← hfree]
      exact ih vs' hlen'

/-- `Compare` on two slices that are not `nil`: equal lengths and the greedy walk. -/
lemma compare_some (eq : α → β → Bool) (as : List α) (bs : List β) :
    compare (some as) (some bs) eq = (as.length == bs.length && Matching.firstFit eq as bs) := by
  rw [compare, matchAll_eq_firstFit eq bs as _ (by simp), freeOf_unvisited]

end Lemmas

/-! ### Complete for an equivalence -/

/-- For an equivalence, `Compare` decides whether two slices hold the same elements up to it:
both are `nil`, or neither is and a bijection of their indices relates each element of the
first to its image in the second. The greedy loop, which never undoes a choice, loses no
matching. -/
theorem compare_iff_matched {eq : α → α → Bool} (heq : Equivalence fun a b => eq a b = true)
    (a b : Go.Slice α) :
    compare a b eq = true ↔ (a = none ∧ b = none) ∨
      ∃ as bs, a = some as ∧ b = some bs ∧ as.length = bs.length ∧
        ∃ π : Fin as.length ≃ Fin bs.length, ∀ i, eq as[i] bs[π i] = true := by
  cases a with
  | none => cases b <;> simp [compare]
  | some as =>
    cases b with
    | none => simp [compare]
    | some bs =>
      rw [compare_some, Bool.and_eq_true, beq_iff_eq]
      constructor
      · rintro ⟨hlen, hfit⟩
        exact .inr ⟨as, bs, rfl, rfl, hlen, (Matching.firstFit_iff_matched heq hlen).mp hfit⟩
      · rintro (⟨h, -⟩ | ⟨as', bs', has, hbs, hlen, hmatched⟩)
        · cases h
        · cases has
          cases hbs
          exact ⟨hlen, (Matching.firstFit_iff_matched heq hlen).mpr hmatched⟩

/-- Host names that agree up to case, in two orders: `Compare` with `strings.EqualFold` relates
them, so a bijection of the indices matches them. -/
theorem compare_equalFold_hosts_matched :
    compare (some ["Shop.example.com", "cart.example.com"])
        (some ["CART.example.com", "shop.example.com"]) Go.equalFold = true ∧
      ∃ π : Fin 2 ≃ Fin 2, ∀ i, Go.equalFold ["Shop.example.com", "cart.example.com"][i]
        ["CART.example.com", "shop.example.com"][π i] = true := by
  have hcompare : compare (some ["Shop.example.com", "cart.example.com"])
      (some ["CART.example.com", "shop.example.com"]) Go.equalFold = true := by decide
  refine ⟨hcompare, ?_⟩
  rcases (compare_iff_matched Go.equalFold_equivalence _ _).mp hcompare with
    ⟨h, -⟩ | ⟨as, bs, has, hbs, -, π, hπ⟩
  · cases h
  · cases has
    cases hbs
    exact ⟨π, hπ⟩

end Sets

end IngressNginx
