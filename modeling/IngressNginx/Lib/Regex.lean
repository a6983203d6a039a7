import Mathlib.Data.List.Infix

/-!
# Regular expressions matched inside a text

A regular expression with the anchors `^` and `$` is matched against a whole text: its meaning
is the set of spans `[i, j)` of the text it matches (`Span`), the anchors matching the empty
span at the start and at the end. A text matches (`MatchString`, Go's `MatchString`) when some
span of it does, wherever it starts.

`ends t r i` computes the ends of the spans of `r` that start at `i`; a star iterates only
steps that move forward, which bounds it by the length of the text. It computes exactly the
spans (`mem_ends_iff`), so `matchString` decides `MatchString` (`matchString_iff`).
-/

/-- Regular expressions over an alphabet `α`, with the anchors of a whole text. -/
inductive Regex (α : Type*) where
  | empty
  | lit (a : α)
  | cls (p : α → Bool)
  | cat (r₁ r₂ : Regex α)
  | alt (r₁ r₂ : Regex α)
  | star (r : Regex α)
  | beginText
  | endText

namespace Regex

variable {α : Type*}

/-- `r?`. -/
def opt (r : Regex α) : Regex α := .alt r .empty

/-- The expression that matches the word `w` and nothing else. -/
def word (w : List α) : Regex α := w.foldr (fun a r => .cat (.lit a) r) .empty

@[simp] lemma word_nil : word ([] : List α) = .empty := rfl

@[simp] lemma word_cons (a : α) (w : List α) : word (a :: w) = .cat (.lit a) (word w) := rfl

/-! ### Spans -/

/-- The spans `[i, j)` of the text `t` that `r` matches. -/
inductive Span (t : List α) : Regex α → ℕ → ℕ → Prop
  | empty (i : ℕ) : Span t .empty i i
  | lit {a : α} {i : ℕ} : t[i]? = some a → Span t (.lit a) i (i + 1)
  | cls {p : α → Bool} {i : ℕ} {c : α} : t[i]? = some c → p c = true → Span t (.cls p) i (i + 1)
  | cat {r₁ r₂ : Regex α} {i k j : ℕ} : Span t r₁ i k → Span t r₂ k j → Span t (.cat r₁ r₂) i j
  | altLeft {r₁ r₂ : Regex α} {i j : ℕ} : Span t r₁ i j → Span t (.alt r₁ r₂) i j
  | altRight {r₁ r₂ : Regex α} {i j : ℕ} : Span t r₂ i j → Span t (.alt r₁ r₂) i j
  | starNil (r : Regex α) (i : ℕ) : Span t (.star r) i i
  | starCons {r : Regex α} {i k j : ℕ} : Span t r i k → Span t (.star r) k j → Span t (.star r) i j
  | beginText : Span t .beginText 0 0
  | endText : Span t .endText t.length t.length

/-- Go's `MatchString`: some span of the text matches. -/
def MatchString (r : Regex α) (t : List α) : Prop := ∃ i j, i ≤ t.length ∧ Span t r i j

variable {t : List α}

/-- A span that starts inside the text ends after its start and inside the text. -/
lemma Span.le_length {r : Regex α} {i j : ℕ} (h : Span t r i j) (hi : i ≤ t.length) :
    i ≤ j ∧ j ≤ t.length := by
  induction h with
  | empty => exact ⟨le_rfl, hi⟩
  | lit hget | cls hget =>
    have hlt := (List.getElem?_eq_some_iff.mp hget).1
    omega
  | cat _ _ ih₁ ih₂ =>
    obtain ⟨hik, hk⟩ := ih₁ hi
    obtain ⟨hkj, hj⟩ := ih₂ hk
    exact ⟨hik.trans hkj, hj⟩
  | altLeft _ ih | altRight _ ih => exact ih hi
  | starNil => exact ⟨le_rfl, hi⟩
  | starCons _ _ ih₁ ih₂ =>
    obtain ⟨hik, hk⟩ := ih₁ hi
    obtain ⟨hkj, hj⟩ := ih₂ hk
    exact ⟨hik.trans hkj, hj⟩
  | beginText => exact ⟨le_rfl, hi⟩
  | endText => exact ⟨le_rfl, hi⟩

/-- The word `w` matches where it stands in a text. -/
lemma span_word (s w u : List α) :
    Span (s ++ w ++ u) (word w) s.length (s.length + w.length) := by
  induction w generalizing s with
  | nil => exact .empty _
  | cons a w ih =>
    have hget : (s ++ a :: w ++ u)[s.length]? = some a := by simp
    have hrest := ih (s ++ [a])
    simp only [List.append_assoc, List.cons_append, List.length_append, List.length_singleton] at hrest
    rw [word_cons, List.length_cons, ← Nat.add_assoc]
    exact .cat (.lit hget) (by simpa [Nat.add_right_comm] using hrest)

/-- A span of a word reads the word in the text. -/
lemma Span.prefix_drop {w : List α} {i j : ℕ} (h : Span t (word w) i j) : w <+: t.drop i := by
  induction w generalizing i with
  | nil => exact List.nil_prefix
  | cons a w ih =>
    rw [word_cons] at h
    cases h with
    | cat hlit hrest =>
      cases hlit with
      | lit hget =>
        have hlt := (List.getElem?_eq_some_iff.mp hget).1
        rw [List.drop_eq_getElem_cons hlt, (List.getElem?_eq_some_iff.mp hget).2,
          List.prefix_cons_inj]
        exact ih hrest

/-- A span of a word is as long as the word. -/
lemma Span.word_end {w : List α} {i j : ℕ} (h : Span t (word w) i j) : j = i + w.length := by
  induction w generalizing i with
  | nil =>
    rw [word_nil] at h
    cases h
    rfl
  | cons a w ih =>
    rw [word_cons] at h
    cases h with
    | cat hlit hrest =>
      cases hlit with
      | lit _ =>
        rw [ih hrest, List.length_cons]
        omega

/-- The whole text is a span of a word exactly when it is the word. -/
lemma span_word_whole_iff {w : List α} : Span t (word w) 0 t.length ↔ t = w := by
  constructor
  · intro h
    have hlen := h.word_end
    have hpre : w <+: t := by simpa using h.prefix_drop
    exact (hpre.eq_of_length (by omega)).symm
  · rintro rfl
    simpa using span_word [] t []

lemma span_alt_iff {r₁ r₂ : Regex α} {i j : ℕ} :
    Span t (.alt r₁ r₂) i j ↔ Span t r₁ i j ∨ Span t r₂ i j := by
  constructor
  · intro h
    cases h with
    | altLeft h => exact .inl h
    | altRight h => exact .inr h
  · rintro (h | h)
    · exact .altLeft h
    · exact .altRight h

/-- `^r$` matches a text exactly when the whole text is a span of `r`. -/
theorem matchString_anchored_iff {r : Regex α} :
    MatchString (.cat .beginText (.cat r .endText)) t ↔ Span t r 0 t.length := by
  constructor
  · rintro ⟨i, j, -, h⟩
    cases h with
    | cat hbegin hrest =>
      cases hbegin with
      | beginText =>
        cases hrest with
        | cat hr hend =>
          cases hend
          exact hr
  · intro h
    exact ⟨0, t.length, Nat.zero_le _, .cat .beginText (.cat h .endText)⟩

/-- A text matches a word exactly when the word is inside it. -/
theorem matchString_word_iff {w : List α} : MatchString (word w) t ↔ w <:+: t := by
  constructor
  · rintro ⟨i, j, -, h⟩
    exact h.prefix_drop.isInfix.trans (List.drop_suffix i t).isInfix
  · rintro ⟨s, u, rfl⟩
    exact ⟨s.length, s.length + w.length, by simp, span_word s w u⟩

theorem matchString_alt_iff {r₁ r₂ : Regex α} :
    MatchString (.alt r₁ r₂) t ↔ MatchString r₁ t ∨ MatchString r₂ t := by
  constructor
  · rintro ⟨i, j, hi, h⟩
    cases h with
    | altLeft h => exact .inl ⟨i, j, hi, h⟩
    | altRight h => exact .inr ⟨i, j, hi, h⟩
  · rintro (⟨i, j, hi, h⟩ | ⟨i, j, hi, h⟩)
    · exact ⟨i, j, hi, .altLeft h⟩
    · exact ⟨i, j, hi, .altRight h⟩

/-! ### Computing the spans -/

/-- The ends of the iterations of a star from `i`, each step given by `f` and moving forward,
at most `n` of them. -/
def starEnds (f : ℕ → List ℕ) : ℕ → ℕ → List ℕ
  | 0, i => [i]
  | n + 1, i => i :: ((f i).filter (i < ·)).flatMap (starEnds f n)

section Ends

variable {f : ℕ → List ℕ}

lemma self_mem_starEnds (n i : ℕ) : i ∈ starEnds f n i := by
  cases n <;> simp [starEnds]

/-- More iterations allowed find every end found with fewer. -/
lemma starEnds_mono {n m i j : ℕ} (hnm : n ≤ m) (h : j ∈ starEnds f n i) :
    j ∈ starEnds f m i := by
  induction n generalizing m i with
  | zero =>
    rw [starEnds, List.mem_singleton] at h
    subst h
    exact self_mem_starEnds m j
  | succ n ih =>
    obtain ⟨m, rfl⟩ : ∃ m', m = m' + 1 := ⟨m - 1, by omega⟩
    simp only [starEnds, List.mem_cons, List.mem_flatMap, List.mem_filter] at h ⊢
    rcases h with h | ⟨k, hk, hj⟩
    · exact .inl h
    · exact .inr ⟨k, hk, ih (by omega) hj⟩

lemma span_of_mem_starEnds {r : Regex α} (hf : ∀ i k, k ∈ f i → Span t r i k) {n i j : ℕ}
    (h : j ∈ starEnds f n i) : Span t (.star r) i j := by
  induction n generalizing i with
  | zero =>
    rw [starEnds, List.mem_singleton] at h
    subst h
    exact .starNil r j
  | succ n ih =>
    simp only [starEnds, List.mem_cons, List.mem_flatMap, List.mem_filter] at h
    rcases h with rfl | ⟨k, ⟨hk, -⟩, hj⟩
    · exact .starNil r j
    · exact .starCons (hf i k hk) (ih hj)

end Ends

variable [DecidableEq α]

/-- The ends of the spans of `r` in `t` that start at `i`. -/
def ends (t : List α) : Regex α → ℕ → List ℕ
  | .empty, i => [i]
  | .lit a, i => if t[i]? = some a then [i + 1] else []
  | .cls p, i =>
    match t[i]? with
    | some c => if p c then [i + 1] else []
    | none => []
  | .cat r₁ r₂, i => (ends t r₁ i).flatMap (ends t r₂)
  | .alt r₁ r₂, i => ends t r₁ i ++ ends t r₂ i
  | .star r, i => starEnds (ends t r) (t.length + 1 - i) i
  | .beginText, i => if i = 0 then [i] else []
  | .endText, i => if i = t.length then [i] else []

/-- `regexp.MatchString`: whether a span of `t` matches `r`. -/
def matchString (r : Regex α) (t : List α) : Bool :=
  (List.range (t.length + 1)).any fun i => !(ends t r i).isEmpty

/-- What `ends` finds are spans. -/
lemma span_of_mem_ends {r : Regex α} {i j : ℕ} (h : j ∈ ends t r i) : Span t r i j := by
  induction r generalizing i j with
  | empty =>
    rw [ends, List.mem_singleton] at h
    subst h
    exact .empty j
  | lit a =>
    rw [ends] at h
    split_ifs at h with hget
    · rw [List.mem_singleton] at h
      subst h
      exact .lit hget
    · simp at h
  | cls p =>
    rw [ends] at h
    split at h
    · rename_i c hget
      split_ifs at h with hp
      · rw [List.mem_singleton] at h
        subst h
        exact .cls hget hp
      · simp at h
    · simp at h
  | cat r₁ r₂ ih₁ ih₂ =>
    obtain ⟨k, hk, hj⟩ := List.mem_flatMap.mp h
    exact .cat (ih₁ hk) (ih₂ hj)
  | alt r₁ r₂ ih₁ ih₂ =>
    rcases List.mem_append.mp h with h | h
    · exact .altLeft (ih₁ h)
    · exact .altRight (ih₂ h)
  | star r ih => exact span_of_mem_starEnds (fun _ _ hk => ih hk) h
  | beginText =>
    rw [ends] at h
    split_ifs at h with hi
    · rw [List.mem_singleton] at h
      subst h hi
      exact .beginText
    · simp at h
  | endText =>
    rw [ends] at h
    split_ifs at h with hi
    · rw [List.mem_singleton] at h
      subst h hi
      exact .endText
    · simp at h

/-- `ends` finds every span that starts inside the text. -/
lemma mem_ends_of_span {r : Regex α} {i j : ℕ} (h : Span t r i j) (hi : i ≤ t.length) :
    j ∈ ends t r i := by
  induction h with
  | empty => simp [ends]
  | lit hget => simp [ends, hget]
  | cls hget hp => simp [ends, hget, hp]
  | cat h₁ _ ih₁ ih₂ => exact List.mem_flatMap.mpr ⟨_, ih₁ hi, ih₂ (h₁.le_length hi).2⟩
  | altLeft _ ih => exact List.mem_append_left _ (ih hi)
  | altRight _ ih => exact List.mem_append_right _ (ih hi)
  | starNil r i => exact self_mem_starEnds _ i
  | @starCons r i k j h₁ _ ih₁ ih₂ =>
    obtain ⟨hik, hk⟩ := h₁.le_length hi
    have hrest := ih₂ hk
    rcases hik.eq_or_lt with rfl | hlt
    · exact hrest
    · -- a step that moves forward, then the rest within the iterations left
      rw [ends, show t.length + 1 - i = (t.length - i) + 1 by omega, starEnds]
      refine List.mem_cons_of_mem _ (List.mem_flatMap.mpr ⟨k, ?_, ?_⟩)
      · exact List.mem_filter.mpr ⟨ih₁ hi, by simpa using hlt⟩
      · exact starEnds_mono (by omega) hrest
  | beginText => simp [ends]
  | endText => simp [ends]

theorem mem_ends_iff {r : Regex α} {i j : ℕ} (hi : i ≤ t.length) :
    j ∈ ends t r i ↔ Span t r i j :=
  ⟨span_of_mem_ends, fun h => mem_ends_of_span h hi⟩

/-- `matchString` decides `MatchString`. -/
theorem matchString_iff (r : Regex α) (t : List α) :
    matchString r t = true ↔ MatchString r t := by
  simp only [matchString, List.any_eq_true, List.mem_range, Bool.not_eq_true',
    List.isEmpty_eq_false_iff_exists_mem, Nat.lt_succ_iff]
  constructor
  · rintro ⟨i, hi, j, hj⟩
    exact ⟨i, j, hi, span_of_mem_ends hj⟩
  · rintro ⟨i, j, hi, hspan⟩
    exact ⟨i, hi, j, mem_ends_of_span hspan hi⟩

end Regex
