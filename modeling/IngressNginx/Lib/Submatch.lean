import Mathlib.Data.List.Infix

/-!
# Leftmost-first submatches of a sequence of pieces

Go's `regexp` reports, of the matches that start leftmost in the text, the one a backtracking
search finds first, with the text of its capture groups (leftmost-first, as Perl does). For a
pattern that is a sequence of letters, classes and greedy repetitions `[p]+`, each piece
possibly a group, that search is `matchHere`: a letter or a class reads one letter, and `[p]+`
tries the longest run of `p` first, then each shorter one (`firstDown`). `leftmost` tries the
start positions from the left, and `findSubmatch` gives the matched text and then the groups, as
`FindSubmatch` does, `none` standing for its `nil` result.

A text is read in segments: a segment none of whose letters can begin a match is passed over
(`leftmost_append_of_not_accepts`), as is one where every start fails
(`leftmost_append_of_none`); a word matches itself (`matchHere_word_append`); and a run of `p`
that the text does not continue is what `[p]+` reads when the rest of the pattern matches after
it (`matchHere_plus_of_run`). Every match has one group per group of the pattern
(`length_findSubmatch`).
-/

namespace Submatch

variable {α β : Type}

/-- One piece of a pattern: a letter, a class of letters, or the greedy repetition `[p]+`. -/
inductive Piece (α : Type) where
  | lit (a : α)
  | cls (p : α → Bool)
  | plus (p : α → Bool)

/-- The groups after a piece that read `w`: `w` first when the piece is a group. -/
def capture (group : Bool) (w : List α) (groups : List (List α)) : List (List α) :=
  if group then w :: groups else groups

/-- A match of the rest of a pattern, after a piece that read `w`. -/
def extend (group : Bool) (w : List α) (r : List α × List (List α)) :
    List α × List (List α) :=
  (w ++ r.1, capture group w r.2)

/-- The first of the lengths `n, n - 1, …, 1` at which `f` succeeds, with what it gives. -/
def firstDown (f : ℕ → Option β) : ℕ → Option β
  | 0 => none
  | n + 1 => (f (n + 1)).or (firstDown f n)

/-- The pattern that reads the word `w`, in no group. -/
def word (w : List α) : List (Piece α × Bool) := w.map fun a => (.lit a, false)

section Generic

variable {f : ℕ → Option β} {n : ℕ} {b : β} {g : Bool}

@[simp] lemma length_capture (w : List α) (groups : List (List α)) :
    (capture g w groups).length = groups.length + if g then 1 else 0 := by
  cases g <;> simp [capture]

@[simp] lemma extend_false (w : List α) (r : List α × List (List α)) :
    extend false w r = (w ++ r.1, r.2) := rfl

lemma firstDown_succ_of_some (h : f (n + 1) = some b) : firstDown f (n + 1) = some b := by
  rw [firstDown, h, Option.some_or]

lemma firstDown_eq_none (h : ∀ k, 0 < k → k ≤ n → f k = none) : firstDown f n = none := by
  induction n with
  | zero => rfl
  | succ n ih =>
    rw [firstDown, h (n + 1) (Nat.succ_pos n) le_rfl, Option.none_or]
    exact ih fun k hk hkn => h k hk (Nat.le_succ_of_le hkn)

lemma exists_of_firstDown_eq_some (h : firstDown f n = some b) : ∃ k, f k = some b := by
  induction n with
  | zero => cases h
  | succ n ih =>
    rw [firstDown] at h
    rcases Option.or_eq_some_iff.mp h with hf | ⟨-, hrest⟩
    · exact ⟨n + 1, hf⟩
    · exact ih hrest

/-- A run of `p` that the text does not continue is what `takeWhile p` takes. -/
lemma takeWhile_append_of_stop {p : α → Bool} {d s : List α} (hdp : ∀ c ∈ d, p c = true)
    (hs : ∀ c ∈ s.head?, p c = false) : (d ++ s).takeWhile p = d := by
  -- the run stops where `s` begins
  have hstop : s.takeWhile p = [] := by
    cases s with
    | nil => rfl
    | cons c s => exact List.takeWhile_cons_of_neg (by simp [hs c rfl])
  rw [List.takeWhile_append_of_pos hdp, hstop, List.append_nil]

@[simp] lemma length_extend (w : List α) (r : List α × List (List α)) :
    (extend g w r).2.length = r.2.length + if g then 1 else 0 :=
  length_capture w r.2

end Generic

variable [DecidableEq α]

/-- Whether a piece can read `c` as its first letter. -/
def Piece.accepts : Piece α → α → Bool
  | .lit a, c => c = a
  | .cls p, c => p c
  | .plus p, c => p c

@[simp] lemma Piece.accepts_lit (a c : α) : (Piece.lit a).accepts c = decide (c = a) := rfl

@[simp] lemma Piece.accepts_cls (p : α → Bool) (c : α) : (Piece.cls p).accepts c = p c := rfl

@[simp] lemma Piece.accepts_plus (p : α → Bool) (c : α) : (Piece.plus p).accepts c = p c := rfl

/-- The match of the pieces at the start of a text that a backtracking search finds first: the
text it reads and its groups. -/
def matchHere : List (Piece α × Bool) → List α → Option (List α × List (List α))
  | [], _ => some ([], [])
  | (.lit a, g) :: ps, c :: s => if c = a then (matchHere ps s).map (extend g [c]) else none
  | (.cls p, g) :: ps, c :: s => if p c then (matchHere ps s).map (extend g [c]) else none
  | (.plus p, g) :: ps, s =>
    -- greedy: the longest run of `p` first, then each shorter one
    firstDown (fun k => (matchHere ps (s.drop k)).map (extend g (s.take k)))
      (s.takeWhile p).length
  | (.lit _, _) :: _, [] => none
  | (.cls _, _) :: _, [] => none

/-- The match that starts leftmost in the text. -/
def leftmost (ps : List (Piece α × Bool)) : List α → Option (List α × List (List α))
  | [] => matchHere ps []
  | c :: s => (matchHere ps (c :: s)).or (leftmost ps s)

/-- `FindSubmatch`: the leftmost match, its text first and then its groups. -/
def findSubmatch (ps : List (Piece α × Bool)) (t : List α) : Option (List (List α)) :=
  (leftmost ps t).map fun r => r.1 :: r.2

section Lemmas

variable {ps : List (Piece α × Bool)} {g : Bool} {p : α → Bool} {c : α} {s t d : List α}
  {r : List α × List (List α)}

@[simp] lemma matchHere_nil (s : List α) :
    matchHere ([] : List (Piece α × Bool)) s = some ([], []) := rfl

lemma matchHere_lit_cons (a : α) :
    matchHere ((.lit a, g) :: ps) (c :: s) =
      if c = a then (matchHere ps s).map (extend g [c]) else none := rfl

lemma matchHere_cls_cons :
    matchHere ((.cls p, g) :: ps) (c :: s) =
      if p c then (matchHere ps s).map (extend g [c]) else none := rfl

lemma matchHere_plus :
    matchHere ((.plus p, g) :: ps) s =
      firstDown (fun k => (matchHere ps (s.drop k)).map (extend g (s.take k)))
        (s.takeWhile p).length := by
  cases s <;> rfl

/-- A piece that cannot read the first letter fails there. -/
lemma matchHere_eq_none_of_not_accepts {e : Piece α × Bool} (h : e.1.accepts c = false) :
    matchHere (e :: ps) (c :: s) = none := by
  obtain ⟨piece, g⟩ := e
  cases piece with
  | lit a =>
    have hca : c ≠ a := by simpa [Piece.accepts] using h
    rw [matchHere_lit_cons, if_neg hca]
  | cls q =>
    rw [matchHere_cls_cons, if_neg (by simpa [Piece.accepts] using h)]
  | plus q =>
    have hq : q c = false := h
    rw [matchHere_plus, List.takeWhile_cons_of_neg (by simp [hq])]
    rfl

/-- A word reads itself. -/
lemma matchHere_word_append (w : List α) :
    matchHere (word w ++ ps) (w ++ s) = (matchHere ps s).map fun r => (w ++ r.1, r.2) := by
  induction w with
  | nil => simp [word]
  | cons a w ih =>
    rw [word, List.map_cons, List.cons_append, List.cons_append, matchHere_lit_cons, if_pos rfl,
      ← word, ih, Option.map_map]
    rfl

/-- A word fails where the text does not begin with it. -/
lemma matchHere_word_eq_none {w : List α} (h : ¬ w <+: s) :
    matchHere (word w ++ ps) s = none := by
  induction w generalizing s with
  | nil => exact absurd List.nil_prefix h
  | cons a w ih =>
    cases s with
    | nil => rfl
    | cons c s =>
      show matchHere ((.lit a, false) :: (word w ++ ps)) (c :: s) = none
      rw [matchHere_lit_cons]
      split_ifs with hca
      · subst hca
        rw [ih (fun hw => h (List.prefix_cons_inj c |>.mpr hw)), Option.map_none]
      · rfl

/-- `[p]+` reads a whole run of `p` that the text does not continue, when the rest of the
pattern matches after it. -/
lemma matchHere_plus_of_run (hd : d ≠ []) (hdp : ∀ c ∈ d, p c = true)
    (hs : ∀ c ∈ s.head?, p c = false) (h : matchHere ps s = some r) :
    matchHere ((.plus p, g) :: ps) (d ++ s) = some (extend g d r) := by
  obtain ⟨n, hn⟩ : ∃ n, d.length = n + 1 := Nat.exists_eq_succ_of_ne_zero (by simpa using hd)
  rw [matchHere_plus, takeWhile_append_of_stop hdp hs, hn, firstDown_succ_of_some]
  rw [← hn, List.drop_left, List.take_left, h, Option.map_some]

/-- `[p]+` fails when the rest of the pattern fails after every length of the run. -/
lemma matchHere_plus_eq_none
    (h : ∀ k, 0 < k → k ≤ (s.takeWhile p).length → matchHere ps (s.drop k) = none) :
    matchHere ((.plus p, g) :: ps) s = none := by
  rw [matchHere_plus]
  apply firstDown_eq_none
  intro k hk hkn
  rw [h k hk hkn, Option.map_none]

/-- A match of a piece and the rest is a match of the rest after what the piece read. -/
lemma exists_of_matchHere_cons {e : Piece α × Bool} (h : matchHere (e :: ps) s = some r) :
    ∃ w s', (matchHere ps s').map (extend e.2 w) = some r := by
  obtain ⟨piece, g⟩ := e
  cases piece with
  | lit a =>
    cases s with
    | nil => simp [matchHere] at h
    | cons c s =>
      rw [matchHere_lit_cons] at h
      split_ifs at h
      exact ⟨[c], s, h⟩
  | cls q =>
    cases s with
    | nil => simp [matchHere] at h
    | cons c s =>
      rw [matchHere_cls_cons] at h
      split_ifs at h
      exact ⟨[c], s, h⟩
  | plus q =>
    rw [matchHere_plus] at h
    obtain ⟨k, hk⟩ := exists_of_firstDown_eq_some h
    exact ⟨_, _, hk⟩

/-- The groups of a match are as many as the groups of the pattern. -/
lemma length_groups_of_matchHere (h : matchHere ps s = some r) :
    r.2.length = (ps.filter (·.2)).length := by
  -- induction on the pieces, the text generalized
  induction ps generalizing s r with
  | nil =>
    rw [matchHere_nil, Option.some_inj] at h
    rw [← h]
    rfl
  | cons e ps ih =>
    obtain ⟨piece, g⟩ := e
    obtain ⟨w, s', hmap⟩ := exists_of_matchHere_cons h
    obtain ⟨r', hr', rfl⟩ := Option.map_eq_some_iff.mp hmap
    rw [length_extend, ih hr']
    cases g <;> simp

/-- The match at the first start is the leftmost one. -/
lemma leftmost_of_matchHere (h : matchHere ps t = some r) : leftmost ps t = some r := by
  cases t with
  | nil => exact h
  | cons c s => rw [leftmost, h, Option.some_or]

lemma leftmost_cons_of_none (h : matchHere ps (c :: s) = none) :
    leftmost ps (c :: s) = leftmost ps s := by
  rw [leftmost, h, Option.none_or]

/-- A segment where every start fails is passed over. -/
lemma leftmost_append_of_none (h : ∀ u, u <:+ d → u ≠ [] → matchHere ps (u ++ t) = none) :
    leftmost ps (d ++ t) = leftmost ps t := by
  -- induction on the segment, each step one start that fails
  induction d with
  | nil => rfl
  | cons c d ih =>
    have hfirst : matchHere ps (c :: (d ++ t)) = none :=
      h (c :: d) List.suffix_rfl (List.cons_ne_nil c d)
    rw [List.cons_append, leftmost_cons_of_none hfirst]
    exact ih fun u hu hne => h u (hu.trans (List.suffix_cons c d)) hne

/-- A start whose letter the first piece cannot read is passed over. -/
lemma leftmost_cons_of_not_accepts {e : Piece α × Bool} (he : ps.head? = some e)
    (h : e.1.accepts c = false) : leftmost ps (c :: s) = leftmost ps s := by
  obtain ⟨ps, rfl⟩ := List.head?_eq_some_iff.mp he
  exact leftmost_cons_of_none (matchHere_eq_none_of_not_accepts h)

/-- A segment none of whose letters the first piece reads is passed over. -/
lemma leftmost_append_of_not_accepts {e : Piece α × Bool} (he : ps.head? = some e)
    (h : ∀ c ∈ d, e.1.accepts c = false) : leftmost ps (d ++ t) = leftmost ps t := by
  obtain ⟨ps, rfl⟩ := List.head?_eq_some_iff.mp he
  apply leftmost_append_of_none
  intro u hu hne
  obtain ⟨c, u, rfl⟩ := List.exists_cons_of_ne_nil hne
  exact matchHere_eq_none_of_not_accepts (h c (hu.subset List.mem_cons_self))

/-- A segment without the first letter of the word a pattern starts with is passed over. -/
lemma leftmost_word_append_of_not_mem {a : α} {w : List α} (h : a ∉ d) :
    leftmost (word (a :: w) ++ ps) (d ++ t) = leftmost (word (a :: w) ++ ps) t := by
  apply leftmost_append_of_not_accepts (e := (.lit a, false)) rfl
  intro c hc
  have hca : c ≠ a := fun hca => h (hca ▸ hc)
  simpa [Piece.accepts] using hca

/-- The leftmost match is a match at some start. -/
lemma exists_of_leftmost_eq_some (h : leftmost ps t = some r) : ∃ s, matchHere ps s = some r := by
  induction t with
  | nil => exact ⟨[], h⟩
  | cons c s ih =>
    rw [leftmost] at h
    rcases Option.or_eq_some_iff.mp h with hm | ⟨-, hrest⟩
    · exact ⟨c :: s, hm⟩
    · exact ih hrest

lemma findSubmatch_of_leftmost (h : leftmost ps t = some r) :
    findSubmatch ps t = some (r.1 :: r.2) := by
  rw [findSubmatch, h, Option.map_some]

/-- A match has its text and then one group per group of the pattern. -/
theorem length_findSubmatch {l : List (List α)} (h : findSubmatch ps t = some l) :
    l.length = (ps.filter (·.2)).length + 1 := by
  obtain ⟨r, hr, rfl⟩ := Option.map_eq_some_iff.mp h
  obtain ⟨s, hs⟩ := exists_of_leftmost_eq_some hr
  rw [List.length_cons, length_groups_of_matchHere hs]

end Lemmas

end Submatch
