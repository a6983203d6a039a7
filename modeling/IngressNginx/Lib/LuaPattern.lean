import Mathlib.Data.List.Basic

/-!
# Lua's `gmatch` over one repeated character class

`string.gmatch(s, "[set]+")` yields the matches of the pattern left to right: at each position
`match` tries the pattern, `max_expand` takes the longest run of the class there, and the next
search starts where that match ended; a position where the class does not match is skipped.
`gmatchPlus p` is that iterator for the class with predicate `p`, so its matches are the
maximal runs of the class.

A subject read left to right as runs of the class and gaps of other characters gives back its
runs: a gap is skipped (`gmatchPlus_append_of_neg`) and a run the subject does not continue is
one match (`gmatchPlus_append_of_pos`). `isSpace` is the class `%s`.
-/

namespace LuaPattern

variable {α : Type}

/-- The class `%s`: the characters C's `isspace` accepts. -/
def isSpace (c : Char) : Bool :=
  c = ' ' || c = '\t' || c = '\n' || c = '\x0b' || c = '\x0c' || c = '\r'

/-- The matches of `"[set]+"` over the subject, for the class with predicate `p`. -/
def gmatchPlus (p : α → Bool) : List α → List (List α)
  | [] => []
  | c :: cs =>
    if p c then
      -- `max_expand` takes the longest run; the next search starts at its end
      (c :: cs.takeWhile p) :: gmatchPlus p (cs.dropWhile p)
    else gmatchPlus p cs
termination_by s => s.length
decreasing_by
  · exact Nat.lt_succ_of_le (List.dropWhile_suffix p).length_le
  · exact Nat.lt_succ_self _

section Lemmas

variable {p : α → Bool} {c : α} {cs g w s : List α}

@[simp] lemma gmatchPlus_nil : gmatchPlus p [] = [] := by
  rw [gmatchPlus]

lemma gmatchPlus_cons_of_pos (h : p c = true) :
    gmatchPlus p (c :: cs) = (c :: cs.takeWhile p) :: gmatchPlus p (cs.dropWhile p) := by
  rw [gmatchPlus, if_pos h]

lemma gmatchPlus_cons_of_neg (h : p c = false) : gmatchPlus p (c :: cs) = gmatchPlus p cs := by
  rw [gmatchPlus, if_neg (by rw [h]; exact Bool.false_ne_true)]

/-- A gap of characters outside the class is skipped. -/
lemma gmatchPlus_append_of_neg (hg : ∀ c ∈ g, p c = false) :
    gmatchPlus p (g ++ s) = gmatchPlus p s := by
  induction g with
  | nil => rfl
  | cons c g ih =>
    rw [List.cons_append, gmatchPlus_cons_of_neg (hg c List.mem_cons_self)]
    exact ih fun d hd => hg d (List.mem_cons_of_mem c hd)

/-- A run of the class that the rest of the subject does not continue is one match. -/
lemma gmatchPlus_append_of_pos (hw : w ≠ []) (hwp : ∀ c ∈ w, p c = true)
    (hs : ∀ c ∈ s.head?, p c = false) : gmatchPlus p (w ++ s) = w :: gmatchPlus p s := by
  obtain ⟨c, w', rfl⟩ := List.exists_cons_of_ne_nil hw
  have hw' : ∀ d ∈ w', p d = true := fun d hd => hwp d (List.mem_cons_of_mem c hd)
  -- the run stops where `s` begins
  have hstop : s.takeWhile p = [] ∧ s.dropWhile p = s := by
    cases s with
    | nil => exact ⟨rfl, rfl⟩
    | cons d s =>
      have hd : ¬ p d = true := by rw [hs d rfl]; exact Bool.false_ne_true
      exact ⟨List.takeWhile_cons_of_neg hd, List.dropWhile_cons_of_neg hd⟩
  rw [List.cons_append, gmatchPlus_cons_of_pos (hwp c List.mem_cons_self),
    List.takeWhile_append_of_pos hw', List.dropWhile_append_of_pos hw', hstop.1, hstop.2,
    List.append_nil]

end Lemmas

end LuaPattern
