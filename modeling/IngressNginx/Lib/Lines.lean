import Mathlib.Data.List.Basic

/-!
# Lines of a text

The lines of a text over an alphabet with a newline symbol `nl` are the pieces between
newlines; a final newline ends the last line and starts none. A text written line by line is
`joinLines` of its complete lines followed by the line it is in the middle of, and its
`lines` are those (`lines_joinLines_append`).
-/

namespace Lines

variable {α : Type*} (nl : α)

/-- The lines of a text: its pieces between `nl`, without the empty piece after a final `nl`. -/
def lines [DecidableEq α] (t : List α) : List (List α) :=
  if t = [] ∨ t.getLast? = some nl then (t.splitOn nl).dropLast else t.splitOn nl

/-- Complete lines, each ended by `nl`. -/
def joinLines (ls : List (List α)) : List α := ls.flatMap (· ++ [nl])

variable {nl}

@[simp] lemma joinLines_nil : joinLines nl [] = [] := rfl

lemma joinLines_append (ls : List (List α)) (l : List α) :
    joinLines nl (ls ++ [l]) = joinLines nl ls ++ l ++ [nl] := by
  simp [joinLines]

/-- A line with a symbol outside `p` keeps its run of leading `p` symbols, and the rest, when
more is written after it. -/
lemma takeWhile_dropWhile_append {p : α → Bool} {l : List α} (h : ∃ b ∈ l, p b = false)
    (r : List α) :
    (l ++ r).takeWhile p = l.takeWhile p ∧ (l ++ r).dropWhile p = l.dropWhile p ++ r := by
  induction l with
  | nil => simp at h
  | cons a l ih =>
    by_cases ha : p a = true
    · have hl : ∃ b ∈ l, p b = false := by
        obtain ⟨b, hb, hpb⟩ := h
        rcases List.mem_cons.mp hb with rfl | hb
        · simp [ha] at hpb
        · exact ⟨b, hb, hpb⟩
      obtain ⟨htake, hdrop⟩ := ih hl
      simp [ha, htake, hdrop]
    · simp [ha]

variable [DecidableEq α]

lemma splitOn_joinLines_append (ls : List (List α)) (cur : List α) (hls : ∀ l ∈ ls, nl ∉ l)
    (hcur : nl ∉ cur) : (joinLines nl ls ++ cur).splitOn nl = ls ++ [cur] := by
  induction ls with
  | nil => simpa [joinLines] using List.splitOn_eq_singleton hcur
  | cons l ls ih =>
    have hl : nl ∉ l := hls l List.mem_cons_self
    have hrest := ih fun l' hl' => hls l' (List.mem_cons_of_mem l hl')
    calc (joinLines nl (l :: ls) ++ cur).splitOn nl
        = (l ++ nl :: (joinLines nl ls ++ cur)).splitOn nl := by simp [joinLines]
      _ = l :: (joinLines nl ls ++ cur).splitOn nl :=
          List.splitOn_append_cons_self_of_not_mem hl _
      _ = l :: ls ++ [cur] := by rw [hrest]; rfl

/-- The lines of complete lines followed by a current line, the current line counting when it
is not empty. -/
theorem lines_joinLines_append (ls : List (List α)) (cur : List α) (hls : ∀ l ∈ ls, nl ∉ l)
    (hcur : nl ∉ cur) :
    lines nl (joinLines nl ls ++ cur) = ls ++ (if cur = [] then [] else [cur]) := by
  rw [lines, splitOn_joinLines_append ls cur hls hcur]
  by_cases hempty : cur = []
  · -- the text is empty or ends with a newline, and the last piece is empty
    subst hempty
    have hend : joinLines nl ls = [] ∨ (joinLines nl ls).getLast? = some nl := by
      rcases List.eq_nil_or_concat ls with rfl | ⟨ls', l, rfl⟩
      · exact .inl rfl
      · exact .inr (by simp [joinLines_append])
    simp [hend]
  · -- the text ends with the last symbol of the current line, which is no newline
    have hlast : (joinLines nl ls ++ cur).getLast? = cur.getLast? := by
      rw [List.getLast?_append, List.getLast?_eq_some_getLast hempty]
      rfl
    have hnot : ¬ (joinLines nl ls ++ cur = [] ∨ (joinLines nl ls ++ cur).getLast? = some nl) := by
      rintro (h | h)
      · exact hempty (List.append_eq_nil_iff.mp h).2
      · rw [hlast] at h
        exact hcur (List.mem_of_getLast? h)
    rw [if_neg hnot, if_neg hempty]

end Lines
