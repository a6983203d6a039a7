import Mathlib.Data.List.Range
import Mathlib.Data.List.TakeDrop

/-!
# Lists read cyclically and cut into chunks

`l.cycleTake k` is the first `k` elements of `l` repeated without end: the element at `i` is
that of `l` at `i % l.length`. It is `l.take k` while `k` is at most the length of `l`, and
`l` followed by `l.cycleTake m` for `k = l.length + m`.

The chunks of size `s` of a list are its slices `[i * s, (i + 1) * s)`: `c` of them, read in
order, give back its first `c * s` elements, and each has `s` elements while they lie in it.
Nothing here mentions the program being modelled.
-/

namespace List

variable {α : Type}

/-- The first `k` elements of `l` repeated: `l[i % l.length]` for each `i < k`. -/
def cycleTake (l : List α) (k : Nat) : List α :=
  (List.range k).filterMap fun i => l[i % l.length]?

section Cycle

variable {l : List α}

@[simp] lemma cycleTake_zero : l.cycleTake 0 = [] := rfl

lemma cycleTake_succ (k : Nat) : l.cycleTake (k + 1) = l.cycleTake k ++ l[k % l.length]?.toList := by
  rw [cycleTake, List.range_succ, List.filterMap_append]
  congr 1

lemma length_cycleTake (hl : l ≠ []) (k : Nat) : (l.cycleTake k).length = k := by
  induction k with
  | zero => rfl
  | succ k ih =>
    have hlt : k % l.length < l.length := Nat.mod_lt _ (List.length_pos_iff.mpr hl)
    rw [cycleTake_succ, List.length_append, ih, List.getElem?_eq_getElem hlt]
    rfl

/-- Up to the length of the list, reading it cyclically is taking its first elements. -/
lemma cycleTake_of_le {k : Nat} (hk : k ≤ l.length) : l.cycleTake k = l.take k := by
  induction k with
  | zero => simp
  | succ k ih =>
    have hlt : k < l.length := hk
    rw [cycleTake_succ, ih (Nat.le_of_lt hlt), Nat.mod_eq_of_lt hlt, List.take_add_one]

/-- Past its length, a list read cyclically starts over. -/
lemma cycleTake_length_add (m : Nat) : l.cycleTake (l.length + m) = l ++ l.cycleTake m := by
  induction m with
  | zero => simp [cycleTake_of_le le_rfl]
  | succ m ih =>
    rw [← Nat.add_assoc, cycleTake_succ, ih, cycleTake_succ, Nat.add_mod_left, List.append_assoc]

end Cycle

section Chunks

variable {l : List α} {s : Nat}

/-- The chunks `[i * s, (i + 1) * s)` for `i < c`, read in order, are the first `c * s`
elements. -/
lemma flatten_map_range_drop_take (l : List α) (s c : Nat) :
    ((List.range c).map fun i => (l.drop (i * s)).take s).flatten = l.take (c * s) := by
  induction c with
  | zero => simp
  | succ c ih =>
    rw [List.range_succ, List.map_append, List.flatten_append, ih, List.map_singleton,
      List.flatten_singleton, Nat.succ_mul, List.take_add]

/-- A chunk that lies in the list has `s` elements. -/
lemma length_drop_take {i : Nat} (h : (i + 1) * s ≤ l.length) : ((l.drop (i * s)).take s).length = s := by
  rw [Nat.succ_mul] at h
  rw [List.length_take, List.length_drop]
  omega

end Chunks

end List
