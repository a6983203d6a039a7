import Mathlib
import IngressNginx.Lib.Go

/-!
# Lua runtime semantics

The parts of OpenResty's Lua that a translated program leans on:

* tables decoded from JSON objects, iterated by `pairs` in an order Lua leaves open, so
  modelled as the association list of the object with a `Go.RangeOrder` choosing the order;
* `ngx.shared.DICT` dictionaries, whose `set` finds room, finds it only once least recently
  used entries are evicted, or finds none (`SetAnswer`, `dictSet`);
* the ASCII string operations of `string.gsub` and `string.lower`.

Which entries are least recently used follows the `get`s and `set`s of every worker, so which
answer a `set` meets is the environment's: the model over-approximates the LRU order by letting
any entries be evicted. A `set` that removes nothing else and never fails is `stored`; a
statement that holds only where nothing is evicted says so with that answer as a hypothesis.

A loop that stores each pair of a table in a dictionary where every `set` is `stored`, deleting
the keys whose value is a sentinel, leaves the dictionary holding the table's entries whatever
the order of `pairs` (`lookup_syncTable`). Nothing here mentions the program being modelled.
-/

namespace Lua

/-- A string-keyed table decoded from a JSON object. -/
abbrev Table (ν : Type) := Go.Map String ν

/-- A shared dictionary of strings (`ngx.shared.DICT`). -/
abbrev SharedDict := Go.Map String String

/-- What a `dict:set(key, value)` meets. `stored`: room for the entry. `forcible`: room once
the listed entries, least recently used, are evicted (`set` tries this up to thirty times).
`noMemory`: no room even so; the key has lost its old value as well, since a value of another
size is unlinked before the new one is allocated. `safe_set` evicts nothing: where `set` would,
it fails with `no memory`. -/
inductive SetAnswer where
  | stored
  | forcible (evicted : List String)
  | noMemory (evicted : List String)
deriving DecidableEq, Repr

namespace SetAnswer

/-- The `success` a `set` returns. -/
def success : SetAnswer → Bool
  | .noMemory _ => false
  | _ => true

@[simp] lemma success_stored : stored.success = true := rfl

/-- The keys a `set` of `key` removes besides storing it: those evicted, and the key itself when
it fails. -/
def removes (key : String) : SetAnswer → List String
  | .stored => []
  | .forcible evicted => evicted
  | .noMemory evicted => key :: evicted

end SetAnswer

/-- `dict:set(key, value)` meeting `answer`: the dictionary after it, and `success`. -/
def dictSet {ν : Type} (dict : Go.Map String ν) (key : String) (value : ν) (answer : SetAnswer) :
    Go.Map String ν × Bool :=
  let dict := (answer.removes key).foldl (fun d k => d.erase k) dict
  if answer.success then (dict.insert key value, true) else (dict, false)

/-- `s:gsub("[A-Z]", string.lower)`: ASCII letters in lower case. -/
def lowerAscii (s : String) : String := String.ofList (s.toList.map Char.toLower)

/-- One pass of `for k, v in pairs(t)`: `dict:delete(k)` when `del v`, `dict:set(k, v)`
finding room otherwise. -/
def syncStep (del : String → Bool) (dict : SharedDict) (e : String × String) : SharedDict :=
  if del e.2 then dict.erase e.1 else dict.insert e.1 e.2

/-- `for k, v in pairs(t)` storing each pair in `dict`, the values `del` picks deleting, every
`set` finding room. -/
def syncTable {ι : Type} (ord : Go.RangeOrder ι String) (i : ι) (del : String → Bool)
    (t : Table String) (dict : SharedDict) : SharedDict :=
  (t.range ord i).foldl (syncStep del) dict

/-- A loop in a timer callback whose body may raise an error (`none`): an error ends the
callback, keeping what the passes before it did. The flag is `true` when the loop ran to
its end. -/
def runLoop {σ α : Type} (body : σ → α → Option σ) : List α → σ → σ × Bool
  | [], s => (s, true)
  | x :: xs, s =>
    match body s x with
    | some s' => runLoop body xs s'
    | none => (s, false)

/-- The value of a key after `syncTable`: what the table holds, a deleting value as none. -/
def synced (del : String → Bool) (v : String) : Option String := if del v then none else some v

/-! ### What a `set` leaves -/

section Set

variable {ν : Type} {dict : Go.Map String ν} {key : String} {value : ν} {answer : SetAnswer}

@[simp] lemma dictSet_stored : dictSet dict key value .stored = (dict.insert key value, true) :=
  rfl

@[simp] lemma dictSet_snd : (dictSet dict key value answer).2 = answer.success := by
  unfold dictSet
  split_ifs with h <;> simp [h]

/-- Deleting the keys of a list deletes exactly them. -/
lemma lookup_foldl_erase (k : String) :
    ∀ (l : List String) (dict : Go.Map String ν),
      (l.foldl (fun d x => d.erase x) dict).lookup k = if k ∈ l then none else dict.lookup k
  | [], dict => by simp
  | x :: l, dict => by
    rw [List.foldl_cons, lookup_foldl_erase k l]
    by_cases hk : k = x
    · subst hk
      simp
    · simp [hk, AList.lookup_erase_ne hk]

/-- The key holds the value after a `set` that succeeds, and nothing after one that fails. -/
lemma lookup_dictSet_self :
    (dictSet dict key value answer).1.lookup key = if answer.success then some value else none := by
  cases answer <;> simp [dictSet, SetAnswer.success, SetAnswer.removes, lookup_foldl_erase]

/-- Any other key keeps its value, unless the `set` evicted it. -/
lemma lookup_dictSet_ne {k : String} (hk : k ≠ key) :
    (dictSet dict key value answer).1.lookup k =
      if k ∈ answer.removes key then none else dict.lookup k := by
  have herase := lookup_foldl_erase k (answer.removes key) dict
  cases hsuccess : answer.success
  · simp only [dictSet, hsuccess, Bool.false_eq_true, if_false]
    exact herase
  · simp only [dictSet, hsuccess, if_true]
    rw [AList.lookup_insert_ne hk, herase]

end Set

section Lemmas

variable {ι : Type} {ord : Go.RangeOrder ι String} {i : ι}

/-- The first entry of `k` in a `range` holds the value of `k`. -/
lemma find?_range {ν : Type} (t : Go.Map String ν) (k : String) :
    (t.range ord i).find? (·.1 = k) = (t.lookup k).map (k, ·) := by
  cases hk : t.lookup k with
  | none =>
    rw [Option.map_none, List.find?_eq_none]
    rintro ⟨k', v'⟩ he hk'
    simp only [decide_eq_true_eq] at hk'
    subst hk'
    simp [Go.Map.mem_range.mp he] at hk
  | some v =>
    obtain ⟨pre, post, hsplit⟩ := List.append_of_mem (Go.Map.mem_range.mpr hk)
    have hnd : ((t.range ord i).map Prod.fst).Nodup := Go.Map.range_keys_nodup
    rw [hsplit, List.map_append, List.map_cons, List.nodup_append] at hnd
    have hpre : ∀ e ∈ pre, e.1 ≠ k := fun e he hek =>
      hnd.2.2 e.1 (List.mem_map_of_mem he) k List.mem_cons_self hek
    rw [hsplit, List.find?_append, List.find?_eq_none.mpr (by simpa using hpre)]
    simp

/-- A key outside the keys of a list is the key of none of its entries. -/
lemma find?_fst_eq_none {β : Type} {es : List (String × β)} {k : String}
    (h : k ∉ es.map Prod.fst) : es.find? (·.1 = k) = none :=
  List.find?_eq_none.mpr fun e he hek => h (List.mem_map.mpr ⟨e, he, by simpa using hek⟩)

/-- After storing the entries of a list with distinct keys, a key holds its value from the
list, and a key not in the list what it held before. -/
lemma lookup_foldl_syncStep (del : String → Bool) (k : String) :
    ∀ (es : List (String × String)), (es.map Prod.fst).Nodup → ∀ dict : SharedDict,
      (es.foldl (syncStep del) dict).lookup k =
        match es.find? (·.1 = k) with
        | some e => synced del e.2
        | none => dict.lookup k
  | [], _, dict => rfl
  | (k', v') :: es, hnd, dict => by
    rw [List.map_cons, List.nodup_cons] at hnd
    rw [List.foldl_cons, lookup_foldl_syncStep del k es hnd.2]
    by_cases hk : k' = k
    · -- the key is stored by this pass and by no later one
      subst hk
      rw [find?_fst_eq_none hnd.1]
      by_cases hv : del v' <;> simp [syncStep, synced, hv, AList.lookup_insert]
    · have hfind : ((k', v') :: es).find? (·.1 = k) = es.find? (·.1 = k) := by
        simp [hk]
      rw [hfind]
      cases es.find? (·.1 = k) with
      | some e => rfl
      | none =>
        unfold syncStep
        split_ifs
        · exact AList.lookup_erase_ne (Ne.symm hk)
        · exact AList.lookup_insert_ne (Ne.symm hk)

/-- After `syncTable`, a key of the table holds its value, a sentinel deleting it, and any
other key what it held before; the order of `pairs` does not matter. -/
lemma lookup_syncTable (del : String → Bool) (t : Table String) (dict : SharedDict) (k : String) :
    (syncTable ord i del t dict).lookup k =
      match t.lookup k with
      | some v => synced del v
      | none => dict.lookup k := by
  rw [syncTable, lookup_foldl_syncStep del k _ Go.Map.range_keys_nodup, find?_range]
  cases t.lookup k <;> rfl

/-- One pass of a loop that copies an entry into a table when its value passes `keep`. -/
def filterStep {ν : Type} (keep : ν → Bool) (t : Table ν) (e : String × ν) : Table ν :=
  if keep e.2 then t.insert e.1 e.2 else t

/-- After copying the entries of a list with distinct keys whose values pass `keep`, a key
holds its value from the list when that passes, and what it held before otherwise. -/
lemma lookup_foldl_filterStep {ν : Type} (keep : ν → Bool) (k : String) :
    ∀ (es : List (String × ν)), (es.map Prod.fst).Nodup → ∀ t : Table ν,
      (es.foldl (filterStep keep) t).lookup k =
        match es.find? (·.1 = k) with
        | some e => if keep e.2 then some e.2 else t.lookup k
        | none => t.lookup k
  | [], _, t => rfl
  | (k', v') :: es, hnd, t => by
    rw [List.map_cons, List.nodup_cons] at hnd
    rw [List.foldl_cons, lookup_foldl_filterStep keep k es hnd.2]
    by_cases hk : k' = k
    · -- the key is copied by this pass or by none
      subst hk
      rw [find?_fst_eq_none hnd.1]
      by_cases hv : keep v' <;> simp [filterStep, hv, AList.lookup_insert]
    · have hfind : ((k', v') :: es).find? (·.1 = k) = es.find? (·.1 = k) := by
        simp [hk]
      have hkeep : (filterStep keep t (k', v')).lookup k = t.lookup k := by
        unfold filterStep
        split_ifs
        · exact AList.lookup_insert_ne (Ne.symm hk)
        · rfl
      rw [hfind, hkeep]

/-- A loop over `pairs` that copies the entries whose values pass `keep` into an empty table
leaves the entries that pass, whatever the order of `pairs`. -/
lemma lookup_filterTable {ν : Type} (keep : ν → Bool) (t : Table ν) (k : String) :
    ((t.range ord i).foldl (filterStep keep) ∅).lookup k = (t.lookup k).filter keep := by
  rw [lookup_foldl_filterStep keep k _ Go.Map.range_keys_nodup, find?_range]
  cases t.lookup k with
  | none => rfl
  | some v =>
    by_cases hv : keep v <;> simp [Option.filter, hv]

/-- A loop `t[x] = v` over a list: afterwards a key holds `v` when it is in the list or held
`v` before. -/
lemma lookup_foldl_insert {ν : Type} (v : ν) (k : String) :
    ∀ (l : List String) (t : Table ν),
      (l.foldl (fun t x => t.insert x v) t).lookup k = some v ↔ k ∈ l ∨ t.lookup k = some v
  | [], t => by simp
  | x :: l, t => by
    rw [List.foldl_cons, lookup_foldl_insert v k l, Go.Map.lookup_insert_eq_some, List.mem_cons]
    by_cases hk : k = x <;> simp [hk]

/-- The same loop, key by key: a key of the list holds `v`, any other what it held. -/
lemma lookup_foldl_insert_eq {ν : Type} (v : ν) (k : String) :
    ∀ (l : List String) (t : Table ν),
      (l.foldl (fun t x => t.insert x v) t).lookup k = if k ∈ l then some v else t.lookup k
  | [], t => by simp
  | x :: l, t => by
    rw [List.foldl_cons, lookup_foldl_insert_eq v k l]
    by_cases hk : k = x
    · subst hk
      simp
    · simp [hk, AList.lookup_insert_ne hk]

/-- `pairs` over a table whose integer keys all lie in its array part: ascending index order. -/
def arrayOrder {ι : Type} : Go.RangeOrder ι ℕ :=
  ⟨fun _ keys => keys.insertionSort (· ≤ ·), fun _ keys => List.perm_insertionSort _ keys⟩

/-- A table with the keys `s, …, s + n - 1` is visited in that order. -/
lemma arrayOrder_arrange {ι : Type} (i : ι) {keys : List ℕ} {s n : ℕ}
    (h : keys.Perm (List.range' s n)) : arrayOrder.arrange i keys = List.range' s n :=
  List.Perm.eq_of_sortedLE List.sortedLE_insertionSort (List.sortedLE_range' s n 1)
    ((List.perm_insertionSort _ keys).trans h)

/-! ### Loops that may raise an error -/

section RunLoop

variable {σ α : Type} {body : σ → α → Option σ} {l : List α}

/-- An invariant of every pass that returns holds when the loop stops, whether it ran to its
end or a pass raised an error. -/
lemma runLoop_invariant (P : σ → Prop) (hstep : ∀ s x s', x ∈ l → P s → body s x = some s' → P s')
    {s : σ} (hs : P s) : P (runLoop body l s).1 := by
  induction l generalizing s with
  | nil => exact hs
  | cons x l ih =>
    cases hx : body s x with
    | none => simpa [runLoop, hx] using hs
    | some s' =>
      rw [runLoop, hx]
      exact ih (fun s y s'' hy => hstep s y s'' (List.mem_cons_of_mem x hy))
        (hstep s x s' List.mem_cons_self hs hx)

/-- A loop none of whose passes raises an error runs to its end. -/
lemma runLoop_snd (h : ∀ s x, x ∈ l → (body s x).isSome) (s : σ) : (runLoop body l s).2 = true := by
  induction l generalizing s with
  | nil => rfl
  | cons x l ih =>
    obtain ⟨s', hx⟩ := Option.isSome_iff_exists.mp (h s x List.mem_cons_self)
    rw [runLoop, hx]
    exact ih (fun s y hy => h s y (List.mem_cons_of_mem x hy)) s'

/-- What the pass of one element makes true, and every pass that returns keeps, holds after
a loop that ran to its end. -/
lemma runLoop_of_pass {P : σ → Prop} {x : α} (hx : x ∈ l)
    (hpass : ∀ s s', body s x = some s' → P s')
    (hkeep : ∀ s y s', y ∈ l → P s → body s y = some s' → P s') {s : σ}
    (hend : (runLoop body l s).2 = true) : P (runLoop body l s).1 := by
  induction l generalizing s with
  | nil => cases hx
  | cons y l ih =>
    cases hy : body s y with
    | none => simp [runLoop, hy] at hend
    | some s' =>
      rw [runLoop, hy] at hend ⊢
      have hkeep' : ∀ s z s', z ∈ l → P s → body s z = some s' → P s' :=
        fun s z s' hz => hkeep s z s' (List.mem_cons_of_mem y hz)
      rcases List.mem_cons.mp hx with rfl | hx
      · -- the pass of `x` comes first; the later passes keep what it made true
        exact runLoop_invariant P hkeep' (hpass s s' hy)
      · exact ih hx hkeep' hend

/-- A loop over two lists runs over the second from where the first stopped, if the first ran
to its end. -/
lemma runLoop_append (l₁ l₂ : List α) (s : σ) :
    runLoop body (l₁ ++ l₂) s =
      if (runLoop body l₁ s).2 then runLoop body l₂ (runLoop body l₁ s).1
      else runLoop body l₁ s := by
  induction l₁ generalizing s with
  | nil => rfl
  | cons x l₁ ih =>
    rw [List.cons_append, runLoop, runLoop]
    cases body s x with
    | none => rfl
    | some s' => exact ih s'

/-- In a loop that ran to its end over elements of distinct keys `f`: what the pass of `x`
makes true from `Q`, which the passes before it keep, holds at the end if the passes after it
keep it. -/
lemma runLoop_of_pass_once {κ : Type} (f : α → κ) (hnodup : (l.map f).Nodup) {P Q : σ → Prop}
    {x : α} (hx : x ∈ l)
    (hbefore : ∀ s y s', y ∈ l → f y ≠ f x → Q s → body s y = some s' → Q s')
    (hpass : ∀ s s', Q s → body s x = some s' → P s')
    (hafter : ∀ s y s', y ∈ l → f y ≠ f x → P s → body s y = some s' → P s') {s : σ}
    (hs : Q s) (hend : (runLoop body l s).2 = true) : P (runLoop body l s).1 := by
  obtain ⟨l₁, l₂, rfl⟩ := List.append_of_mem hx
  -- the key of `x` stands once, so every other pass is of another key
  have hkey : f x ∉ l₁.map f ++ l₂.map f := by
    rw [List.map_append, List.map_cons, List.nodup_middle] at hnodup
    exact (List.nodup_cons.mp hnodup).1
  have hne : ∀ y, y ∈ l₁ ∨ y ∈ l₂ → f y ≠ f x := fun y hy hfy =>
    hkey (hfy ▸ List.mem_append.mpr (hy.imp List.mem_map_of_mem List.mem_map_of_mem))
  rw [runLoop_append] at hend ⊢
  by_cases h₁ : (runLoop body l₁ s).2 = true
  · rw [if_pos h₁, runLoop] at hend ⊢
    have hQ : Q (runLoop body l₁ s).1 := runLoop_invariant Q
      (fun s y s' hy => hbefore s y s' (by simp [hy]) (hne y (.inl hy))) hs
    cases hbody : body (runLoop body l₁ s).1 x with
    | none => simp [hbody] at hend
    | some s' =>
      exact runLoop_invariant P (fun s y s' hy => hafter s y s' (by simp [hy]) (hne y (.inr hy)))
        (hpass _ s' hQ hbody)
  · rw [if_neg h₁] at hend
    exact absurd hend h₁

end RunLoop

/-- A string without upper-case ASCII letters. -/
def IsLowerAscii (s : String) : Prop := ∀ c ∈ s.toList, c.isUpper = false

lemma isLowerAscii_lowerAscii (s : String) : IsLowerAscii (lowerAscii s) := by
  intro c hc
  obtain ⟨c', -, rfl⟩ := List.mem_map.mp (by simpa [lowerAscii] using hc)
  exact Char.isUpper_toLower_eq_false c'

lemma lowerAscii_eq_self {s : String} (h : IsLowerAscii s) : lowerAscii s = s := by
  conv_rhs => rw [← String.ofList_toList (s := s)]
  rw [lowerAscii]
  congr 1
  exact List.map_congr_left (fun c hc => Char.toLower_eq_of_not_isUpper (by simp [h c hc])) |>.trans
    (List.map_id _)

/-- A string without upper-case letters is none that has one. -/
lemma IsLowerAscii.ne {k a : String} (hk : IsLowerAscii k) (ha : lowerAscii a ≠ a) : k ≠ a :=
  fun h => ha (h ▸ lowerAscii_eq_self hk)

end Lemmas

end Lua
