import IngressNginx.Lib.Lua

/-!
# `util.lua`: deep comparison and the length of a table

`deep_compare(t1, t2, ignore_mt)` compares two Lua values: values of different types differ,
values that are not tables compare by `==`, as do tables whose metatable has `__eq` (unless
`ignore_mt`); other tables are equal when every entry of each has an entry under its key in the
other whose value compares equal. The recursive calls leave `ignore_mt` out.

A value here is a tree: acyclic, with scalar keys, its tables' entries in the order `pairs`
visits them and, for each table, whether its metatable has `__eq` and the table its metatable
names as `__index`. `t2[k1]` and `t1[k2]` read through `__index`, so a table without a key
that its `__index` holds compares equal to a table that has it (`deepCompare_reads_index`).
On values whose tables have distinct keys (as Lua tables do) and no metatable, `deep_compare`
decides structural equality `StructEq` (`deepCompare_iff_structEq`), from a sound and a
complete half. For the `nodes` tables that `balancer_resty.sync` compares, this is equality of
the sets of endpoints (`deepCompare_nodesTable`), which is how `Balancer.restySync` reads the
test.

`tablelength` counts the pairs of a table.
-/

namespace IngressNginx

namespace Util

/-! ### Lookups in lists of pairs -/

section Lookup

variable {κ β : Type} [DecidableEq κ] {k : κ} {v : β} {e : List (κ × β)}

lemma mem_of_lookup_eq_some (h : e.lookup k = some v) : (k, v) ∈ e := by
  obtain ⟨l₁, l₂, rfl, -⟩ := List.lookup_eq_some_iff.mp h
  exact List.mem_append_right l₁ List.mem_cons_self

/-- With distinct keys, the lookup of a key finds its entry. -/
lemma lookup_eq_some_of_mem (hnd : (e.map Prod.fst).Nodup) (h : (k, v) ∈ e) :
    e.lookup k = some v := by
  induction e with
  | nil => cases h
  | cons kv e ih =>
    obtain ⟨k', v'⟩ := kv
    rw [List.map_cons, List.nodup_cons] at hnd
    rcases List.mem_cons.mp h with heq | hmem
    · cases heq
      rw [List.lookup_cons, beq_self_eq_true]
    · -- the key is not the head's, which the rest of the list does not repeat
      have hk : k ∈ e.map Prod.fst := List.mem_map_of_mem (f := Prod.fst) hmem
      have hne : k ≠ k' := fun hkk => hnd.1 (hkk ▸ hk)
      rw [List.lookup_cons, beq_false_of_ne hne]
      exact ih hnd.2 hmem

/-- The lookup in a list of keys each paired with `x`. -/
lemma lookup_map_const (x : β) (l : List κ) (k : κ) :
    (l.map fun n => (n, x)).lookup k = if k ∈ l then some x else none := by
  by_cases hk : k ∈ l
  · rw [if_pos hk]
    exact List.lookup_graph (fun _ => x) hk
  · rw [if_neg hk, List.lookup_eq_none_iff]
    intro p hp
    obtain ⟨n, hn, rfl⟩ := List.mem_map.mp hp
    rw [bne_iff_ne]
    exact fun hkn => hk (hkn ▸ hn)

end Lookup

/-- What holds of a value holds of everything an `Option` holding it holds. -/
lemma forall_mem_some {α : Type} {p : α → Prop} {x : α} (h : p x) : ∀ v ∈ some x, p v :=
  fun _ hv => Option.some_inj.mp hv ▸ h

/-! ### Lua values -/

/-- A Lua value other than `nil`: a scalar of type `σ` (a boolean, number, string, function or
userdata), or a table with its entries in the order `pairs` visits them, whether its metatable
has `__eq`, and the table its metatable names as `__index`, if any. Keys are scalars of type
`κ`. A value that may be `nil` is an `Option`. -/
inductive Value (κ σ : Type) where
  | scalar (s : σ)
  | table (entries : List (κ × Value κ σ)) (eqMeta : Bool) (index : Option (Value κ σ))

/-- What `type` returns. -/
inductive LuaType (τ : Type) where
  | nil
  | table
  | scalar (t : τ)
  deriving DecidableEq

variable {κ σ τ : Type}

/-- `type(v)`, the type of a scalar given by `ty`. -/
def typeOf (ty : σ → τ) : Option (Value κ σ) → LuaType τ
  | none => .nil
  | some (.scalar s) => .scalar (ty s)
  | some (.table _ _ _) => .table

/-- Lua's `==` on two values that are not tables: `nil` equals `nil`, and scalars compare by
`luaEq`. -/
def rawEq (luaEq : σ → σ → Bool) : Option (Value κ σ) → Option (Value κ σ) → Bool
  | none, none => true
  | some (.scalar a), some (.scalar b) => luaEq a b
  | _, _ => false

/-- Whether the value is a table. -/
def Value.isTable : Value κ σ → Bool
  | .scalar _ => false
  | .table _ _ _ => true

/-- `t[k]` on a table: its own entry under `k`, else the `__index` table's `[k]`. -/
def Value.get [DecidableEq κ] : Value κ σ → κ → Option (Value κ σ)
  | .scalar _, _ => none
  | .table e _ index, k =>
    match e.lookup k, index with
    | some v, _ => some v
    | none, some t => t.get k
    | none, none => none

/-- Every table of the value has distinct keys, as every Lua table does, and an `__index` that
is a table. -/
inductive Value.WF : Value κ σ → Prop
  | scalar (s : σ) : Value.WF (.scalar s)
  | table {entries : List (κ × Value κ σ)} {eqMeta : Bool} {index : Option (Value κ σ)} :
      (entries.map Prod.fst).Nodup → (∀ kv ∈ entries, Value.WF kv.2) →
      (∀ t ∈ index, t.isTable = true) → (∀ t ∈ index, Value.WF t) →
      Value.WF (.table entries eqMeta index)

/-- No table of the value has a metatable with `__eq`. -/
inductive Value.NoEqMeta : Value κ σ → Prop
  | scalar (s : σ) : Value.NoEqMeta (.scalar s)
  | table {entries : List (κ × Value κ σ)} {index : Option (Value κ σ)} :
      (∀ kv ∈ entries, Value.NoEqMeta kv.2) → (∀ t ∈ index, Value.NoEqMeta t) →
      Value.NoEqMeta (.table entries false index)

/-- No table of the value has a metatable. -/
inductive Value.NoMeta : Value κ σ → Prop
  | scalar (s : σ) : Value.NoMeta (.scalar s)
  | table {entries : List (κ × Value κ σ)} :
      (∀ kv ∈ entries, Value.NoMeta kv.2) → Value.NoMeta (.table entries false none)

/-- Structural equality: the same type; scalars equal under Lua's `==`; tables with the same
keys and structurally equal values under each key. -/
inductive StructEq (ty : σ → τ) (luaEq : σ → σ → Bool) [DecidableEq κ] :
    Option (Value κ σ) → Option (Value κ σ) → Prop
  | nil : StructEq ty luaEq none none
  | scalar {a b : σ} : ty a = ty b → luaEq a b = true →
      StructEq ty luaEq (some (.scalar a)) (some (.scalar b))
  | table {e1 e2 : List (κ × Value κ σ)} {m1 m2 : Bool} {i1 i2 : Option (Value κ σ)} :
      (∀ k, (e1.lookup k).isSome = (e2.lookup k).isSome) →
      (∀ k v1 v2, e1.lookup k = some v1 → e2.lookup k = some v2 →
        StructEq ty luaEq (some v1) (some v2)) →
      StructEq ty luaEq (some (.table e1 m1 i1)) (some (.table e2 m2 i2))

section Inversion

/-- Two values of one type are both `nil`, both scalars, or both tables. -/
lemma typeOf_eq_iff {ty : σ → τ} {t1 t2 : Option (Value κ σ)} :
    typeOf ty t1 = typeOf ty t2 ↔ (t1 = none ∧ t2 = none) ∨
      (∃ a b, t1 = some (.scalar a) ∧ t2 = some (.scalar b) ∧ ty a = ty b) ∨
      (∃ e1 m1 i1 e2 m2 i2, t1 = some (.table e1 m1 i1) ∧ t2 = some (.table e2 m2 i2)) := by
  rcases t1 with _ | (a | ⟨e1, m1, i1⟩) <;> rcases t2 with _ | (b | ⟨e2, m2, i2⟩) <;>
    simp [typeOf]

lemma Value.WF.table_inv {e : List (κ × Value κ σ)} {m : Bool} {i : Option (Value κ σ)}
    (h : (Value.table e m i).WF) : (e.map Prod.fst).Nodup ∧ ∀ kv ∈ e, kv.2.WF := by
  cases h with
  | table hnd hwf _ _ => exact ⟨hnd, hwf⟩

lemma Value.NoMeta.table_inv {e : List (κ × Value κ σ)} {m : Bool} {i : Option (Value κ σ)}
    (h : (Value.table e m i).NoMeta) : m = false ∧ i = none ∧ ∀ kv ∈ e, kv.2.NoMeta := by
  cases h with
  | table hmeta => exact ⟨rfl, rfl, hmeta⟩

/-- A table's own entry comes before its `__index`. -/
lemma Value.get_table_of_lookup [DecidableEq κ] {e : List (κ × Value κ σ)} {k : κ}
    {v : Value κ σ} (h : e.lookup k = some v) (m : Bool) (i : Option (Value κ σ)) :
    (Value.table e m i).get k = some v := by
  rw [Value.get.eq_def]
  simp only [h]

/-- A key the table lacks is read from its `__index`. -/
lemma Value.get_table_of_lookup_none [DecidableEq κ] {e : List (κ × Value κ σ)} {k : κ}
    (h : e.lookup k = none) (m : Bool) (t : Value κ σ) :
    (Value.table e m (some t)).get k = t.get k := by
  rw [Value.get.eq_def]
  simp only [h]

/-- A table without `__index` is read raw. -/
@[simp] lemma Value.get_table_none [DecidableEq κ] (e : List (κ × Value κ σ)) (m : Bool) (k : κ) :
    (Value.table e m none).get k = e.lookup k := by
  rw [Value.get.eq_def]
  cases h : e.lookup k <;> simp only [h]

end Inversion

section Size

lemma sizeOf_lt_table {k : κ} {v : Value κ σ} {e : List (κ × Value κ σ)} (h : (k, v) ∈ e)
    (m : Bool) (i : Option (Value κ σ)) :
    sizeOf (some v) < sizeOf (some (Value.table e m i)) := by
  have hmem := List.sizeOf_lt_of_mem h
  rw [Prod.mk.sizeOf_spec] at hmem
  rw [Option.some.sizeOf_spec, Option.some.sizeOf_spec, Value.table.sizeOf_spec]
  omega

/-- What `t[k]` finds lies inside `t`: an entry of it or of its `__index` tables. -/
lemma sizeOf_get_lt [DecidableEq κ] : ∀ (t : Value κ σ) (k : κ), sizeOf (t.get k) < sizeOf (some t)
  | .scalar s, k => by
    rw [Value.get, Option.none.sizeOf_spec, Option.some.sizeOf_spec, Value.scalar.sizeOf_spec]
    omega
  | .table e m i, k => by
    cases hk : e.lookup k with
    | some v =>
      rw [Value.get_table_of_lookup hk]
      exact sizeOf_lt_table (mem_of_lookup_eq_some hk) m i
    | none =>
      have hsize : sizeOf (Value.table e m i) = 1 + sizeOf e + sizeOf m + sizeOf i :=
        Value.table.sizeOf_spec e m i
      cases i with
      | none =>
        rw [Value.get_table_none, hk, Option.none.sizeOf_spec, Option.some.sizeOf_spec]
        omega
      | some t =>
        -- the `__index` table is smaller than the table that names it
        have ht := sizeOf_get_lt t k
        rw [Value.get_table_of_lookup_none hk, Option.some.sizeOf_spec]
        rw [Option.some.sizeOf_spec] at hsize ht
        omega

end Size

variable [DecidableEq κ] [DecidableEq τ] (ty : σ → τ) (luaEq : σ → σ → Bool)
  (metaEq : Value κ σ → Value κ σ → Bool)

/-- `deep_compare(t1, t2, ignore_mt)`. `luaEq` is `==` on two scalars of one type, and
`metaEq` is `==` on two tables the first of which has `__eq`. -/
def deepCompare (t1 t2 : Option (Value κ σ)) (ignoreMt : Bool) : Bool :=
  if typeOf ty t1 ≠ typeOf ty t2 then false
  -- non-table types can be directly compared
  else if typeOf ty t1 ≠ .table ∧ typeOf ty t2 ≠ .table then rawEq luaEq t1 t2
  else
    match t1, t2 with
    | some (.table e1 m1 i1), some (.table e2 m2 i2) =>
      -- as well as tables which have the metamethod `__eq`
      if !ignoreMt && m1 then metaEq (.table e1 m1 i1) (.table e2 m2 i2)
      else
        -- `t2[k1]` and `t1[k2]` go through `__index`; the recursive calls leave `ignore_mt` out
        e1.attach.all (fun ⟨kv, _⟩ =>
            ((Value.table e2 m2 i2).get kv.1).isSome &&
              deepCompare (some kv.2) ((Value.table e2 m2 i2).get kv.1) false) &&
          e2.all (fun kv =>
            ((Value.table e1 m1 i1).get kv.1).isSome &&
              deepCompare ((Value.table e1 m1 i1).get kv.1) (some kv.2) false)
    | _, _ => false
termination_by sizeOf t1
decreasing_by
  · exact sizeOf_lt_table (k := kv.1) (by assumption) m1 i1
  · exact sizeOf_get_lt _ _

section Lemmas

variable {ty luaEq metaEq}

lemma typeOf_eq_of_deepCompare {t1 t2 : Option (Value κ σ)} {ignoreMt : Bool}
    (h : deepCompare ty luaEq metaEq t1 t2 ignoreMt = true) : typeOf ty t1 = typeOf ty t2 := by
  by_contra hne
  rw [deepCompare.eq_def, if_pos hne] at h
  cases h

@[simp] lemma deepCompare_none (ignoreMt : Bool) :
    deepCompare ty luaEq metaEq none none ignoreMt = true := by
  simp [deepCompare, typeOf, rawEq]

@[simp] lemma deepCompare_scalar (a b : σ) (ignoreMt : Bool) :
    deepCompare ty luaEq metaEq (some (.scalar a)) (some (.scalar b)) ignoreMt =
      (decide (ty a = ty b) && luaEq a b) := by
  by_cases hab : ty a = ty b <;> simp [deepCompare, typeOf, rawEq, hab]

/-- Two tables, the first without `__eq` or with `ignore_mt`, compare equal when each of their
entries has a value under its key in the other, read through `__index`, that compares equal. -/
lemma deepCompare_table_iff {e1 e2 : List (κ × Value κ σ)} {m1 m2 ignoreMt : Bool}
    {i1 i2 : Option (Value κ σ)} (hm : (!ignoreMt && m1) = false) :
    deepCompare ty luaEq metaEq (some (.table e1 m1 i1)) (some (.table e2 m2 i2)) ignoreMt =
        true ↔
      (∀ kv ∈ e1, ∃ v2, (Value.table e2 m2 i2).get kv.1 = some v2 ∧
        deepCompare ty luaEq metaEq (some kv.2) (some v2) false = true) ∧
      (∀ kv ∈ e2, ∃ v1, (Value.table e1 m1 i1).get kv.1 = some v1 ∧
        deepCompare ty luaEq metaEq (some v1) (some kv.2) false = true) := by
  rw [deepCompare.eq_def, if_neg (by simp [typeOf]), if_neg (by simp [typeOf])]
  simp only [hm, Bool.false_eq_true, if_false, Bool.and_eq_true, List.all_eq_true,
    List.mem_attach, true_implies, Subtype.forall]
  constructor
  · rintro ⟨h1, h2⟩
    refine ⟨fun kv hkv => ?_, fun kv hkv => ?_⟩
    · obtain ⟨hsome, hcmp⟩ := h1 kv hkv
      obtain ⟨v2, hv2⟩ := Option.isSome_iff_exists.mp hsome
      exact ⟨v2, hv2, hv2 ▸ hcmp⟩
    · obtain ⟨hsome, hcmp⟩ := h2 kv hkv
      obtain ⟨v1, hv1⟩ := Option.isSome_iff_exists.mp hsome
      exact ⟨v1, hv1, hv1 ▸ hcmp⟩
  · rintro ⟨h1, h2⟩
    refine ⟨fun kv hkv => ?_, fun kv hkv => ?_⟩
    · obtain ⟨v2, hv2, hcmp⟩ := h1 kv hkv
      rw [hv2]
      exact ⟨rfl, hcmp⟩
    · obtain ⟨v1, hv1, hcmp⟩ := h2 kv hkv
      rw [hv1]
      exact ⟨rfl, hcmp⟩

/-- Soundness: values without metatables that `deep_compare` finds equal are structurally
equal. -/
lemma structEq_of_deepCompare (t1 t2 : Option (Value κ σ)) (ignoreMt : Bool)
    (hm1 : ∀ v ∈ t1, v.NoMeta) (hm2 : ∀ v ∈ t2, v.NoMeta)
    (h : deepCompare ty luaEq metaEq t1 t2 ignoreMt = true) : StructEq ty luaEq t1 t2 := by
  -- `ht1` stays a hypothesis: the recursive call below is measured on `t1`
  obtain ⟨rfl, rfl⟩ | ⟨a, b, rfl, rfl, hab⟩ | ⟨e1, m1, i1, e2, m2, i2, ht1, rfl⟩ :=
    typeOf_eq_iff.mp (typeOf_eq_of_deepCompare h)
  · exact .nil
  · rw [deepCompare_scalar, Bool.and_eq_true] at h
    exact .scalar hab h.2
  · rw [ht1] at h hm1 ⊢
    obtain ⟨rfl, rfl, hmeta1⟩ := (hm1 _ rfl).table_inv
    obtain ⟨-, rfl, hmeta2⟩ := (hm2 _ rfl).table_inv
    -- without `__index`, both tables are read raw
    obtain ⟨h1, h2⟩ := (deepCompare_table_iff (by simp)).mp h
    simp only [Value.get_table_none] at h1 h2
    apply StructEq.table
    · -- a key of either table is a key of the other
      intro k
      rw [Bool.eq_iff_iff, Option.isSome_iff_exists, Option.isSome_iff_exists]
      constructor
      · rintro ⟨v1, hv1⟩
        obtain ⟨v2, hv2, -⟩ := h1 (k, v1) (mem_of_lookup_eq_some hv1)
        exact ⟨v2, hv2⟩
      · rintro ⟨v2, hv2⟩
        obtain ⟨v1, hv1, -⟩ := h2 (k, v2) (mem_of_lookup_eq_some hv2)
        exact ⟨v1, hv1⟩
    · intro k v1 v2 hv1 hv2
      have hmem := mem_of_lookup_eq_some hv1
      obtain ⟨v2', hv2', hcmp⟩ := h1 (k, v1) hmem
      rw [hv2] at hv2'
      cases hv2'
      exact structEq_of_deepCompare (some v1) (some v2) false
        (forall_mem_some (hmeta1 (k, v1) hmem))
        (forall_mem_some (hmeta2 (k, v2) (mem_of_lookup_eq_some hv2))) hcmp
termination_by sizeOf t1
decreasing_by
  rw [ht1]
  exact sizeOf_lt_table hmem _ _

/-- Completeness: structurally equal values with distinct keys and without metatables compare
equal. -/
lemma deepCompare_of_structEq {t1 t2 : Option (Value κ σ)} (h : StructEq ty luaEq t1 t2) :
    (∀ v ∈ t1, v.WF) → (∀ v ∈ t2, v.WF) → (∀ v ∈ t1, v.NoMeta) → (∀ v ∈ t2, v.NoMeta) →
      ∀ ignoreMt, deepCompare ty luaEq metaEq t1 t2 ignoreMt = true := by
  -- induction on the derivation, whose premises hold of every pair of values under one key
  induction h with
  | nil =>
    intro _ _ _ _ ignoreMt
    exact deepCompare_none ignoreMt
  | scalar hab heq =>
    intro _ _ _ _ ignoreMt
    rw [deepCompare_scalar, heq, decide_eq_true hab]
    rfl
  | @table e1 e2 m1 m2 i1 i2 hkeys _ ih =>
    intro hwf1 hwf2 hm1 hm2 ignoreMt
    obtain ⟨rfl, rfl, hmeta1⟩ := (hm1 _ rfl).table_inv
    obtain ⟨-, rfl, hmeta2⟩ := (hm2 _ rfl).table_inv
    obtain ⟨hnd1, hwf1⟩ := (hwf1 _ rfl).table_inv
    obtain ⟨hnd2, hwf2⟩ := (hwf2 _ rfl).table_inv
    have hwfOf : ∀ {e : List (κ × Value κ σ)} {k v}, (∀ kv ∈ e, kv.2.WF) → e.lookup k = some v →
        ∀ w ∈ some v, w.WF := fun hwf hv => forall_mem_some (hwf _ (mem_of_lookup_eq_some hv))
    have hmetaOf : ∀ {e : List (κ × Value κ σ)} {k v}, (∀ kv ∈ e, kv.2.NoMeta) →
        e.lookup k = some v → ∀ w ∈ some v, w.NoMeta :=
      fun hmeta hv => forall_mem_some (hmeta _ (mem_of_lookup_eq_some hv))
    rw [deepCompare_table_iff (by simp)]
    simp only [Value.get_table_none]
    constructor
    · intro kv hkv
      have hv1 := lookup_eq_some_of_mem hnd1 hkv
      obtain ⟨v2, hv2⟩ := Option.isSome_iff_exists.mp
        ((hkeys kv.1).symm ▸ Option.isSome_iff_exists.mpr ⟨kv.2, hv1⟩)
      exact ⟨v2, hv2, ih kv.1 kv.2 v2 hv1 hv2 (hwfOf hwf1 hv1) (hwfOf hwf2 hv2)
        (hmetaOf hmeta1 hv1) (hmetaOf hmeta2 hv2) false⟩
    · intro kv hkv
      have hv2 := lookup_eq_some_of_mem hnd2 hkv
      obtain ⟨v1, hv1⟩ := Option.isSome_iff_exists.mp
        ((hkeys kv.1) ▸ Option.isSome_iff_exists.mpr ⟨kv.2, hv2⟩)
      exact ⟨v1, hv1, ih kv.1 v1 kv.2 hv1 hv2 (hwfOf hwf1 hv1) (hwfOf hwf2 hv2)
        (hmetaOf hmeta1 hv1) (hmetaOf hmeta2 hv2) false⟩

end Lemmas

/-- For all values whose tables have distinct keys and no metatable: `deep_compare(t1, t2,
ignore_mt)` is true exactly when they are structurally equal. -/
theorem deepCompare_iff_structEq (t1 t2 : Option (Value κ σ)) (h1 : ∀ v ∈ t1, v.WF)
    (h2 : ∀ v ∈ t2, v.WF) (hm1 : ∀ v ∈ t1, v.NoMeta) (hm2 : ∀ v ∈ t2, v.NoMeta)
    (ignoreMt : Bool) :
    deepCompare ty luaEq metaEq t1 t2 ignoreMt = true ↔ StructEq ty luaEq t1 t2 :=
  ⟨structEq_of_deepCompare t1 t2 ignoreMt hm1 hm2,
    fun h => deepCompare_of_structEq h h1 h2 hm1 hm2 ignoreMt⟩

omit [DecidableEq κ] in
/-- Tables of scalars are well formed and carry no metatable. -/
lemma wf_noMeta_of_scalars {e : List (κ × Value κ σ)} (hnd : (e.map Prod.fst).Nodup)
    (he : ∀ kv ∈ e, ∃ s, kv.2 = .scalar s) :
    (∀ v ∈ some (Value.table e false none), v.WF) ∧
      ∀ v ∈ some (Value.table e false none), v.NoMeta := by
  constructor
  · rintro v ⟨⟩
    refine .table hnd (fun kv hkv => ?_) (fun _ h => by cases h) (fun _ h => by cases h)
    obtain ⟨s, hs⟩ := he kv hkv
    rw [hs]
    exact .scalar s
  · rintro v ⟨⟩
    refine .table fun kv hkv => ?_
    obtain ⟨s, hs⟩ := he kv hkv
    rw [hs]
    exact .scalar s

theorem deepCompare_iff_structEq_reordered :
    (∀ v ∈ some (Value.table [("a", .scalar 1), ("b", .scalar 2)] false none : Value String ℕ),
        v.WF) ∧
      (∀ v ∈ some (Value.table [("b", .scalar 2), ("a", .scalar 1)] false none :
        Value String ℕ), v.WF) ∧
      (∀ v ∈ some (Value.table [("a", .scalar 1), ("b", .scalar 2)] false none :
        Value String ℕ), v.NoMeta) ∧
      (∀ v ∈ some (Value.table [("b", .scalar 2), ("a", .scalar 1)] false none :
        Value String ℕ), v.NoMeta) ∧
      (deepCompare (fun _ => ()) (fun a b => a == b) (fun _ _ => false)
          (some (.table [("a", .scalar 1), ("b", .scalar 2)] false none))
          (some (.table [("b", .scalar 2), ("a", .scalar 1)] false none)) false = true ↔
        StructEq (fun _ => ()) (fun a b => a == b)
          (some (.table [("a", .scalar 1), ("b", .scalar 2)] false none))
          (some (.table [("b", .scalar 2), ("a", .scalar 1)] false none))) := by
  obtain ⟨h1, hm1⟩ := wf_noMeta_of_scalars (e := [("a", (.scalar 1 : Value String ℕ)),
    ("b", .scalar 2)]) (by decide) (by simp)
  obtain ⟨h2, hm2⟩ := wf_noMeta_of_scalars (e := [("b", (.scalar 2 : Value String ℕ)),
    ("a", .scalar 1)]) (by decide) (by simp)
  exact ⟨h1, h2, hm1, hm2, deepCompare_iff_structEq _ _ _ _ _ h1 h2 hm1 hm2 false⟩

/-- `{a = 1}`. -/
def onlyA : Value String ℕ := .table [("a", .scalar 1)] false none

/-- A table with no entries whose metatable's `__index` is `{a = 1}`. -/
def indexedA : Value String ℕ := .table [] false (some onlyA)

/-- A metatable with `__index` defeats the comparison: `deep_compare` reads `t2.a` through
`__index` and finds `{a = 1}` equal to a table without keys, though neither carries `__eq`. -/
theorem deepCompare_reads_index :
    (∀ v ∈ some onlyA, v.WF) ∧ (∀ v ∈ some indexedA, v.WF) ∧
      (∀ v ∈ some onlyA, v.NoEqMeta) ∧ (∀ v ∈ some indexedA, v.NoEqMeta) ∧
      deepCompare (fun _ => ()) (fun a b => a == b) (fun _ _ => false) (some onlyA)
        (some indexedA) false = true ∧
      ¬StructEq (fun _ => ()) (fun a b => a == b) (some onlyA) (some indexedA) := by
  have honly : onlyA.WF ∧ onlyA.NoEqMeta := by
    refine ⟨.table (by decide) (fun kv hkv => ?_) (fun _ h => by cases h) (fun _ h => by cases h),
      .table (fun kv hkv => ?_) (fun _ h => by cases h)⟩ <;>
    · rw [List.mem_singleton.mp hkv]
      constructor
  refine ⟨forall_mem_some honly.1, forall_mem_some ?_, forall_mem_some honly.2,
    forall_mem_some ?_, ?_, ?_⟩
  · refine .table List.nodup_nil (fun _ h => by cases h) (fun t ht => ?_) fun t ht => ?_ <;>
      cases ht
    · rfl
    · exact honly.1
  · refine .table (fun _ h => by cases h) fun t ht => ?_
    cases ht
    exact honly.2
  · -- `t2.a` is found through `__index`, and the keys of `t2` are none
    rw [onlyA, indexedA, deepCompare_table_iff rfl]
    refine ⟨fun kv hkv => ⟨.scalar 1, ?_, ?_⟩, fun _ h => by cases h⟩ <;>
      rw [List.mem_singleton.mp hkv]
    · rfl
    · simp
  · intro h
    cases h with
    | table hkeys _ => simpa using hkeys "a"

/-! ### The nodes of a balancer -/

/-- The `nodes` table of `util.get_nodes`: the weight `w` (which is `1`) under each endpoint, an
endpoint listed twice stored once. -/
def nodesTable (w : σ) (nodes : List κ) : Value κ σ :=
  .table (nodes.dedup.map fun n => (n, .scalar w)) false none

section Nodes

variable {ty luaEq metaEq} {w : σ}

lemma nodesTable_wf (nodes : List κ) : (nodesTable w nodes).WF := by
  apply Value.WF.table
  · rw [List.map_map]
    exact (List.map_id' _).symm ▸ List.nodup_dedup nodes
  · intro kv hkv
    obtain ⟨n, -, rfl⟩ := List.mem_map.mp hkv
    exact .scalar w
  · intro _ h
    cases h
  · intro _ h
    cases h

lemma nodesTable_noMeta (nodes : List κ) : (nodesTable w nodes).NoMeta := by
  apply Value.NoMeta.table
  intro kv hkv
  obtain ⟨n, -, rfl⟩ := List.mem_map.mp hkv
  exact .scalar w

lemma lookup_nodesTable (nodes : List κ) (k : κ) :
    (nodes.dedup.map fun n => (n, (Value.scalar w : Value κ σ))).lookup k =
      if k ∈ nodes then some (.scalar w) else none := by
  simp only [lookup_map_const, List.mem_dedup]

/-- `balancer_resty.sync` finds its nodes unchanged exactly when the two `nodes` tables hold the
same endpoints, which is the test `Balancer.restySync` makes on the sets of nodes. -/
lemma deepCompare_nodesTable (hw : luaEq w w = true) (nodes₁ nodes₂ : List κ) (ignoreMt : Bool) :
    deepCompare ty luaEq metaEq (some (nodesTable w nodes₁)) (some (nodesTable w nodes₂))
        ignoreMt = true ↔ nodes₁.toFinset = nodes₂.toFinset := by
  constructor
  · intro h
    have hs := structEq_of_deepCompare _ _ ignoreMt
      (forall_mem_some (nodesTable_noMeta nodes₁)) (forall_mem_some (nodesTable_noMeta nodes₂)) h
    rw [nodesTable, nodesTable] at hs
    cases hs with
    | table hkeys _ =>
      ext k
      have hk := hkeys k
      rw [lookup_nodesTable, lookup_nodesTable] at hk
      by_cases h₁ : k ∈ nodes₁ <;> by_cases h₂ : k ∈ nodes₂ <;> simp_all
  · intro h
    have hmem : ∀ k, k ∈ nodes₁ ↔ k ∈ nodes₂ := fun k => by
      rw [← List.mem_toFinset, h, List.mem_toFinset]
    apply deepCompare_of_structEq _ (forall_mem_some (nodesTable_wf nodes₁))
      (forall_mem_some (nodesTable_wf nodes₂)) (forall_mem_some (nodesTable_noMeta nodes₁))
      (forall_mem_some (nodesTable_noMeta nodes₂))
    rw [nodesTable, nodesTable]
    apply StructEq.table
    · intro k
      rw [lookup_nodesTable, lookup_nodesTable]
      by_cases h₁ : k ∈ nodes₁
      · rw [if_pos h₁, if_pos ((hmem k).mp h₁)]
      · rw [if_neg h₁, if_neg (fun h₂ => h₁ ((hmem k).mpr h₂))]
    · intro k v1 v2 hv1 hv2
      rw [lookup_nodesTable] at hv1 hv2
      split_ifs at hv1 hv2
      cases hv1
      cases hv2
      exact .scalar rfl hw

end Nodes

/-! ### Length -/

/-- `util.tablelength`: count the pairs of the table. -/
def tablelength {ι ν : Type} (ord : Go.RangeOrder ι κ) (i : ι) (T : Go.Map κ ν) : ℕ :=
  (T.range ord i).foldl (fun count _ => count + 1) 0

/-- However `pairs` orders them, `tablelength` counts the keys of the table. -/
lemma tablelength_eq {ι ν : Type} (ord : Go.RangeOrder ι κ) (i : ι) (T : Go.Map κ ν) :
    tablelength ord i T = T.keys.length := by
  rw [tablelength, List.foldl_add_const, Go.Map.length_range, Nat.zero_add, Nat.one_mul]

end Util

end IngressNginx
