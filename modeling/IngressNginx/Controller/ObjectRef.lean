import Mathlib.Data.Finset.Sort
import Mathlib.Data.String.Basic
import IngressNginx.Lib.Go

/-!
# Object references (`objectRefMap`)

`objectRefMap` (`store/objectref.go`) maps the key of a referenced object to the set of keys
of the objects that reference it, its consumers. `Insert` adds a consumer to some references,
and `Delete` takes a consumer out of every set and drops the sets it leaves empty, so no key
maps to an empty set: the structure carries that as a field, and each operation proves it.

What the map stands for is a relation between consumers and references
(`ObjectRefMap.Consumes`): `Insert` adds pairs, `Delete` removes the pairs of a consumer, and
`Has`, `Reference` and `ReferencedBy` read the relation, `Has` through the nonempty sets.
-/

namespace IngressNginx

/-- `objectRefMap`: each referenced key with the set of its consumers, never empty. -/
structure ObjectRefMap where
  v : Go.Map String (Finset String)
  nonempty : ∀ ref consumers, v.lookup ref = some consumers → consumers.Nonempty

namespace ObjectRefMap

/-- The loop of `Insert`: each reference gets the consumer, in a new set when it had none. -/
def insertRefs (v : Go.Map String (Finset String)) (consumer : String) (refs : List String) :
    Go.Map String (Finset String) :=
  refs.foldl (fun v r =>
    match v.lookup r with
    | none => v.insert r {consumer}
    | some consumers => v.insert r (insert consumer consumers)) v

/-- One pass of the loop of `Delete`: the consumer leaves the set of `ref`, which goes when it
is left empty. -/
def deleteStep (consumer : String) (v : Go.Map String (Finset String)) (ref : String) :
    Go.Map String (Finset String) :=
  match v.lookup ref with
  | some consumers =>
    let consumers := consumers.erase consumer
    if consumers.card = 0 then v.erase ref else v.insert ref consumers
  | none => v

/-- The loop of `Delete` over the references. -/
def deleteConsumer (v : Go.Map String (Finset String)) (consumer : String) :
    Go.Map String (Finset String) :=
  v.keys.foldl (deleteStep consumer) v

/-- What a set becomes in `Delete`: the consumer taken out, nothing when that empties it. -/
def eraseConsumer (consumer : String) (consumers : Finset String) : Option (Finset String) :=
  if (consumers.erase consumer).card = 0 then none else some (consumers.erase consumer)

section Loops

variable {v : Go.Map String (Finset String)} {consumer : String}

/-- After the loop of `Insert`, a reference listed holds the consumer added to what it held. -/
lemma lookup_insertRefs (refs : List String) (v : Go.Map String (Finset String)) (r : String) :
    (insertRefs v consumer refs).lookup r =
      if r ∈ refs then some (insert consumer ((v.lookup r).getD ∅)) else v.lookup r := by
  induction refs generalizing v with
  | nil => simp [insertRefs]
  | cons r' refs ih =>
    have hstep : (match v.lookup r' with
        | none => v.insert r' {consumer}
        | some consumers => v.insert r' (insert consumer consumers)) =
        v.insert r' (insert consumer ((v.lookup r').getD ∅)) := by
      cases v.lookup r' <;> simp
    rw [insertRefs, List.foldl_cons, hstep, ← insertRefs, ih]
    by_cases hr : r = r'
    · subst hr
      simp
    · simp [hr, AList.lookup_insert_ne hr]

lemma lookup_deleteStep (ref r : String) :
    (deleteStep consumer v ref).lookup r =
      if r = ref then (v.lookup r).bind (eraseConsumer consumer) else v.lookup r := by
  unfold deleteStep
  cases hv : v.lookup ref with
  | none =>
    by_cases hr : r = ref
    · subst hr
      simp [hv]
    · simp [hr]
  | some consumers =>
    dsimp only
    by_cases hr : r = ref
    · subst hr
      rw [if_pos rfl, hv, Option.bind_some, eraseConsumer]
      split_ifs <;> simp
    · split_ifs <;> simp [hr, AList.lookup_erase_ne, AList.lookup_insert_ne]

/-- The passes of `Delete` over distinct references each change their own set only. -/
lemma lookup_foldl_deleteStep (r : String) :
    ∀ (refs : List String) (v : Go.Map String (Finset String)), refs.Nodup →
      (refs.foldl (deleteStep consumer) v).lookup r =
        if r ∈ refs then (v.lookup r).bind (eraseConsumer consumer) else v.lookup r
  | [], v, _ => by simp
  | ref :: refs, v, hnodup => by
    obtain ⟨hfresh, hnodup⟩ := List.nodup_cons.mp hnodup
    rw [List.foldl_cons, lookup_foldl_deleteStep r refs _ hnodup, lookup_deleteStep]
    by_cases hr : r = ref
    · subst hr
      simp [hfresh]
    · simp [hr]

/-- After `Delete`, each set has lost the consumer, and the sets it emptied are gone. -/
lemma lookup_deleteConsumer (r : String) :
    (deleteConsumer v consumer).lookup r = (v.lookup r).bind (eraseConsumer consumer) := by
  rw [deleteConsumer, lookup_foldl_deleteStep r v.keys v v.keys_nodup]
  split_ifs with hr
  · rfl
  · rw [AList.lookup_eq_none.mpr (fun hmem => hr (AList.mem_keys.mpr hmem))]
    rfl

end Loops

/-- `NewObjectRefMap`. -/
def empty : ObjectRefMap := ⟨∅, fun _ _ h => by cases h⟩

/-- `Insert`: the consumer added to the set of each reference. -/
def insert (o : ObjectRefMap) (consumer : String) (refs : List String) : ObjectRefMap :=
  ⟨insertRefs o.v consumer refs, fun ref consumers h => by
    rw [lookup_insertRefs] at h
    split_ifs at h
    · cases h
      exact Finset.insert_nonempty _ _
    · exact o.nonempty ref consumers h⟩

/-- `Delete`: the consumer taken out of every set, the sets left empty dropped. -/
def delete (o : ObjectRefMap) (consumer : String) : ObjectRefMap :=
  ⟨deleteConsumer o.v consumer, fun ref consumers h => by
    rw [lookup_deleteConsumer] at h
    obtain ⟨old, -, herase⟩ := Option.bind_eq_some_iff.mp h
    unfold eraseConsumer at herase
    split_ifs at herase with hempty
    cases herase
    exact Finset.card_pos.mp (Nat.pos_of_ne_zero hempty)⟩

/-- `Has`: the reference has a set. -/
def has (o : ObjectRefMap) (ref : String) : Bool := (o.v.lookup ref).isSome

/-- `Reference`: the consumers of a reference, sorted as `sets.String.List` sorts them. -/
def reference (o : ObjectRefMap) (ref : String) : List String :=
  match o.v.lookup ref with
  | none => []
  | some consumers => consumers.sort (· ≤ ·)

/-- `ReferencedBy`: the references whose set holds the consumer, in the order of the keys
(Go's map order is random, and no caller depends on it). -/
def referencedBy (o : ObjectRefMap) (consumer : String) : List String :=
  o.v.keys.filter fun ref =>
    ((o.v.lookup ref).map fun consumers => decide (consumer ∈ consumers)).getD false

/-! ### The relation the map stands for -/

/-- The consumer references `ref`: the set of `ref` holds it. -/
def Consumes (o : ObjectRefMap) (consumer ref : String) : Prop :=
  ∃ consumers, o.v.lookup ref = some consumers ∧ consumer ∈ consumers

variable {o : ObjectRefMap} {consumer ref : String}

lemma not_consumes_empty : ¬ empty.Consumes consumer ref := by
  rintro ⟨consumers, h, -⟩
  cases h

/-- `Insert` adds the pairs of the consumer and each reference. -/
lemma consumes_insert {key : String} {refs : List String} :
    (o.insert key refs).Consumes consumer ref ↔ o.Consumes consumer ref ∨ consumer = key ∧ ref ∈ refs := by
  simp only [Consumes, insert, lookup_insertRefs]
  by_cases href : ref ∈ refs
  · cases o.v.lookup ref <;> simp [href, or_comm, eq_comm]
  · simp [href]

/-- `Delete` removes the pairs of the consumer and no other. -/
lemma consumes_delete {key : String} :
    (o.delete key).Consumes consumer ref ↔ o.Consumes consumer ref ∧ consumer ≠ key := by
  simp only [Consumes, delete, lookup_deleteConsumer]
  cases hv : o.v.lookup ref with
  | none => simp
  | some consumers =>
    by_cases hempty : (consumers.erase key).card = 0
    · -- the set it empties held the consumer only if the consumer is `key`
      have hsub : consumers ⊆ {key} := by
        intro c hc
        by_contra hne
        have hmem : c ∈ consumers.erase key := Finset.mem_erase.mpr ⟨by simpa using hne, hc⟩
        rw [Finset.card_eq_zero.mp hempty] at hmem
        exact Finset.notMem_empty c hmem
      simp only [Option.bind_some, eraseConsumer, hempty, if_true, reduceCtorEq, false_and,
        exists_false, Option.some.injEq, exists_eq_left', false_iff, not_and, not_not]
      intro hc
      simpa using hsub hc
    · simp [eraseConsumer, hempty, and_comm]

/-- `Has` holds exactly of the references some consumer references. -/
lemma has_iff : o.has ref = true ↔ ∃ consumer, o.Consumes consumer ref := by
  unfold has Consumes
  constructor
  · intro h
    obtain ⟨consumers, hv⟩ := Option.isSome_iff_exists.mp h
    obtain ⟨consumer, hc⟩ := o.nonempty ref consumers hv
    exact ⟨consumer, consumers, hv, hc⟩
  · rintro ⟨consumer, consumers, hv, -⟩
    simp [hv]

lemma mem_reference : consumer ∈ o.reference ref ↔ o.Consumes consumer ref := by
  unfold reference Consumes
  cases o.v.lookup ref <;> simp

lemma mem_referencedBy : ref ∈ o.referencedBy consumer ↔ o.Consumes consumer ref := by
  unfold referencedBy Consumes
  rw [List.mem_filter]
  constructor
  · rintro ⟨-, h⟩
    cases hv : o.v.lookup ref with
    | none => simp [hv] at h
    | some consumers => exact ⟨consumers, rfl, by simpa [hv] using h⟩
  · rintro ⟨consumers, hv, hc⟩
    exact ⟨AList.mem_keys.mpr (AList.lookup_isSome.mp (by simp [hv])), by simp [hv, hc]⟩

end ObjectRefMap

end IngressNginx
