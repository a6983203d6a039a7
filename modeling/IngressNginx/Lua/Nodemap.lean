import IngressNginx.Lua.Sticky
import IngressNginx.Lua.Util

/-!
# `util.nodemap`

A node map keeps the nodes of a node table under their salted MD5 keys (`create_map`, the
`createMap` of `sticky_persistent`). `get_random_node` counts the entries of a map, draws an
index from `1` to that count with `math.random`, and returns the entry that `pairs` visits at
that index; after the loop it logs "This is a bug". `random_except` does the same over the
entries whose node the ignore table does not mark, unless that table is `nil` or empty.

Whatever order `pairs` visits the entries in, the drawn index is reached inside the loop
(`getRandomNode_ne_bug`), and `random_except` returns a node it may return together with the key
the map holds it under (`randomExcept_node`). It returns `nil` exactly when the ignore table
marks every node the map holds (`randomExcept_eq_none_iff`), which is every node of the table
when no two nodes share a salted key (`randomExcept_picks_allowed_node`). An MD5 digest has 32
hexadecimal digits, so two strings share one; a table of those two nodes holds only the later,
and ignoring it leaves `random_except` with `nil` although the other node is not ignored
(`randomExcept_misses_colliding_node`). MD5 and `math.random` are parameters.
-/

namespace IngressNginx

namespace Nodemap

/-- The `pairs` loops a node map runs. -/
inductive Site where
  | tablelength
  | getRandomNode
  | randomExcept
  deriving DecidableEq, Repr

/-- A node map: its salt, the nodes of its node table in the order `pairs` visits them, and the
map of salted keys to nodes. -/
structure Instance where
  salt : String
  nodes : List String
  map : Go.Map String String

/-- `nodemap.new(endpoints, hash_salt)`, the salt `''` when none is given. -/
def new (md5 : String → String) (endpoints : List String) (hashSalt : Option String) :
    Instance :=
  let salt := hashSalt.getD ""
  ⟨salt, endpoints, createMap md5 endpoints salt⟩

/-- `reinit(nodes)`: the new nodes, mapped with the salt kept. -/
def Instance.reinit (md5 : String → String) (self : Instance) (nodes : List String) : Instance :=
  { self with nodes, map := createMap md5 nodes self.salt }

/-- `find(key)`. -/
def Instance.find (self : Instance) (key : String) : Option String := self.map.lookup key

/-- How `get_random_node` ends. -/
inductive Pick where
  /-- The map is empty: `nil, nil`. -/
  | none
  /-- The node at the drawn index, and its key. -/
  | node (endpoint key : String)
  /-- The loop ended: "This is a bug", then `nil, nil`. -/
  | bug
  deriving DecidableEq, Repr

/-- The loop of `get_random_node` from the entry numbered `count` on: the node and key of the
entry numbered `index`, if the loop reaches it. -/
def pickLoop (index : ℕ) : ℕ → List (String × String) → Option (String × String)
  | _, [] => none
  | count, (key, endpoint) :: rest =>
    if count = index then some (endpoint, key) else pickLoop index (count + 1) rest

/-- `get_random_node(map)`; `random m n` is `math.random(m, n)`. -/
def getRandomNode (ord : Go.RangeOrder Site String) (random : ℕ → ℕ → ℕ)
    (map : Go.Map String String) : Pick :=
  let size := Util.tablelength ord .tablelength map
  if size < 1 then .none
  else
    let index := random 1 size
    match pickLoop index 1 (map.range ord .getRandomNode) with
    | some (endpoint, key) => .node endpoint key
    | none => .bug

/-- `random()`. -/
def Instance.random (ord : Go.RangeOrder Site String) (random : ℕ → ℕ → ℕ) (self : Instance) :
    Pick :=
  getRandomNode ord random self.map

/-- The ignore table marks the node: `ignore_nodes[endpoint]` is `true`. -/
def ignored (ignoreNodes : Go.Map String Bool) (endpoint : String) : Bool :=
  ignoreNodes.lookup endpoint == some true

/-- The loop of `random_except` building `valid_nodes`: the entries of the map whose node the
ignore table does not mark. -/
def validNodes (ord : Go.RangeOrder Site String) (self : Instance)
    (ignoreNodes : Go.Map String Bool) : Go.Map String String :=
  (self.map.range ord .randomExcept).foldl
    (Lua.filterStep fun endpoint => !ignored ignoreNodes endpoint) ∅

/-- `random_except(ignore_nodes)`. -/
def Instance.randomExcept (ord : Go.RangeOrder Site String) (random : ℕ → ℕ → ℕ)
    (self : Instance) (ignoreNodes : Option (Go.Map String Bool)) : Pick :=
  match ignoreNodes with
  | none => getRandomNode ord random self.map
  | some ignoreNodes =>
    -- avoid generating the map if no ignores were provided
    if Util.tablelength ord .tablelength ignoreNodes = 0 then getRandomNode ord random self.map
    else getRandomNode ord random (validNodes ord self ignoreNodes)

/-- The node is marked by an ignore table. -/
def Marked (ignoreNodes : Option (Go.Map String Bool)) (endpoint : String) : Prop :=
  ∃ t, ignoreNodes = some t ∧ ignored t endpoint = true

section Lemmas

variable {ord : Go.RangeOrder Site String} {random : ℕ → ℕ → ℕ}

lemma keys_eq_nil_iff {ν : Type} (m : Go.Map String ν) : m.keys = [] ↔ ∀ k, m.lookup k = none := by
  rw [List.eq_nil_iff_forall_not_mem]
  simp [AList.lookup_eq_none, AList.mem_keys]

/-- The loop reaches every index from `count` to the end of the list. -/
lemma pickLoop_isSome (index : ℕ) : ∀ (l : List (String × String)) (count : ℕ),
    count ≤ index → index < count + l.length → (pickLoop index count l).isSome
  | [], count, _, h => by
    rw [List.length_nil, Nat.add_zero] at h
    omega
  | (key, endpoint) :: rest, count, h1, h2 => by
    unfold pickLoop
    by_cases hc : count = index
    · rw [if_pos hc]
      rfl
    · rw [if_neg hc]
      rw [List.length_cons] at h2
      exact pickLoop_isSome index rest (count + 1) (by omega) (by omega)

lemma mem_of_pickLoop {index : ℕ} : ∀ {l : List (String × String)} {count : ℕ}
    {endpoint key : String}, pickLoop index count l = some (endpoint, key) → (key, endpoint) ∈ l
  | [], _, _, _, h => by cases h
  | (key', endpoint') :: rest, count, endpoint, key, h => by
    unfold pickLoop at h
    split_ifs at h
    · cases h
      exact List.mem_cons_self
    · exact List.mem_cons_of_mem _ (mem_of_pickLoop h)

/-- What `get_random_node` does with a map that has entries. -/
lemma getRandomNode_of_ne_nil {map : Go.Map String String} (h : map.keys ≠ []) :
    getRandomNode ord random map =
      match pickLoop (random 1 map.keys.length) 1 (map.range ord .getRandomNode) with
      | some (endpoint, key) => .node endpoint key
      | none => .bug := by
  have hsize : ¬ map.keys.length < 1 := by
    rw [Nat.lt_one_iff, List.length_eq_zero_iff]
    exact h
  rw [getRandomNode, Util.tablelength_eq]
  exact if_neg hsize

lemma getRandomNode_eq_none_iff {map : Go.Map String String} :
    getRandomNode ord random map = .none ↔ map.keys = [] := by
  by_cases h : map.keys = []
  · have hsize : map.keys.length < 1 := by
      rw [h]
      exact Nat.one_pos
    rw [getRandomNode, Util.tablelength_eq, if_pos hsize]
    exact iff_of_true rfl h
  · rw [getRandomNode_of_ne_nil h]
    split <;> simp [h]

/-- A node `get_random_node` returns is in the map under the key it returns. -/
lemma getRandomNode_eq_node {map : Go.Map String String} {endpoint key : String}
    (h : getRandomNode ord random map = .node endpoint key) : map.lookup key = some endpoint := by
  by_cases hnil : map.keys = []
  · rw [getRandomNode_eq_none_iff.mpr hnil] at h
    cases h
  · rw [getRandomNode_of_ne_nil hnil] at h
    split at h
    · rename_i endpoint' key' hpick
      cases h
      exact Go.Map.mem_range.mp (mem_of_pickLoop hpick)
    · cases h

/-- Whatever order `pairs` visits the map in, an index drawn from `1` to the size of the map is
reached inside the loop. -/
lemma getRandomNode_ne_bug (hrandom : ∀ n, 1 ≤ n → 1 ≤ random 1 n ∧ random 1 n ≤ n)
    (map : Go.Map String String) : getRandomNode ord random map ≠ .bug := by
  by_cases hnil : map.keys = []
  · rw [getRandomNode_eq_none_iff.mpr hnil]
    exact Pick.noConfusion
  · have hpos : 1 ≤ map.keys.length := List.length_pos_iff.mpr hnil
    -- `pairs` visits as many entries as the map has keys
    have hlen : (map.range ord .getRandomNode).length = map.keys.length := Go.Map.length_range
    obtain ⟨hlo, hhi⟩ := hrandom _ hpos
    have hsome := pickLoop_isSome (random 1 map.keys.length) (map.range ord .getRandomNode) 1
      hlo (by rw [hlen]; omega)
    rw [getRandomNode_of_ne_nil hnil]
    obtain ⟨⟨endpoint, key⟩, hpick⟩ := Option.isSome_iff_exists.mp hsome
    rw [hpick]
    exact Pick.noConfusion

/-- What `random_except` does: with no node marked it draws from the whole map, and otherwise
from the valid nodes. -/
lemma randomExcept_cases (self : Instance) (ignoreNodes : Option (Go.Map String Bool)) :
    ((∀ endpoint, ¬ Marked ignoreNodes endpoint) ∧
        self.randomExcept ord random ignoreNodes = getRandomNode ord random self.map) ∨
      ∃ t, ignoreNodes = some t ∧
        self.randomExcept ord random ignoreNodes =
          getRandomNode ord random (validNodes ord self t) := by
  cases ignoreNodes with
  | none =>
    refine .inl ⟨fun endpoint ⟨t, ht, _⟩ => (by cases ht), rfl⟩
  | some t =>
    by_cases hempty : Util.tablelength ord .tablelength t = 0
    · -- an empty ignore table marks nothing
      have hnone : ∀ k, t.lookup k = none := by
        rw [← keys_eq_nil_iff, ← List.length_eq_zero_iff, ← Util.tablelength_eq ord .tablelength]
        exact hempty
      refine .inl ⟨?_, if_pos hempty⟩
      rintro endpoint ⟨t', ht', hmarked⟩
      cases ht'
      simp [ignored, hnone] at hmarked
    · exact .inr ⟨t, rfl, if_neg hempty⟩

lemma lookup_validNodes (self : Instance) (t : Go.Map String Bool) (k : String) :
    (validNodes ord self t).lookup k = (self.map.lookup k).filter fun e => !ignored t e :=
  Lua.lookup_filterTable _ self.map k

/-- `random_except` returns a node it may return, with the key the map holds it under. -/
lemma randomExcept_node {self : Instance} {ignoreNodes : Option (Go.Map String Bool)}
    {endpoint key : String} (h : self.randomExcept ord random ignoreNodes = .node endpoint key) :
    self.map.lookup key = some endpoint ∧ ¬ Marked ignoreNodes endpoint := by
  rcases randomExcept_cases self ignoreNodes with ⟨hnone, heq⟩ | ⟨t, rfl, heq⟩
  · rw [heq] at h
    exact ⟨getRandomNode_eq_node h, hnone endpoint⟩
  · rw [heq] at h
    have hvalid := getRandomNode_eq_node h
    rw [lookup_validNodes, Option.filter_eq_some_iff] at hvalid
    obtain ⟨hmap, hkeep⟩ := hvalid
    refine ⟨hmap, ?_⟩
    rintro ⟨t', ht', hmarked⟩
    cases ht'
    rw [hmarked] at hkeep
    cases hkeep

/-- `random_except` returns `nil` exactly when every node the map holds is marked. -/
lemma randomExcept_eq_none_iff (self : Instance) (ignoreNodes : Option (Go.Map String Bool)) :
    self.randomExcept ord random ignoreNodes = .none ↔
      ∀ key endpoint, self.map.lookup key = some endpoint → Marked ignoreNodes endpoint := by
  rcases randomExcept_cases self ignoreNodes with ⟨hnone, heq⟩ | ⟨t, rfl, heq⟩
  · rw [heq, getRandomNode_eq_none_iff, keys_eq_nil_iff]
    constructor
    · intro hmap key endpoint hkey
      rw [hmap key] at hkey
      cases hkey
    · intro hmarked key
      cases hkey : self.map.lookup key with
      | none => rfl
      | some endpoint => exact absurd (hmarked key endpoint hkey) (hnone endpoint)
  · rw [heq, getRandomNode_eq_none_iff, keys_eq_nil_iff]
    simp only [lookup_validNodes, Option.filter_eq_none_iff, Bool.not_eq_eq_eq_not, Bool.not_true]
    constructor
    · intro hvalid key endpoint hkey
      exact ⟨t, rfl, by simpa using hvalid key endpoint hkey⟩
    · intro hmarked key endpoint hkey
      obtain ⟨t', ht', hign⟩ := hmarked key endpoint hkey
      cases ht'
      simpa using hign

end Lemmas

/-- For every order of `pairs`, every `math.random` drawing from its range, every MD5, node
table, salt and ignore table: a node `random_except` returns is a node of the table that the
ignore table does not mark, and `find` of the key returned gives it back; `get_random_node` never
falls through its loop; and when no two nodes share a salted key, `random_except` returns `nil`
exactly when every node is marked. -/
theorem randomExcept_picks_allowed_node (ord : Go.RangeOrder Site String)
    (random : ℕ → ℕ → ℕ) (hrandom : ∀ n, 1 ≤ n → 1 ≤ random 1 n ∧ random 1 n ≤ n)
    (md5 : String → String) (endpoints : List String) (hashSalt : Option String)
    (ignoreNodes : Option (Go.Map String Bool)) :
    (∀ endpoint key,
        (new md5 endpoints hashSalt).randomExcept ord random ignoreNodes = .node endpoint key →
          endpoint ∈ endpoints ∧ ¬ Marked ignoreNodes endpoint ∧
            (new md5 endpoints hashSalt).find key = some endpoint) ∧
      (∀ map, getRandomNode ord random map ≠ .bug) ∧
      ((∀ e ∈ endpoints, ∀ e' ∈ endpoints,
          md5 (hashSalt.getD "" ++ e') = md5 (hashSalt.getD "" ++ e) → e' = e) →
        ((new md5 endpoints hashSalt).randomExcept ord random ignoreNodes = .none ↔
          ∀ e ∈ endpoints, Marked ignoreNodes e)) := by
  refine ⟨fun endpoint key h => ?_, getRandomNode_ne_bug hrandom, fun hmd5 => ?_⟩
  · obtain ⟨hmap, hmarked⟩ := randomExcept_node h
    exact ⟨mem_of_lookup_createMap hmap, hmarked, hmap⟩
  · rw [randomExcept_eq_none_iff]
    constructor
    · -- each node is in the map under its own key
      intro hmarked e he
      exact hmarked _ e (lookup_createMap (fun e' he' => hmd5 e he e' he') he)
    · intro hmarked key endpoint hkey
      exact hmarked endpoint (mem_of_lookup_createMap hkey)

/-- An ignore table marking the first of two nodes. -/
def ignoreFirst : Option (Go.Map String Bool) :=
  some ((∅ : Go.Map String Bool).insert "10.0.0.1:80" true)

theorem randomExcept_picks_allowed_node_first_index :
    (∀ n, 1 ≤ n → 1 ≤ (fun m _ => m : ℕ → ℕ → ℕ) 1 n ∧ (fun m _ => m : ℕ → ℕ → ℕ) 1 n ≤ n) ∧
      (new id ["10.0.0.1:80", "10.0.0.2:80"] none).randomExcept Go.RangeOrder.keyOrder
          (fun m _ => m) ignoreFirst = .node "10.0.0.2:80" "10.0.0.2:80" ∧
      ("10.0.0.2:80" ∈ ["10.0.0.1:80", "10.0.0.2:80"] ∧ ¬ Marked ignoreFirst "10.0.0.2:80" ∧
        (new id ["10.0.0.1:80", "10.0.0.2:80"] none).find "10.0.0.2:80" = some "10.0.0.2:80") ∧
      ((new id ["10.0.0.1:80", "10.0.0.2:80"] none).randomExcept Go.RangeOrder.keyOrder
          (fun m _ => m) ignoreFirst = .none ↔
        ∀ e ∈ ["10.0.0.1:80", "10.0.0.2:80"], Marked ignoreFirst e) := by
  have hrandom : ∀ n, 1 ≤ n → 1 ≤ (fun m _ => m : ℕ → ℕ → ℕ) 1 n ∧
      (fun m _ => m : ℕ → ℕ → ℕ) 1 n ≤ n := fun n hn => ⟨Nat.le_refl 1, hn⟩
  have hpicks := randomExcept_picks_allowed_node Go.RangeOrder.keyOrder (fun m _ => m) hrandom id
    ["10.0.0.1:80", "10.0.0.2:80"] none ignoreFirst
  have hnode : (new id ["10.0.0.1:80", "10.0.0.2:80"] none).randomExcept Go.RangeOrder.keyOrder
      (fun m _ => m) ignoreFirst = .node "10.0.0.2:80" "10.0.0.2:80" := by
    decide
  refine ⟨hrandom, hnode, hpicks.1 _ _ hnode, hpicks.2.2 ?_⟩
  intro e _ e' _ h
  simpa using h

/-! ### Digests that collide -/

/-- The digits of `ngx.md5`'s digests. -/
def hexDigits : List Char :=
  ['0', '1', '2', '3', '4', '5', '6', '7', '8', '9', 'a', 'b', 'c', 'd', 'e', 'f']

/-- What `ngx.md5` returns: the MD5 digest as 32 lowercase hexadecimal digits. -/
def IsHexDigest (s : String) : Prop := s.toList.length = 32 ∧ ∀ c ∈ s.toList, c ∈ hexDigits

/-- The digest with the digits `f`. -/
def digestOf (f : Fin 32 → Fin 16) : String :=
  String.ofList (List.ofFn fun i => hexDigits.getD (f i) '0')

lemma exists_digestOf {s : String} (h : IsHexDigest s) : ∃ f, digestOf f = s := by
  obtain ⟨hlen, hmem⟩ := h
  have hdigit : ∀ i : Fin 32, s.toList.getD i '0' ∈ hexDigits := fun i =>
    hmem _ (by rw [List.getD_eq_getElem _ _ (by omega)]; exact List.getElem_mem _)
  refine ⟨fun i => ⟨hexDigits.idxOf (s.toList.getD i '0'),
    List.idxOf_lt_length_of_mem (hdigit i)⟩, ?_⟩
  rw [← String.toList_inj, digestOf, String.toList_ofList]
  apply List.ext_getElem (by rw [List.length_ofFn, hlen])
  intro n h₁ h₂
  rw [List.getElem_ofFn, List.getD_eq_getElem _ _ (List.idxOf_lt_length_of_mem (hdigit _)),
    List.getElem_idxOf, List.getD_eq_getElem _ _ h₂]

/-- Any function with 32-digit hexadecimal values gives two strings one value, after any
salt: there are more strings of `x`s than digests. -/
lemma exists_md5_collision (md5 : String → String) (hhex : ∀ s, IsHexDigest (md5 s))
    (salt : String) : ∃ a b, a ≠ b ∧ md5 (salt ++ a) = md5 (salt ++ b) := by
  have hpre : ∀ n : Fin (16 ^ 32 + 1),
      ∃ f, digestOf f = md5 (salt ++ String.ofList (List.replicate n 'x')) :=
    fun n => exists_digestOf (hhex _)
  choose F hF using hpre
  obtain ⟨m, n, hmn, hFmn⟩ := Fintype.exists_ne_map_eq_of_card_lt F (by simp)
  refine ⟨String.ofList (List.replicate m 'x'), String.ofList (List.replicate n 'x'), ?_, ?_⟩
  · intro h
    have hlen := congrArg (fun s : String => s.toList.length) h
    simp only [String.toList_ofList, List.length_replicate] at hlen
    exact hmn (Fin.ext hlen)
  · rw [← hF m, ← hF n, hFmn]

/-- No MD5 with 32-digit hexadecimal digests makes `random_except` return `nil` only when every
node is ignored: for two nodes whose keys collide, the map holds only the later, and ignoring
it leaves nothing to draw from although the first node is not ignored. -/
theorem randomExcept_misses_colliding_node :
    ¬ ∃ md5 : String → String, (∀ s, IsHexDigest (md5 s)) ∧
      ∀ (endpoints : List String) (ignoreNodes : Go.Map String Bool),
        (new md5 endpoints none).randomExcept Go.RangeOrder.keyOrder (fun m _ => m)
            (some ignoreNodes) = .none ↔
          ∀ e ∈ endpoints, Marked (some ignoreNodes) e := by
  rintro ⟨md5, hhex, hclaim⟩
  obtain ⟨a, b, hab, hcol⟩ := exists_md5_collision md5 hhex ""
  let ignore : Go.Map String Bool := (∅ : Go.Map String Bool).insert b true
  -- the map of `[a, b]` holds `b` alone, under the shared key
  have hmap : ∀ key endpoint, (new md5 [a, b] none).map.lookup key = some endpoint →
      endpoint = b := by
    intro key endpoint hkey
    simp only [new, createMap, Option.getD_none, List.foldl_cons, List.foldl_nil] at hkey
    rcases Go.Map.lookup_insert_eq_some.mp hkey with ⟨-, rfl⟩ | ⟨hne, hold⟩
    · rfl
    · rcases Go.Map.lookup_insert_eq_some.mp hold with ⟨hk, -⟩ | ⟨-, hempty⟩
      · exact absurd (hk.trans hcol) hne
      · simp at hempty
  have hb : Marked (some ignore) b := by
    refine ⟨ignore, rfl, ?_⟩
    rw [ignored, AList.lookup_insert]
    rfl
  have hiff : (new md5 [a, b] none).randomExcept Go.RangeOrder.keyOrder (fun m _ => m)
      (some ignore) = .none ↔ _ := randomExcept_eq_none_iff _ _
  have hnil := hiff.mpr fun key endpoint hkey => hmap key endpoint hkey ▸ hb
  obtain ⟨t, ht, ha⟩ := (hclaim [a, b] ignore).mp hnil a List.mem_cons_self
  cases ht
  rw [ignored, AList.lookup_insert_ne hab, AList.lookup_empty] at ha
  cases ha

end Nodemap

end IngressNginx
