import IngressNginx.Lua.Balancer

/-!
# Retries of the `ewma` balancer

`balancer/ewma.lua` picks an endpoint by drawing `k = PICK_SET_SIZE = 2` peers with a partial
Fisher–Yates shuffle (`shuffle_peers`) and taking the one of lower EWMA score
(`pick_and_score`, the first on ties). Across the retries of one request, `balance` keeps the
names of the endpoints it returned in `ngx.ctx.balancer_ewma_tried_endpoints` and draws from
the peers not yet tried, from all of them again once every one was.

The draws of `math.random` and the scores read from the shared dictionaries are inputs of each
call: `random m n` is the value `math.random(m, n)` returns, and `score` gives each endpoint's
decayed EWMA, in any linear order. The shuffle only swaps, so it leaves a permutation whatever
the draws (`shufflePeers_perm`); a swap with an index past the array, which `math.random`
never draws, leaves the array as it is. `balanceRun_distinct_lowest` follows the calls of one
request: while there are untried peers each call returns one of them, so the first
`min(m, n)` names are distinct, and each call returns a candidate of lowest score.
-/

namespace IngressNginx

namespace Ewma

/-- `PICK_SET_SIZE`. -/
def pickSetSize : Nat := 2

/-- `get_upstream_name`: the key of an endpoint in the tried set, and what `balance` returns. -/
def getUpstreamName (upstream : Endpoint) : String := endpointString upstream

/-- `shuffle_peers`: for `i = 1..k`, `peers[i]` swapped with `peers[math.random(i, #peers)]`. -/
def shufflePeers {α : Type} (random : Nat → Nat → Nat) (peers : List α) (k : Nat) : List α :=
  (List.range' 1 k).foldl (fun peers i => peers.swap (i - 1) (random i peers.length - 1)) peers

/-- Any run of swaps leaves a permutation. -/
lemma foldl_swap_perm {α : Type} (random : Nat → Nat → Nat) (is : List Nat) (peers : List α) :
    (is.foldl (fun peers i => peers.swap (i - 1) (random i peers.length - 1)) peers).Perm
      peers := by
  induction is generalizing peers with
  | nil => exact List.Perm.refl peers
  | cons i is ih =>
    rw [List.foldl_cons]
    exact (ih _).trans (List.swap_perm _ _ _)

/-- Whatever the draws, the shuffle leaves a permutation of the peers. -/
lemma shufflePeers_perm {α : Type} (random : Nat → Nat → Nat) (peers : List α) (k : Nat) :
    (shufflePeers random peers k).Perm peers :=
  foldl_swap_perm random _ peers

section Pick

variable {β : Type} [LinearOrder β]

/-- One pass of the loop of `pick_and_score` over `i = 2..k`: only a strictly lower score moves
the pick. -/
def pickStep (score : Endpoint → β) (peers : List Endpoint) (lowest : Nat × β) (i : Nat) :
    Option (Nat × β) := do
  let newScore := score (← peers[i - 1]?)
  pure (if newScore < lowest.2 then (i, newScore) else lowest)

/-- `pick_and_score`: the shuffle, then the peer of lowest score among the first `k`. -/
def pickAndScore (random : Nat → Nat → Nat) (score : Endpoint → β) (peers : List Endpoint)
    (k : Nat) : Option (Endpoint × β) := do
  let peers := shufflePeers random peers k
  let first ← peers[0]?
  let (lowestScoreIndex, lowestScore) ←
    (List.range' 2 (k - 1)).foldlM (pickStep score peers) (1, score first)
  let endpoint ← peers[lowestScoreIndex - 1]?
  pure (endpoint, lowestScore)

/-- The loop of `balance` that builds `filtered_peers`: the peers not tried yet, or a copy of
all of them (`util.deepcopy(peers)`) when every one was. -/
def filteredPeers (peers : List Endpoint) (triedEndpoints : Finset String) : List Endpoint :=
  match peers.filter fun peer => getUpstreamName peer ∉ triedEndpoints with
  | [] => peers
  | filtered => filtered

/-- `_M.balance`: the endpoint picked, whose `get_upstream_name` Lua returns, and the request's
`ngx.ctx.balancer_ewma_tried_endpoints` after the call; `none` is a Lua error. -/
def balance (random : Nat → Nat → Nat) (score : Endpoint → β) (peers : List Endpoint)
    (tried : Option (Finset String)) : Option (Endpoint × Option (Finset String)) :=
  if 1 < peers.length then do
    let k := if peers.length < pickSetSize then peers.length else pickSetSize
    let triedEndpoints := tried.getD ∅
    let filtered := filteredPeers peers triedEndpoints
    let (endpoint, _) ←
      if 1 < filtered.length then pickAndScore random score filtered k
      else do
        let endpoint ← filtered[0]?
        pure (endpoint, score endpoint)
    pure (endpoint, some (insert (getUpstreamName endpoint) triedEndpoints))
  else do
    let endpoint ← peers[0]?
    pure (endpoint, tried)

/-- The calls of `balance` one request makes, each with its own draws and scores and all with
the request's tried set: the endpoints picked. -/
def balanceRun (peers : List Endpoint) :
    Option (Finset String) → List ((Nat → Nat → Nat) × (Endpoint → β)) → Option (List Endpoint)
  | _, [] => some []
  | tried, (random, score) :: calls => do
    let (endpoint, tried) ← balance random score peers tried
    let endpoints ← balanceRun peers tried calls
    pure (endpoint :: endpoints)

/-- The candidates a call of `balance` compares: the first `PICK_SET_SIZE` peers the shuffle
leaves in the filtered list, or the one filtered peer. -/
def candidates (random : Nat → Nat → Nat) (peers : List Endpoint)
    (triedEndpoints : Finset String) : List Endpoint :=
  let filtered := filteredPeers peers triedEndpoints
  if 1 < filtered.length then (shufflePeers random filtered pickSetSize).take pickSetSize
  else filtered


variable {score : Endpoint → β} {peers : List Endpoint}

/-! ### The pick of `pick_and_score` -/

/-- `lowest` is a `1`-based index among the first `m` peers, and its score, such that no peer
among them scores less. -/
def IsLowest (score : Endpoint → β) (peers : List Endpoint) (m : Nat) (lowest : Nat × β) : Prop :=
  ∃ e, peers[lowest.1 - 1]? = some e ∧ lowest.1 - 1 < m ∧ lowest.2 = score e ∧
    ∀ c ∈ peers.take m, score e ≤ score c

lemma isLowest_one {first : Endpoint} (hfirst : peers[0]? = some first) :
    IsLowest score peers 1 (1, score first) := by
  refine ⟨first, hfirst, Nat.zero_lt_one, rfl, ?_⟩
  intro c hc
  rw [List.take_one, List.head?_eq_getElem?, hfirst, Option.toList_some, List.mem_singleton] at hc
  rw [hc]

/-- A pass of the loop over the next peer keeps the least score. -/
lemma pickStep_isLowest {m : Nat} {lowest : Nat × β} (h : IsLowest score peers m lowest)
    (hm : m < peers.length) :
    ∃ lowest', pickStep score peers lowest (m + 1) = some lowest' ∧
      IsLowest score peers (m + 1) lowest' := by
  obtain ⟨e, he, hidx, hscore, hle⟩ := h
  have hpeer : peers[m]? = some peers[m] := List.getElem?_eq_getElem hm
  have htake : peers.take (m + 1) = peers.take m ++ [peers[m]] := by
    rw [List.take_add_one, hpeer, Option.toList_some]
  by_cases hlt : score peers[m] < lowest.2
  · refine ⟨(m + 1, score peers[m]), by simp [pickStep, hpeer, hlt], peers[m], ?_⟩
    refine ⟨by simp, Nat.lt_succ_self m, rfl, ?_⟩
    intro c hc
    rw [htake, List.mem_append, List.mem_singleton] at hc
    rcases hc with hc | rfl
    · rw [hscore] at hlt
      exact le_of_lt (lt_of_lt_of_le hlt (hle c hc))
    · exact le_rfl
  · refine ⟨lowest, by simp [pickStep, hpeer, hlt], e, he, Nat.lt_succ_of_lt hidx, hscore, ?_⟩
    intro c hc
    rw [htake, List.mem_append, List.mem_singleton] at hc
    rcases hc with hc | rfl
    · exact hle c hc
    · rw [← hscore]
      exact not_lt.mp hlt

/-- The loop over `i = m + 1 .. m + c` leaves the least score of the first `m + c` peers. -/
lemma foldlM_pickStep_isLowest :
    ∀ (c m : Nat) (lowest : Nat × β), IsLowest score peers m lowest → m + c ≤ peers.length →
      ∃ lowest', (List.range' (m + 1) c).foldlM (pickStep score peers) lowest = some lowest' ∧
        IsLowest score peers (m + c) lowest'
  | 0, m, lowest, h, _ => ⟨lowest, rfl, h⟩
  | c + 1, m, lowest, h, hlen => by
    obtain ⟨lowest₁, hstep, h₁⟩ := pickStep_isLowest h (by omega)
    obtain ⟨lowest', hloop, h'⟩ := foldlM_pickStep_isLowest c (m + 1) lowest₁ h₁ (by omega)
    refine ⟨lowest', ?_, by rwa [Nat.add_right_comm] at h'⟩
    rw [List.range'_succ, List.foldlM_cons, hstep]
    exact hloop

/-- `pick_and_score` over `k` of the peers returns one of the first `k` the shuffle leaves, of
least score among them. -/
lemma pickAndScore_spec (random : Nat → Nat → Nat) (score : Endpoint → β)
    (peers : List Endpoint) {k : Nat} (hk : 1 ≤ k)
    (hlen : k ≤ peers.length) :
    ∃ e, pickAndScore random score peers k = some (e, score e) ∧
      e ∈ (shufflePeers random peers k).take k ∧
      ∀ c ∈ (shufflePeers random peers k).take k, score e ≤ score c := by
  set shuffled := shufflePeers random peers k with hshuffled
  have hslen : shuffled.length = peers.length := (shufflePeers_perm random peers k).length_eq
  have hfirst : shuffled[0]? = some shuffled[0] := List.getElem?_eq_getElem (by omega)
  obtain ⟨lowest, hloop, e, he, hidx, hscore, hle⟩ :=
    foldlM_pickStep_isLowest (k - 1) 1 (1, score shuffled[0]) (isLowest_one hfirst)
      (by omega)
  rw [Nat.add_sub_cancel' hk] at hidx hle
  refine ⟨e, ?_, ?_, hle⟩
  · simp [pickAndScore, ← hshuffled, hfirst, hloop, he, hscore]
  · apply List.mem_of_getElem? (i := lowest.1 - 1)
    rw [List.getElem?_take, if_pos hidx, he]


/-! ### One call of `balance` -/

section Filter

variable {triedEndpoints : Finset String}

lemma filteredPeers_of_untried
    (h : ∃ p ∈ peers, getUpstreamName p ∉ triedEndpoints) :
    filteredPeers peers triedEndpoints =
      peers.filter fun peer => getUpstreamName peer ∉ triedEndpoints := by
  have hne : (peers.filter fun peer => getUpstreamName peer ∉ triedEndpoints) ≠ [] := by
    obtain ⟨p, hp, hpT⟩ := h
    exact List.ne_nil_of_mem (List.mem_filter.mpr ⟨hp, by simpa using hpT⟩)
  unfold filteredPeers
  split
  · contradiction
  · rfl

lemma filteredPeers_ne_nil (hpeers : peers ≠ []) : filteredPeers peers triedEndpoints ≠ [] := by
  unfold filteredPeers
  split
  · exact hpeers
  · assumption

/-- While some peer is untried, the filtered peers are all untried. -/
lemma untried_of_mem_filteredPeers (h : ∃ p ∈ peers, getUpstreamName p ∉ triedEndpoints)
    {e : Endpoint} (he : e ∈ filteredPeers peers triedEndpoints) :
    getUpstreamName e ∉ triedEndpoints := by
  rw [filteredPeers_of_untried h] at he
  simpa using (List.mem_filter.mp he).2

end Filter

/-- A call with more than one peer picks a filtered peer among the candidates, of least score
among them, and adds its name to the tried set. -/
lemma balance_spec (random : Nat → Nat → Nat) (score : Endpoint → β) (tried : Option (Finset String))
    (hn : 1 < peers.length) :
    ∃ e, balance random score peers tried =
        some (e, some (insert (getUpstreamName e) (tried.getD ∅))) ∧
      e ∈ filteredPeers peers (tried.getD ∅) ∧
      e ∈ candidates random peers (tried.getD ∅) ∧
      ∀ c ∈ candidates random peers (tried.getD ∅), score e ≤ score c := by
  have hk : (if peers.length < pickSetSize then peers.length else pickSetSize) = pickSetSize :=
    if_neg (by rw [pickSetSize]; omega)
  by_cases hmany : 1 < (filteredPeers peers (tried.getD ∅)).length
  · -- the shuffle draws two candidates and the lower score wins
    obtain ⟨e, hpick, hmem, hle⟩ :=
      pickAndScore_spec random score (filteredPeers peers (tried.getD ∅)) (k := pickSetSize)
        (by decide) hmany
    have hcand : candidates random peers (tried.getD ∅) =
        (shufflePeers random (filteredPeers peers (tried.getD ∅)) pickSetSize).take pickSetSize :=
      if_pos hmany
    refine ⟨e, ?_, ?_, hcand ▸ hmem, hcand ▸ hle⟩
    · simp [balance, hn, hk, hmany, hpick]
    · exact (shufflePeers_perm random _ pickSetSize).subset (List.take_subset _ _ hmem)
  · -- one peer is left to pick
    have hpos : 0 < (filteredPeers peers (tried.getD ∅)).length :=
      List.length_pos_iff.mpr (filteredPeers_ne_nil (List.ne_nil_of_length_pos (by omega)))
    obtain ⟨e, he⟩ := List.length_eq_one_iff.mp (show
      (filteredPeers peers (tried.getD ∅)).length = 1 by omega)
    have hcand : candidates random peers (tried.getD ∅) = [e] := by
      rw [candidates, if_neg hmany, he]
    refine ⟨e, by simp [balance, hn, he], by rw [he]; exact List.mem_singleton_self e, ?_, ?_⟩
    · rw [hcand]
      exact List.mem_singleton_self e
    · intro c hc
      rw [hcand, List.mem_singleton] at hc
      rw [hc]

/-! ### The calls of one request -/

/-- Over the calls of a request that starts with the endpoints `pre` tried, each call picks
a filtered peer among the candidates of the tried set it meets, of least score among them. -/
lemma balanceRun_spec (hn : 1 < peers.length) :
    ∀ (calls : List ((Nat → Nat → Nat) × (Endpoint → β))) (pre : List Endpoint)
      (tried : Option (Finset String)), tried.getD ∅ = (pre.map getUpstreamName).toFinset →
      ∃ picked, balanceRun peers tried calls = some picked ∧ picked.length = calls.length ∧
        ∀ j random score e, calls[j]? = some (random, score) → picked[j]? = some e →
          e ∈ filteredPeers peers ((pre ++ picked.take j).map getUpstreamName).toFinset ∧
          e ∈ candidates random peers ((pre ++ picked.take j).map getUpstreamName).toFinset ∧
          ∀ c ∈ candidates random peers ((pre ++ picked.take j).map getUpstreamName).toFinset,
            score e ≤ score c
  | [], _, _, _ => ⟨[], rfl, rfl, fun j _ _ _ hcall _ => by simp at hcall⟩
  | (random, score) :: calls, pre, tried, htried => by
    obtain ⟨e, hbalance, hfilt, hcand, hle⟩ := balance_spec random score tried hn
    have htried' : (some (insert (getUpstreamName e) (tried.getD ∅))).getD ∅ =
        ((pre ++ [e]).map getUpstreamName).toFinset := by
      rw [Option.getD_some, htried, List.map_append, List.toFinset_append, List.map_singleton,
        List.toFinset_cons, List.toFinset_nil, Finset.union_insert, Finset.union_empty]
    obtain ⟨picked, hrun, hlen, hcalls⟩ := balanceRun_spec hn calls (pre ++ [e]) _ htried'
    refine ⟨e :: picked, by simp [balanceRun, hbalance, hrun], by simp [hlen], ?_⟩
    intro j random' score' e' hcall hpicked
    cases j with
    | zero =>
      simp only [List.getElem?_cons_zero, Option.some.injEq, Prod.mk.injEq] at hcall hpicked
      obtain ⟨rfl, rfl⟩ := hcall
      subst hpicked
      simp only [List.take_zero, List.append_nil, ← htried]
      exact ⟨hfilt, hcand, hle⟩
    | succ j =>
      have h := hcalls j random' score' e' hcall hpicked
      rwa [List.append_assoc, List.singleton_append, ← List.take_succ_cons] at h

/-- A pick from the filtered peers after `pre` keeps the first `n` names distinct. -/
lemma nodup_take_append_pick (hnodup : (peers.map getUpstreamName).Nodup) {pre : List Endpoint}
    {e : Endpoint} (hpre : ((pre.take peers.length).map getUpstreamName).Nodup)
    (he : e ∈ filteredPeers peers (pre.map getUpstreamName).toFinset) :
    (((pre ++ [e]).take peers.length).map getUpstreamName).Nodup := by
  by_cases hlen : pre.length < peers.length
  · -- fewer names are tried than there are peers, so the pick is untried
    have hcard : (pre.map getUpstreamName).toFinset.card <
        (peers.map getUpstreamName).toFinset.card := by
      calc (pre.map getUpstreamName).toFinset.card
          ≤ (pre.map getUpstreamName).length := List.toFinset_card_le _
        _ = pre.length := List.length_map _
        _ < peers.length := hlen
        _ = (peers.map getUpstreamName).toFinset.card := by
          rw [List.toFinset_card_of_nodup hnodup, List.length_map]
    obtain ⟨x, hx, hxT⟩ := Finset.exists_mem_notMem_of_card_lt_card hcard
    obtain ⟨p, hp, rfl⟩ := List.mem_map.mp (List.mem_toFinset.mp hx)
    have heT := untried_of_mem_filteredPeers ⟨p, hp, hxT⟩ he
    rw [List.take_of_length_le hlen.le] at hpre
    rw [List.take_of_length_le (by rw [List.length_append, List.length_singleton]; omega),
      List.map_append, List.map_singleton, List.nodup_append]
    refine ⟨hpre, List.nodup_singleton _, ?_⟩
    intro a ha b hb
    rw [List.mem_singleton] at hb
    rw [hb]
    rintro rfl
    exact heT (List.mem_toFinset.mpr ha)
  · rw [List.take_append_of_le_length (Nat.le_of_not_lt hlen)]
    exact hpre

/-- Picks each from the filtered peers of the picks before it have distinct first `n` names. -/
lemma nodup_take_of_filteredPeers (hnodup : (peers.map getUpstreamName).Nodup)
    (picked : List Endpoint)
    (hpicked : ∀ j e, picked[j]? = some e →
      e ∈ filteredPeers peers ((picked.take j).map getUpstreamName).toFinset) :
    ((picked.take peers.length).map getUpstreamName).Nodup := by
  induction picked using List.reverseRecOn with
  | nil => simp
  | append_singleton l e ih =>
    have hl : ∀ j e', l[j]? = some e' →
        e' ∈ filteredPeers peers ((l.take j).map getUpstreamName).toFinset := by
      intro j e' he'
      have hj : j < l.length := (List.getElem?_eq_some_iff.mp he').1
      have h := hpicked j e' (by rw [List.getElem?_append_left hj]; exact he')
      rwa [List.take_append_of_le_length hj.le] at h
    have he : e ∈ filteredPeers peers (l.map getUpstreamName).toFinset := by
      have h := hpicked l.length e (by simp)
      rwa [List.take_left] at h
    exact nodup_take_append_pick hnodup (ih hl) he

/-- For every list of `n ≥ 2` peers with distinct names and every sequence of calls of
`balance` sharing one request's tried set, whatever the draws and scores of each call: every
call returns, the first `min(m, n)` names returned are distinct, and each call returns a
candidate of the shuffle of lowest score among them. -/
theorem balanceRun_distinct_lowest (peers : List Endpoint) (hn : 2 ≤ peers.length)
    (hnodup : (peers.map getUpstreamName).Nodup)
    (calls : List ((Nat → Nat → Nat) × (Endpoint → β))) :
    ∃ picked, balanceRun peers none calls = some picked ∧ picked.length = calls.length ∧
      ((picked.take peers.length).map getUpstreamName).Nodup ∧
      ∀ j random score e, calls[j]? = some (random, score) → picked[j]? = some e →
        e ∈ candidates random peers ((picked.take j).map getUpstreamName).toFinset ∧
        ∀ c ∈ candidates random peers ((picked.take j).map getUpstreamName).toFinset,
          score e ≤ score c := by
  obtain ⟨picked, hrun, hlen, hcalls⟩ := balanceRun_spec hn calls [] none rfl
  simp only [List.nil_append] at hcalls
  refine ⟨picked, hrun, hlen, ?_, fun j random score e hcall he => (hcalls j random score e hcall he).2⟩
  apply nodup_take_of_filteredPeers hnodup picked
  intro j e he
  obtain ⟨hj, -⟩ := List.getElem?_eq_some_iff.mp he
  obtain ⟨call, hcall⟩ : ∃ call, calls[j]? = some call :=
    ⟨calls[j], List.getElem?_eq_getElem (hlen ▸ hj)⟩
  exact (hcalls j call.1 call.2 e hcall he).1

end Pick

/-- Two endpoints of a backend. -/
def twoPeers : List Endpoint := [⟨"10.0.0.1", "8080", none⟩, ⟨"10.0.0.2", "8080", none⟩]

/-- Two calls of one request: the first draws the lower bound and scores `10.0.0.2` lower, the
second draws the upper bound and scores every endpoint alike. -/
def retryCalls : List ((Nat → Nat → Nat) × (Endpoint → Nat)) :=
  [(fun m _ => m, fun e => if e.address = "10.0.0.2" then 1 else 5), (fun _ n => n, fun _ => 0)]

theorem balanceRun_distinct_lowest_two_peers :
    2 ≤ twoPeers.length ∧ (twoPeers.map getUpstreamName).Nodup ∧
      ∃ picked, balanceRun twoPeers none retryCalls = some picked ∧
        picked.length = retryCalls.length ∧
        ((picked.take twoPeers.length).map getUpstreamName).Nodup ∧
        ∀ j random score e, retryCalls[j]? = some (random, score) → picked[j]? = some e →
          e ∈ candidates random twoPeers ((picked.take j).map getUpstreamName).toFinset ∧
          ∀ c ∈ candidates random twoPeers ((picked.take j).map getUpstreamName).toFinset,
            score e ≤ score c := by
  have hn : 2 ≤ twoPeers.length := by decide
  have hnodup : (twoPeers.map getUpstreamName).Nodup := by decide
  exact ⟨hn, hnodup, balanceRun_distinct_lowest twoPeers hn hnodup retryCalls⟩

example : (balanceRun twoPeers none retryCalls).map (·.map getUpstreamName) =
    some ["10.0.0.2:8080", "10.0.0.1:8080"] := by decide

end Ewma

end IngressNginx
