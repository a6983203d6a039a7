import IngressNginx.Lib.Lua

/-!
# Resolving names (`util.dns`)

`dns.lookup` resolves the names of `ExternalName` backends. A name in its cache is answered
from there. Otherwise, when a resolver can be created, a name ending in `.` is resolved alone,
and any other name is resolved through the `search` list of `resolv.conf`: the name itself
first when it has at least `ndots` dots, last otherwise (`searchCandidates`). Each candidate
gets an `A` query, then an `AAAA` query when that gave no address; the first candidate with an
address gives the result, cached under the name with the least TTL of its answers (at most
`MAXIMUM_TTL_VALUE`). When none has one, the name itself is returned.

The resolver (`resty.dns.resolver`) and the cache (`resty.lrucache`) are not part of the
program: `lookup` takes what `cache:get` found, whether `resolver:new` succeeded, and the answer
of each query. `lookup_follows_search_order` says what it does with them on a cache miss, and
`lookup_answers_from_cache` shows a cached name answered without any query.
-/

namespace IngressNginx

namespace Dns

/-- `MAXIMUM_TTL_VALUE`. -/
def maximumTtlValue : Nat := 2147483647

/-- The query types of `QTYPES_TO_CHECK`. -/
inductive QType where
  | a
  | aaaa
deriving DecidableEq, Repr

/-- A record of an answer: an `A` or `AAAA` record has an `address`, a `CNAME` none. -/
structure Answer where
  address : Option String
  ttl : Nat
deriving DecidableEq

/-- What `r:query` returns: an error, a server error (`errcode`, `errstr`), or the answers. -/
inductive QueryResult where
  | error (err : String)
  | serverError (errcode : Nat) (errstr : String)
  | answers (answers : List Answer)
deriving DecidableEq

/-- The state of `resolv_conf` that `lookup` reads. -/
structure ResolvConf where
  search : List String
  ndots : Nat

/-- `is_fully_qualified`. -/
def isFullyQualified (host : String) : Bool := host.toList.getLast? == some '.'

/-- `a_records_and_min_ttl`: the addresses of the answers, and the least TTL of the answers
with one, starting from `MAXIMUM_TTL_VALUE`. -/
def aRecordsAndMinTtl (answers : List Answer) : List String × Nat :=
  answers.foldl (fun (addresses, ttl) ans =>
    match ans.address with
    | some address => (addresses ++ [address], if ans.ttl < ttl then ans.ttl else ttl)
    | none => (addresses, ttl)) ([], maximumTtlValue)

/-- `resolve_host_for_qtype`: the addresses and TTL of a query, or its error. -/
def resolveHostForQtype (query : String → QType → QueryResult) (host : String) (qtype : QType) :
    Except String (List String × Nat) :=
  match query host qtype with
  | .error err => .error err
  | .serverError errcode errstr =>
    .error ("server returned error code: " ++ toString errcode ++ ": " ++ errstr)
  | .answers answers =>
    let (addresses, ttl) := aRecordsAndMinTtl answers
    if addresses.isEmpty then
      .error (if qtype = .aaaa then "no AAAA record resolved" else "no A record resolved")
    else .ok (addresses, ttl)

/-- `resolve_host`: the `A` query, then the `AAAA` query; the errors of both when neither
gives an address. -/
def resolveHost (query : String → QType → QueryResult) (host : String) :
    Except (List String) (List String × Nat) :=
  match resolveHostForQtype query host .a with
  | .ok result => .ok result
  | .error errA =>
    match resolveHostForQtype query host .aaaa with
    | .ok result => .ok result
    | .error errAAAA => .error [errA, errAAAA]

/-- The indices of the loop over `resolv_conf.search` in `lookup`: from `0`, the name itself,
when it has at least `ndots` dots, to one past the list, the name itself, otherwise. -/
def searchIndices (conf : ResolvConf) (host : String) : List Nat :=
  let hostNdots := host.toList.count '.'
  let (searchStart, searchEnd) :=
    if hostNdots < conf.ndots then (1, conf.search.length + 1) else (0, conf.search.length)
  List.range' searchStart (searchEnd + 1 - searchStart)

/-- `new_host` at index `i`: the name with `resolv_conf.search[i]` appended, the name itself
where the Lua table has no entry. -/
def searchName (conf : ResolvConf) (host : String) (i : Nat) : String :=
  match if i = 0 then none else conf.search[i - 1]? with
  | some domain => host ++ "." ++ domain
  | none => host

/-- The loop of `lookup` over its names: the first that resolves, and the names queried. -/
def resolveFirst (query : String → QType → QueryResult) :
    List String → List String × Option (List String × Nat)
  | [] => ([], none)
  | name :: names =>
    match resolveHost query name with
    | .ok result => ([name], some result)
    | .error _ =>
      let (tried, result) := resolveFirst query names
      (name :: tried, result)

/-- What `lookup` does: the addresses it returns, the names it resolved in order, and what it
put in the cache (the name, the addresses and their TTL). -/
structure LookupResult where
  addresses : List String
  tried : List String
  cacheSet : Option (String × List String × Nat)

/-- `lookup`, given what `cache:get(host)` found and whether `resolver:new` succeeded. -/
def lookup (conf : ResolvConf) (cached : Option (List String)) (resolverCreated : Bool)
    (query : String → QType → QueryResult) (host : String) : LookupResult :=
  match cached with
  | some cachedAddresses => ⟨cachedAddresses, [], none⟩
  | none =>
    if !resolverCreated then ⟨[host], [], none⟩
    else
      let names :=
        if isFullyQualified host then [host]
        else (searchIndices conf host).map (searchName conf host)
      match resolveFirst query names with
      | (tried, some (addresses, ttl)) => ⟨addresses, tried, some (host, addresses, ttl)⟩
      | (tried, none) => ⟨[host], tried, none⟩

/-! ### What a candidate name yields -/

/-- The least TTL of the answers with an address, and at most `MAXIMUM_TTL_VALUE`. -/
def minTtl (answers : List Answer) : Nat :=
  (answers.filterMap fun ans => ans.address.map fun _ => ans.ttl).foldl min maximumTtlValue

/-- The addresses of a query's answers with their least TTL; none when it gave no address. -/
def queryAddresses : QueryResult → Option (List String × Nat)
  | .answers answers =>
    if answers.filterMap (·.address) = [] then none
    else some (answers.filterMap (·.address), minTtl answers)
  | _ => none

/-- What a name yields: the addresses of its `A` query, else those of its `AAAA` query. -/
def yields (query : String → QType → QueryResult) (name : String) : Option (List String × Nat) :=
  (queryAddresses (query name .a)).or (queryAddresses (query name .aaaa))

/-- The names a name not ending in `.` is resolved as: itself and then each search domain
appended when it has at least `ndots` dots, each search domain appended and then itself
otherwise. -/
def searchCandidates (conf : ResolvConf) (host : String) : List String :=
  if conf.ndots ≤ host.toList.count '.' then host :: conf.search.map (host ++ "." ++ ·)
  else conf.search.map (host ++ "." ++ ·) ++ [host]

section Resolve

variable {query : String → QType → QueryResult}

/-- The loop of `a_records_and_min_ttl` from any accumulator. -/
lemma foldl_aRecordsAndMinTtl (answers : List Answer) (addresses : List String) (ttl : Nat) :
    answers.foldl (fun (addresses, ttl) ans =>
        match ans.address with
        | some address => (addresses ++ [address], if ans.ttl < ttl then ans.ttl else ttl)
        | none => (addresses, ttl)) (addresses, ttl) =
      (addresses ++ answers.filterMap (·.address),
        (answers.filterMap fun ans => ans.address.map fun _ => ans.ttl).foldl min ttl) := by
  induction answers generalizing addresses ttl with
  | nil => simp
  | cons ans answers ih =>
    cases haddress : ans.address with
    | none => simp [haddress, ih]
    | some address =>
      have hmin : (if ans.ttl < ttl then ans.ttl else ttl) = min ttl ans.ttl := by
        split <;> omega
      simp [haddress, ih, hmin]

lemma aRecordsAndMinTtl_eq (answers : List Answer) :
    aRecordsAndMinTtl answers = (answers.filterMap (·.address), minTtl answers) := by
  rw [aRecordsAndMinTtl, foldl_aRecordsAndMinTtl, List.nil_append, minTtl]

lemma resolveHostForQtype_toOption (host : String) (qtype : QType) :
    (resolveHostForQtype query host qtype).toOption = queryAddresses (query host qtype) := by
  unfold resolveHostForQtype
  cases query host qtype with
  | error err => rfl
  | serverError errcode errstr => rfl
  | answers answers =>
    simp only [queryAddresses, aRecordsAndMinTtl_eq]
    by_cases hnil : answers.filterMap (·.address) = []
    · simp [hnil, Except.toOption]
    · simp [hnil, List.isEmpty_iff, Except.toOption]

/-- `resolve_host` resolves a name to what it yields. -/
lemma resolveHost_toOption (host : String) :
    (resolveHost query host).toOption = yields query host := by
  unfold resolveHost yields
  rw [← resolveHostForQtype_toOption, ← resolveHostForQtype_toOption]
  cases resolveHostForQtype query host .a with
  | ok result => rfl
  | error errA =>
    cases resolveHostForQtype query host .aaaa with
    | ok result => rfl
    | error errAAAA => rfl

/-- The loop over the names stops at the first that yields addresses, after trying those
before it. -/
lemma resolveFirst_eq (names : List String) :
    resolveFirst query names =
      (names.take (names.findIdx (fun name => (yields query name).isSome) + 1),
        names.findSome? (yields query)) := by
  induction names with
  | nil => rfl
  | cons name names ih =>
    have hyields : (resolveHost query name).toOption = yields query name :=
      resolveHost_toOption name
    cases hresolve : resolveHost query name with
    | ok result =>
      have hsome : yields query name = some result := by
        rw [← hyields, hresolve]
        rfl
      simp [resolveFirst, hresolve, List.findIdx_cons, hsome]
    | error errs =>
      have hnone : yields query name = none := by
        rw [← hyields, hresolve]
        rfl
      simp [resolveFirst, hresolve, ih, List.findIdx_cons, hnone]

end Resolve

section Search

variable {conf : ResolvConf} {host : String}

lemma searchName_zero : searchName conf host 0 = host := rfl

lemma searchName_succ (i : Nat) :
    searchName conf host (i + 1) = ((conf.search[i]?).map (host ++ "." ++ ·)).getD host := by
  unfold searchName
  rw [if_neg (Nat.succ_ne_zero i), Nat.add_sub_cancel]
  cases conf.search[i]? <;> rfl

lemma map_searchName_range' :
    (List.range' 1 conf.search.length).map (searchName conf host) =
      conf.search.map (host ++ "." ++ ·) := by
  apply List.ext_getElem
  · simp
  · intro i _ hi
    have bound : i < conf.search.length := by simpa using hi
    rw [List.getElem_map, List.getElem_range', Nat.one_mul, Nat.add_comm 1 i, searchName_succ,
      List.getElem?_eq_getElem bound, List.getElem_map]
    rfl

/-- The loop over `resolv_conf.search` resolves the names `searchCandidates` lists. -/
lemma map_searchName_searchIndices :
    (searchIndices conf host).map (searchName conf host) = searchCandidates conf host := by
  unfold searchIndices searchCandidates
  by_cases hndots : host.toList.count '.' < conf.ndots
  · -- past the search list the loop resolves the name itself
    have hend : searchName conf host (1 + 1 * conf.search.length) = host := by
      rw [Nat.one_mul, Nat.add_comm, searchName_succ, List.getElem?_eq_none le_rfl]
      rfl
    simp only [hndots, if_true, Nat.add_sub_cancel, List.range'_concat, List.map_append,
      map_searchName_range', List.map_singleton, hend, if_neg (Nat.not_le.mpr hndots)]
  · have hle : conf.ndots ≤ host.toList.count '.' := Nat.le_of_not_lt hndots
    simp only [hndots, if_false, Nat.sub_zero, List.range'_succ, List.map_cons, Nat.zero_add,
      map_searchName_range', searchName_zero, if_pos hle]

end Search

/-- On a cache miss, with a resolver: for every `resolv.conf` state, every answer of the name
server and every name, `lookup` resolves the name alone when it ends in `.` and its
`searchCandidates` otherwise, in order, up to the first that yields addresses (its `A`
addresses, else its `AAAA` ones); it returns those and caches them under the name with their
least TTL, capped at `MAXIMUM_TTL_VALUE`, and when no name yields any it returns the name
itself and caches nothing. -/
theorem lookup_follows_search_order (conf : ResolvConf) (query : String → QType → QueryResult)
    (host : String) :
    let names := if isFullyQualified host then [host] else searchCandidates conf host
    (lookup conf none true query host).tried =
        names.take (names.findIdx (fun name => (yields query name).isSome) + 1) ∧
      (lookup conf none true query host).addresses =
        ((names.findSome? (yields query)).map Prod.fst).getD [host] ∧
      (lookup conf none true query host).cacheSet =
        (names.findSome? (yields query)).map fun result => (host, result) := by
  intro names
  have hnames : (if isFullyQualified host then [host]
      else (searchIndices conf host).map (searchName conf host)) = names := by
    rw [map_searchName_searchIndices]
  have hloop : resolveFirst query names = _ := resolveFirst_eq names
  simp only [lookup, Bool.not_true, Bool.false_eq_true, if_false, hnames, hloop]
  cases names.findSome? (yields query) with
  | none => exact ⟨rfl, rfl, rfl⟩
  | some result => exact ⟨rfl, rfl, rfl⟩

/-- A cluster's `resolv.conf`: three search domains and `ndots:5`. -/
def clusterConf : ResolvConf :=
  ⟨["default.svc.cluster.local", "svc.cluster.local", "cluster.local"], 5⟩

/-- A name server that has an `A` record for `web.default.svc.cluster.local` only. -/
def clusterQuery (name : String) (qtype : QType) : QueryResult :=
  if name = "web.default.svc.cluster.local" ∧ qtype = .a then .answers [⟨some "10.0.0.1", 30⟩]
  else .answers []

/-- `web`, cached at an older address, is answered from the cache: no name is resolved, and the
address returned is not the one its first candidate yields. -/
theorem lookup_answers_from_cache :
    (lookup clusterConf (some ["10.0.0.9"]) true clusterQuery "web").tried = [] ∧
      (lookup clusterConf (some ["10.0.0.9"]) true clusterQuery "web").addresses ≠
        (((searchCandidates clusterConf "web").findSome? (yields clusterQuery)).map
          Prod.fst).getD ["web"] := by
  constructor
  · rfl
  · decide

end Dns

end IngressNginx
