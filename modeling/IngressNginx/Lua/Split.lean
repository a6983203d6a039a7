import IngressNginx.Lib.Lua
import IngressNginx.Lib.LuaPattern

/-!
# Splitting nginx's upstream variables

`util/split.lua`: `split_upstream_var` reads `$upstream_addr`, `$upstream_status` and the timing
variables by the Lua pattern `"[^%s|,]+"`, dropping the bare `":"` that nginx writes between the
entries of two upstreams after an internal redirect; `get_first_value` and `get_last_value` take
its first and last entry. `ewma.after_balance` scores the last address, and sticky's
`get_failed_upstreams` marks every address as failed.

nginx writes such a variable as the entries of the upstreams it tried, `", "` between two tries
of one upstream and `" : "` where an internal redirect moved to another (`upstreamVar`). Every
list of entries that are not the bare `":"` and hold no whitespace, `','` or `'|'` comes back
whole from `split_upstream_var`, and `get_failed_upstreams` marks exactly those entries
(`splitUpstreamVar_recovers_tokens`). A `unix:` entry whose path holds `'|'` comes back in two
pieces (`splitUpstreamVar_cuts_unix_path`).

The pattern runs over bytes and the model over characters: a character outside ASCII is made of
bytes that are neither whitespace nor `'|'` nor `','`, so both cut the variable at the same
places.
-/

namespace IngressNginx

namespace Split

open LuaPattern

/-- The class `[^%s|,]` of `split_upstream_var`'s pattern. -/
def upstreamVarClass (c : Char) : Bool := !(isSpace c || c = '|' || c = ',')

/-- `split_upstream_var`: the matches of `"[^%s|,]+"` in the variable but the bare `":"`, in
order; `nil` for an unset variable. -/
def splitUpstreamVar : Option String → Option (List String)
  | none => none
  | some var =>
    some (((gmatchPlus upstreamVarClass var.toList).map String.ofList).filter (· != ":"))

/-- `get_first_value`: `t[1]` of the split, `nil` when it is empty. -/
def getFirstValue (var : Option String) : Option String :=
  ((splitUpstreamVar var).getD []).head?

/-- `get_last_value`: `t[#t]` of the split, `nil` when it is empty. -/
def getLastValue (var : Option String) : Option String :=
  ((splitUpstreamVar var).getD []).getLast?

/-- sticky's `get_failed_upstreams`: every address of `$upstream_addr` marked `true`. -/
def getFailedUpstreams (upstreamAddr : Option String) : Lua.Table Bool :=
  ((splitUpstreamVar upstreamAddr).getD []).foldl (fun t addr => t.insert addr true) ∅

/-- How nginx separates two entries of an upstream variable: `", "` between two tries of one
upstream, `" : "` where an internal redirect moved to another upstream. -/
inductive UpstreamSep
  | retry
  | redirect
  deriving DecidableEq, Repr

/-- The text nginx writes for a separator. -/
def UpstreamSep.text : UpstreamSep → String
  | .retry => ", "
  | .redirect => " : "

/-- An upstream variable as nginx writes it: the first entry, then each further entry after its
separator. -/
def upstreamVar (first : String) (rest : List (UpstreamSep × String)) : String :=
  first ++ String.join (rest.map fun e => e.1.text ++ e.2)

/-- An entry that `split_upstream_var` gives back whole: not empty, not the bare `":"`, and made
of the class of its pattern. -/
def IsUpstreamToken (t : String) : Prop :=
  t ≠ "" ∧ t ≠ ":" ∧ ∀ c ∈ t.toList, upstreamVarClass c = true

instance : DecidablePred IsUpstreamToken := fun t =>
  decidable_of_iff (t != "" && t != ":" && t.toList.all upstreamVarClass) (by
    simp [IsUpstreamToken, and_assoc])

@[simp] lemma upstreamVarClass_space : upstreamVarClass ' ' = false := rfl

@[simp] lemma upstreamVarClass_comma : upstreamVarClass ',' = false := rfl

@[simp] lemma upstreamVarClass_colon : upstreamVarClass ':' = true := rfl

section Lemmas

variable {s : List Char} {t first : String} {rest : List (UpstreamSep × String)}

lemma upstreamVar_cons (first : String) (sep : UpstreamSep) (t : String)
    (rest : List (UpstreamSep × String)) :
    upstreamVar first ((sep, t) :: rest) = first ++ (sep.text ++ upstreamVar t rest) := by
  simp only [upstreamVar, List.map_cons, String.join_cons, String.append_assoc]

/-- A token is one match when what follows it is outside the class. -/
lemma gmatchPlus_token (ht : IsUpstreamToken t)
    (hs : ∀ c ∈ s.head?, upstreamVarClass c = false) :
    gmatchPlus upstreamVarClass (t.toList ++ s) = t.toList :: gmatchPlus upstreamVarClass s := by
  have hne : t.toList ≠ [] := fun h =>
    ht.1 (String.toList_inj.mp (h.trans String.toList_empty.symm))
  exact gmatchPlus_append_of_pos hne ht.2.2 hs

/-- A separator begins outside the class. -/
lemma upstreamVarClass_head_text (sep : UpstreamSep) (s : List Char) :
    ∀ c ∈ (sep.text.toList ++ s).head?, upstreamVarClass c = false := by
  cases sep <;> simp [UpstreamSep.text]

/-- `", "` is skipped. -/
lemma gmatchPlus_retry (s : List Char) :
    gmatchPlus upstreamVarClass (UpstreamSep.retry.text.toList ++ s) =
      gmatchPlus upstreamVarClass s :=
  gmatchPlus_append_of_neg (by simp [UpstreamSep.text])

/-- `" : "` gives the bare `":"`, which `split_upstream_var` drops. -/
lemma gmatchPlus_redirect (s : List Char) :
    gmatchPlus upstreamVarClass (UpstreamSep.redirect.text.toList ++ s) =
      [':'] :: gmatchPlus upstreamVarClass s := by
  show gmatchPlus upstreamVarClass ([' '] ++ ([':'] ++ ([' '] ++ s))) = _
  rw [gmatchPlus_append_of_neg (by simp), gmatchPlus_append_of_pos (List.cons_ne_nil _ _)
    (by simp) (by simp), gmatchPlus_append_of_neg (by simp)]

/-- The matches of a written variable, but the bare `":"`, are its entries. -/
lemma filter_gmatchPlus_upstreamVar
    (htok : ∀ t ∈ first :: rest.map Prod.snd, IsUpstreamToken t) :
    ((gmatchPlus upstreamVarClass (upstreamVar first rest).toList).map String.ofList).filter
      (· != ":") = first :: rest.map Prod.snd := by
  -- induction on the entries after the first, each step reading one separator and one entry
  induction rest generalizing first with
  | nil =>
    have hfirst := htok first List.mem_cons_self
    rw [upstreamVar, List.map_nil, String.join_nil, String.append_empty, ← List.append_nil
      first.toList, gmatchPlus_token hfirst (by simp)]
    simp [hfirst.2.1]
  | cons e rest ih =>
    obtain ⟨sep, t⟩ := e
    have hfirst := htok first List.mem_cons_self
    have htail : ∀ u ∈ t :: rest.map Prod.snd, IsUpstreamToken u :=
      fun u hu => htok u (List.mem_cons_of_mem first hu)
    rw [upstreamVar_cons, String.toList_append, String.toList_append,
      gmatchPlus_token hfirst (upstreamVarClass_head_text sep _)]
    cases sep with
    | retry =>
      rw [gmatchPlus_retry]
      simp [hfirst.2.1, ih htail]
    | redirect =>
      rw [gmatchPlus_redirect]
      simp [hfirst.2.1, ih htail]

end Lemmas

/-- For every non-empty list of entries written as nginx writes its upstream variables, none of
them the bare `":"` and none holding whitespace, `','` or `'|'`: `split_upstream_var` gives back
the entries, `get_last_value` the last of them, and `get_failed_upstreams` marks exactly them. -/
theorem splitUpstreamVar_recovers_tokens (first : String) (rest : List (UpstreamSep × String))
    (htok : ∀ t ∈ first :: rest.map Prod.snd, IsUpstreamToken t) :
    splitUpstreamVar (some (upstreamVar first rest)) = some (first :: rest.map Prod.snd) ∧
      getLastValue (some (upstreamVar first rest)) =
        some ((first :: rest.map Prod.snd).getLast (List.cons_ne_nil _ _)) ∧
      ∀ addr, (getFailedUpstreams (some (upstreamVar first rest))).lookup addr = some true ↔
        addr ∈ first :: rest.map Prod.snd := by
  have hsplit : splitUpstreamVar (some (upstreamVar first rest)) =
      some (first :: rest.map Prod.snd) := congrArg some (filter_gmatchPlus_upstreamVar htok)
  refine ⟨hsplit, ?_, fun addr => ?_⟩
  · rw [getLastValue, hsplit, Option.getD_some, List.getLast?_eq_some_getLast]
  · rw [getFailedUpstreams, hsplit, Option.getD_some, Lua.lookup_foldl_insert]
    simp

theorem splitUpstreamVar_recovers_tokens_redirect :
    (∀ t ∈ "10.0.0.1:80" :: [(UpstreamSep.redirect, "unix:/run/b.sock")].map Prod.snd,
      IsUpstreamToken t) ∧
      splitUpstreamVar (some (upstreamVar "10.0.0.1:80" [(.redirect, "unix:/run/b.sock")])) =
        some ["10.0.0.1:80", "unix:/run/b.sock"] :=
  have htok : ∀ t ∈ "10.0.0.1:80" :: [(UpstreamSep.redirect, "unix:/run/b.sock")].map Prod.snd,
      IsUpstreamToken t := by
    intro t ht
    rcases List.mem_cons.mp ht with rfl | ht
    · decide
    · rcases List.mem_singleton.mp ht with rfl
      decide
  ⟨htok, (splitUpstreamVar_recovers_tokens _ _ htok).1⟩

/-- The entry `unix:/tmp/a|b.sock`, a unix socket whose path holds `'|'`, comes back from
`split_upstream_var` as two entries, and `get_last_value` gives `b.sock`. -/
theorem splitUpstreamVar_cuts_unix_path :
    splitUpstreamVar (some (upstreamVar "unix:/tmp/a|b.sock" [])) =
        some ["unix:/tmp/a", "b.sock"] ∧
      getLastValue (some (upstreamVar "unix:/tmp/a|b.sock" [])) = some "b.sock" := by
  have hvar : (upstreamVar "unix:/tmp/a|b.sock" []).toList =
      "unix:/tmp/a".toList ++ (['|'] ++ "b.sock".toList) := by decide
  have hsplit : splitUpstreamVar (some (upstreamVar "unix:/tmp/a|b.sock" [])) =
      some ["unix:/tmp/a", "b.sock"] := by
    rw [splitUpstreamVar, hvar, gmatchPlus_append_of_pos (by simp) (by simp [upstreamVarClass,
      isSpace]) (by simp [upstreamVarClass, isSpace]), gmatchPlus_append_of_neg (by simp
      [upstreamVarClass, isSpace]), ← List.append_nil "b.sock".toList,
      gmatchPlus_append_of_pos (by simp) (by simp [upstreamVarClass, isSpace]) (by simp)]
    simp
  exact ⟨hsplit, by rw [getLastValue, hsplit]; rfl⟩

end Split

end IngressNginx
