import IngressNginx.Api

/-!
# The Lua shared dictionaries of `ReadConfig`

`ReadConfig` (`configmap.go`) reads the ConfigMap key `lua-shared-dicts`, a comma-separated
list of `name: size` entries, into `Configuration.LuaSharedDicts`, then adds each dictionary
of `defaultLuaSharedDicts` that the list leaves out. An entry is split at its first `:` and
its size read from the second piece. An entry without `:` has no second piece, and indexing
it panics (`readConfig_eq_none_of_entry_without_colon`). An entry whose size is no integer,
is above `maxAllowedLuaDictSize`, or would make more than `maxNumberOfLuaDicts` dictionaries
is skipped; a size of zero or below is kept (`readLuaSharedDict_of_size`).

The other keys of the ConfigMap, which the rest of `ReadConfig` decodes into the
configuration, are left out.
-/

namespace IngressNginx

namespace Config

/-- `config.Configuration`, with the field that `lua-shared-dicts` sets. -/
structure Configuration where
  luaSharedDicts : Go.Map String Int

end Config

namespace Template

/-- `luaSharedDictsKey`. -/
def luaSharedDictsKey : String := "lua-shared-dicts"

/-- `maxAllowedLuaDictSize`, in megabytes. -/
def maxAllowedLuaDictSize : Int := 200

/-- `maxNumberOfLuaDicts`. -/
def maxNumberOfLuaDicts : Nat := 100

/-- `defaultLuaSharedDicts`. -/
def defaultLuaSharedDicts : Go.Map String Int :=
  [("configuration_data", 20), ("certificate_data", 20), ("balancer_ewma", 10),
    ("balancer_ewma_last_touched_at", 10), ("balancer_ewma_locks", 1), ("certificate_servers", 5),
    ("ocsp_response_cache", 5), ("global_throttle_cache", 10)].foldl
    (fun m (k, v) => m.insert k v) ∅

/-- `splitAndTrimSpace(s, sep)`: the fields of `s` between the characters equal to `sep` up to
case, each trimmed. -/
def splitAndTrimSpace (s sep : String) : List String :=
  (Go.fieldsFunc s fun c => Go.equalFold (String.singleton c) sep).map Go.trimSpace

/-- One entry of `lua-shared-dicts` in the loop of `ReadConfig`, spaces removed; `none` is the
panic of `results[1]` on an entry without `:`. -/
def readLuaSharedDict (luaSharedDicts : Go.Map String Int) (v : String) :
    Option (Go.Map String Int) := do
  let v := String.ofList (v.toList.filter (· ≠ ' '))
  let results := Go.splitN v ':' 2
  let dictName ← results[0]?
  let sizeText ← results[1]?
  match Go.atoi sizeText with
  | none => pure luaSharedDicts
  | some size =>
    if size > maxAllowedLuaDictSize then pure luaSharedDicts
    else if luaSharedDicts.entries.length + 1 > maxNumberOfLuaDicts then pure luaSharedDicts
    else pure (luaSharedDicts.insert dictName size)

/-- `ReadConfig` on the key `lua-shared-dicts`, with the defaults added in the order `ord`
ranges over them; `none` is a panic. -/
def readConfig (ord : Go.RangeOrder Unit String) (src : StringMap) :
    Option Config.Configuration := do
  let luaSharedDicts ← match src.lookup luaSharedDictsKey with
    | some val => (splitAndTrimSpace val ",").foldlM readLuaSharedDict ∅
    | none => pure ∅
  let luaSharedDicts := (defaultLuaSharedDicts.range ord ()).foldl
    (fun luaSharedDicts (k, v) =>
      if k ∈ luaSharedDicts then luaSharedDicts else luaSharedDicts.insert k v) luaSharedDicts
  pure { luaSharedDicts := luaSharedDicts }

/-! ### One entry -/

/-- An entry `name:size` without spaces sizes its dictionary whenever the size is at most
`maxAllowedLuaDictSize` and there is room, whatever the sign of the size. -/
lemma readLuaSharedDict_of_size (luaSharedDicts : Go.Map String Int) (name sizeText : String)
    (size : Int) (hname : ':' ∉ name.toList) (hspaces : ' ' ∉ (name ++ ":" ++ sizeText).toList)
    (hsize : Go.atoi sizeText = some size) (hmax : size ≤ maxAllowedLuaDictSize)
    (hroom : luaSharedDicts.entries.length < maxNumberOfLuaDicts) :
    readLuaSharedDict luaSharedDicts (name ++ ":" ++ sizeText) =
      some (luaSharedDicts.insert name size) := by
  have hfilter : String.ofList ((name ++ ":" ++ sizeText).toList.filter (· ≠ ' ')) =
      name ++ String.singleton ':' ++ sizeText := by
    rw [List.filter_eq_self.mpr fun c hc => decide_eq_true (ne_of_mem_of_not_mem hc hspaces),
      String.ofList_toList]
    rfl
  have hroom' : ¬ luaSharedDicts.entries.length + 1 > maxNumberOfLuaDicts := by omega
  unfold readLuaSharedDict
  dsimp only
  rw [hfilter, Go.splitN_two hname]
  simp [hsize, not_lt.mpr hmax, hroom']

/-! ### An entry without `:` -/

/-- `ReadConfig` panics as soon as one entry of `lua-shared-dicts` has no `:`, whatever the
other entries and the rest of the ConfigMap. -/
theorem readConfig_eq_none_of_entry_without_colon (ord : Go.RangeOrder Unit String)
    (src : StringMap) (val entry : String) (hval : src.lookup luaSharedDictsKey = some val)
    (hentry : entry ∈ splitAndTrimSpace val ",") (hcolon : ':' ∉ entry.toList) :
    readConfig ord src = none := by
  have hpanic : ∀ luaSharedDicts, readLuaSharedDict luaSharedDicts entry = none := by
    intro luaSharedDicts
    have hfilter : ':' ∉ (String.ofList (entry.toList.filter (· ≠ ' '))).toList := by
      rw [String.toList_ofList]
      exact fun h => hcolon (List.mem_of_mem_filter h)
    unfold readLuaSharedDict
    dsimp only
    rw [Go.splitN_of_not_mem hfilter (by decide)]
    rfl
  have hloop := Go.foldlM_eq_none_of_mem hentry hpanic ∅
  simp [readConfig, hval, hloop]

/-- A ConfigMap whose `lua-shared-dicts` forgets the size of its second dictionary. -/
def luaSharedDictsTypoData : StringMap :=
  AList.insert "lua-shared-dicts" "configuration_data: 100, certificate_data" ∅

theorem readConfig_panics_on_certificate_data_without_size :
    readConfig .keyOrder luaSharedDictsTypoData = none :=
  readConfig_eq_none_of_entry_without_colon _ _ _ "certificate_data" rfl (by decide) (by decide)

end Template

end IngressNginx
