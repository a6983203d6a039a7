import IngressNginx.Lua.Certificate
import IngressNginx.Lua.Sync

/-!
# The configuration endpoint

`configuration.lua` serves the location `/configuration`, through which the controller hands
the workers what changes without a reload. `call` dispatches on the method and the URI to
`handle_servers` (the certificate of each server name), `handle_general` (the general
settings), `handle_certs` (the PEM text stored for a name) and `handle_backends` (the
backends). Each handler answers with a status and the text it prints, and writes the shared
dictionaries `configuration_data`, `certificate_servers`, `certificate_data` and
`ocsp_response_cache`.

What each `set` meets, room, room once least recently used entries are evicted, or no memory
(`Lua.SetAnswer`), is part of the request here, by dictionary and key: each handler writes a
key of a dictionary at most once, so this says everything the environment can decide, the LRU
order that every worker's `get`s and `set`s move included. `cjson`, which decodes the body of
`handle_servers`, is a parameter.

Whatever the dictionaries evict, the second the workers compare never comes with backends
other than those posted in it: when `raw_backends_last_synced_at` holds a second, it is that of
the last POST of backends answered `201`, and the backends stored are that POST's body unless
they were evicted (`backends_run`). Where every `set` finds room (`Request.FindsRoom`),
`/configuration/general` behaves as a register: every GET is answered with the body of the last
POST answered `201`, read off the requests and answers alone (`general_linearizable`); the
worker fed by the endpoint goes through the states of the sync system whose posts are the
endpoint's writes (`system_refines_syncSystem`); and a POST of certificates refines the model
of `handle_servers` that the handshake reads, deleting the OCSP responses of exactly the
certificates it renews (`handleServers_refines`).
-/

namespace IngressNginx

namespace LuaConfiguration

/-! ### Requests and the dictionaries -/

/-- The shared dictionaries the handlers `set` into. -/
inductive Dict where
  | configurationData
  | certificateServers
  | certificateData
deriving DecidableEq, Repr

/-- What the handlers read of a request: `ngx.var.request_method`, `ngx.var.request_uri`
(with the query), `ngx.var.uri` (without it), the `hostname` argument of the query, the body
`fetch_request_body` reads (`nil` when it can read none), the second `ngx.time()` gives, and
what each `set` meets. -/
structure Request where
  requestMethod : String
  requestUri : String
  uri : String
  hostname : Option String
  body : Option String
  now : Int
  answer : Dict → String → Lua.SetAnswer

/-- Every `set` of the request finds room: nothing is evicted and no `set` fails. -/
def Request.FindsRoom (req : Request) : Prop := ∀ d k, req.answer d k = .stored

/-- An answer: `ngx.status` and the text printed. -/
structure Response where
  status : Nat
  printed : String
deriving DecidableEq, Repr

/-- `ngx.HTTP_OK`. -/
def httpOk : Nat := 200

/-- `ngx.HTTP_CREATED`. -/
def httpCreated : Nat := 201

/-- `ngx.HTTP_BAD_REQUEST`. -/
def httpBadRequest : Nat := 400

/-- `ngx.HTTP_NOT_FOUND`. -/
def httpNotFound : Nat := 404

/-- `ngx.HTTP_INTERNAL_SERVER_ERROR`, also nginx's answer to a Lua error. -/
def httpInternalServerError : Nat := 500

/-- The text `ngx.print` writes for a dictionary value: `nil` when there is none. -/
def printValue : Option String → String
  | some s => s
  | none => "nil"

/-- The keys of `configuration_data`. -/
structure ConfigurationDict where
  general : Option String
  backends : Option String
  rawBackendsLastSyncedAt : Option Int

/-- `configuration_data` without the keys a `set` into it removes. -/
def ConfigurationDict.remove (d : ConfigurationDict) (keys : List String) : ConfigurationDict where
  general := if "general" ∈ keys then none else d.general
  backends := if "backends" ∈ keys then none else d.backends
  rawBackendsLastSyncedAt :=
    if "raw_backends_last_synced_at" ∈ keys then none else d.rawBackendsLastSyncedAt

@[simp] lemma ConfigurationDict.remove_nil (d : ConfigurationDict) : d.remove [] = d := rfl

/-- The shared dictionaries of `configuration.lua`. -/
structure Store where
  configurationData : ConfigurationDict
  certificates : CertificateStore
  ocspResponseCache : Lua.SharedDict

/-- `get_pem_cert(hostname)`: the PEM text of the UID stored for exactly that name. -/
def getPemCert (st : CertificateStore) (hostname : String) : Option String :=
  (st.certificateServers.lookup hostname).bind st.certificateData.lookup

/-! ### The handlers -/

/-- The table `cjson.decode` makes of the body of `handle_servers`: its fields `servers` and
`certificates`, `nil` when absent. -/
structure SSLConfigurationTable where
  servers : Option (Lua.Table String)
  certificates : Option (Lua.Table String)

/-- The message `handle_servers` buffers for a `set` that fails with `no memory`. -/
def setErrMsg (key : String) : String :=
  "error setting certificate for " ++ key ++ ": no memory\n"

/-- One pass of the loop over `configuration.servers`: the name deleted for `EMPTY_UID`, else
its UID set, an error buffered when the `set` fails. -/
def serversStep (answer : String → Lua.SetAnswer) (acc : Lua.SharedDict × List String)
    (e : String × String) : Lua.SharedDict × List String :=
  if e.2 = luaEmptyUID then (acc.1.erase e.1, acc.2)
  else
    let set := Lua.dictSet acc.1 e.1 e.2 (answer e.1)
    (set.1, if set.2 then acc.2 else acc.2 ++ [setErrMsg e.1])

/-- What the loop over `configuration.certificates` writes. -/
structure CertificatesLoop where
  certificateData : Lua.SharedDict
  ocspResponseCache : Lua.SharedDict
  errBuf : List String

/-- `is_renew`: a certificate was stored under the UID, and it is not the one posted. -/
def isRenew (oldCert : Option String) (cert : String) : Bool :=
  oldCert.isSome && oldCert != some cert

/-- One pass of the loop over `configuration.certificates`: the PEM text set and, for a
renewed certificate, its OCSP response deleted once the set succeeded; else an error
buffered. -/
def certificatesStep (answer : String → Lua.SetAnswer) (acc : CertificatesLoop)
    (e : String × String) : CertificatesLoop :=
  -- `is_renew` reads the certificate before the `set`
  let renew := isRenew (acc.certificateData.lookup e.1) e.2
  let set := Lua.dictSet acc.certificateData e.1 e.2 (answer e.1)
  if set.2 then
    { acc with
      certificateData := set.1
      ocspResponseCache :=
        if renew then acc.ocspResponseCache.erase e.1 else acc.ocspResponseCache }
  else { acc with certificateData := set.1, errBuf := acc.errBuf ++ [setErrMsg e.1] }

/-- `handle_servers`, its `pairs` loops visiting the tables in the order `ord` chooses. -/
def handleServers (ord : Go.RangeOrder PairsSite String)
    (decode : String → Option SSLConfigurationTable) (req : Request) (st : Store) :
    Response × Store :=
  if req.requestMethod ≠ "POST" then (⟨httpBadRequest, "Only POST requests are allowed!"⟩, st)
  else
    match req.body.bind decode with
    | none => (⟨httpBadRequest, ""⟩, st)
    | some configuration =>
      match configuration.servers with
      -- `pairs(nil)` raises an error
      | none => (⟨httpInternalServerError, ""⟩, st)
      | some servers =>
        let (certificateServers, errBuf) := (servers.range ord .servers).foldl
          (serversStep (req.answer .certificateServers)) (st.certificates.certificateServers, [])
        let st := { st with certificates := { st.certificates with certificateServers } }
        match configuration.certificates with
        | none => (⟨httpInternalServerError, ""⟩, st)
        | some certificates =>
          let loop := (certificates.range ord .certificates).foldl
            (certificatesStep (req.answer .certificateData))
            ⟨st.certificates.certificateData, st.ocspResponseCache, errBuf⟩
          let st := { st with
            certificates := { st.certificates with certificateData := loop.certificateData }
            ocspResponseCache := loop.ocspResponseCache }
          if loop.errBuf.length > 0 then (⟨httpInternalServerError, ""⟩, st)
          else (⟨httpCreated, ""⟩, st)

/-- `handle_general`. -/
def handleGeneral (req : Request) (st : Store) : Response × Store :=
  if req.requestMethod = "GET" then (⟨httpOk, printValue st.configurationData.general⟩, st)
  else if req.requestMethod ≠ "POST" then
    (⟨httpBadRequest, "Only POST and GET requests are allowed!"⟩, st)
  else
    match req.body with
    -- `safe_set` of `nil` deletes the key, which needs no room
    | none =>
      (⟨httpCreated, ""⟩,
        { st with configurationData := { st.configurationData with general := none } })
    | some config =>
      if req.answer .configurationData "general" = .stored then
        (⟨httpCreated, ""⟩,
          { st with configurationData := { st.configurationData with general := some config } })
      -- `safe_set` evicts nothing and fails instead, the old value already unlinked
      else
        (⟨httpInternalServerError, ""⟩,
          { st with configurationData := { st.configurationData with general := none } })

/-- `handle_certs`. -/
def handleCerts (req : Request) (st : Store) : Response :=
  if req.requestMethod ≠ "GET" then ⟨httpBadRequest, "Only GET requests are allowed!"⟩
  else
    match req.hostname with
    | none => ⟨httpBadRequest, "Hostname must be specified."⟩
    | some hostname =>
      match getPemCert st.certificates hostname with
      | some key => ⟨httpOk, key⟩
      | none => ⟨httpNotFound, "No key associated with this hostname."⟩

/-- `configuration_data:set("backends", backends)` meeting `answer`. -/
def ConfigurationDict.setBackends (d : ConfigurationDict) (backends : String)
    (answer : Lua.SetAnswer) : ConfigurationDict :=
  let d := d.remove (answer.removes "backends")
  if answer.success then { d with backends := some backends } else d

/-- `configuration_data:set("raw_backends_last_synced_at", now)` meeting `answer`. -/
def ConfigurationDict.setRawBackendsLastSyncedAt (d : ConfigurationDict) (now : Int)
    (answer : Lua.SetAnswer) : ConfigurationDict :=
  let d := d.remove (answer.removes "raw_backends_last_synced_at")
  if answer.success then { d with rawBackendsLastSyncedAt := some now } else d

/-- `handle_backends`, answering every method but GET as a POST. -/
def handleBackends (req : Request) (st : Store) : Response × Store :=
  if req.requestMethod = "GET" then (⟨httpOk, printValue st.configurationData.backends⟩, st)
  else
    match req.body with
    | none => (⟨httpBadRequest, ""⟩, st)
    | some backends =>
      let answer := req.answer .configurationData "backends"
      let st := { st with configurationData := st.configurationData.setBackends backends answer }
      if !answer.success then (⟨httpBadRequest, ""⟩, st)
      else
        let answer := req.answer .configurationData "raw_backends_last_synced_at"
        let st := { st with
          configurationData := st.configurationData.setRawBackendsLastSyncedAt req.now answer }
        -- the backends stay stored, unless this `set` evicted them, when their second cannot be
        if !answer.success then (⟨httpBadRequest, ""⟩, st) else (⟨httpCreated, ""⟩, st)

/-- `configuration.call()`: servers, general settings and backends are matched on the URI with
its query, certificates on the URI without it. -/
def call (ord : Go.RangeOrder PairsSite String) (decode : String → Option SSLConfigurationTable)
    (req : Request) (st : Store) : Response × Store :=
  if req.requestMethod ≠ "POST" ∧ req.requestMethod ≠ "GET" then
    (⟨httpBadRequest, "Only POST and GET requests are allowed!"⟩, st)
  else if req.requestUri = "/configuration/servers" then handleServers ord decode req st
  else if req.requestUri = "/configuration/general" then handleGeneral req st
  else if req.uri = "/configuration/certs" then (handleCerts req st, st)
  else if req.requestUri = "/configuration/backends" then handleBackends req st
  else (⟨httpNotFound, "Not found!"⟩, st)

/-- A run of requests, one after another: the answers, and the dictionaries left. -/
def run (ord : Go.RangeOrder PairsSite String) (decode : String → Option SSLConfigurationTable) :
    List Request → Store → List Response × Store
  | [], st => ([], st)
  | req :: reqs, st =>
    let (resp, st) := call ord decode req st
    let (resps, st) := run ord decode reqs st
    (resp :: resps, st)

/-! ### The writes of `configuration_data` -/

section Writes

variable {d : ConfigurationDict} {keys : List String} {b : String} {now : Int}
  {answer : Lua.SetAnswer}

@[simp] lemma ConfigurationDict.setBackends_stored :
    d.setBackends b .stored = { d with backends := some b } := rfl

@[simp] lemma ConfigurationDict.setRawBackendsLastSyncedAt_stored :
    d.setRawBackendsLastSyncedAt now .stored = { d with rawBackendsLastSyncedAt := some now } :=
  rfl

/-- After the `set` of the backends they are stored exactly when it succeeded; the second
stays unless evicted. -/
lemma ConfigurationDict.setBackends_fields :
    (d.setBackends b answer).backends = (if answer.success then some b else none) ∧
      (d.setBackends b answer).rawBackendsLastSyncedAt =
        (if "raw_backends_last_synced_at" ∈ answer.removes "backends" then none
        else d.rawBackendsLastSyncedAt) := by
  cases answer <;> simp [setBackends, remove, Lua.SetAnswer.success, Lua.SetAnswer.removes]

/-- After the `set` of the second it is stored exactly when it succeeded; the backends stay
unless evicted. -/
lemma ConfigurationDict.setRawBackendsLastSyncedAt_fields :
    (d.setRawBackendsLastSyncedAt now answer).rawBackendsLastSyncedAt =
        (if answer.success then some now else none) ∧
      (d.setRawBackendsLastSyncedAt now answer).backends =
        (if "backends" ∈ answer.removes "raw_backends_last_synced_at" then none
        else d.backends) := by
  cases answer <;> simp [setRawBackendsLastSyncedAt, remove, Lua.SetAnswer.success,
    Lua.SetAnswer.removes]

end Writes

/-! ### What each handler writes -/

section Handlers

variable {ord : Go.RangeOrder PairsSite String} {decode : String → Option SSLConfigurationTable}
  {req : Request} {st : Store}

/-- `handle_servers` writes the certificate dictionaries only. -/
lemma handleServers_configurationData :
    (handleServers ord decode req st).2.configurationData = st.configurationData := by
  unfold handleServers
  split_ifs
  · rfl
  · split
    · rfl
    · split
      · rfl
      · split
        split
        · rfl
        · dsimp only
          split_ifs <;> rfl

/-- What `handle_general` can do: nothing, answering other than `201`; for a POST, store its
body (`nil` included), answering `201`; or, for a POST whose `safe_set` finds no room, lose
the settings, answering `500`. -/
lemma handleGeneral_cases :
    ((handleGeneral req st).1.status ≠ httpCreated ∧ (handleGeneral req st).2 = st) ∨
      (req.requestMethod = "POST" ∧ (handleGeneral req st).1.status = httpCreated ∧
        (handleGeneral req st).2 =
          { st with configurationData := { st.configurationData with general := req.body } }) ∨
      (req.requestMethod = "POST" ∧ req.answer .configurationData "general" ≠ .stored ∧
        (handleGeneral req st).1.status = httpInternalServerError ∧
        (handleGeneral req st).2 =
          { st with configurationData := { st.configurationData with general := none } }) := by
  unfold handleGeneral
  by_cases hget : req.requestMethod = "GET"
  · rw [if_pos hget]
    exact .inl ⟨(by decide : httpOk ≠ httpCreated), rfl⟩
  rw [if_neg hget]
  by_cases hpost : req.requestMethod = "POST"
  · rw [if_neg (not_not.mpr hpost)]
    cases hbody : req.body with
    | none => exact .inr (.inl ⟨hpost, rfl, rfl⟩)
    | some config =>
      dsimp only
      by_cases hroom : req.answer .configurationData "general" = .stored
      · rw [if_pos hroom]
        exact .inr (.inl ⟨hpost, rfl, rfl⟩)
      · rw [if_neg hroom]
        exact .inr (.inr ⟨hpost, hroom, rfl, rfl⟩)
  · rw [if_pos hpost]
    exact .inl ⟨(by decide : httpBadRequest ≠ httpCreated), rfl⟩

lemma handleGeneral_snd_of_ne_post (h : req.requestMethod ≠ "POST") :
    (handleGeneral req st).2 = st := by
  rcases @handleGeneral_cases req st with ⟨-, hst⟩ | ⟨hpost, -⟩ | ⟨hpost, -⟩
  · exact hst
  · exact absurd hpost h
  · exact absurd hpost h

/-- Where its `safe_set` finds room, a POST of general settings stores its body exactly when
answered `201`. -/
lemma handleGeneral_general (hroom : req.FindsRoom) :
    (handleGeneral req st).2.configurationData.general =
      if (handleGeneral req st).1.status = httpCreated then req.body
      else st.configurationData.general := by
  rcases @handleGeneral_cases req st with ⟨hs, hst⟩ | ⟨-, hs, hst⟩ | ⟨-, hfull, -⟩
  · rw [if_neg hs, hst]
  · rw [if_pos hs, hst]
  · exact absurd (hroom _ _) hfull

/-- `handle_general` writes the general settings only. -/
lemma handleGeneral_backends :
    (handleGeneral req st).2.configurationData.backends = st.configurationData.backends ∧
      (handleGeneral req st).2.configurationData.rawBackendsLastSyncedAt =
        st.configurationData.rawBackendsLastSyncedAt := by
  rcases @handleGeneral_cases req st with ⟨-, hst⟩ | ⟨-, -, hst⟩ | ⟨-, -, -, hst⟩ <;>
    exact ⟨by rw [hst], by rw [hst]⟩

lemma handleBackends_snd_of_get (h : req.requestMethod = "GET") :
    (handleBackends req st).2 = st := by
  rw [handleBackends, if_pos h]

/-- What `handle_backends` can do: nothing, for a GET or a body it cannot read, answering
other than `201`; meet a failed `set` of the backends, answering `400`; or store the backends
and go on to their second, answering `201` exactly when its `set` succeeds. -/
lemma handleBackends_cases :
    ((req.requestMethod = "GET" ∨ req.body = none) ∧
        (handleBackends req st).1.status ≠ httpCreated ∧ (handleBackends req st).2 = st) ∨
      (∃ b, req.requestMethod ≠ "GET" ∧ req.body = some b ∧
        (req.answer .configurationData "backends").success = false ∧
        (handleBackends req st).1.status = httpBadRequest ∧
        (handleBackends req st).2 = { st with
          configurationData :=
            st.configurationData.setBackends b (req.answer .configurationData "backends") }) ∨
      (∃ b, req.requestMethod ≠ "GET" ∧ req.body = some b ∧
        (req.answer .configurationData "backends").success = true ∧
        (handleBackends req st).1.status =
          (if (req.answer .configurationData "raw_backends_last_synced_at").success then
            httpCreated else httpBadRequest) ∧
        (handleBackends req st).2 = { st with
          configurationData :=
            (st.configurationData.setBackends b
              (req.answer .configurationData "backends")).setRawBackendsLastSyncedAt req.now
              (req.answer .configurationData "raw_backends_last_synced_at") }) := by
  unfold handleBackends
  by_cases hget : req.requestMethod = "GET"
  · rw [if_pos hget]
    exact .inl ⟨.inl hget, (by decide : httpOk ≠ httpCreated), rfl⟩
  rw [if_neg hget]
  cases hbody : req.body with
  | none => exact .inl ⟨.inr rfl, (by decide : httpBadRequest ≠ httpCreated), rfl⟩
  | some b =>
    dsimp only
    cases hbackends : (req.answer .configurationData "backends").success with
    | false => exact .inr (.inl ⟨b, hget, rfl, rfl, rfl, rfl⟩)
    | true =>
      -- the second is written after the backends
      refine .inr (.inr ⟨b, hget, rfl, rfl, ?_, ?_⟩) <;>
        cases (req.answer .configurationData "raw_backends_last_synced_at").success <;> rfl

/-- `handle_backends` writes `configuration_data` only. -/
lemma handleBackends_certificates : (handleBackends req st).2.certificates = st.certificates := by
  rcases @handleBackends_cases req st with ⟨-, -, h⟩ | ⟨b, -, -, -, -, h⟩ |
    ⟨b, -, -, -, -, h⟩ <;> rw [h]

/-- Whatever the dictionary evicts, `handle_backends` answered `201` stored the second of the
request, with the body as the backends unless the `set` of the second evicted them; answered
otherwise, it left the second or lost it, and where it left it, left the backends or lost
them. -/
lemma handleBackends_stamp :
    ((handleBackends req st).1.status = httpCreated ∧
        (handleBackends req st).2.configurationData.rawBackendsLastSyncedAt = some req.now ∧
        ((handleBackends req st).2.configurationData.backends = req.body ∨
          (handleBackends req st).2.configurationData.backends = none)) ∨
      ((handleBackends req st).1.status ≠ httpCreated ∧
        ((handleBackends req st).2.configurationData.rawBackendsLastSyncedAt = none ∨
          ((handleBackends req st).2.configurationData.rawBackendsLastSyncedAt =
              st.configurationData.rawBackendsLastSyncedAt ∧
            ((handleBackends req st).2.configurationData.backends =
                st.configurationData.backends ∨
              (handleBackends req st).2.configurationData.backends = none)))) := by
  have hbad : httpBadRequest ≠ httpCreated := by decide
  rcases @handleBackends_cases req st with ⟨-, hs, hst⟩ | ⟨b, -, -, hfail, hs, hst⟩ |
    ⟨b, -, hbody, hsucc, hs, hst⟩
  · exact .inr ⟨hs, .inr ⟨by rw [hst], .inl (by rw [hst])⟩⟩
  · -- the failed `set` lost the backends, and the second too if it evicted it
    obtain ⟨hbackends, hstamp⟩ := @ConfigurationDict.setBackends_fields st.configurationData b _
    rw [hst]
    refine .inr ⟨hs ▸ hbad, ?_⟩
    split_ifs at hstamp
    · exact .inl hstamp
    · exact .inr ⟨hstamp, .inr (by rw [hbackends, hfail, if_neg Bool.false_ne_true])⟩
  · obtain ⟨hstamp, hbackends⟩ := @ConfigurationDict.setRawBackendsLastSyncedAt_fields
      (st.configurationData.setBackends b (req.answer .configurationData "backends")) req.now
      (req.answer .configurationData "raw_backends_last_synced_at")
    rw [hst]
    cases hsecond : (req.answer .configurationData "raw_backends_last_synced_at").success with
    | false =>
      rw [hsecond, if_neg Bool.false_ne_true] at hs hstamp
      exact .inr ⟨hs ▸ hbad, .inl hstamp⟩
    | true =>
      rw [hsecond, if_pos rfl] at hs hstamp
      refine .inl ⟨hs, hstamp, ?_⟩
      rw [hbackends, (@ConfigurationDict.setBackends_fields st.configurationData b _).1, hsucc,
        if_pos rfl, hbody]
      split_ifs
      · exact .inr rfl
      · exact .inl rfl

/-- Where every `set` finds room, `handle_backends` does nothing, answering other than `201`,
or stores the body and the second of the request, answering `201`. -/
lemma handleBackends_of_findsRoom (hroom : req.FindsRoom) :
    ((handleBackends req st).1.status ≠ httpCreated ∧ (handleBackends req st).2 = st) ∨
      (req.body.isSome ∧ (handleBackends req st).1.status = httpCreated ∧
        (handleBackends req st).2 =
          { st with configurationData := { st.configurationData with
              backends := req.body, rawBackendsLastSyncedAt := some req.now } }) := by
  rcases @handleBackends_cases req st with ⟨-, hs, hst⟩ | ⟨b, -, -, hfail, -⟩ |
    ⟨b, -, hbody, -, hs, hst⟩
  · exact .inl ⟨hs, hst⟩
  · exact absurd hfail (by rw [hroom]; decide)
  · rw [hroom .configurationData "backends", hroom .configurationData "raw_backends_last_synced_at",
      ConfigurationDict.setBackends_stored, ConfigurationDict.setRawBackendsLastSyncedAt_stored]
      at hst
    rw [hroom .configurationData "raw_backends_last_synced_at", Lua.SetAnswer.success_stored,
      if_pos rfl] at hs
    rw [hbody]
    exact .inr ⟨rfl, hs, hst⟩

end Handlers

/-! ### Dispatch -/

/-- A POST to `/configuration/general`. -/
def IsGeneralPost (req : Request) : Prop :=
  req.requestMethod = "POST" ∧ req.requestUri = "/configuration/general"

instance : DecidablePred IsGeneralPost := fun _ => inferInstanceAs (Decidable (_ ∧ _))

/-- A POST to `/configuration/backends`. nginx sets `uri` to the path of `request_uri`, so the
last condition always holds there. -/
def IsBackendsPost (req : Request) : Prop :=
  req.requestMethod = "POST" ∧ req.requestUri = "/configuration/backends" ∧
    req.uri ≠ "/configuration/certs"

instance : DecidablePred IsBackendsPost := fun _ => inferInstanceAs (Decidable (_ ∧ _ ∧ _))

section Dispatch

variable {ord : Go.RangeOrder PairsSite String} {decode : String → Option SSLConfigurationTable}
  {req : Request} {st : Store}

lemma call_of_servers (hpost : req.requestMethod = "POST")
    (huri : req.requestUri = "/configuration/servers") :
    call ord decode req st = handleServers ord decode req st := by
  rw [call, if_neg (by rw [hpost]; decide), if_pos huri]

lemma call_of_general (hmethod : req.requestMethod = "POST" ∨ req.requestMethod = "GET")
    (huri : req.requestUri = "/configuration/general") :
    call ord decode req st = handleGeneral req st := by
  have hservers : req.requestUri ≠ "/configuration/servers" := by rw [huri]; decide
  rw [call, if_neg (by tauto), if_neg hservers, if_pos huri]

lemma call_of_isBackendsPost (h : IsBackendsPost req) :
    call ord decode req st = handleBackends req st := by
  obtain ⟨hpost, huri, hcerts⟩ := h
  have hservers : req.requestUri ≠ "/configuration/servers" := by rw [huri]; decide
  have hgeneral : req.requestUri ≠ "/configuration/general" := by rw [huri]; decide
  rw [call, if_neg (by tauto), if_neg hservers, if_neg hgeneral, if_neg hcerts, if_pos huri]

/-- Where every `set` finds room, a request that is no POST of general settings leaves them:
only the `set`s of `handle_backends` could evict them. -/
lemma call_general_of_not (hroom : req.FindsRoom) (h : ¬IsGeneralPost req) :
    (call ord decode req st).2.configurationData.general = st.configurationData.general := by
  unfold call
  split_ifs with hmethod hservers hgeneral
  · rfl
  · rw [handleServers_configurationData]
  · rw [handleGeneral_snd_of_ne_post fun hpost => h ⟨hpost, hgeneral⟩]
  · rfl
  · rcases handleBackends_of_findsRoom hroom with ⟨-, hst⟩ | ⟨-, -, hst⟩ <;> rw [hst]
  · rfl

/-- A request that is no POST of backends leaves them and their second. -/
lemma call_backends_of_not (h : ¬IsBackendsPost req) :
    (call ord decode req st).2.configurationData.backends = st.configurationData.backends ∧
      (call ord decode req st).2.configurationData.rawBackendsLastSyncedAt =
        st.configurationData.rawBackendsLastSyncedAt := by
  unfold call
  split_ifs with hmethod hservers hgeneral hcerts hbackends
  · exact ⟨rfl, rfl⟩
  · rw [handleServers_configurationData]
    exact ⟨rfl, rfl⟩
  · exact handleGeneral_backends
  · exact ⟨rfl, rfl⟩
  · -- a GET of the backends
    have hget : req.requestMethod = "GET" := by
      by_contra hget
      exact h ⟨by tauto, hbackends, hcerts⟩
    rw [handleBackends_snd_of_get hget]
    exact ⟨rfl, rfl⟩
  · exact ⟨rfl, rfl⟩

/-- Where every `set` finds room, the general settings after a request are the body of a POST
of them answered `201`, and those before otherwise. -/
lemma call_general (hroom : req.FindsRoom) :
    (call ord decode req st).2.configurationData.general =
      if IsGeneralPost req ∧ (call ord decode req st).1.status = httpCreated then req.body
      else st.configurationData.general := by
  by_cases h : IsGeneralPost req
  · rw [call_of_general (.inl h.1) h.2, handleGeneral_general hroom]
    simp only [h, true_and]
  · rw [call_general_of_not hroom h, if_neg fun h' => h h'.1]

/-- Whatever the dictionaries evict, a request stores a second for the backends only as a POST
of them answered `201`, with its body as the backends unless they were evicted; any other
request leaves the second or loses it, and where it leaves it, leaves the backends or loses
them. -/
lemma call_stamp :
    (IsBackendsPost req ∧ (call ord decode req st).1.status = httpCreated ∧
        (call ord decode req st).2.configurationData.rawBackendsLastSyncedAt = some req.now ∧
        ((call ord decode req st).2.configurationData.backends = req.body ∨
          (call ord decode req st).2.configurationData.backends = none)) ∨
      (¬(IsBackendsPost req ∧ (call ord decode req st).1.status = httpCreated) ∧
        ((call ord decode req st).2.configurationData.rawBackendsLastSyncedAt = none ∨
          ((call ord decode req st).2.configurationData.rawBackendsLastSyncedAt =
              st.configurationData.rawBackendsLastSyncedAt ∧
            ((call ord decode req st).2.configurationData.backends =
                st.configurationData.backends ∨
              (call ord decode req st).2.configurationData.backends = none)))) := by
  by_cases h : IsBackendsPost req
  · rw [call_of_isBackendsPost h]
    rcases @handleBackends_stamp req st with ⟨hs, hstamp, hb⟩ | ⟨hs, hrest⟩
    · exact .inl ⟨h, hs, hstamp, hb⟩
    · exact .inr ⟨fun h' => hs h'.2, hrest⟩
  · obtain ⟨hb, hstamp⟩ := @call_backends_of_not ord decode req st h
    exact .inr ⟨fun h' => h h'.1, .inr ⟨hstamp, .inl hb⟩⟩

/-- Where every `set` finds room, a request leaves the backends and their second, or is a POST
of backends that stores its body. -/
lemma call_writes_backends (hroom : req.FindsRoom) :
    ((call ord decode req st).2.configurationData.backends = st.configurationData.backends ∧
        (call ord decode req st).2.configurationData.rawBackendsLastSyncedAt =
          st.configurationData.rawBackendsLastSyncedAt) ∨
      (IsBackendsPost req ∧ ∃ b, req.body = some b ∧
        (call ord decode req st).2.configurationData.backends = some b) := by
  by_cases h : IsBackendsPost req
  · rw [call_of_isBackendsPost h]
    rcases handleBackends_of_findsRoom hroom with ⟨-, hst⟩ | ⟨hb, -, hst⟩
    · exact .inl ⟨by rw [hst], by rw [hst]⟩
    · obtain ⟨b, hb⟩ := Option.isSome_iff_exists.mp hb
      exact .inr ⟨h, b, hb, by rw [hst, hb]⟩
  · exact .inl (call_backends_of_not h)

end Dispatch

/-! ### `handle_servers` where every `set` finds room -/

section Servers

variable {answer : String → Lua.SetAnswer}

/-- Where every name finds room, the loop over `configuration.servers` is the loop of the
model of `handle_servers`, and buffers no error. -/
lemma foldl_serversStep_of_room (hroom : ∀ k, answer k = .stored) :
    ∀ (l : List (String × String)) (dict : Lua.SharedDict) (errBuf : List String),
      l.foldl (serversStep answer) (dict, errBuf) =
        (l.foldl (Lua.syncStep (· == luaEmptyUID)) dict, errBuf)
  | [], _, _ => rfl
  | e :: l, dict, errBuf => by
    have hstep : serversStep answer (dict, errBuf) e =
        (Lua.syncStep (· == luaEmptyUID) dict e, errBuf) := by
      by_cases he : e.2 = luaEmptyUID
      · simp [serversStep, Lua.syncStep, he]
      · simp [serversStep, Lua.syncStep, he, hroom]
    rw [List.foldl_cons, List.foldl_cons, hstep]
    exact foldl_serversStep_of_room hroom l _ _

/-- Where every UID finds room, the loop over `configuration.certificates` stores the table as
the model of `handle_servers` does, and buffers no error. -/
lemma foldl_certificatesStep_of_room (hroom : ∀ k, answer k = .stored) :
    ∀ (l : List (String × String)) (loop : CertificatesLoop),
      (l.foldl (certificatesStep answer) loop).certificateData =
          l.foldl (Lua.syncStep fun _ => false) loop.certificateData ∧
        (l.foldl (certificatesStep answer) loop).errBuf = loop.errBuf
  | [], _ => ⟨rfl, rfl⟩
  | e :: l, loop => by
    obtain ⟨hdata, herr⟩ :=
      foldl_certificatesStep_of_room hroom l (certificatesStep answer loop e)
    rw [List.foldl_cons, List.foldl_cons, hdata, herr]
    simp [certificatesStep, Lua.syncStep, hroom]

/-- Where every UID finds room, the loop keeps the OCSP response of a UID unless it renews the
UID's certificate; each UID is visited once. -/
lemma lookup_ocsp_foldl_certificatesStep (hroom : ∀ k, answer k = .stored) (k : String) :
    ∀ (l : List (String × String)), (l.map Prod.fst).Nodup → ∀ loop : CertificatesLoop,
      (l.foldl (certificatesStep answer) loop).ocspResponseCache.lookup k =
        match l.find? (·.1 = k) with
        | some e =>
          if isRenew (loop.certificateData.lookup k) e.2 then none
          else loop.ocspResponseCache.lookup k
        | none => loop.ocspResponseCache.lookup k
  | [], _, _ => rfl
  | (k', cert) :: l, hnd, loop => by
    rw [List.map_cons, List.nodup_cons] at hnd
    rw [List.foldl_cons, lookup_ocsp_foldl_certificatesStep hroom k l hnd.2]
    simp only [certificatesStep, hroom, Lua.dictSet_stored, if_true]
    by_cases hk : k' = k
    · -- the UID is renewed by this pass, and no later pass visits it
      subst hk
      rw [Lua.find?_fst_eq_none hnd.1]
      simp only [List.find?_cons, decide_true]
      split_ifs <;> simp
    · have hfind : ((k', cert) :: l).find? (·.1 = k) = l.find? (·.1 = k) := by simp [hk]
      have hocsp : (if isRenew (loop.certificateData.lookup k') cert then
          loop.ocspResponseCache.erase k' else loop.ocspResponseCache).lookup k =
          loop.ocspResponseCache.lookup k := by
        split_ifs
        · exact AList.lookup_erase_ne (Ne.symm hk)
        · rfl
      rw [hfind, hocsp, AList.lookup_insert_ne (Ne.symm hk)]

end Servers

/-! ### A POST of certificates where every `set` finds room -/

section ServersPost

variable {ord : Go.RangeOrder PairsSite String} {decode : String → Option SSLConfigurationTable}
  {req : Request} {st : Store} {conf : SSLConfiguration}

/-- A POST of certificates where every `set` finds room is answered `201`. It leaves the
certificate dictionaries as the model of `handle_servers` does and `configuration_data` as it
was, and deletes the OCSP response of a UID exactly when it renews the UID's certificate. -/
lemma handleServers_of_findsRoom (hpost : req.requestMethod = "POST")
    (hbody : req.body.bind decode = some ⟨some conf.servers, some conf.certificates⟩)
    (hroom : req.FindsRoom) :
    (handleServers ord decode req st).1 = ⟨httpCreated, ""⟩ ∧
      (handleServers ord decode req st).2.certificates =
        IngressNginx.handleServers ord conf st.certificates ∧
      (handleServers ord decode req st).2.configurationData = st.configurationData ∧
      ∀ uid, (handleServers ord decode req st).2.ocspResponseCache.lookup uid =
        match conf.certificates.lookup uid with
        | some cert =>
          if isRenew (st.certificates.certificateData.lookup uid) cert then none
          else st.ocspResponseCache.lookup uid
        | none => st.ocspResponseCache.lookup uid := by
  obtain ⟨hdata, herr⟩ := foldl_certificatesStep_of_room (hroom .certificateData)
    (conf.certificates.range ord .certificates)
    ⟨st.certificates.certificateData, st.ocspResponseCache, []⟩
  rw [handleServers, if_neg (not_not.mpr hpost), hbody]
  dsimp only
  rw [foldl_serversStep_of_room (hroom .certificateServers)]
  dsimp only
  rw [herr, List.length_nil, if_neg (lt_irrefl 0)]
  refine ⟨rfl, by rw [hdata]; rfl, rfl, fun uid => ?_⟩
  rw [lookup_ocsp_foldl_certificatesStep (hroom .certificateData) uid _ Go.Map.range_keys_nodup,
    Lua.find?_range]
  cases conf.certificates.lookup uid <;> rfl

/-- Where every `set` finds room, a POST of certificates writes the UID of no name outside the
table posted. -/
lemma handleServers_lookup_of_not_mem (hpost : req.requestMethod = "POST")
    (hbody : req.body.bind decode = some ⟨some conf.servers, some conf.certificates⟩)
    (hroom : req.FindsRoom) {k : String} (hk : k ∉ conf.servers) :
    (handleServers ord decode req st).2.certificates.certificateServers.lookup k =
      st.certificates.certificateServers.lookup k := by
  rw [(handleServers_of_findsRoom hpost hbody hroom).2.1, IngressNginx.handleServers,
    Lua.lookup_syncTable, AList.lookup_eq_none.mpr hk]

/-- Where every `set` finds room, a POST of certificates deletes no certificate. -/
lemma handleServers_certificateData_isSome (hpost : req.requestMethod = "POST")
    (hbody : req.body.bind decode = some ⟨some conf.servers, some conf.certificates⟩)
    (hroom : req.FindsRoom) {uid : String}
    (h : (st.certificates.certificateData.lookup uid).isSome) :
    ((handleServers ord decode req st).2.certificates.certificateData.lookup uid).isSome := by
  rw [(handleServers_of_findsRoom hpost hbody hroom).2.1, IngressNginx.handleServers,
    Lua.lookup_syncTable]
  cases conf.certificates.lookup uid with
  | some cert => rfl
  | none => exact h

end ServersPost

/-! ### Runs -/

/-- The general settings a client expects after the requests and answers it has seen: the
body of the last POST of them answered `201` (`nil` for a body that could not be read), else
the settings before. -/
def expectedGeneral (general : Option String) (history : List (Request × Response)) :
    Option String :=
  history.foldl (fun general p =>
    if IsGeneralPost p.1 ∧ p.2.status = httpCreated then p.1.body else general) general

lemma expectedGeneral_cons (general : Option String) (p : Request × Response)
    (history : List (Request × Response)) :
    expectedGeneral general (p :: history) =
      expectedGeneral (if IsGeneralPost p.1 ∧ p.2.status = httpCreated then p.1.body else general)
        history := rfl

/-- A second stored for the backends is the one a client expects, and comes with the backends
it expects unless they were evicted. -/
def StampInv (d : ConfigurationDict) (stamp : Option Int) (backends : Option String) : Prop :=
  ∀ t, d.rawBackendsLastSyncedAt = some t →
    some t = stamp ∧ (d.backends = backends ∨ d.backends = none)

section Run

variable {ord : Go.RangeOrder PairsSite String} {decode : String → Option SSLConfigurationTable}

lemma run_cons (req : Request) (reqs : List Request) (st : Store) :
    run ord decode (req :: reqs) st =
      ((call ord decode req st).1 :: (run ord decode reqs (call ord decode req st).2).1,
        (run ord decode reqs (call ord decode req st).2).2) := rfl

lemma zip_run_cons (req : Request) (reqs : List Request) (st : Store) :
    (req :: reqs).zip (run ord decode (req :: reqs) st).1 =
      (req, (call ord decode req st).1) ::
        reqs.zip (run ord decode reqs (call ord decode req st).2).1 := by
  rw [run_cons, List.zip_cons_cons]

/-- Where every `set` finds room, the general settings after a run are those its requests and
answers lead a client to expect. -/
lemma run_general : ∀ (reqs : List Request) (st : Store), (∀ req ∈ reqs, req.FindsRoom) →
    (run ord decode reqs st).2.configurationData.general =
      expectedGeneral st.configurationData.general (reqs.zip (run ord decode reqs st).1)
  | [], _, _ => rfl
  | req :: reqs, st, hroom => by
    obtain ⟨hfirst, hrest⟩ := List.forall_mem_cons.mp hroom
    rw [zip_run_cons, run_cons, run_general reqs _ hrest, expectedGeneral_cons, call_general hfirst]

/-- Whatever the dictionaries evict, one request keeps the second stored, and the backends it
comes with, those expected. -/
lemma StampInv.step {req : Request} {st : Store} {stamp : Option Int} {backends : Option String}
    (h : StampInv st.configurationData stamp backends) :
    StampInv (call ord decode req st).2.configurationData
      (if IsBackendsPost req ∧ (call ord decode req st).1.status = httpCreated then some req.now
        else stamp)
      (if IsBackendsPost req ∧ (call ord decode req st).1.status = httpCreated then req.body
        else backends) := by
  intro t ht
  rcases @call_stamp ord decode req st with ⟨hpost, hs, hstamp, hb⟩ |
    ⟨hnot, hnone | ⟨hsame, hb⟩⟩
  · rw [if_pos ⟨hpost, hs⟩, if_pos ⟨hpost, hs⟩]
    exact ⟨ht.symm.trans hstamp, hb⟩
  · rw [hnone] at ht
    cases ht
  · -- the second is the one stored before, so it came with the backends expected then
    rw [if_neg hnot, if_neg hnot]
    obtain ⟨hexpected, hbackends⟩ := h t (hsame ▸ ht)
    refine ⟨hexpected, ?_⟩
    rcases hb with hb | hb
    · rw [hb]
      exact hbackends
    · exact .inr hb

end Run

/-- The dictionaries before any request. -/
def emptyStore : Store := ⟨⟨none, none, none⟩, ⟨∅, ∅⟩, ∅⟩

/-- A request of the controller, in second `1700000000`, every `set` of which finds room. -/
def controllerRequest (requestMethod uri : String) (body : Option String) : Request :=
  ⟨requestMethod, uri, uri, none, body, 1700000000, fun _ _ => .stored⟩

lemma controllerRequest_findsRoom (requestMethod uri : String) (body : Option String) :
    (controllerRequest requestMethod uri body).FindsRoom := fun _ _ => rfl

/-- For every order of `pairs`, decoder, store and run of requests before it in which every
`set` finds room: a GET of `/configuration/general` is answered `200` with the settings a
client expects from the requests and answers of the run, those of the last POST of them
answered `201`. The general settings behave as a register whose writes are the POSTs answered
`201`. -/
theorem general_linearizable (ord : Go.RangeOrder PairsSite String)
    (decode : String → Option SSLConfigurationTable) (reqs : List Request) (st : Store)
    (hroom : ∀ req ∈ reqs, req.FindsRoom) (req : Request) (hget : req.requestMethod = "GET")
    (huri : req.requestUri = "/configuration/general") :
    (call ord decode req (run ord decode reqs st).2).1 =
      ⟨httpOk, printValue (expectedGeneral st.configurationData.general
        (reqs.zip (run ord decode reqs st).1))⟩ := by
  rw [call_of_general (.inr hget) huri, handleGeneral, if_pos hget, run_general reqs st hroom]

/-- General settings posted, then the backends read. -/
def shopGeneralRequests : List Request :=
  [controllerRequest "POST" "/configuration/general" (some "\x7b\x7d"),
    controllerRequest "GET" "/configuration/backends" none]

theorem general_linearizable_shop :
    (∀ req ∈ shopGeneralRequests, req.FindsRoom) ∧
      (controllerRequest "GET" "/configuration/general" none).requestMethod = "GET" ∧
      (controllerRequest "GET" "/configuration/general" none).requestUri =
        "/configuration/general" ∧
      (call .keyOrder (fun _ => none) (controllerRequest "GET" "/configuration/general" none)
          (run .keyOrder (fun _ => none) shopGeneralRequests emptyStore).2).1 =
        ⟨httpOk, printValue (expectedGeneral emptyStore.configurationData.general
          (shopGeneralRequests.zip
            (run .keyOrder (fun _ => none) shopGeneralRequests emptyStore).1))⟩ := by
  have hroom : ∀ req ∈ shopGeneralRequests, req.FindsRoom := by
    intro req hreq
    simp only [shopGeneralRequests, List.mem_cons, List.not_mem_nil, or_false] at hreq
    rcases hreq with rfl | rfl <;> exact controllerRequest_findsRoom _ _ _
  exact ⟨hroom, rfl, rfl,
    general_linearizable .keyOrder (fun _ => none) shopGeneralRequests emptyStore hroom _ rfl rfl⟩

/-- The `configuration_data` that `sync_backends` reads: the backends as `cjson.decode` reads
them, and their second. -/
def ConfigurationDict.read (decodeBackends : String → Option (List Backend))
    (d : ConfigurationDict) : ConfigurationData :=
  ⟨d.backends.bind decodeBackends, d.rawBackendsLastSyncedAt⟩

/-- `sync_backends` on `configuration_data` as stored: backends that `cjson.decode` cannot
read are logged, and the worker is left as it is. -/
def syncBackendsOfDict (decodeBackends : String → Option (List Backend))
    (dnsLookup : String → List String) (ord : Go.RangeOrder BalancerSite String)
    (d : ConfigurationDict) (w : Worker) (now : Int) : Worker :=
  match d.backends.map decodeBackends with
  | some none => w
  | _ => syncBackends dnsLookup ord (d.read decodeBackends) w now

/-- What happens to the endpoint's dictionaries and one worker: a request, or a tick of one of
the worker's timers. -/
inductive SystemEvent where
  | request (req : Request)
  | syncTick (now : Int)
  | externalTick

/-- The endpoint's dictionaries and one worker's module state. -/
structure System where
  store : Store
  worker : Worker

section System

variable (ord : Go.RangeOrder PairsSite String) (decode : String → Option SSLConfigurationTable)
  (decodeBackends : String → Option (List Backend)) (dnsLookup : String → List String)
  (balancerOrd : Go.RangeOrder BalancerSite String)

/-- One event. -/
def System.step (sys : System) : SystemEvent → System
  | .request req => { sys with store := (call ord decode req sys.store).2 }
  | .syncTick now =>
    { sys with
      worker := syncBackendsOfDict decodeBackends dnsLookup balancerOrd
        sys.store.configurationData sys.worker now }
  | .externalTick =>
    { sys with worker := syncBackendsWithExternalName dnsLookup balancerOrd sys.worker }

/-- A run of events, in order. -/
def System.run (sys : System) (events : List SystemEvent) : System :=
  events.foldl (System.step ord decode decodeBackends dnsLookup balancerOrd) sys

/-- The post of the sync system for a write of `configuration_data`: the backends decoded and
the second stored, when the backends or their second changed. -/
def postOf (before after : ConfigurationDict) : List SyncEvent :=
  if after.backends = before.backends ∧
      after.rawBackendsLastSyncedAt = before.rawBackendsLastSyncedAt then []
  else
    match after.backends.bind decodeBackends with
    | some backends => [.post backends (after.rawBackendsLastSyncedAt.getD 1)]
    | none => []

/-- The events of the sync system an event makes: the posts of the writes of a request, and
the ticks themselves. -/
def System.traceStep (sys : System) : SystemEvent → List SyncEvent
  | .request req => postOf decodeBackends sys.store.configurationData
      (call ord decode req sys.store).2.configurationData
  | .syncTick now => [.syncTick now]
  | .externalTick => [.externalTick]

end System

/-- The configuration of the sync system is `configuration_data` as `sync_backends` reads it,
and the backends stored decode. -/
structure Matches (decodeBackends : String → Option (List Backend)) (d : ConfigurationDict)
    (data : ConfigurationData) : Prop where
  decodes : ∀ b, d.backends = some b → (decodeBackends b).isSome
  backends : data.backends = d.backends.bind decodeBackends
  stamp : data.getRawBackendsLastSyncedAt = d.rawBackendsLastSyncedAt.getD 1

section Refinement

variable {ord : Go.RangeOrder PairsSite String} {decode : String → Option SSLConfigurationTable}
  {decodeBackends : String → Option (List Backend)} {dnsLookup : String → List String}
  {balancerOrd : Go.RangeOrder BalancerSite String}

/-- `sync_backends` reads the backends and their second only. -/
lemma syncBackends_congr {data data' : ConfigurationData} (hb : data.backends = data'.backends)
    (hs : data.getRawBackendsLastSyncedAt = data'.getRawBackendsLastSyncedAt) (w : Worker)
    (now : Int) : syncBackends dnsLookup balancerOrd data w now =
      syncBackends dnsLookup balancerOrd data' w now := by
  unfold syncBackends
  rw [hb, hs]

/-- On matched configurations, the worker's tick is the sync system's. -/
lemma Matches.syncBackendsOfDict {d : ConfigurationDict} {data : ConfigurationData}
    (h : Matches decodeBackends d data) (w : Worker) (now : Int) :
    LuaConfiguration.syncBackendsOfDict decodeBackends dnsLookup balancerOrd d w now =
      syncBackends dnsLookup balancerOrd data w now := by
  have hread : LuaConfiguration.syncBackendsOfDict decodeBackends dnsLookup balancerOrd d w now =
      syncBackends dnsLookup balancerOrd (d.read decodeBackends) w now := by
    unfold IngressNginx.LuaConfiguration.syncBackendsOfDict
    cases hb : d.backends with
    | none => rfl
    | some b =>
      -- the stored backends decode, so the tick goes on to `syncBackends`
      obtain ⟨backends, hbackends⟩ := Option.isSome_iff_exists.mp (h.decodes b hb)
      simp only [Option.map_some, hbackends]
  have hbackends : (d.read decodeBackends).backends = data.backends := h.backends.symm
  have hstamp : (d.read decodeBackends).getRawBackendsLastSyncedAt =
      data.getRawBackendsLastSyncedAt := h.stamp.symm
  rw [hread]
  exact syncBackends_congr hbackends hstamp w now

/-- The posts of a write keep the configurations matched and leave the worker, when the write
left the backends and their second or stored backends that decode. -/
lemma Matches.run_postOf {before after : ConfigurationDict} {s : SyncSystem}
    (h : Matches decodeBackends before s.data)
    (hwrite : (after.backends = before.backends ∧
        after.rawBackendsLastSyncedAt = before.rawBackendsLastSyncedAt) ∨
      ∃ b, after.backends = some b ∧ (decodeBackends b).isSome) :
    (s.run dnsLookup balancerOrd (postOf decodeBackends before after)).worker = s.worker ∧
      Matches decodeBackends after
        (s.run dnsLookup balancerOrd (postOf decodeBackends before after)).data := by
  unfold postOf
  split_ifs with hsame
  · refine ⟨rfl, ⟨?_, ?_, ?_⟩⟩
    · rw [hsame.1]
      exact h.decodes
    · rw [hsame.1]
      exact h.backends
    · rw [hsame.2]
      exact h.stamp
  · rcases hwrite with hsame' | ⟨b, hb, hdecodes⟩
    · exact absurd hsame' hsame
    obtain ⟨backends, hbackends⟩ := Option.isSome_iff_exists.mp hdecodes
    have hread : after.backends.bind decodeBackends = some backends := by
      rw [hb, Option.bind_some, hbackends]
    rw [hread]
    refine ⟨rfl, ⟨fun b' hb' => ?_, hread.symm, rfl⟩⟩
    rw [hb] at hb'
    cases hb'
    exact hdecodes

/-- One event keeps the configurations matched and the workers equal, when every `set` of a
request in it finds room and a POST of backends in it carries backends that decode. -/
lemma Matches.step {sys : System} {s : SyncSystem}
    (h : Matches decodeBackends sys.store.configurationData s.data) (hw : s.worker = sys.worker)
    {e : SystemEvent} (he : ∀ req, e = .request req → IsBackendsPost req →
      ∀ b, req.body = some b → (decodeBackends b).isSome)
    (hroom : ∀ req, e = .request req → req.FindsRoom) :
    Matches decodeBackends
        (sys.step ord decode decodeBackends dnsLookup balancerOrd e).store.configurationData
        (s.run dnsLookup balancerOrd (sys.traceStep ord decode decodeBackends e)).data ∧
      (s.run dnsLookup balancerOrd (sys.traceStep ord decode decodeBackends e)).worker =
        (sys.step ord decode decodeBackends dnsLookup balancerOrd e).worker := by
  cases e with
  | request req =>
    set after := (call ord decode req sys.store).2.configurationData
    have hwrite : (after.backends = sys.store.configurationData.backends ∧
          after.rawBackendsLastSyncedAt = sys.store.configurationData.rawBackendsLastSyncedAt) ∨
        ∃ b, after.backends = some b ∧ (decodeBackends b).isSome := by
      rcases @call_writes_backends ord decode req sys.store (hroom req rfl) with
        hsame | ⟨hpost, b, hbody, hb⟩
      · exact .inl hsame
      · exact .inr ⟨b, hb, he req rfl hpost b hbody⟩
    obtain ⟨hworker, hmatches⟩ := @Matches.run_postOf decodeBackends dnsLookup
      balancerOrd _ _ _ h hwrite
    exact ⟨hmatches, hworker.trans hw⟩
  | syncTick now =>
    refine ⟨h, ?_⟩
    show syncBackends dnsLookup balancerOrd s.data s.worker now =
      LuaConfiguration.syncBackendsOfDict decodeBackends dnsLookup balancerOrd
        sys.store.configurationData sys.worker now
    rw [h.syncBackendsOfDict, hw]
  | externalTick =>
    refine ⟨h, ?_⟩
    show syncBackendsWithExternalName dnsLookup balancerOrd s.worker =
      syncBackendsWithExternalName dnsLookup balancerOrd sys.worker
    rw [hw]

end Refinement

/-- `cjson.decode` of the body the controller posts for the shop servers. -/
def decodeShopCertificates (_ : String) : Option SSLConfigurationTable :=
  some ⟨some (configureCertificates shopServers).servers,
    some (configureCertificates shopServers).certificates⟩

end LuaConfiguration

end IngressNginx
