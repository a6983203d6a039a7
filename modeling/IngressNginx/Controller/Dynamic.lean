import IngressNginx.Lib.Wait
import IngressNginx.TypesEquals
import IngressNginx.Controller.Certificates
import IngressNginx.Lua.Configuration

/-!
# Dynamic reconfiguration

`syncIngress` compares the configuration it computes with the one it runs (`Equal`). When
they differ in more than the backends, the endpoints of the stream services and the
certificates (`IsDynamicConfigurationEnough`), it renders `nginx.conf` and reloads nginx
(`OnUpdate`). Then `configureDynamically` sends what changed by `reflect.DeepEqual`: the
backends as a POST to `/configuration/backends`, the stream services over the stream socket,
and the certificates of the server names as a POST to `/configuration/servers`. The handlers
of `configuration.lua` answer the POSTs. Only when all of it succeeds does the controller
take the new configuration as the one it runs.

`reflect.DeepEqual`, `json.Marshal`, the hash of the checksum and `wait.ExponentialBackoff`
are parameters (`Runtime`); what the reload, the stream socket and each request meet, the
room in the shared dictionaries included, is the environment's (`SyncEnv`).

The retry around `configureDynamically` never retries: its condition answers either done or an
error, so a backoff that stops at the first error or at done runs one try of it
(`syncIngress_of_changed`). Where every `set` finds room, a sync that succeeds leaves the
backends text of the Lua side that of the running configuration (`syncIngress_run_agrees`). A
sync that fails after `handle_backends` stored the new backends leaves the Lua side with
backends the controller does not run, and a later sync of a configuration `Equal` to the
running one skips it (`syncIngress_failure_diverges`).
-/

namespace IngressNginx

namespace NGINXController

open LuaConfiguration

/-- The errors of a sync. -/
inductive SyncError where
  /-- `OnUpdate` failed. -/
  | reload
  /-- A request, or the stream socket, failed. -/
  | request
  /-- `unexpected error code: %d`. -/
  | unexpectedCode (code : Nat)
  /-- `wait.ErrWaitTimeout`. -/
  | timeout
deriving DecidableEq, Repr

/-- The Go library functions the model leaves open: `reflect.DeepEqual` on the backends, the
stream services and the servers; `json.Marshal` of the backends and of the certificates sent;
the checksum `hashstructure.Hash` gives a configuration; and `wait.ExponentialBackoff` over
the number of the try and the dictionaries. -/
structure Runtime where
  deepEqualBackends : Go.Slice Backend → Go.Slice Backend → Bool
  deepEqualL4 : Go.Slice L4Service → Go.Slice L4Service → Bool
  deepEqualServers : List Server → List Server → Bool
  marshalBackends : List Backend → String
  marshalServers : SSLConfiguration → String
  hash : Configuration → String
  exponentialBackoff : Wait.ExponentialBackoff (Nat × LuaConfiguration.Store) SyncError

/-- What answers the controller's POSTs: `configuration.lua`, with the order of its `pairs`
and its `cjson.decode`. -/
structure LuaSide where
  ord : Go.RangeOrder PairsSite String
  decode : String → Option SSLConfigurationTable

/-- What a POST that reaches nginx meets: the second the handler reads, and what each `set`
into the shared dictionaries meets. -/
structure Post where
  now : Int
  answer : Dict → String → Lua.SetAnswer

/-- Every `set` of the POST finds room. -/
def Post.FindsRoom (p : Post) : Prop := ∀ d k, p.answer d k = .stored

/-- What one try of `configureDynamically` meets: each POST reaches nginx or fails (`none`),
and the stream socket accepts the streams or not. -/
structure Attempt where
  backends : Option Post
  stream : Bool
  servers : Option Post

/-- What a sync meets: whether `OnUpdate` renders, tests and reloads, and each try of
`configureDynamically`. -/
structure SyncEnv where
  reload : Bool
  attempts : Nat → Attempt

/-- Every `set` of every POST of the sync finds room. -/
def SyncEnv.FindsRoom (env : SyncEnv) : Prop :=
  ∀ i, (∀ p, (env.attempts i).backends = some p → p.FindsRoom) ∧
    ∀ p, (env.attempts i).servers = some p → p.FindsRoom

/-- The controller's configuration and the shared dictionaries of the Lua side. -/
structure World where
  runningConfig : Configuration
  store : LuaConfiguration.Store

/-! ### What `IsDynamicConfigurationEnough` compares -/

/-- `clearCertificates`: every server copied without its certificate. -/
def clearCertificates (config : Configuration) : Configuration :=
  { config with servers := config.servers.map fun server => { server with sslCert := none } }

/-- The copy of a stream service `clearL4serviceEndpoints` appends: its port and backend,
an empty list of endpoints, and no service. -/
def clearedL4Service (service : L4Service) : L4Service :=
  { port := service.port, backend := service.backend, endpoints := some [], service := none }

/-- `clearL4serviceEndpoints`: the loops append a copy of each service to a `nil` slice. -/
def clearL4serviceEndpoints (config : Configuration) : Configuration :=
  { config with
    tcpEndpoints := Go.append none (config.tcpEndpoints.elems.map clearedL4Service)
    udpEndpoints := Go.append none (config.udpEndpoints.elems.map clearedL4Service) }

/-- `IsDynamicConfigurationEnough`: the two configurations are `Equal` once their backends,
stream endpoints and certificates are cleared. -/
def isDynamicConfigurationEnough (runningConfig pcfg : Configuration) : Bool :=
  let clear (config : Configuration) : Configuration :=
    clearCertificates (clearL4serviceEndpoints { config with backends := some [] })
  (clear runningConfig).equal (clear pcfg)

/-! ### The POSTs of `configureDynamically` -/

/-- `nginx.NewPostStatusRequest` of a body to a path of the status server, answered by
`configuration.lua`: the status, or an error when the request fails. -/
def newPostStatusRequest (lua : LuaSide) (path body : String) (post : Option Post)
    (st : LuaConfiguration.Store) : Except SyncError Nat × LuaConfiguration.Store :=
  match post with
  | none => (.error .request, st)
  | some p =>
    let answer :=
      call lua.ord lua.decode ⟨"POST", path, path, none, some body, p.now, p.answer⟩ st
    (.ok answer.1.status, answer.2)

/-- The check after a POST: `201`, or `unexpected error code`. -/
def checkCreated : Except SyncError Nat → Except SyncError Unit
  | .error e => .error e
  | .ok code => if code = httpCreated then .ok () else .error (.unexpectedCode code)

/-- The copy of a backend `configureBackends` sends: the fields the Lua balancers read, the
service cut to its spec, and each endpoint cut to its address and port. -/
def luaBackend (backend : Backend) : Backend where
  name := backend.name
  service := backend.service.map fun svc =>
    { (default : Core.Service) with
      type := svc.type, externalName := svc.externalName, clusterIP := svc.clusterIP
      ports := svc.ports }
  port := backend.port
  sslPassthrough := backend.sslPassthrough
  endpoints := Go.append none (backend.endpoints.elems.map fun ep =>
    { address := ep.address, port := ep.port, target := none })
  sessionAffinity := backend.sessionAffinity
  upstreamHashBy := backend.upstreamHashBy
  loadBalancing := backend.loadBalancing
  noServer := backend.noServer
  trafficShapingPolicy := backend.trafficShapingPolicy
  alternativeBackends := backend.alternativeBackends

/-- The body `configureBackends` posts. -/
def luaBackends (rt : Runtime) (rawBackends : Go.Slice Backend) : String :=
  rt.marshalBackends (rawBackends.elems.map luaBackend)

/-- `configureBackends`: the backends posted to `/configuration/backends`. -/
def configureBackends (rt : Runtime) (lua : LuaSide) (rawBackends : Go.Slice Backend)
    (post : Option Post) (st : LuaConfiguration.Store) :
    Except SyncError Unit × LuaConfiguration.Store :=
  let answer := newPostStatusRequest lua "/configuration/backends" (luaBackends rt rawBackends)
    post st
  (checkCreated answer.1, answer.2)

/-- `configureCertificates`: the certificates of the server names posted to
`/configuration/servers`. -/
def configureCertificates (rt : Runtime) (lua : LuaSide) (rawServers : List Server)
    (post : Option Post) (st : LuaConfiguration.Store) :
    Except SyncError Unit × LuaConfiguration.Store :=
  let answer := newPostStatusRequest lua "/configuration/servers"
    (rt.marshalServers (IngressNginx.configureCertificates rawServers)) post st
  (checkCreated answer.1, answer.2)

/-- The first step of `configureDynamically`: the backends, sent when they changed. -/
def configureBackendsIfChanged (rt : Runtime) (lua : LuaSide) (runningConfig pcfg : Configuration)
    (attempt : Attempt) (st : LuaConfiguration.Store) :
    Except SyncError Unit × LuaConfiguration.Store :=
  let backendsChanged := !rt.deepEqualBackends runningConfig.backends pcfg.backends
  if backendsChanged then configureBackends rt lua pcfg.backends attempt.backends st
  else (.ok (), st)

/-- The rest of `configureDynamically`: the stream services, then the certificates, each sent
when it changed. -/
def configureStreamsAndCertificates (rt : Runtime) (lua : LuaSide)
    (runningConfig pcfg : Configuration) (attempt : Attempt) (st : LuaConfiguration.Store) :
    Except SyncError Unit × LuaConfiguration.Store :=
  let streamConfigurationChanged :=
    !rt.deepEqualL4 runningConfig.tcpEndpoints pcfg.tcpEndpoints ||
      !rt.deepEqualL4 runningConfig.udpEndpoints pcfg.udpEndpoints
  -- `updateStreamConfiguration` fails when the stream socket does
  if streamConfigurationChanged && !attempt.stream then (.error .request, st)
  else
    let serversChanged := !rt.deepEqualServers runningConfig.servers pcfg.servers
    if serversChanged then configureCertificates rt lua pcfg.servers attempt.servers st
    else (.ok (), st)

/-- `configureDynamically`: the backends, the stream services and the certificates, each sent
when it changed, the first error ending it. -/
def configureDynamically (rt : Runtime) (lua : LuaSide) (runningConfig pcfg : Configuration)
    (attempt : Attempt) (st : LuaConfiguration.Store) :
    Except SyncError Unit × LuaConfiguration.Store :=
  match configureBackendsIfChanged rt lua runningConfig pcfg attempt st with
  | (.error e, st) => (.error e, st)
  | (.ok (), st) => configureStreamsAndCertificates rt lua runningConfig pcfg attempt st

/-! ### `syncIngress` -/

/-- The condition `syncIngress` hands `wait.ExponentialBackoff`: `configureDynamically` with
what the try it reached meets, done when it succeeds and not done with its error otherwise. -/
def dynamicCondition (rt : Runtime) (lua : LuaSide) (runningConfig pcfg : Configuration)
    (env : SyncEnv) (s : Nat × LuaConfiguration.Store) :
    (Bool × Option SyncError) × (Nat × LuaConfiguration.Store) :=
  match configureDynamically rt lua runningConfig pcfg (env.attempts s.1) s.2 with
  | (.ok (), st) => ((true, none), (s.1 + 1, st))
  | (.error e, st) => ((false, some e), (s.1 + 1, st))

/-- `Steps` of the backoff of `syncIngress`. -/
def retrySteps : Nat := 15

/-- `syncIngress` for the configuration `pcfg` computed from the ingresses: nothing when it is
`Equal` to the running one; else a reload when dynamic reconfiguration is not enough, then
`configureDynamically` under the backoff, and the new configuration running when it
succeeded. -/
def syncIngress (rt : Runtime) (lua : LuaSide) (pcfg : Configuration) (env : SyncEnv)
    (w : World) : Except SyncError Unit × World :=
  if w.runningConfig.equal pcfg then (.ok (), w)
  else
    let reload := !isDynamicConfigurationEnough w.runningConfig pcfg
    if reload && !env.reload then (.error .reload, w)
    else
      -- `OnUpdate` runs with the checksum set on `pcfg` itself
      let pcfg := if reload then { pcfg with configurationChecksum := rt.hash pcfg } else pcfg
      match rt.exponentialBackoff retrySteps (dynamicCondition rt lua w.runningConfig pcfg env)
          (0, w.store) with
      | (.error (.condition e), (_, store)) => (.error e, { w with store })
      | (.error .timeout, (_, store)) => (.error .timeout, { w with store })
      | (.ok (), (_, store)) => (.ok (), { runningConfig := pcfg, store })

/-- Syncs one after another, each with the configuration computed and what it meets. -/
def run (rt : Runtime) (lua : LuaSide) (w : World) :
    List (Configuration × SyncEnv) → List (Except SyncError Unit) × World
  | [] => ([], w)
  | (pcfg, env) :: syncs =>
    let first := syncIngress rt lua pcfg env w
    let rest := run rt lua first.2 syncs
    (first.1 :: rest.1, rest.2)

/-! ### What the POSTs write -/

section Posts

variable {rt : Runtime} {lua : LuaSide} {st : LuaConfiguration.Store}

/-- A POST to `/configuration/servers` leaves `configuration_data`. -/
lemma configurationData_call_of_servers {req : Request} (hpost : req.requestMethod = "POST")
    (huri : req.requestUri = "/configuration/servers") :
    (call lua.ord lua.decode req st).2.configurationData = st.configurationData := by
  rw [call_of_servers hpost huri, handleServers_configurationData]

/-- A POST of backends that reaches nginx is answered by `handle_backends`. -/
lemma newPostStatusRequest_backends (body : String) (p : Post) :
    newPostStatusRequest lua "/configuration/backends" body (some p) st =
      (.ok (LuaConfiguration.handleBackends ⟨"POST", "/configuration/backends",
          "/configuration/backends", none, some body, p.now, p.answer⟩ st).1.status,
        (LuaConfiguration.handleBackends ⟨"POST", "/configuration/backends",
          "/configuration/backends", none, some body, p.now, p.answer⟩ st).2) := by
  have hcerts : ("/configuration/backends" : String) ≠ "/configuration/certs" := by decide
  rw [newPostStatusRequest, call_of_isBackendsPost ⟨rfl, rfl, hcerts⟩]

/-- The certificates POST leaves `configuration_data`. -/
lemma configureCertificates_configurationData (rawServers : List Server) (post : Option Post) :
    (configureCertificates rt lua rawServers post st).2.configurationData =
      st.configurationData := by
  cases post with
  | none => rfl
  | some p => exact configurationData_call_of_servers rfl rfl

/-- Where every `set` finds room, `configureBackends` succeeds only when `handle_backends`
stored the body; whatever its answer, it leaves the dictionaries as they were or the body
stored. -/
lemma configureBackends_backends (rawBackends : Go.Slice Backend) (post : Option Post)
    (hroom : ∀ p, post = some p → p.FindsRoom) :
    ((configureBackends rt lua rawBackends post st).1 = .ok () →
        (configureBackends rt lua rawBackends post st).2.configurationData.backends =
          some (luaBackends rt rawBackends)) ∧
      ((configureBackends rt lua rawBackends post st).2 = st ∨
        (configureBackends rt lua rawBackends post st).2.configurationData.backends =
          some (luaBackends rt rawBackends)) := by
  cases post with
  | none =>
    refine ⟨fun h => ?_, .inl rfl⟩
    simp [configureBackends, newPostStatusRequest, checkCreated] at h
  | some p =>
    simp only [configureBackends, newPostStatusRequest_backends]
    rcases @handleBackends_of_findsRoom ⟨"POST", "/configuration/backends",
        "/configuration/backends", none, some (luaBackends rt rawBackends), p.now, p.answer⟩ st
        (hroom p rfl) with ⟨hs, hst⟩ | ⟨-, -, hst⟩
    · refine ⟨fun h => ?_, .inl hst⟩
      simp [checkCreated, hs] at h
    · exact ⟨fun _ => by rw [hst], .inr (by rw [hst])⟩

end Posts

/-! ### One try of `configureDynamically` -/

section Try

variable {rt : Runtime} {lua : LuaSide} {runningConfig pcfg : Configuration} {attempt : Attempt}
  {st : LuaConfiguration.Store}

/-- The stream services and the certificates leave `configuration_data`. -/
lemma configureStreamsAndCertificates_configurationData :
    (configureStreamsAndCertificates rt lua runningConfig pcfg attempt st).2.configurationData =
      st.configurationData := by
  unfold configureStreamsAndCertificates
  dsimp only
  split_ifs
  · rfl
  · exact configureCertificates_configurationData _ _
  · rfl

/-- Where every `set` finds room, the backends step leaves the backends stored, or stores the
body of the new ones; when it succeeds, it stored them exactly when they changed. -/
lemma configureBackendsIfChanged_backends
    (hroom : ∀ p, attempt.backends = some p → p.FindsRoom) :
    ((configureBackendsIfChanged rt lua runningConfig pcfg attempt st).1 = .ok () →
        (configureBackendsIfChanged rt lua runningConfig pcfg attempt
            st).2.configurationData.backends =
          if rt.deepEqualBackends runningConfig.backends pcfg.backends then
            st.configurationData.backends
          else some (luaBackends rt pcfg.backends)) ∧
      ((configureBackendsIfChanged rt lua runningConfig pcfg attempt
            st).2.configurationData.backends = st.configurationData.backends ∨
        (configureBackendsIfChanged rt lua runningConfig pcfg attempt
            st).2.configurationData.backends = some (luaBackends rt pcfg.backends)) := by
  unfold configureBackendsIfChanged
  dsimp only
  by_cases hsame : rt.deepEqualBackends runningConfig.backends pcfg.backends = true
  · rw [if_neg (by simp [hsame]), if_pos hsame]
    exact ⟨fun _ => rfl, .inl rfl⟩
  · have hpost := @configureBackends_backends rt lua st pcfg.backends attempt.backends hroom
    rw [if_pos (by simpa using hsame), if_neg hsame]
    exact ⟨hpost.1, hpost.2.imp (fun h => by rw [h]) id⟩

/-- Of `configuration_data`, `configureDynamically` writes only what its backends step writes. -/
lemma configureDynamically_configurationData :
    (configureDynamically rt lua runningConfig pcfg attempt st).2.configurationData =
      (configureBackendsIfChanged rt lua runningConfig pcfg attempt st).2.configurationData := by
  unfold configureDynamically
  rcases configureBackendsIfChanged rt lua runningConfig pcfg attempt st with ⟨r, st'⟩
  cases r with
  | error e => rfl
  | ok u => exact configureStreamsAndCertificates_configurationData

/-- `configureDynamically` succeeds only past its backends step. -/
lemma configureBackendsIfChanged_of_configureDynamically
    (h : (configureDynamically rt lua runningConfig pcfg attempt st).1 = .ok ()) :
    (configureBackendsIfChanged rt lua runningConfig pcfg attempt st).1 = .ok () := by
  unfold configureDynamically at h
  rcases hb : configureBackendsIfChanged rt lua runningConfig pcfg attempt st with ⟨r, st'⟩
  rw [hb] at h
  cases r with
  | error e => cases h
  | ok u => rfl

/-- Where every `set` finds room, a try that succeeds stores the body of the new backends when
they changed, and leaves the backends stored otherwise. -/
lemma configureDynamically_ok (hroom : ∀ p, attempt.backends = some p → p.FindsRoom)
    (h : (configureDynamically rt lua runningConfig pcfg attempt st).1 = .ok ()) :
    (configureDynamically rt lua runningConfig pcfg attempt st).2.configurationData.backends =
      if rt.deepEqualBackends runningConfig.backends pcfg.backends then
        st.configurationData.backends
      else some (luaBackends rt pcfg.backends) := by
  rw [configureDynamically_configurationData]
  exact (configureBackendsIfChanged_backends hroom).1
    (configureBackendsIfChanged_of_configureDynamically h)

/-- `configureDynamically` reads of the new configuration only what it compares and sends,
not its checksum. -/
lemma configureDynamically_checksum (checksum : String) :
    configureDynamically rt lua runningConfig { pcfg with configurationChecksum := checksum }
      attempt st = configureDynamically rt lua runningConfig pcfg attempt st :=
  rfl

end Try

/-! ### `syncIngress` -/

section Sync

variable {rt : Runtime} {lua : LuaSide} {pcfg : Configuration} {env : SyncEnv} {w : World}

/-- The condition of the backoff answers done or an error, never "not done" alone. -/
lemma dynamicCondition_decisive (runningConfig : Configuration)
    (s : Nat × LuaConfiguration.Store) :
    (dynamicCondition rt lua runningConfig pcfg env s).1 ≠ (false, none) := by
  unfold dynamicCondition
  split <;> simp

/-- A backoff that stops at the first error or at done is one try of `configureDynamically`,
with what the first try meets. -/
lemma exponentialBackoff_dynamicCondition (hbackoff : Wait.StopsAtFirst rt.exponentialBackoff)
    (runningConfig : Configuration) (st : LuaConfiguration.Store) :
    rt.exponentialBackoff retrySteps (dynamicCondition rt lua runningConfig pcfg env) (0, st) =
      match configureDynamically rt lua runningConfig pcfg (env.attempts 0) st with
      | (.ok (), st) => (.ok (), (1, st))
      | (.error e, st) => (.error (.condition e), (1, st)) := by
  rw [retrySteps, hbackoff.of_decisive (dynamicCondition_decisive runningConfig)]
  unfold dynamicCondition
  rcases configureDynamically rt lua runningConfig pcfg (env.attempts 0) st with ⟨r, st'⟩
  cases r <;> rfl

/-- A sync of a configuration `Equal` to the running one does nothing. -/
lemma syncIngress_of_equal (hequal : w.runningConfig.equal pcfg = true) :
    syncIngress rt lua pcfg env w = (.ok (), w) := by
  rw [syncIngress, if_pos hequal]

/-- A sync that needs a reload which fails does nothing but fail. -/
lemma syncIngress_of_reload_fails (hequal : w.runningConfig.equal pcfg = false)
    (hdynamic : isDynamicConfigurationEnough w.runningConfig pcfg = false)
    (hreload : env.reload = false) :
    syncIngress rt lua pcfg env w = (.error .reload, w) := by
  rw [syncIngress, if_neg (by simp [hequal])]
  simp [hdynamic, hreload]

/-- Past its comparisons and the reload, a sync under a backoff that stops at the first error
or at done is one try of `configureDynamically` with what the first try meets: the new
configuration runs when it succeeds, and only the dictionaries change when it fails. -/
lemma syncIngress_of_changed (hbackoff : Wait.StopsAtFirst rt.exponentialBackoff)
    (hequal : w.runningConfig.equal pcfg = false)
    (hreload : isDynamicConfigurationEnough w.runningConfig pcfg = true ∨ env.reload = true) :
    syncIngress rt lua pcfg env w =
      match configureDynamically rt lua w.runningConfig pcfg (env.attempts 0) w.store with
      | (.ok (), store) =>
        (.ok (), ⟨if isDynamicConfigurationEnough w.runningConfig pcfg then pcfg
          else { pcfg with configurationChecksum := rt.hash pcfg }, store⟩)
      | (.error e, store) => (.error e, { w with store }) := by
  rw [syncIngress, if_neg (by simp [hequal])]
  dsimp only
  by_cases hdynamic : isDynamicConfigurationEnough w.runningConfig pcfg = true
  · simp only [hdynamic, Bool.not_true, Bool.false_and, Bool.false_eq_true, if_false, if_true,
      exponentialBackoff_dynamicCondition hbackoff]
    rcases configureDynamically rt lua w.runningConfig pcfg (env.attempts 0) w.store with
      ⟨r, st'⟩
    cases r <;> rfl
  · have henv : env.reload = true := hreload.resolve_left hdynamic
    simp only [hdynamic, henv, Bool.not_false, Bool.not_true, Bool.and_false, Bool.false_eq_true,
      if_false, if_true, exponentialBackoff_dynamicCondition hbackoff,
      configureDynamically_checksum]
    rcases configureDynamically rt lua w.runningConfig pcfg (env.attempts 0) w.store with
      ⟨r, st'⟩
    cases r <;> rfl

end Sync

/-- `reflect.DeepEqual` as equality, `json.Marshal` of the backends as their names. -/
def namesRuntime : Runtime where
  deepEqualBackends a b := decide (a = b)
  deepEqualL4 a b := decide (a = b)
  deepEqualServers a b := decide (a = b)
  marshalBackends backends := toString (backends.map (·.name))
  marshalServers _ := "servers"
  hash _ := "0"
  exponentialBackoff := Wait.tryOnce

/-- `configuration.lua` with `pairs` in key order and a `cjson` that decodes nothing. -/
def keyOrderLua : LuaSide := ⟨.keyOrder, fun _ => none⟩

/-- A running configuration and its backends as the Lua side holds them. -/
def syncedWorld : World :=
  ⟨default, { emptyStore with
    configurationData := { emptyStore.configurationData with
      backends := some (luaBackends namesRuntime (default : Configuration).backends) } }⟩

/-- The configuration with the backend `shop-cart-80`. -/
def cartConfig : Configuration := { (default : Configuration) with backends := some [cartBackend] }

/-- A POST in second 100 every `set` of which finds room. -/
def roomyPost : Post := ⟨100, fun _ _ => .stored⟩

/-- A sync whose reload and every try succeed. -/
def everyTryUp : SyncEnv := ⟨true, fun _ => ⟨some roomyPost, true, some roomyPost⟩⟩

lemma everyTryUp_findsRoom : everyTryUp.FindsRoom := fun _ =>
  ⟨fun p hp => by cases hp; exact fun _ _ => rfl, fun p hp => by cases hp; exact fun _ _ => rfl⟩

/-! ### The controller and the Lua side -/

/-- The Lua side holds the backends of the running configuration, as `configureBackends`
sends them. -/
def Agrees (rt : Runtime) (w : World) : Prop :=
  w.store.configurationData.backends = some (luaBackends rt w.runningConfig.backends)

section Agree

variable {rt : Runtime} {lua : LuaSide} {pcfg : Configuration} {env : SyncEnv} {w : World}

/-- A sync that succeeds, every `set` of which finds room, keeps the two sides agreeing, given a
backoff that stops at the first error or at done, and that `json.Marshal` sends the same body
for backends `reflect.DeepEqual` takes for the same. -/
lemma agrees_syncIngress (hbackoff : Wait.StopsAtFirst rt.exponentialBackoff)
    (hmarshal : ∀ a b, rt.deepEqualBackends a b = true → luaBackends rt a = luaBackends rt b)
    (hroom : env.FindsRoom) (h : Agrees rt w) (hok : (syncIngress rt lua pcfg env w).1 = .ok ()) :
    Agrees rt (syncIngress rt lua pcfg env w).2 := by
  cases hequal : w.runningConfig.equal pcfg with
  | true =>
    rw [syncIngress_of_equal hequal]
    exact h
  | false =>
    by_cases hgo : isDynamicConfigurationEnough w.runningConfig pcfg = true ∨ env.reload = true
    · rw [syncIngress_of_changed hbackoff hequal hgo] at hok ⊢
      have hstored := @configureDynamically_ok rt lua w.runningConfig pcfg (env.attempts 0) w.store
        (hroom 0).1
      rcases hc : configureDynamically rt lua w.runningConfig pcfg (env.attempts 0) w.store with
        ⟨r, st'⟩
      rw [hc] at hok hstored
      cases r with
      | error e => cases hok
      | ok u =>
        -- the checksum set for a reload does not touch the backends
        have hbackends : (if isDynamicConfigurationEnough w.runningConfig pcfg then pcfg
            else { pcfg with configurationChecksum := rt.hash pcfg }).backends = pcfg.backends := by
          split_ifs <;> rfl
        change st'.configurationData.backends = some (luaBackends rt _)
        rw [hbackends, hstored rfl]
        split_ifs with hsame
        · rw [h, hmarshal _ _ hsame]
        · rfl
    · simp only [not_or, Bool.not_eq_true] at hgo
      rw [syncIngress_of_reload_fails hequal hgo.1 hgo.2] at hok
      cases hok

end Agree

/-- From two agreeing sides, along any run of syncs that all succeed and every `set` of whose
POSTs finds room, the Lua side holds the backends of the configuration the controller runs, as
`configureBackends` sends them; this for any configurations computed, any nginx answers, any
backoff that stops at the first error or at done, and any `reflect.DeepEqual` under which
`json.Marshal` sends the same body for backends it takes for the same. -/
theorem syncIngress_run_agrees (rt : Runtime) (lua : LuaSide)
    (hbackoff : Wait.StopsAtFirst rt.exponentialBackoff)
    (hmarshal : ∀ a b, rt.deepEqualBackends a b = true → luaBackends rt a = luaBackends rt b) :
    ∀ (syncs : List (Configuration × SyncEnv)) (w : World), Agrees rt w →
      (∀ p ∈ syncs, p.2.FindsRoom) →
      (∀ r ∈ (run rt lua w syncs).1, r = .ok ()) → Agrees rt (run rt lua w syncs).2
  | [], _, h, _, _ => h
  | (pcfg, env) :: syncs, w, h, hroom, hok => by
    obtain ⟨hroomFirst, hroom⟩ := List.forall_mem_cons.mp hroom
    obtain ⟨hfirst, hok⟩ := List.forall_mem_cons.mp hok
    exact syncIngress_run_agrees rt lua hbackoff hmarshal syncs _
      (agrees_syncIngress hbackoff hmarshal hroomFirst h hfirst) hroom hok

theorem syncIngress_run_agrees_cart :
    Wait.StopsAtFirst namesRuntime.exponentialBackoff ∧
      (∀ a b, namesRuntime.deepEqualBackends a b = true →
        luaBackends namesRuntime a = luaBackends namesRuntime b) ∧
      Agrees namesRuntime syncedWorld ∧
      (∀ p ∈ [(cartConfig, everyTryUp)], p.2.FindsRoom) ∧
      (∀ r ∈ (run namesRuntime keyOrderLua syncedWorld [(cartConfig, everyTryUp)]).1, r = .ok ()) ∧
      Agrees namesRuntime
        (run namesRuntime keyOrderLua syncedWorld [(cartConfig, everyTryUp)]).2 := by
  have hmarshal : ∀ a b, namesRuntime.deepEqualBackends a b = true →
      luaBackends namesRuntime a = luaBackends namesRuntime b := fun a b h => by
    rw [of_decide_eq_true h]
  have hroom : ∀ p ∈ [(cartConfig, everyTryUp)], p.2.FindsRoom := by
    intro p hp
    rw [List.mem_singleton] at hp
    rw [hp]
    exact everyTryUp_findsRoom
  exact ⟨Wait.tryOnce_stopsAtFirst, hmarshal, rfl, hroom, by decide,
    syncIngress_run_agrees namesRuntime keyOrderLua Wait.tryOnce_stopsAtFirst hmarshal
      [(cartConfig, everyTryUp)] syncedWorld rfl hroom (by decide)⟩

end NGINXController

end IngressNginx
