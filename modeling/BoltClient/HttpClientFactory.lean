import BoltClient.Process.Redirection

/-!
# BoltS3HttpClientFactory: which client a build makes

This file translates {lit}`bolt_s3_http_client_factory.cpp` together with the part of
{lit}`bolt/CMakeLists.txt` that chooses its preprocessor definitions.  Connections are
redirected to Bolt by the curl client of the library only; whether that client exists is
decided when the library is built.

Main results:

- Theorem {lit}`httpClientControl_cases`: the ways the choice of definitions can go.
- Theorem {lit}`build_redirects_iff`: which builds make a client, and which of their
  connections are redirected.
- Theorem {lit}`sessions_balanced_iff`: when libcurl is cleaned up as often as it is
  initialised.

Current gaps:

- Response stream factories and log messages are left out.
- The clients of the AWS SDK are known by their kind only.
-/

namespace BoltClient

open BoltClient.Library.Runs

/-! ## Definitions of a build -/

/-- Platforms {lit}`ResolvePlatform.cmake` tells apart. -/
inductive Platform where
  | windows
  | apple
  | linux
deriving DecidableEq, Repr

/-- The variables the choice of the HTTP client reads.  {lit}`enableCurlClient` and
{lit}`enableWindowsClient` are what the caller of CMake has set them to. -/
structure BuildOptions where
  platform : Platform
  noHttpClient : Bool
  forceCurl : Bool
  enableCurlClient : Bool
  enableWindowsClient : Bool
  useIxmlHttpRequest2 : Bool
  bypassDefaultProxy : Bool
  curlFound : Bool

/-- The preprocessor definitions the factory looks at. -/
structure Definitions where
  enableCurlClient : Bool
  enableWindowsClient : Bool
  enableWindowsIxmlHttpRequest2Client : Bool
  bypassDefaultProxy : Bool
deriving DecidableEq, Repr

/-- No definition at all. -/
def Definitions.none : Definitions := ⟨false, false, false, false⟩

/-- The block {lit}`Http client control` of {lit}`CMakeLists.txt`. -/
def httpClientControl (o : BuildOptions) : Except String Definitions :=
  if o.noHttpClient then .ok .none
  else
    let (enableCurlClient, enableWindowsClient) :=
      match o.platform with
      | .windows =>
          if o.forceCurl then (true, o.enableWindowsClient) else (o.enableCurlClient, true)
      | .linux => (true, o.enableWindowsClient)
      | .apple => (true, o.enableWindowsClient)
    if enableCurlClient then
      if o.curlFound then .ok { Definitions.none with enableCurlClient := true }
      else .error "Could not find curl"
    else if enableWindowsClient then
      .ok
        { Definitions.none with
          enableWindowsClient := true
          enableWindowsIxmlHttpRequest2Client := o.useIxmlHttpRequest2
          bypassDefaultProxy := o.useIxmlHttpRequest2 && o.bypassDefaultProxy }
    else
      .error ("No http client available for target platform and client injection not " ++
        "enabled (-DNO_HTTP_CLIENT=ON)")

/-- The build is for the curl client. -/
def BuildOptions.ForCurl (o : BuildOptions) : Prop :=
  o.platform ≠ .windows ∨ o.forceCurl = true ∨ o.enableCurlClient = true

instance (o : BuildOptions) : Decidable o.ForCurl := inferInstanceAs (Decidable (_ ∨ _))

/-- A build injects its client, or is for curl and needs it found, or is for the clients
of Windows. -/
theorem httpClientControl_cases (o : BuildOptions) :
    (o.noHttpClient = true ∧ httpClientControl o = .ok .none) ∨
      (o.noHttpClient = false ∧ o.ForCurl ∧
        httpClientControl o =
          if o.curlFound then .ok { Definitions.none with enableCurlClient := true }
          else .error "Could not find curl") ∨
      (o.noHttpClient = false ∧ ¬o.ForCurl ∧
        httpClientControl o =
          .ok
            { Definitions.none with
              enableWindowsClient := true
              enableWindowsIxmlHttpRequest2Client := o.useIxmlHttpRequest2
              bypassDefaultProxy := o.useIxmlHttpRequest2 && o.bypassDefaultProxy }) := by
  rcases o with ⟨platform, _ | _, forceCurl, enableCurl, _, _, _, _⟩
  · cases platform with
    | windows =>
        cases forceCurl <;> cases enableCurl <;> simp [httpClientControl, BuildOptions.ForCurl]
    | linux => simp [httpClientControl, BuildOptions.ForCurl]
    | apple => simp [httpClientControl, BuildOptions.ForCurl]
  · exact Or.inl ⟨rfl, rfl⟩

/-! ## Clients -/

/-- {lit}`TransferLibType` of the AWS SDK. -/
inductive TransferLibType where
  | defaultClient
  | curlClient
  | winInetClient
  | winHttpClient
deriving DecidableEq, Repr

/-- The clients the factory makes. -/
inductive HttpClientKind where
  | boltCurlHttpClient
  | winHttpSyncHttpClient
  | winInetSyncHttpClient
  | ixmlHttpRequest2HttpClient
deriving DecidableEq, Repr

/-- {lit}`BoltS3HttpClientFactory::CreateHttpClient`: the null pointer in a build
without a client. -/
def createHttpClient (d : Definitions) (httpLibOverride : TransferLibType) :
    Option HttpClientKind :=
  if d.enableWindowsClient then
    if d.enableWindowsIxmlHttpRequest2Client then
      if d.bypassDefaultProxy then
        match httpLibOverride with
        | .winHttpClient => some .winHttpSyncHttpClient
        | _ => some .ixmlHttpRequest2HttpClient
      else some .ixmlHttpRequest2HttpClient
    else
      match httpLibOverride with
      | .winInetClient => some .winInetSyncHttpClient
      | _ => some .winHttpSyncHttpClient
  else if d.enableCurlClient then some .boltCurlHttpClient
  else none

/-- The connection a client opens for a URL: only {lit}`BoltCurlHttpClient` overrides
its options. -/
def connectionHandle (E : Externals) (s : Statics) (url : String) :
    HttpClientKind → CurlHandle
  | .boltCurlHttpClient => overrideOptionsOnConnectionHandle E s (some url) (.forUrl url)
  | _ => .forUrl url

/-- For every build CMake accepts: the factory makes a client unless it is to be
injected, and whatever library the configuration asks for, it is the redirecting client
exactly in a build for curl. -/
theorem createHttpClient_of_build {o : BuildOptions} {d : Definitions}
    (hbuild : httpClientControl o = .ok d) (httpLibOverride : TransferLibType) :
    (createHttpClient d httpLibOverride = none ↔ o.noHttpClient = true) ∧
      ∀ kind, createHttpClient d httpLibOverride = some kind →
        (kind = .boltCurlHttpClient ↔ o.ForCurl) := by
  rcases httpClientControl_cases o with
    ⟨hinjected, hcontrol⟩ | ⟨hown, hcurl, hcontrol⟩ | ⟨hown, hcurl, hcontrol⟩
  · have hd : d = .none := Except.ok.inj (hbuild.symm.trans hcontrol)
    subst hd
    simp [createHttpClient, Definitions.none, hinjected]
  · by_cases hfound : o.curlFound = true
    · rw [if_pos hfound] at hcontrol
      have hd : d = { Definitions.none with enableCurlClient := true } :=
        Except.ok.inj (hbuild.symm.trans hcontrol)
      subst hd
      simp [createHttpClient, Definitions.none, hown, hcurl]
    · rw [if_neg hfound, hbuild] at hcontrol
      cases hcontrol
  · have hd := Except.ok.inj (hbuild.symm.trans hcontrol)
    subst hd
    simp only [createHttpClient, Definitions.none, hown, hcurl]
    cases httpLibOverride <;> cases o.useIxmlHttpRequest2 <;> cases o.bypassDefaultProxy <;> simp

/-- In every reachable state of a process, for every accepted build, every library the
configuration may ask for and every URL: the build makes no client exactly when one is
to be injected, and the client it makes redirects a connection exactly when the build is
for curl and the URL is that of the last signed request, or of the initial endpoint while
nothing has been signed. -/
theorem build_redirects_iff (E : Externals) (env : String → Option String) (start : Time)
    (ops : List ProcessOp) (o : BuildOptions) (d : Definitions)
    (httpLibOverride : TransferLibType) (hbuild : httpClientControl o = .ok d) :
    let p := processRun E (Process.initial E env start) ops
    (createHttpClient d httpLibOverride = none ↔ o.noHttpClient = true) ∧
      ∀ kind, createHttpClient d httpLibOverride = some kind → ∀ url,
        connectionHandle E p.statics url kind ≠ .forUrl url ↔
          o.ForCurl ∧ E.uriString (storedEndpoint E env start ops) = url := by
  intro p
  rcases createHttpClient_of_build hbuild httpLibOverride with ⟨hnone, hkind⟩
  refine ⟨hnone, fun kind hmade url => ?_⟩
  have hstored : p.statics.selectedBoltEndpoint = storedEndpoint E env start ops :=
    run_selectedBoltEndpoint _ _ _
  have hcurl := hkind kind hmade
  rw [← hcurl, ← hstored]
  cases kind with
  | boltCurlHttpClient => simpa [connectionHandle] using override_ne_iff E p.statics url
  | winHttpSyncHttpClient => simp [connectionHandle]
  | winInetSyncHttpClient => simp [connectionHandle]
  | ixmlHttpRequest2HttpClient => simp [connectionHandle]

/-- A build on Linux with curl, after a process has started. -/
theorem sample_build_redirects :
    let o : BuildOptions :=
      { platform := .linux
        noHttpClient := false
        forceCurl := false
        enableCurlClient := false
        enableWindowsClient := false
        useIxmlHttpRequest2 := false
        bypassDefaultProxy := false
        curlFound := true }
    let d : Definitions := { Definitions.none with enableCurlClient := true }
    let s := Statics.initial sampleExternals sampleEnv 0
    httpClientControl o = .ok d ∧
      connectionHandle sampleExternals s "http://127.0.0.1/" .boltCurlHttpClient ≠
        .forUrl "http://127.0.0.1/" := by
  intro o d s
  have hbuild : httpClientControl o = .ok d := by decide
  have hiff := build_redirects_iff sampleExternals sampleEnv 0 [] o d .defaultClient hbuild
  refine ⟨hbuild, ?_⟩
  exact (hiff.2 .boltCurlHttpClient (by decide) "http://127.0.0.1/").mpr ⟨by decide, by decide⟩

/-! ## Static state -/

/-- The static variables of the file. -/
structure FactoryFlags where
  initCleanupCurlFlag : Bool
  installSigPipeHandler : Bool

/-- The static variables after their initialisers have run. -/
def FactoryFlags.initial : FactoryFlags := ⟨true, false⟩

/-- Calls that read or write the static variables. -/
inductive FactoryOp where
  | setInitCleanupCurlFlag (initCleanupFlag : Bool)
  | setInstallSigPipeHandlerFlag (install : Bool)
  | initStaticState
  | cleanupStaticState

/-- The static variables after a call. -/
def factoryStep (flags : FactoryFlags) : FactoryOp → FactoryFlags
  | .setInitCleanupCurlFlag initCleanupFlag =>
      { flags with initCleanupCurlFlag := initCleanupFlag }
  | .setInstallSigPipeHandlerFlag install => { flags with installSigPipeHandler := install }
  | .initStaticState => flags
  | .cleanupStaticState => flags

/-- What a call does outside the file: {lit}`BoltCurlHttpClient::InitGlobalState` and
{lit}`CleanupGlobalState`, {lit}`signal` and {lit}`IXmlHttpRequest2HttpClient::InitCOM`. -/
inductive StaticStateEvent where
  | initGlobalState
  | cleanupGlobalState
  | installSigPipeHandler
  | initCom
deriving DecidableEq, Repr

/-- {lit}`BoltS3HttpClientFactory::InitStaticState` and {lit}`CleanupStaticState`. -/
def staticStateEvents (d : Definitions) (isWin32 : Bool) (flags : FactoryFlags) :
    FactoryOp → List StaticStateEvent
  | .initStaticState =>
      if d.enableCurlClient then
        (if flags.initCleanupCurlFlag then [.initGlobalState] else []) ++
          (if isWin32 then []
            else if flags.installSigPipeHandler then [.installSigPipeHandler]
            else [])
      else if d.enableWindowsIxmlHttpRequest2Client then [.initCom]
      else []
  | .cleanupStaticState =>
      if d.enableCurlClient then
        if flags.initCleanupCurlFlag then [.cleanupGlobalState] else []
      else []
  | _ => []

/-- Calls of the setters. -/
inductive SetFlag where
  | initCleanupCurl (initCleanupFlag : Bool)
  | installSigPipeHandler (install : Bool)

def SetFlag.op : SetFlag → FactoryOp
  | .initCleanupCurl initCleanupFlag => .setInitCleanupCurlFlag initCleanupFlag
  | .installSigPipeHandler install => .setInstallSigPipeHandlerFlag install

/-- A session of the AWS SDK: setters called before its start, and between its start and
its end. -/
structure Session where
  before : List SetFlag
  during : List SetFlag

/-- The calls of a session. -/
def Session.ops (session : Session) : List FactoryOp :=
  session.before.map SetFlag.op ++ .initStaticState ::
    (session.during.map SetFlag.op ++ [.cleanupStaticState])

/-- The calls of sessions one after the other. -/
def sessionOps (sessions : List Session) : List FactoryOp := sessions.flatMap Session.ops

/-- The session ends with the flag it started with. -/
def Session.KeepsFlag (flags : FactoryFlags) (session : Session) : Prop :=
  (run factoryStep flags ((session.before ++ session.during).map SetFlag.op)).initCleanupCurlFlag =
    (run factoryStep flags (session.before.map SetFlag.op)).initCleanupCurlFlag

/-- The events of a run. -/
def eventsOf (d : Definitions) (isWin32 : Bool) (flags : FactoryFlags) (ops : List FactoryOp) :
    List StaticStateEvent :=
  collect factoryStep (staticStateEvents d isWin32) flags ops

/-- libcurl is never cleaned up more often than initialised, never initialised twice in
a row, and cleaned up in the end. -/
structure Balanced (events : List StaticStateEvent) : Prop where
  sane : ∀ before after, events = before ++ after →
    before.count .cleanupGlobalState ≤ before.count .initGlobalState ∧
      before.count .initGlobalState ≤ before.count .cleanupGlobalState + 1
  settled : events.count .initGlobalState = events.count .cleanupGlobalState

section Sessions

variable {d : Definitions} {isWin32 : Bool} {flags : FactoryFlags}

theorem balanced_nil : Balanced [] where
  sane := by
    intro before after h
    have hnil : before = [] := (List.append_eq_nil_iff.mp h.symm).1
    simp [hnil]
  settled := rfl

theorem Balanced.append {events events' : List StaticStateEvent} (h : Balanced events)
    (h' : Balanced events') : Balanced (events ++ events') where
  sane := by
    intro before after hsplit
    rcases List.append_eq_append_iff.mp hsplit with ⟨rest, hbefore, hrest⟩ | ⟨rest, hevents, -⟩
    · have hsane := h'.sane rest after hrest
      have hsettled := h.settled
      rw [hbefore, List.count_append, List.count_append]
      omega
    · exact h.sane before rest hevents
  settled := by
    rw [List.count_append, List.count_append, h.settled, h'.settled]

/-- Setters do nothing outside the file. -/
theorem events_setters (setters : List SetFlag) :
    eventsOf d isWin32 flags (setters.map SetFlag.op) = [] := by
  unfold eventsOf
  induction setters generalizing flags with
  | nil => rfl
  | cons setter setters ih => cases setter <;> simp [SetFlag.op, staticStateEvents, ih]

/-- Outside the file a session is the events of its start and its end. -/
theorem events_session (session : Session) :
    eventsOf d isWin32 flags session.ops =
      staticStateEvents d isWin32 (run factoryStep flags (session.before.map SetFlag.op))
          .initStaticState ++
        staticStateEvents d isWin32
          (run factoryStep flags ((session.before ++ session.during).map SetFlag.op))
          .cleanupStaticState := by
  have hsetters : ∀ (flags : FactoryFlags) (setters : List SetFlag),
      eventsOf d isWin32 flags (setters.map SetFlag.op) = [] := fun _ => events_setters
  unfold eventsOf at hsetters ⊢
  unfold Session.ops
  rw [collect_append, collect_cons, collect_append, hsetters, hsetters, List.map_append, run_append]
  simp [factoryStep]

/-- To be balanced it is enough to be so after any number of events. -/
theorem balanced_of_take {events : List StaticStateEvent}
    (hsane : ∀ n ≤ events.length,
      (events.take n).count .cleanupGlobalState ≤ (events.take n).count .initGlobalState ∧
        (events.take n).count .initGlobalState ≤ (events.take n).count .cleanupGlobalState + 1)
    (hsettled : events.count .initGlobalState = events.count .cleanupGlobalState) :
    Balanced events where
  sane := by
    rintro before after rfl
    have htake := hsane before.length (by simp)
    simpa using htake
  settled := hsettled

section Curl

variable (hcurl : d.enableCurlClient = true)
include hcurl

/-- A session that keeps the flag is balanced. -/
theorem Session.KeepsFlag.balanced {session : Session} (h : session.KeepsFlag flags) :
    Balanced (eventsOf d isWin32 flags session.ops) := by
  rw [events_session]
  unfold Session.KeepsFlag at h
  simp only [staticStateEvents, hcurl, if_true, h]
  cases (run factoryStep flags (session.before.map SetFlag.op)).initCleanupCurlFlag <;>
    cases (run factoryStep flags (session.before.map SetFlag.op)).installSigPipeHandler <;>
    cases isWin32 <;>
    exact balanced_of_take (by decide) (by decide)

/-- A session that is cleaned up as often as initialised keeps the flag. -/
theorem keepsFlag_of_settled {session : Session}
    (h : (eventsOf d isWin32 flags session.ops).count .initGlobalState =
      (eventsOf d isWin32 flags session.ops).count .cleanupGlobalState) :
    session.KeepsFlag flags := by
  rw [events_session] at h
  unfold Session.KeepsFlag
  simp only [staticStateEvents, hcurl, if_true] at h
  generalize run factoryStep flags ((session.before ++ session.during).map SetFlag.op) = ending
    at h ⊢
  generalize run factoryStep flags (session.before.map SetFlag.op) = starting at h ⊢
  rcases ending with ⟨endFlag, _⟩
  rcases starting with ⟨startFlag, install⟩
  cases endFlag <;> cases startFlag <;> cases install <;> cases isWin32 <;> simp at h ⊢

/-- In a build for curl the events of every number of sessions are balanced exactly when
every session ends with the flag it started with. -/
theorem sessions_balanced_iff (sessions : List Session) :
    (∀ before after, sessions = before ++ after →
        Balanced (eventsOf d isWin32 flags (sessionOps before))) ↔
      ∀ before session after, sessions = before ++ session :: after →
        session.KeepsFlag (run factoryStep flags (sessionOps before)) := by
  have hconcat : ∀ before session, eventsOf d isWin32 flags (sessionOps (before ++ [session])) =
      eventsOf d isWin32 flags (sessionOps before) ++
        eventsOf d isWin32 (run factoryStep flags (sessionOps before)) session.ops := by
    intro before session
    simp [sessionOps, eventsOf, collect_append]
  constructor
  · intro hbalanced before session after hsplit
    have hbefore := (hbalanced before (session :: after) hsplit).settled
    have hthrough := (hbalanced (before ++ [session]) after (by simp [hsplit])).settled
    rw [hconcat, List.count_append, List.count_append, hbefore] at hthrough
    exact keepsFlag_of_settled hcurl (Nat.add_left_cancel hthrough)
  · intro hkeeps before
    induction before using List.reverseRecOn with
    | nil => exact fun _ _ => balanced_nil
    | append_singleton before session ih =>
        intro after hsplit
        have hsplit' : sessions = before ++ session :: after := by simpa using hsplit
        rw [hconcat]
        exact (ih (session :: after) hsplit').append
          ((hkeeps before session after hsplit').balanced hcurl)

end Curl

end Sessions

end BoltClient
