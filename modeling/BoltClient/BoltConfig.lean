import BoltClient.Sdk

/-!
# BoltConfig: the process-wide configuration and endpoint cache

This file translates {lit}`bolt_s3_config.cpp`.  The static members of
{lit}`BoltConfig` form one state record; every function takes that state and
returns the state it leaves, also when it throws.  Clock readings, values of
{lit}`rand()`, the network and the instance metadata are inputs of the call
that reads them.

Main results:

- Definition {lit}`selectBoltEndpoints`: the refresh guard, the refresh and the
  selection loop, with the refresh made on the way.
- Theorem {lit}`selectBoltEndpoints_cases`: the three ways a call can go.
- Theorems {lit}`getBoltEndpoints_result_of_request_none` and
  {lit}`getBoltEndpoints_request_of_ne`: when an address is asked for, and which.

Current gaps:

- Overflow of the clock's tick counter is not modelled.
-/

namespace BoltClient

/-! ## Static members -/

/-- Exceptions that leave a {lit}`BoltConfig` function: the client's own, the
JSON library's, and the range check of {lit}`std::vector::at`. -/
inductive BoltError where
  | boltException (message : String)
  | jsonException (message : String)
  | outOfRange
deriving DecidableEq, Repr

/-- The mutable static members of {lit}`BoltConfig`. -/
structure BoltConfig where
  region : String
  zoneId : String
  customDomain : String
  authBucket : String
  userAgentPrefix : String
  boltHostName : String
  disablePassThroughRead : Bool
  refreshTime : Time
  boltEndpoints : BoltEndpoints
  quicksilverUrl : String

/-- {lit}`GetEnvVar`. -/
def getEnvVar (env : String → Option String) (key : String) : String :=
  (env key).getD ""

/-- {lit}`CreateQuicksilverUrl`, as a function of the members it reads. -/
def createQuicksilverUrl (region zoneId customDomain : String) : String :=
  let zone := if zoneId = "" then "" else "?az=" ++ zoneId
  "https://quicksilver." ++ region ++ "." ++ customDomain ++ "/services/bolt" ++ zone

/-- The expression that {lit}`boltHostName` is initialised and reset to. -/
def createBoltHostName (region customDomain : String) : String :=
  "bolt." ++ region ++ "." ++ customDomain

/-- The static members after their initialisers have run. -/
def BoltConfig.initial (E : Externals) (env : String → Option String) (now : Time) :
    BoltConfig where
  region := getEnvVar env "AWS_REGION"
  zoneId := getEnvVar env "AWS_ZONE_ID"
  customDomain := getEnvVar env "BOLT_CUSTOM_DOMAIN"
  authBucket := getEnvVar env "BOLT_AUTH_BUCKET"
  userAgentPrefix :=
    if getEnvVar env "USER_AGENT_PREFIX" = "" then "projectn/"
    else getEnvVar env "USER_AGENT_PREFIX"
  boltHostName :=
    createBoltHostName (getEnvVar env "AWS_REGION") (getEnvVar env "BOLT_CUSTOM_DOMAIN")
  disablePassThroughRead := true
  refreshTime := now + E.seconds 120
  boltEndpoints := ∅
  quicksilverUrl :=
    createQuicksilverUrl (getEnvVar env "AWS_REGION") (getEnvVar env "AWS_ZONE_ID")
      (getEnvVar env "BOLT_CUSTOM_DOMAIN")

/-- {lit}`BoltConfig::httpReadMethods`. -/
def httpReadMethods : List HttpMethod := [.httpGet, .httpHead]

/-- {lit}`BoltConfig::readOrderEndpoints`. -/
def readOrderEndpoints : List String :=
  ["main_read_endpoints", "main_write_endpoints", "failover_read_endpoints",
    "failover_write_endpoints"]

/-- {lit}`BoltConfig::writeOrderEndpoints`. -/
def writeOrderEndpoints : List String :=
  ["main_write_endpoints", "failover_write_endpoints"]

/-! ## Reset -/

/-- The answers of {lit}`EC2MetadataClient` to the two questions
{lit}`BoltConfig::Reset` may ask. -/
structure InstanceMetadata where
  currentRegion : String
  availabilityZoneId : String

/-- {lit}`BoltConfig::Reset`. -/
def BoltConfig.reset (c : BoltConfig) (answers : InstanceMetadata) : BoltConfig :=
  let region := if c.region = "" then answers.currentRegion else c.region
  let zoneId := if c.zoneId = "" then answers.availabilityZoneId else c.zoneId
  { c with
    region := region
    zoneId := zoneId
    quicksilverUrl := createQuicksilverUrl region zoneId c.customDomain
    boltHostName := createBoltHostName region c.customDomain }

@[simp] theorem BoltConfig.reset_boltEndpoints (c : BoltConfig) (a : InstanceMetadata) :
    (c.reset a).boltEndpoints = c.boltEndpoints := rfl

@[simp] theorem BoltConfig.reset_refreshTime (c : BoltConfig) (a : InstanceMetadata) :
    (c.reset a).refreshTime = c.refreshTime := rfl

/-- After a reset both derived strings agree with the fields. -/
theorem BoltConfig.reset_derived (c : BoltConfig) (a : InstanceMetadata) :
    (c.reset a).boltHostName =
        createBoltHostName (c.reset a).region (c.reset a).customDomain ∧
      (c.reset a).quicksilverUrl =
        createQuicksilverUrl (c.reset a).region (c.reset a).zoneId
          (c.reset a).customDomain :=
  ⟨rfl, rfl⟩

/-! ## Fetching the endpoint map -/

/-- {lit}`BoltConfig::ExecuteRequest`: a transport error and a body that does
not decode throw.  The status code is not looked at. -/
def executeRequest (E : Externals) (http : String → Response) (getUrl : String) :
    Except BoltError BoltEndpoints :=
  let r := http getUrl
  if r.errorCode ≠ .ok then .error (.boltException r.errorMessage)
  else
    match E.decodeEndpoints r.text with
    | .error message => .error (.jsonException message)
    | .ok endpoints => .ok endpoints

/-- One {lit}`GetBoltEndpoints` call: the address handed to
{lit}`ExecuteRequest`, if it got that far, and the map returned or exception
thrown. -/
structure Refresh where
  request : Option String
  result : Except BoltError BoltEndpoints

/-- {lit}`BoltConfig::GetBoltEndpoints`. -/
def getBoltEndpoints (E : Externals) (c : BoltConfig) (http : String → Response)
    (errIp : String) : Refresh :=
  if c.quicksilverUrl = "" ∨ c.region = "" then
    { request := none, result := .ok ∅ }
  else
    let requestUrl :=
      if errIp.length > 0 then c.quicksilverUrl ++ ("&err=" ++ errIp) else c.quicksilverUrl
    { request := some requestUrl, result := executeRequest E http requestUrl }

/-- Without a region or address the answer is the empty map. -/
theorem getBoltEndpoints_result_of_request_none {E : Externals} {c : BoltConfig}
    {http : String → Response} {errIp : String}
    (h : (getBoltEndpoints E c http errIp).request = none) :
    (getBoltEndpoints E c http errIp).result = .ok ∅ := by
  by_cases hunset : c.quicksilverUrl = "" ∨ c.region = ""
  · simp [getBoltEndpoints, hunset]
  · simp [getBoltEndpoints, hunset] at h

/-- With a region and an address set, the address is asked for. -/
theorem getBoltEndpoints_request_of_ne {E : Externals} {c : BoltConfig}
    {http : String → Response} (hurl : c.quicksilverUrl ≠ "") (hregion : c.region ≠ "") :
    (getBoltEndpoints E c http "").request = some c.quicksilverUrl := by
  simp [getBoltEndpoints, hurl, hregion]

/-- The only address a refresh without a failing endpoint asks for is
{lit}`quicksilverUrl`. -/
theorem getBoltEndpoints_request_eq {E : Externals} {c : BoltConfig}
    {http : String → Response} {url : String}
    (h : (getBoltEndpoints E c http "").request = some url) :
    url = c.quicksilverUrl ∧ c.region ≠ "" := by
  unfold getBoltEndpoints at h
  split at h
  · cases h
  · next hset =>
    simp only [not_or] at hset
    exact ⟨by simpa using h.symm, hset.2⟩

/-- What one {lit}`SelectBoltEndpoints` call reads from outside: the clock in
the refresh guard, the network, the clock and {lit}`rand()` in
{lit}`RefreshBoltEndpoints`, and {lit}`rand()` in the selection loop.  The last
four are read only on the paths that need them. -/
structure SelectInput where
  checkClock : Time
  http : String → Response
  refreshClock : Time
  refreshRand : Nat
  pickRand : Nat

/-- {lit}`BoltConfig::RefreshBoltEndpoints`.  An exception of
{lit}`GetBoltEndpoints` leaves before either assignment. -/
def refreshBoltEndpoints (E : Externals) (c : BoltConfig) (x : SelectInput)
    (errIp : String) : BoltConfig × Refresh :=
  let refresh := getBoltEndpoints E c x.http errIp
  match refresh.result with
  | .error _ => (c, refresh)
  | .ok endpoints =>
      ({ c with
          boltEndpoints := endpoints
          refreshTime := x.refreshClock + E.seconds (60 + x.refreshRand % 120) },
        refresh)

/-! ## Selecting an endpoint -/

/-- The order of endpoint lists for a method. -/
def preferredOrder (method : HttpMethod) : List String :=
  if method ∈ httpReadMethods then readOrderEndpoints else writeOrderEndpoints

/-- The selection loop of {lit}`SelectBoltEndpoints` over the keys still to be
tried.  {lit}`value.at` would throw on an index out of range. -/
def selectFromOrder (E : Externals) (endpoints : BoltEndpoints) (rand : Nat) :
    List String → Except BoltError Uri
  | [] => .ok Uri.empty
  | endPointKey :: keys =>
      match endpoints.find endPointKey with
      | none => selectFromOrder E endpoints rand keys
      | some value =>
          if value.length > 0 then
            match value[rand % value.length]? with
            | none => .error .outOfRange
            | some selectedEndpoint =>
                .ok ((E.parseUri selectedEndpoint).setScheme .https)
          else selectFromOrder E endpoints rand keys

/-- What one {lit}`SelectBoltEndpoints` call does: the configuration it leaves,
the refresh it makes, and the URI returned or exception thrown. -/
structure SelectOutcome where
  config : BoltConfig
  refresh : Option Refresh
  result : Except BoltError Uri

/-- The refresh guard of {lit}`SelectBoltEndpoints`. -/
def BoltConfig.RefreshDue (c : BoltConfig) (now : Time) : Prop :=
  now > c.refreshTime ∨ c.boltEndpoints.entries = []

instance (c : BoltConfig) (now : Time) : Decidable (c.RefreshDue now) :=
  inferInstanceAs (Decidable (_ ∨ _))

/-- {lit}`BoltConfig::SelectBoltEndpoints`. -/
def selectBoltEndpoints (E : Externals) (c : BoltConfig) (method : HttpMethod)
    (x : SelectInput) : SelectOutcome :=
  let order := preferredOrder method
  if c.RefreshDue x.checkClock then
    let (c', refresh) := refreshBoltEndpoints E c x ""
    match refresh.result with
    | .error e => { config := c', refresh := some refresh, result := .error e }
    | .ok _ =>
        { config := c'
          refresh := some refresh
          result := selectFromOrder E c'.boltEndpoints x.pickRand order }
  else
    { config := c
      refresh := none
      result := selectFromOrder E c.boltEndpoints x.pickRand order }

section Cases

variable {E : Externals} {c : BoltConfig} {x : SelectInput}

/-- A selection from a fresh cache changes nothing and asks nobody. -/
theorem selectBoltEndpoints_of_not_due (method : HttpMethod)
    (hdue : ¬c.RefreshDue x.checkClock) :
    selectBoltEndpoints E c method x =
      { config := c
        refresh := none
        result := selectFromOrder E c.boltEndpoints x.pickRand (preferredOrder method) } := by
  simp [selectBoltEndpoints, hdue]

/-- A refresh that throws ends the selection and changes nothing. -/
theorem selectBoltEndpoints_of_error (method : HttpMethod)
    (hdue : c.RefreshDue x.checkClock) {e : BoltError}
    (hget : (getBoltEndpoints E c x.http "").result = .error e) :
    selectBoltEndpoints E c method x =
      { config := c
        refresh := some (getBoltEndpoints E c x.http "")
        result := .error e } := by
  simp [selectBoltEndpoints, hdue, refreshBoltEndpoints, hget]

/-- A refresh that returns installs the map and moves the refresh time before
the selection. -/
theorem selectBoltEndpoints_of_ok (method : HttpMethod)
    (hdue : c.RefreshDue x.checkClock) {endpoints : BoltEndpoints}
    (hget : (getBoltEndpoints E c x.http "").result = .ok endpoints) :
    selectBoltEndpoints E c method x =
      { config :=
          { c with
            boltEndpoints := endpoints
            refreshTime := x.refreshClock + E.seconds (60 + x.refreshRand % 120) }
        refresh := some (getBoltEndpoints E c x.http "")
        result := selectFromOrder E endpoints x.pickRand (preferredOrder method) } := by
  simp [selectBoltEndpoints, hdue, refreshBoltEndpoints, hget]

/-- Every selection is served from the cache, or ends with a refresh that throws,
or selects from the map its refresh returned. -/
theorem selectBoltEndpoints_cases (E : Externals) (c : BoltConfig) (method : HttpMethod)
    (x : SelectInput) :
    (¬c.RefreshDue x.checkClock ∧
      selectBoltEndpoints E c method x =
        { config := c
          refresh := none
          result :=
            selectFromOrder E c.boltEndpoints x.pickRand (preferredOrder method) }) ∨
    (∃ e, c.RefreshDue x.checkClock ∧ (getBoltEndpoints E c x.http "").result = .error e ∧
      selectBoltEndpoints E c method x =
        { config := c
          refresh := some (getBoltEndpoints E c x.http "")
          result := .error e }) ∨
    ∃ endpoints, c.RefreshDue x.checkClock ∧
      (getBoltEndpoints E c x.http "").result = .ok endpoints ∧
      selectBoltEndpoints E c method x =
        { config :=
            { c with
              boltEndpoints := endpoints
              refreshTime := x.refreshClock + E.seconds (60 + x.refreshRand % 120) }
          refresh := some (getBoltEndpoints E c x.http "")
          result := selectFromOrder E endpoints x.pickRand (preferredOrder method) } := by
  by_cases hdue : c.RefreshDue x.checkClock
  · cases hget : (getBoltEndpoints E c x.http "").result with
    | error e =>
        exact Or.inr (Or.inl ⟨e, hdue, rfl, selectBoltEndpoints_of_error method hdue hget⟩)
    | ok endpoints =>
        exact Or.inr (Or.inr
          ⟨endpoints, hdue, rfl, selectBoltEndpoints_of_ok method hdue hget⟩)
  · exact Or.inl ⟨hdue, selectBoltEndpoints_of_not_due method hdue⟩

/-- A selection writes the endpoint map and the refresh time only. -/
theorem selectBoltEndpoints_config (E : Externals) (c : BoltConfig) (method : HttpMethod)
    (x : SelectInput) :
    ∃ endpoints refreshTime, (selectBoltEndpoints E c method x).config =
      { c with boltEndpoints := endpoints, refreshTime := refreshTime } := by
  rcases selectBoltEndpoints_cases E c method x with
    ⟨-, h⟩ | ⟨e, -, -, h⟩ | ⟨endpoints, -, -, h⟩
  · exact ⟨c.boltEndpoints, c.refreshTime, by rw [h]⟩
  · exact ⟨c.boltEndpoints, c.refreshTime, by rw [h]⟩
  · exact ⟨endpoints, _, by rw [h]⟩

end Cases

/-! ## Sample inputs -/

/-- An environment that names a region and a Bolt domain. -/
def sampleEnv (key : String) : Option String :=
  if key = "AWS_REGION" then some "us-east-1"
  else if key = "AWS_ZONE_ID" then some "use1-az1"
  else if key = "BOLT_CUSTOM_DOMAIN" then some "example.com"
  else none

/-- The initial configuration of a process started at time zero in that
environment. -/
def sampleConfig : BoltConfig := BoltConfig.initial sampleExternals sampleEnv 0

/-- A selection at a given time, with every address giving the same response. -/
def sampleInput (now : Time) (response : Response) : SelectInput where
  checkClock := now
  http := fun _ => response
  refreshClock := now + 5
  refreshRand := 7
  pickRand := 3

end BoltClient
