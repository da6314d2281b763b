import BoltClient.BoltConfig.Selection

/-!
# BoltSigner: requests signed through a surrogate HEAD request

This file translates {lit}`bolt_s3_signer.cpp`.  The signer does not sign the
caller's request.  It builds a HEAD request for an object of the source bucket,
has the wrapped V4 signer sign that, and transplants the resulting headers to
the caller's request, which is readdressed to a Bolt endpoint.

The state is the static members the signer reads and writes: those of
{lit}`BoltConfig` and the variable {lit}`selectedBoltEndpoint` that it shares
with the HTTP client.

Main results:

- Definition {lit}`signVia`: the body that {lit}`SignRequest` and
  {lit}`PresignRequest` share up to the call of the V4 signer.
- Theorems {lit}`perform_of_fetchThrows` and {lit}`perform_of_selected`: the two
  ways a call can go.

Current gaps:

- Strings are lists of characters, as for paths in UTF-8; {lit}`splitString`
  splits bytes.
-/

namespace BoltClient

/-! ## String helpers -/

/-- The loop of {lit}`splitString` with the piece collected so far. -/
def splitStringFrom (splitter : Char) : String → List Char → List String
  | current, [] => if current.length ≠ 0 then [current] else []
  | current, c :: cs =>
      if c = splitter then
        if current ≠ "" then current :: splitStringFrom splitter "" cs
        else splitStringFrom splitter current cs
      else splitStringFrom splitter (current.push c) cs

/-- {lit}`splitString`: the non-empty pieces between the splitters. -/
def splitString (str : String) (splitter : Char) : List String :=
  splitStringFrom splitter "" str.toList

/-- The letters {lit}`getRandomString` draws from. -/
def alpha : List Char := "abcdefghijklmnopqrstuvwxyz".toList

/-- {lit}`getRandomString`: four letters, one for each value of {lit}`rand()`. -/
def getRandomString (rand : Nat → Nat) : String :=
  String.ofList <| (List.range 4).map fun i =>
    alpha.get ⟨rand i % alpha.length, Nat.mod_lt _ (by decide)⟩

/-! ## The signer and the state it works on -/

/-- {lit}`BoltSigner`.  The wrapped signer is built from the same service name
and region as the object itself. -/
structure BoltSigner where
  v4Signer : AwsAuthV4Signer
  serviceName : String
  region : String
  v4Signer_serviceName : v4Signer.serviceName = serviceName
  v4Signer_region : v4Signer.region = region

/-- The constructor of {lit}`BoltSigner`. -/
def BoltSigner.new (serviceName region : String) (signingPolicy : PayloadSigningPolicy)
    (urlEscapePath : Bool) (signingAlgorithm : AwsSigningAlgorithm) : BoltSigner where
  v4Signer := ⟨serviceName, region, signingPolicy, urlEscapePath, signingAlgorithm⟩
  serviceName := serviceName
  region := region
  v4Signer_serviceName := rfl
  v4Signer_region := rfl

/-- The constructor with its default arguments. -/
def BoltSigner.newDefault (serviceName region : String) : BoltSigner :=
  .new serviceName region .requestDependent true .sigv4

/-- The static members of {lit}`BoltConfig` and of {lit}`BoltCurlHttpClient`. -/
structure Statics where
  config : BoltConfig
  selectedBoltEndpoint : Uri

/-- The static members after their initialisers have run. -/
def Statics.initial (E : Externals) (env : String → Option String) (now : Time) : Statics where
  config := BoltConfig.initial E env now
  selectedBoltEndpoint := E.parseUri "127.0.0.1"

/-- What one signing call reads from outside: the inputs of its endpoint
selection, the values of {lit}`rand()` for the prefix, and the V4 signing
functions at that moment. -/
structure SignInput where
  select : SelectInput
  prefixRand : Nat → Nat
  v4 : V4Signing

/-! ## The surrogate request -/

/-- Copy a header if it is there. -/
def copyHeader (headers : HeaderValueCollection) (name : String) (request : HttpRequest) :
    HttpRequest :=
  match headers name with
  | some value => request.setHeaderValue name value
  | none => request

/-- The bucket of the surrogate request: the configured one, or else the first
segment of the path. -/
def sourceBucket (c : BoltConfig) (path : String) : String :=
  if c.authBucket ≠ "" then c.authBucket
  else
    match splitString path '/' with
    | first :: _ => first
    | [] => "n-auth-dummy"

/-- The address of the surrogate request. -/
def headObjectUrl (c : BoltConfig) (path authPrefix : String) : String :=
  "https://s3." ++ c.region ++ ".amazonaws.com/" ++ sourceBucket c path ++ "/" ++ authPrefix ++
    "/auth"

/-- The host in front, the object behind. -/
theorem headObjectUrl_eq (c : BoltConfig) (path authPrefix : String) :
    headObjectUrl c path authPrefix = "https://s3." ++ c.region ++ ".amazonaws.com/" ++
      (sourceBucket c path ++ "/" ++ authPrefix ++ "/auth") := by
  unfold headObjectUrl
  simp only [String.append_assoc]

/-- {lit}`BoltSigner::CreateBoltHeadRequest`. -/
def createBoltHeadRequest (E : Externals) (c : BoltConfig) (request : HttpRequest)
    (authPrefix : String) : HttpRequest :=
  let headRequest :=
    standardHttpRequest (E.parseUri (headObjectUrl c request.uri.path authPrefix)) .httpHead
  let headRequest := copyHeader request.headers "x-amz-security-token" headRequest
  headRequest.setHeaderValue "x-amz-content-sha256"
    "e3b0c44298fc1c149afbf4c8996fb92427ae41e4649b934ca495991b7852b855"

@[simp] theorem copyHeader_uri (headers : HeaderValueCollection) (name : String)
    (request : HttpRequest) : (copyHeader headers name request).uri = request.uri := by
  unfold copyHeader
  split <;> rfl

@[simp] theorem createBoltHeadRequest_uri (E : Externals) (c : BoltConfig)
    (request : HttpRequest) (authPrefix : String) :
    (createBoltHeadRequest E c request authPrefix).uri =
      E.parseUri (headObjectUrl c request.uri.path authPrefix) := by
  simp [createBoltHeadRequest, standardHttpRequest]

/-! ## The transplant -/

/-- {lit}`BoltSigner::SignBoltRequest`: the state and the request it leaves, and
its result. -/
def signBoltRequest (s : Statics) (request : HttpRequest)
    (signedHeaders : HeaderValueCollection) (boltUri : Uri) (authPrefix : String) :
    Statics × HttpRequest × Bool :=
  let request := { request with uri := boltUri }
  let request := copyHeader signedHeaders "x-amz-security-token" request
  let request := copyHeader signedHeaders "x-amz-date" request
  let request := copyHeader signedHeaders "authorization" request
  let request := copyHeader signedHeaders "x-amz-content-sha256" request
  let s := { s with selectedBoltEndpoint := boltUri }
  let request := request.setHeaderValue "host" s.config.boltHostName
  let request := request.setHeaderValue "x-bolt-auth-prefix" authPrefix
  let request := request.setHeaderValue "user-agent"
    (s.config.userAgentPrefix ++ request.getHeaderValue "user-agent")
  let request :=
    if s.config.disablePassThroughRead then
      request.setHeaderValue "x-bolt-passthrough-Read" "disable"
    else request
  (s, request, true)

section Transplant

variable (s : Statics) (request : HttpRequest) (signedHeaders : HeaderValueCollection)
  (boltUri : Uri) (authPrefix : String)

@[simp] theorem signBoltRequest_statics :
    (signBoltRequest s request signedHeaders boltUri authPrefix).1 =
      { s with selectedBoltEndpoint := boltUri } := rfl

@[simp] theorem signBoltRequest_result :
    (signBoltRequest s request signedHeaders boltUri authPrefix).2.2 = true := rfl

/-- The transplant replaces the whole URI. -/
@[simp] theorem signBoltRequest_uri :
    (signBoltRequest s request signedHeaders boltUri authPrefix).2.1.uri = boltUri := by
  simp only [signBoltRequest]
  split <;> simp

end Transplant

/-! ## Signing and presigning -/

/-- What one signing call does: the state and the caller's request as it leaves
them, the refresh it makes, the call of the V4 signer it makes and that call's
result, and the value returned or exception thrown. -/
structure SignOutcome where
  statics : Statics
  request : HttpRequest
  refresh : Option Refresh
  v4Call : Option V4Call
  v4Result : Option Bool
  result : Except BoltError Bool

/-- The HEAD request handed to the V4 signer. -/
def SignOutcome.head (outcome : SignOutcome) : Option HttpRequest :=
  outcome.v4Call.map V4Call.request

/-- The call a signer makes of the V4 signer it wraps, for the HEAD request. -/
def BoltSigner.v4Call (signer : BoltSigner) (kind : SignKind) (region serviceName : Option String)
    (headRequest : HttpRequest) : V4Call where
  kind := kind
  signer := signer.v4Signer
  request := headRequest
  region := region
  serviceName := serviceName

/-- The body shared by {lit}`SignRequest` and {lit}`PresignRequest`, given the
call of the V4 signer.  The V4 signer's result is dropped. -/
def signVia (E : Externals) (s : Statics) (request : HttpRequest) (x : SignInput)
    (v4Call : HttpRequest → V4Call) : SignOutcome :=
  let selection := selectBoltEndpoints E s.config request.method x.select
  let s := { s with config := selection.config }
  match selection.result with
  | .error e =>
      { statics := s
        request := request
        refresh := selection.refresh
        v4Call := none
        v4Result := none
        result := .error e }
  | .ok boltEndpoint =>
      let boltUri := request.uri.setAuthority boltEndpoint.authority
      let authPrefix := getRandomString x.prefixRand
      let headRequest := createBoltHeadRequest E s.config request authPrefix
      let (v4Result, signedHead) := x.v4 (v4Call headRequest)
      let (s, request, result) := signBoltRequest s request signedHead.headers boltUri authPrefix
      { statics := s
        request := request
        refresh := selection.refresh
        v4Call := some (v4Call headRequest)
        v4Result := some v4Result
        result := .ok result }

/-- {lit}`BoltSigner::SignRequest`. -/
def signRequest (E : Externals) (s : Statics) (signer : BoltSigner) (request : HttpRequest)
    (region serviceName : Option String) (signBody : Bool) (x : SignInput) : SignOutcome :=
  signVia E s request x (signer.v4Call (.signRequest signBody) region serviceName)

/-- {lit}`BoltSigner::PresignRequest`. -/
def presignRequest (E : Externals) (s : Statics) (signer : BoltSigner) (request : HttpRequest)
    (region serviceName : Option String) (expirationTimeInSeconds : Int) (x : SignInput) :
    SignOutcome :=
  signVia E s request x
    (signer.v4Call (.presignRequest expirationTimeInSeconds) region serviceName)

/-- One call of a signing function with its arguments. -/
structure SignCall where
  kind : SignKind
  signer : BoltSigner
  request : HttpRequest
  region : Option String
  serviceName : Option String

/-- Perform a call. -/
def SignCall.perform (E : Externals) (s : Statics) (call : SignCall) (x : SignInput) :
    SignOutcome :=
  match call.kind with
  | .signRequest signBody =>
      BoltClient.signRequest E s call.signer call.request call.region call.serviceName signBody x
  | .presignRequest expiration =>
      BoltClient.presignRequest E s call.signer call.request call.region call.serviceName
        expiration x

/-- The overload without region and service name passes the signer's own. -/
def SignCall.withDefaults (kind : SignKind) (signer : BoltSigner) (request : HttpRequest) :
    SignCall where
  kind := kind
  signer := signer
  request := request
  region := some signer.region
  serviceName := some signer.serviceName

/-- The overload without service name passes the signer's own. -/
def SignCall.withRegion (kind : SignKind) (signer : BoltSigner) (request : HttpRequest)
    (region : Option String) : SignCall where
  kind := kind
  signer := signer
  request := request
  region := region
  serviceName := some signer.serviceName

/-- The shortest overload fills in what the wrapped signer was built with. -/
theorem withDefaults_eq_v4Signer (kind : SignKind) (signer : BoltSigner)
    (request : HttpRequest) :
    (SignCall.withDefaults kind signer request).region = some signer.v4Signer.region ∧
      (SignCall.withDefaults kind signer request).serviceName =
        some signer.v4Signer.serviceName := by
  simp [SignCall.withDefaults, signer.v4Signer_region, signer.v4Signer_serviceName]

/-! ## The two ways a call can go -/

/-- The call of the V4 signer a signing call makes. -/
def SignCall.v4Call (call : SignCall) : HttpRequest → V4Call :=
  call.signer.v4Call call.kind call.region call.serviceName

/-- What the V4 signer makes of the HEAD request of a signing call. -/
def SignCall.v4Sign (call : SignCall) (x : SignInput) (headRequest : HttpRequest) :
    Bool × HttpRequest :=
  x.v4 (call.v4Call headRequest)

/-- The HEAD request a signing call hands to the V4 signer. -/
def SignCall.headRequest (E : Externals) (s : Statics) (call : SignCall) (x : SignInput) :
    HttpRequest :=
  createBoltHeadRequest E (s.config.afterRefreshCheck E x.select) call.request
    (getRandomString x.prefixRand)

theorem perform_eq_signVia (E : Externals) (s : Statics) (call : SignCall) (x : SignInput) :
    call.perform E s x = signVia E s call.request x call.v4Call := by
  rcases call with ⟨kind, signer, request, region, serviceName⟩
  cases kind <;> rfl

variable {E : Externals} {s : Statics} {call : SignCall} {x : SignInput}

/-- A call whose selection throws passes the exception on before it touches the
request or calls the V4 signer. -/
theorem perform_of_threw {e : BoltError}
    (hselect : (selectBoltEndpoints E s.config call.request.method x.select).result = .error e) :
    call.perform E s x =
      { statics :=
          { s with
            config := (selectBoltEndpoints E s.config call.request.method x.select).config }
        request := call.request
        refresh := (selectBoltEndpoints E s.config call.request.method x.select).refresh
        v4Call := none
        v4Result := none
        result := .error e } := by
  rw [perform_eq_signVia]
  simp [signVia, hselect]

/-- A call whose endpoint fetch throws throws too and changes nothing. -/
theorem perform_of_fetchThrows (call : SignCall) (h : FetchThrows E s.config x.select) :
    ∃ e, (call.perform E s x).statics = s ∧ (call.perform E s x).request = call.request ∧
      (call.perform E s x).result = .error e := by
  rcases selectBoltEndpoints_of_fetchThrows call.request.method h with ⟨hconfig, e, hresult⟩
  refine ⟨e, ?_⟩
  rw [perform_of_threw hresult, hconfig]
  exact ⟨rfl, rfl, rfl⟩

/-- A call leaves the configuration of its selection, whether it throws or not. -/
theorem perform_config (E : Externals) (s : Statics) (call : SignCall) (x : SignInput) :
    (call.perform E s x).statics.config =
      (selectBoltEndpoints E s.config call.request.method x.select).config := by
  cases hselect : (selectBoltEndpoints E s.config call.request.method x.select).result with
  | error e => rw [perform_of_threw hselect]
  | ok e =>
      rw [perform_eq_signVia]
      simp [signVia, hselect]

/-- A call makes the refresh of its selection, whether it throws or not. -/
theorem perform_refresh (E : Externals) (s : Statics) (call : SignCall) (x : SignInput) :
    (call.perform E s x).refresh =
      (selectBoltEndpoints E s.config call.request.method x.select).refresh := by
  cases hselect : (selectBoltEndpoints E s.config call.request.method x.select).result with
  | error e => rw [perform_of_threw hselect]
  | ok e =>
      rw [perform_eq_signVia]
      simp [signVia, hselect]

/-- A call that returns has not thrown. -/
theorem not_fetchThrows_of_result {b : Bool} (h : (call.perform E s x).result = .ok b) :
    ¬FetchThrows E s.config x.select := by
  intro hthrows
  rcases perform_of_fetchThrows call hthrows with ⟨e, -, -, hresult⟩
  rw [h] at hresult
  cases hresult

section Selected

variable {e : Uri}
  (hselect : (selectBoltEndpoints E s.config call.request.method x.select).result = .ok e)
include hselect

/-- A call that has an endpoint selected transplants the V4 signer's headers and
reports success. -/
theorem perform_of_selected :
    call.perform E s x =
      let config := s.config.afterRefreshCheck E x.select
      let boltUri := call.request.uri.setAuthority e.authority
      let signed := call.v4Sign x (call.headRequest E s x)
      let transplant := signBoltRequest { s with config := config } call.request
        signed.2.headers boltUri (getRandomString x.prefixRand)
      { statics := transplant.1
        request := transplant.2.1
        refresh := (selectBoltEndpoints E s.config call.request.method x.select).refresh
        v4Call := some (call.v4Call (call.headRequest E s x))
        v4Result := some signed.1
        result := .ok true } := by
  rw [perform_eq_signVia]
  simp [signVia, hselect, SignCall.headRequest, SignCall.v4Sign, selectBoltEndpoints_config_eq]

/-- The request is readdressed by its authority alone. -/
theorem perform_uri :
    (call.perform E s x).request.uri = call.request.uri.setAuthority e.authority := by
  simp [perform_of_selected hselect]

theorem perform_statics :
    (call.perform E s x).statics =
      { config := s.config.afterRefreshCheck E x.select
        selectedBoltEndpoint := call.request.uri.setAuthority e.authority } := by
  simp [perform_of_selected hselect]

theorem perform_result : (call.perform E s x).result = .ok true := by
  simp [perform_of_selected hselect]

theorem perform_v4Result :
    (call.perform E s x).v4Result = some (call.v4Sign x (call.headRequest E s x)).1 := by
  simp [perform_of_selected hselect]

theorem perform_v4Call :
    (call.perform E s x).v4Call = some (call.v4Call (call.headRequest E s x)) := by
  simp [perform_of_selected hselect]

theorem perform_head : (call.perform E s x).head = some (call.headRequest E s x) := by
  rw [SignOutcome.head, perform_v4Call hselect]
  rfl

end Selected

/-! ## Sample inputs -/

/-- The static members of a process started in the sample environment. -/
def sampleStatics : Statics := Statics.initial sampleExternals sampleEnv 0

/-- A call for a request with the given method and address. -/
def sampleCall (kind : SignKind) (method : HttpMethod) (url : String) : SignCall :=
  .withDefaults kind (.newDefault "s3" "us-east-1")
    (standardHttpRequest (referenceParseUri url) method)

/-- A signing at a given time, with every address giving the same response. -/
def sampleSignInput (now : Time) (response : Response) (v4 : V4Signing) : SignInput where
  select := sampleInput now response
  prefixRand := fun i => 7 * i
  v4 := v4

end BoltClient
