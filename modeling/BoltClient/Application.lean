import BoltClient.Client.Constructors
import BoltClient.Client.Operations
import BoltClient.Client.Presign
import BoltClient.Process
import BoltClient.Library.Cells

/-!
# Applications: clients, endpoint providers and the process

An application constructs clients and calls their operations, from any number of
threads.  Clients hold shared pointers to endpoint providers, which are objects
with a state of their own: constructing a client initialises its provider, and
{lit}`OverrideEndpoint` changes it, for every client that points to it.  Operations
that get past their checks have their requests signed, and a signed request is
sent in a later step.

Main results:

- Theorem {lit}`run_process`: on the process, a run of an application is a run of
  {lit}`Process`, with the signings of the calls that made a request.
- Theorem {lit}`providers_actsOnCells`: the provider objects are cells, changed by
  the constructions and overrides of the clients that point to them.
- Theorem {lit}`presign_generatePresignedUrl`: the signing of a presigned URL is the
  one {lit}`GeneratePresignedUrl` makes.

Current gaps:

- Clients are not destroyed, and {lit}`accessEndpointProvider`, through which a
  provider can be replaced, is left out.
- A request is signed once; retries belong to the SDK.
-/

namespace BoltClient

open BoltClient.Library.Runs
open BoltClient.Library.Cells

/-! ## The SDK under an application -/

/-- {lit}`S3EndpointProviderBase`, as functions of the state of a provider object. -/
structure ProviderLibrary (Provider : Type*) where
  initBuiltInParameters : Provider → S3ClientConfiguration → Provider
  /-- {lit}`AccessClientContextParameters().SetForcePathStyle`. -/
  setForcePathStyle : Provider → Bool → Provider
  overrideEndpoint : Provider → String → Provider
  resolveEndpoint : Provider → ResolveEndpoint

/-- The libraries an application is linked with. -/
structure AwsSdk (Provider : Type*) where
  externals : Externals
  requests : RequestLibrary
  providers : ProviderLibrary Provider
  computeSignerRegion : String → String

/-! ## Clients -/

/-- A {lit}`BoltS3Client` object: its signer and the address of the provider object
it points to, if any. -/
structure ClientObject where
  signer : BoltSigner
  endpointProvider : Option Nat

/-- The {lit}`m_clientConfiguration` a constructor leaves. -/
def Construction.configuration (k : Construction) : S3ClientConfiguration where
  region := k.region
  payloadSigningPolicy := k.payloadSigningPolicy

/-- The signer a constructor makes. -/
def Construction.signer (computeSignerRegion : String → String) (k : Construction) :
    BoltSigner :=
  .new boltServiceName (computeSignerRegion k.region) k.payloadSigningPolicy k.escapesPath
    .sigv4

/-- A call of an operation of the client. -/
inductive OperationCall where
  | s3Operation (operation : S3Operation) (request : S3Request)
  | listBuckets
  | writeGetObjectResponse (request : S3Request)

/-- The request an operation makes, or the error it returns. -/
def OperationCall.make (L : RequestLibrary) (endpointProvider : Option ResolveEndpoint) :
    OperationCall → Except OperationError MakeRequestCall
  | .s3Operation operation request => operation.call L endpointProvider request
  | .listBuckets => BoltClient.listBuckets endpointProvider
  | .writeGetObjectResponse request =>
      BoltClient.writeGetObjectResponse L endpointProvider request

/-- What {lit}`MakeRequest` asks the signer for: it builds a request for the
endpoint and passes region and name of the endpoint's authentication scheme. -/
def MakeRequestCall.signCall (L : RequestLibrary) (signer : BoltSigner)
    (made : MakeRequestCall) : SignCall where
  kind := .signRequest (L.signBody made.request)
  signer := signer
  request := L.buildHttpRequest made.request made.endpoint.uri made.method
  region := made.endpoint.signingRegion
  serviceName := made.endpoint.signingName

/-! ## Applications and their steps -/

/-- The state of an application: the process, the clients, and the provider
objects. -/
structure Application (Provider : Type*) where
  process : Process
  clients : Nat → Option ClientObject
  providers : Nat → Provider

/-- An application right after its static initialisers: no client has been
constructed yet. -/
def Application.initial {Provider : Type*} (E : Externals) (env : String → Option String)
    (now : Time) (providers : Nat → Provider) : Application Provider where
  process := Process.initial E env now
  clients := fun _ => none
  providers := providers

/-- Steps of an application.  Calls and presigned URLs come with the identity of
the request they make. -/
inductive ApplicationOp where
  | config (op : ConfigOp)
  | construct (client : Nat) (construction : Construction) (endpointProvider : Option Nat)
      (answers : InstanceMetadata)
  | overrideEndpoint (client : Nat) (endpoint : String)
  | call (client id : Nat) (call : OperationCall) (x : SignInput)
  | presign (client id : Nat) (bucket key : String) (method : HttpMethod)
      (customizedHeaders : CustomizedHeaders) (expirationInSeconds : Nat) (x : SignInput)
  | send (id : Nat)

section Steps

variable {Provider : Type*} (A : AwsSdk Provider) (app : Application Provider)

/-- The endpoint provider a client points to, as it is now. -/
def Application.resolver (client : ClientObject) : Option ResolveEndpoint :=
  client.endpointProvider.map fun provider => A.providers.resolveEndpoint (app.providers provider)

/-- The request handed to {lit}`PresignRequest` for a presigned URL, if the bucket
is resolved. -/
def Application.presignCall (client : ClientObject) (bucket key : String) (method : HttpMethod)
    (customizedHeaders : CustomizedHeaders) (expirationInSeconds : Nat) :
    Option SignCall :=
  (app.resolver A client).bind fun resolveEndpoint =>
    match resolveEndpoint [("Bucket", bucket)] with
    | .error _ => none
    | .ok endpoint =>
        let url := objectUrl A.externals (A.externals.uriString endpoint.uri) key
        let request := requestToPresign A.externals url method customizedHeaders
        some (BoltClient.presignCall client.signer request endpoint.signingRegion
          endpoint.signingName (BitVec.ofNat 64 expirationInSeconds).toInt)

/-- The signing a step asks for: the identity of the request, the call of the
signer, and its input. -/
def Application.signing : ApplicationOp → Option (Nat × SignCall × SignInput)
  | .call client id call x =>
      (app.clients client).bind fun client =>
        match call.make A.requests (app.resolver A client) with
        | .error _ => none
        | .ok made => some (id, made.signCall A.requests client.signer, x)
  | .presign client id bucket key method customizedHeaders expiration x =>
      (app.clients client).bind fun client =>
        (app.presignCall A client bucket key method customizedHeaders expiration).map
          fun call => (id, call, x)
  | _ => none

/-- What a step does to the process.  A construction resets the configuration, and
a call that returns an error does nothing. -/
def Application.processOps (op : ApplicationOp) : List ProcessOp :=
  match op with
  | .config op => [.config op]
  | .construct _ _ _ answers => [.config (.reset answers)]
  | .overrideEndpoint _ _ => []
  | .send id => [.send id]
  | op => ((app.signing A op).map fun (id, call, x) => .sign id call x).toList

/-- What is done to a provider object: {lit}`init` of a client, and
{lit}`OverrideEndpoint`. -/
inductive ProviderEffect where
  | init (configuration : S3ClientConfiguration)
  | override (endpoint : String)

/-- The provider object after an effect. -/
def ProviderLibrary.apply (P : ProviderLibrary Provider) (provider : Provider) :
    ProviderEffect → Provider
  | .init configuration =>
      P.setForcePathStyle (P.initBuiltInParameters provider configuration) true
  | .override endpoint => P.overrideEndpoint provider endpoint

/-- The effects of a step on the provider objects.  A client without a provider
has none. -/
def Application.providerEffects : ApplicationOp → List (Nat × ProviderEffect)
  | .construct _ construction endpointProvider _ =>
      (endpointProvider.map fun provider => (provider, .init construction.configuration)).toList
  | .overrideEndpoint client endpoint =>
      (((app.clients client).bind ClientObject.endpointProvider).map fun provider =>
        (provider, .override endpoint)).toList
  | _ => []

/-- The application after one step. -/
def applicationStep (op : ApplicationOp) : Application Provider where
  process := processRun A.externals app.process (app.processOps A op)
  clients :=
    match op with
    | .construct client construction endpointProvider _ =>
        Function.update app.clients client
          (some ⟨construction.signer A.computeSignerRegion, endpointProvider⟩)
    | _ => app.clients
  providers := fun provider =>
    (effectsAt provider (app.providerEffects op)).foldl A.providers.apply
      (app.providers provider)

end Steps

/-- The application after a run. -/
abbrev applicationRun {Provider : Type*} (A : AwsSdk Provider) (app : Application Provider)
    (ops : List ApplicationOp) : Application Provider :=
  run (applicationStep A) app ops

variable {Provider : Type*} {A : AwsSdk Provider} {app : Application Provider}

/-- The application is reached by some run from its start. -/
def Application.Reachable (A : AwsSdk Provider) (app : Application Provider) : Prop :=
  ∃ env start providers ops,
    app = applicationRun A (Application.initial A.externals env start providers) ops

/-- A call without an endpoint provider returns an error. -/
theorem make_provider {L : RequestLibrary} {endpointProvider : Option ResolveEndpoint}
    {call : OperationCall} {made : MakeRequestCall}
    (hmade : call.make L endpointProvider = .ok made) :
    ∃ resolveEndpoint, endpointProvider = some resolveEndpoint := by
  cases endpointProvider with
  | some resolveEndpoint => exact ⟨resolveEndpoint, rfl⟩
  | none => cases call <;> cases hmade

/-- A call asks for the signing of the request its operation makes. -/
theorem signing_call {client id id' : Nat} {call : OperationCall} {x x' : SignInput}
    {signCall : SignCall}
    (hsigning : app.signing A (.call client id call x) = some (id', signCall, x')) :
    ∃ object provider made, app.clients client = some object ∧
      object.endpointProvider = some provider ∧
      call.make A.requests (some (A.providers.resolveEndpoint (app.providers provider))) =
        .ok made ∧
      signCall = made.signCall A.requests object.signer ∧ id' = id ∧ x' = x := by
  cases hclient : app.clients client with
  | none => simp [Application.signing, hclient] at hsigning
  | some object =>
      simp only [Application.signing, hclient, Option.bind_some] at hsigning
      split at hsigning
      · cases hsigning
      next made hmade =>
        cases hsigning
        rcases make_provider hmade with ⟨resolveEndpoint, hresolver⟩
        rw [hresolver] at hmade
        rcases Option.map_eq_some_iff.mp hresolver with ⟨provider, hprovider, rfl⟩
        exact ⟨object, provider, made, rfl, hprovider, hmade, rfl, rfl, rfl⟩

/-! ## The parts of an application along a run -/

/-- The steps of the process a run of an application makes. -/
def processOpsOf (A : AwsSdk Provider) (app : Application Provider)
    (ops : List ApplicationOp) : List ProcessOp :=
  collect (applicationStep A) (Application.processOps A) app ops

/-- On the process, a run of an application is the run of the steps it makes
there. -/
theorem run_process (A : AwsSdk Provider) (app : Application Provider)
    (ops : List ApplicationOp) :
    (applicationRun A app ops).process =
      processRun A.externals app.process (processOpsOf A app ops) :=
  run_simulation Application.process (fun _ _ => rfl) app ops

theorem processOpsOf_concat (ops : List ApplicationOp) (op : ApplicationOp) :
    processOpsOf A app (ops ++ [op]) =
      processOpsOf A app ops ++ (applicationRun A app ops).processOps A op :=
  collect_concat _ _ _ _ _

/-- Each provider object is a cell. -/
theorem providers_actsOnCells (A : AwsSdk Provider) :
    ActsOnCells (applicationStep A) Application.providers A.providers.apply
      Application.providerEffects :=
  fun _ _ _ => rfl

/-- The signer is the one the constructed client holds. -/
theorem Construction.signer_eq_client (computeSignerRegion : String → String)
    (s3EndpointProvider : EndpointProvider) (k : Construction) :
    k.signer computeSignerRegion = (k.client computeSignerRegion s3EndpointProvider).signer :=
  (k.signer_eq computeSignerRegion s3EndpointProvider).symm

/-! ## Presigned URLs -/

/-- A client as {lit}`GeneratePresignedUrl` finds it. -/
def Application.boltS3Client (A : AwsSdk Provider) (app : Application Provider)
    (client : ClientObject) : BoltS3Client where
  signer := client.signer
  endpointProvider := (app.resolver A client).map fun resolveEndpoint bucket =>
    (resolveEndpoint [("Bucket", bucket)]).map fun endpoint =>
      A.externals.uriString endpoint.uri

/-- A presigned URL is made by the signing of its step, when the bucket is
resolved, and is the empty string without any signing otherwise. -/
theorem presign_generatePresignedUrl (s : Statics) (client : ClientObject)
    (bucket key : String) (method : HttpMethod) (customizedHeaders : CustomizedHeaders)
    (expiration : Nat) (x : SignInput) :
    (∃ call, app.presignCall A client bucket key method customizedHeaders expiration = some call ∧
      generatePresignedUrl A.externals s (app.boltS3Client A client) bucket key method
          call.region call.serviceName customizedHeaders expiration x =
        ((call.perform A.externals s x).statics,
          (call.perform A.externals s x).result.map fun ok =>
            if ok then A.externals.uriString (call.perform A.externals s x).request.uri
            else "")) ∨
    (app.presignCall A client bucket key method customizedHeaders expiration = none ∧
      ∀ region serviceName,
        generatePresignedUrl A.externals s (app.boltS3Client A client) bucket key method
          region serviceName customizedHeaders expiration x = (s, .ok "")) := by
  unfold Application.presignCall generatePresignedUrl Application.boltS3Client
  cases app.resolver A client with
  | none => exact Or.inr ⟨rfl, fun _ _ => rfl⟩
  | some resolveEndpoint =>
      cases hresolve : resolveEndpoint [("Bucket", bucket)] with
      | error message =>
          exact Or.inr ⟨by simp [hresolve], fun _ _ => by simp [hresolve, Except.map]⟩
      | ok endpoint =>
          refine Or.inl ⟨_, by simp only [Option.bind_some, hresolve]; rfl, ?_⟩
          simp only [Option.map_some, hresolve, Except.map]
          rfl

/-! ## Reference implementation -/

/-- A provider object: its built-in parameters and client context parameters. -/
structure ReferenceProvider where
  region : String
  endpoint : Option String
  forcePathStyle : Bool
deriving DecidableEq, Repr

/-- The base address of a provider: the overridden endpoint, or that of S3. -/
def ReferenceProvider.baseUri (provider : ReferenceProvider) : Uri :=
  referenceParseUri
    (provider.endpoint.getD ("https://s3." ++ provider.region ++ ".amazonaws.com"))

/-- A provider that puts the bucket in the path when it must, and in front of the
authority otherwise. -/
def referenceProviderLibrary : ProviderLibrary ReferenceProvider where
  initBuiltInParameters := fun provider configuration =>
    { provider with region := configuration.region }
  setForcePathStyle := fun provider value => { provider with forcePathStyle := value }
  overrideEndpoint := fun provider endpoint => { provider with endpoint := some endpoint }
  resolveEndpoint := fun provider params =>
    let uri :=
      match params.lookup "Bucket" with
      | none => provider.baseUri
      | some bucket =>
          if provider.forcePathStyle then referenceAddPathSegments provider.baseUri bucket
          else provider.baseUri.setAuthority (bucket ++ "." ++ provider.baseUri.authority)
    .ok ⟨uri, some provider.region, some "s3"⟩

/-- The reference implementations together. -/
def sampleAwsSdk : AwsSdk ReferenceProvider where
  externals := sampleExternals
  requests := referenceRequestLibrary
  providers := referenceProviderLibrary
  computeSignerRegion := id

/-- Provider objects before any client points to them. -/
def sampleProviders (_ : Nat) : ReferenceProvider := ⟨"us-east-1", none, false⟩

/-- The construction of a client. -/
def sampleConstruct : ApplicationOp :=
  .construct 0 (.ofConfiguration ⟨⟨"us-east-1"⟩, .requestDependent⟩ none) (some 0)
    ⟨"us-east-1", "use1-az1"⟩

/-- A request for an object. -/
def sampleObjectRequest (bucket key : String) : S3Request where
  hasBeenSet := fun field => field = .bucket ∨ field = .key
  key := key
  requestRoute := ""
  endpointContextParams := [("Bucket", bucket)]
  bucket_set := rfl

/-- A call that reads an object. -/
def sampleObjectCall : OperationCall :=
  .s3Operation .getObject (sampleObjectRequest "bucket" "folder/object")

end BoltClient
