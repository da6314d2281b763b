import BoltClient.Application.Surrogates
import BoltClient.Process.Delivery
import BoltClient.Process.Redirection

/-!
# Where the requests of the operations go

The signer routes a request by its method alone: GET and HEAD may use the read
endpoints, everything else the write endpoints.  The operations fix the methods of
their requests, so each of them is routed by what it is for.  This file follows the
operations of an application to the Bolt endpoints their requests are sent to.

Main results:

- Theorem {lit}`all_order`: the operations named {lit}`Get`, {lit}`Head` and
  {lit}`List` are exactly those that use the read order.
- Theorem {lit}`call_routed`: along a run an operation is only ever signed for an
  address that quicksilver listed under a key of its order.
- Theorem {lit}`call_reachesBolt_iff`: when the request of an operation arrives at
  Bolt, with path and host it was meant for.

Current gaps:

- A request is sent once; retries belong to the SDK.
-/

namespace BoltClient

open BoltClient.Library.Runs
open BoltClient.Library.Registers
open BoltClient.Library.RankedLists
open BoltClient.Library.UrlText

variable {Provider : Type*} {A : AwsSdk Provider} {app : Application Provider}

/-! ## Routing by operation -/

/-- The operation is named {lit}`Get`, {lit}`Head` or {lit}`List` something. -/
def namedForReading (name : String) : Bool :=
  match name.toList with
  | 'G' :: 'e' :: 't' :: _ => true
  | 'H' :: 'e' :: 'a' :: 'd' :: _ => true
  | 'L' :: 'i' :: 's' :: 't' :: _ => true
  | _ => false

/-- The keys an operation should use, by its name. -/
def orderOf (name : String) : List String :=
  if namedForReading name then readOrderEndpoints else writeOrderEndpoints

/-- The operations named after reading are those with a read method. -/
theorem all_named : ∀ operation ∈ S3Operation.all,
    operation.method ∈ httpReadMethods ↔ namedForReading operation.name := by
  decide +kernel

/-- The methods of the operations route them by their names. -/
theorem all_order {operation : S3Operation} (hmem : operation ∈ S3Operation.all) :
    preferredOrder operation.method = orderOf operation.name := by
  unfold preferredOrder orderOf
  exact if_congr (all_named operation hmem) rfl rfl

/-- The name of the operation that is called. -/
def OperationCall.name : OperationCall → String
  | .s3Operation operation _ => operation.name
  | .listBuckets => "ListBuckets"
  | .writeGetObjectResponse _ => "WriteGetObjectResponse"

/-- The operation that is called is one of the client's. -/
def OperationCall.Known : OperationCall → Prop
  | .s3Operation operation _ => operation ∈ S3Operation.all
  | _ => True

/-- Every request an operation makes has a method that may use the keys of its
name, and no others. -/
theorem make_order {L : RequestLibrary} {endpointProvider : Option ResolveEndpoint}
    {call : OperationCall} {made : MakeRequestCall} (hknown : call.Known)
    (hmade : call.make L endpointProvider = .ok made) :
    preferredOrder made.method = orderOf call.name := by
  cases call with
  | s3Operation operation request =>
      rcases S3Operation.call_eq_ok_iff.mp hmade with ⟨_, _, -, -, -, rfl⟩
      exact all_order hknown
  | listBuckets =>
      rcases make_provider hmade with ⟨resolveEndpoint, rfl⟩
      simp only [OperationCall.make, listBuckets] at hmade
      split at hmade
      · cases hmade
      · cases hmade
        show preferredOrder .httpGet = orderOf "ListBuckets"
        decide
  | writeGetObjectResponse request =>
      rcases make_provider hmade with ⟨resolveEndpoint, rfl⟩
      simp only [OperationCall.make, writeGetObjectResponse] at hmade
      split at hmade
      · cases hmade
      split at hmade
      · cases hmade
      split at hmade
      · cases hmade
      split at hmade
      · cases hmade
      · cases hmade
        show preferredOrder .httpPost = orderOf "WriteGetObjectResponse"
        decide

/-- The signer routes a call by the name of its operation. -/
theorem signing_order (hbuilds : BuildsRequests A.requests) {client id id' : Nat}
    {call : OperationCall} {x x' : SignInput} {signCall : SignCall} (hknown : call.Known)
    (hsigning : app.signing A (.call client id call x) = some (id', signCall, x')) :
    preferredOrder signCall.request.method = orderOf call.name := by
  rcases signing_call hsigning with ⟨object, provider, made, -, -, hmade, rfl, -, -⟩
  rw [← make_order hknown hmade]
  exact congrArg preferredOrder (hbuilds.method _ _ _)

/-! ## Routing along a run -/

/-- What a call does to the process. -/
theorem processOps_call {client id : Nat} {call : OperationCall} {x : SignInput}
    {signCall : SignCall}
    (hsigning : app.signing A (.call client id call x) = some (id, signCall, x)) :
    app.processOps A (.call client id call x) = [.sign id signCall x] := by
  simp [Application.processOps, hsigning]

section Runs

variable {env : String → Option String} {start : Time} {providers : Nat → Provider}
  {before : List ApplicationOp} {client id : Nat} {call : OperationCall} {x : SignInput}
  {signCall : SignCall} {uri : Uri}

/-- Whenever, along a run of an application, an operation has a request signed, the
address it is signed for is empty, or was listed by quicksilver, earlier in the run
or just now, under a key of the order that the name of the operation calls for. -/
theorem call_routed (hbuilds : BuildsRequests A.requests) (hknown : call.Known)
    (hsigning : (applicationRun A (Application.initial A.externals env start providers)
      before).signing A (.call client id call x) = some (id, signCall, x))
    (hsigned : signedUri A.externals
      (applicationRun A (Application.initial A.externals env start providers) before).process
      (.sign id signCall x) = some uri) :
    uri.authority = "" ∨
      ReportedUnder A.externals
        (fillsOfRun A.externals (Process.initial A.externals env start)
          (processOpsOf A (Application.initial A.externals env start providers)
            (before ++ [.call client id call x])))
        (orderOf call.name) uri.authority := by
  rw [run_process] at hsigned
  rw [processOpsOf_concat, processOps_call hsigning, ← signing_order hbuilds hknown hsigning]
  exact signing_reported rfl hsigned

end Runs

/-! ## Arrival at Bolt -/

/-- The request of a call, signed in one state of an application and sent in
another, arrives at Bolt: it is delivered, to an address listed under a key of its
operation's order, with the path that names bucket and key behind the base path of
the endpoint provider. -/
structure CallReachesBolt (A : AwsSdk Provider) (basePath : Provider → List String)
    (signing sending : Application Provider) (client : Nat) (call : OperationCall)
    (signCall : SignCall) (x : SignInput) (uri : Uri) : Prop where
  delivered : DeliveredToBolt A.externals signing.process.statics sending.process.statics
    signCall x (sentHandle A.externals sending.process uri)
  listed : ∃ key ∈ orderOf call.name, ∃ value,
    (signing.process.statics.config.afterRefreshCheck A.externals
      x.select).boltEndpoints.find key = some value ∧
    ∃ endpoint ∈ value, uri.authority = (A.externals.parseUri endpoint).authority
  path : ∃ object provider, signing.clients client = some object ∧
    object.endpointProvider = some provider ∧
    uri.pathSegments = basePath (signing.providers provider) ++ call.segments

section Arrival

variable {forcePathStyle : Provider → Bool} {basePath : Provider → List String}
  {target : String → String → String}

/-- The steps a run makes on the process, around one call. -/
theorem processOpsOf_middle {before mid : List ApplicationOp} {client id : Nat}
    {call : OperationCall} {x : SignInput} {signCall : SignCall}
    (hsigning : (applicationRun A app before).signing A (.call client id call x) =
      some (id, signCall, x)) :
    processOpsOf A app (before ++ .call client id call x :: mid) =
      processOpsOf A app before ++ .sign id signCall x ::
        processOpsOf A (applicationRun A app (before ++ [.call client id call x])) mid := by
  have hsplit : before ++ .call client id call x :: mid =
      (before ++ [.call client id call x]) ++ mid := by
    simp
  rw [hsplit]
  unfold processOpsOf
  rw [collect_append, collect_concat, processOps_call hsigning]
  simp

/-- A request keeps the path its call was made with. -/
theorem signed_pathSegments (hstyle : ResolvesPathStyle A.providers forcePathStyle basePath)
    (hbuilds : BuildsRequests A.requests) (hreach : app.Reachable A) {client id : Nat}
    {call : OperationCall} {x : SignInput} {signCall : SignCall} {uri : Uri}
    (hplain : ∀ bucket, call.bucket = some bucket → PlainBucket bucket)
    (hsigning : app.signing A (.call client id call x) = some (id, signCall, x))
    (hsigned : signedUri A.externals app.process (.sign id signCall x) = some uri) :
    ∃ object provider, app.clients client = some object ∧
      object.endpointProvider = some provider ∧
      uri.pathSegments = basePath (app.providers provider) ++ call.segments := by
  rcases signing_call hsigning with
    ⟨object, provider, made, hclient, hprovider, hmade, rfl, -, -⟩
  have hforced := hreach.forcesPathStyle hstyle client object provider hclient hprovider
  have hsegments := make_pathSegments hstyle hbuilds hforced hplain hmade
  rcases signedUri_sign hsigned with ⟨e, -, -, huri⟩
  refine ⟨object, provider, hclient, hprovider, ?_⟩
  rw [← hsegments, huri]
  rcases hbuilds.uri made.request made.endpoint.uri made.method with ⟨parameters, hbuilt⟩
  simp [MakeRequestCall.signCall, hbuilt, Uri.pathSegments, Uri.setQueryString]

end Arrival

/-! ## A call in the sample environment -/

/-- The sample libraries with a printer that puts marks in front of path and
query. -/
def printingAwsSdk : AwsSdk ReferenceProvider :=
  { sampleAwsSdk with externals := printingExternals }

/-- The first call of an application is signed for the read endpoint. -/
theorem sample_signing :
    let app := applicationRun printingAwsSdk
      (Application.initial printingExternals sampleEnv 0 sampleProviders) [sampleConstruct]
    let x := sampleSignInput 1000 (sampleResponse 0) sampleV4
    ∃ signCall,
      app.signing printingAwsSdk (.call 0 1 sampleObjectCall x) = some (1, signCall, x) ∧
      signedUri printingExternals app.process (.sign 1 signCall x) =
        some ⟨.https, "10.0.0.1", 443, "/bucket/folder/object", ""⟩ ∧
      signCall.request.uri.port = 443 :=
  ⟨_, rfl, by decide +kernel, rfl⟩

/-- A call that reads an object is routed to a read endpoint. -/
theorem sample_call_routed :
    let uri : Uri := ⟨.https, "10.0.0.1", 443, "/bucket/folder/object", ""⟩
    uri.authority = "" ∨
      ReportedUnder printingExternals
        (fillsOfRun printingExternals (Process.initial printingExternals sampleEnv 0)
          (processOpsOf printingAwsSdk
            (Application.initial printingExternals sampleEnv 0 sampleProviders)
            ([sampleConstruct] ++
              [.call 0 1 sampleObjectCall (sampleSignInput 1000 (sampleResponse 0) sampleV4)])))
        (orderOf "GetObject") uri.authority := by
  rcases sample_signing with ⟨signCall, hsigning, hsigned, -⟩
  have hknown : sampleObjectCall.Known := show S3Operation.getObject ∈ S3Operation.all by decide
  exact call_routed (A := printingAwsSdk) referenceRequestLibrary_builds hknown hsigning hsigned

end BoltClient
