import BoltClient.Application
import BoltClient.Signer.Surrogate
import BoltClient.Signer.Transplant

/-!
# What is signed for a call

The signature a request carries is that of a surrogate request.  This file follows
the calls of an application down to it: every client forces path-style addresses
on its endpoint provider, so the bucket stands in front in the path of a request,
where the signer looks for it, and nothing else of the call is looked at.

Main results:

- Theorem {lit}`Reachable.forcesPathStyle`: in every reachable state the endpoint provider
  of a client forces path-style addresses.
- Theorem {lit}`make_pathSegments`: where the requests of the operations go below
  the base path of the provider.
- Theorem {lit}`call_signs_surrogate`: the whole request signed for a call, from
  region, bucket, token and prefix.

Current gaps:

- Buckets that are resolved elsewhere than in the path (ARNs and the aliases of
  access points) are not described.
-/

namespace BoltClient

open BoltClient.Library.Runs
open BoltClient.Library.Cells
open BoltClient.Library.Pieces
open BoltClient.Library.UrlText

variable {Provider : Type*}

/-! ## Path-style addresses -/

/-- The name of a bucket proper: no ARN, and no alias of an access point or of a
directory bucket, which end in {lit}`-s3`. -/
def PlainBucket (bucket : String) : Prop :=
  bucket ≠ "" ∧ (∀ c ∈ bucket.toList, c.isAlphanum ∨ c ∈ ['-', '.', '_']) ∧
    ¬ "-s3".toList <:+ bucket.toList

/-- With {lit}`ForcePathStyle` set a provider resolves a plain bucket to an address
that names it behind the base path, and no bucket to the base path alone.  The
base path is that of an overridden endpoint. -/
structure ResolvesPathStyle (P : ProviderLibrary Provider) (forcePathStyle : Provider → Bool)
    (basePath : Provider → List String) : Prop where
  forcePathStyle_set : ∀ provider value,
    forcePathStyle (P.setForcePathStyle provider value) = value
  forcePathStyle_override : ∀ provider endpoint,
    forcePathStyle (P.overrideEndpoint provider endpoint) = forcePathStyle provider
  pathSegments : ∀ provider params endpoint, forcePathStyle provider = true →
    (∀ bucket, params.lookup "Bucket" = some bucket → PlainBucket bucket) →
    P.resolveEndpoint provider params = .ok endpoint →
    endpoint.uri.pathSegments = basePath provider ++ (params.lookup "Bucket").toList

variable {A : AwsSdk Provider} {app : Application Provider} {forcePathStyle : Provider → Bool}
  {basePath : Provider → List String}

/-- The endpoint provider of every client forces path-style addresses. -/
def ForcesPathStyle (forcePathStyle : Provider → Bool) (app : Application Provider) : Prop :=
  ∀ client object provider, app.clients client = some object →
    object.endpointProvider = some provider → forcePathStyle (app.providers provider) = true

/-- No effect on a provider lifts the forcing of path-style addresses. -/
theorem apply_forcePathStyle (hstyle : ResolvesPathStyle A.providers forcePathStyle basePath)
    (provider : Provider) (e : ProviderEffect) (hforced : forcePathStyle provider = true) :
    forcePathStyle (A.providers.apply provider e) = true := by
  cases e with
  | init configuration => exact hstyle.forcePathStyle_set _ _
  | override endpoint => rw [← hforced]; exact hstyle.forcePathStyle_override _ _

/-- Every step keeps path-style addresses forced. -/
theorem applicationStep_forcesPathStyle
    (hstyle : ResolvesPathStyle A.providers forcePathStyle basePath) (op : ApplicationOp)
    (hforced : ForcesPathStyle forcePathStyle app) :
    ForcesPathStyle forcePathStyle (applicationStep A app op) := by
  intro client object provider hclient hprovider
  have hkept : ∀ client object, app.clients client = some object →
      object.endpointProvider = some provider →
      forcePathStyle ((applicationStep A app op).providers provider) = true := by
    intro client object hclient hprovider
    exact (providers_actsOnCells A).read_step_preserved (apply_forcePathStyle hstyle) op
      (hforced client object provider hclient hprovider)
  cases op with
  | construct client' construction endpointProvider answers =>
      by_cases hsame : client = client'
      · subst hsame
        obtain rfl : _ = object := by simpa [applicationStep] using hclient
        obtain rfl : endpointProvider = some provider := hprovider
        rw [(providers_actsOnCells A).read_step_singleton
          (e := .init construction.configuration) rfl]
        exact hstyle.forcePathStyle_set _ _
      · refine hkept client object ?_ hprovider
        simpa [applicationStep, Function.update_of_ne hsame] using hclient
  | config op => exact hkept client object hclient hprovider
  | overrideEndpoint client' endpoint => exact hkept client object hclient hprovider
  | call client' id call x => exact hkept client object hclient hprovider
  | presign client' id bucket key method headers expiration x =>
      exact hkept client object hclient hprovider
  | send id => exact hkept client object hclient hprovider

/-- In every reachable state the endpoint provider of a client forces path-style
addresses. -/
theorem Application.Reachable.forcesPathStyle
    (hstyle : ResolvesPathStyle A.providers forcePathStyle basePath)
    (hreach : app.Reachable A) : ForcesPathStyle forcePathStyle app := by
  rcases hreach with ⟨env, start, providers, ops, rfl⟩
  refine run_invariant (ForcesPathStyle forcePathStyle) (fun _ => True) ?_ ?_ fun _ _ => trivial
  · intro app op _ hforced
    exact applicationStep_forcesPathStyle hstyle op hforced
  · intro client object provider hclient _
    cases hclient

/-! ## Where requests go below the base path -/

/-- The bucket a call passes to its endpoint provider. -/
def OperationCall.bucket : OperationCall → Option String
  | .s3Operation _ request => request.endpointContextParams.lookup "Bucket"
  | .listBuckets => none
  | .writeGetObjectResponse request => request.endpointContextParams.lookup "Bucket"

/-- What a call puts behind the bucket. -/
def OperationCall.keySegments : OperationCall → List String
  | .s3Operation operation request => operation.keySegments request
  | .listBuckets => []
  | .writeGetObjectResponse _ => ["WriteGetObjectResponse"]

/-- The segments a call puts behind the base path of its endpoint. -/
def OperationCall.segments (call : OperationCall) : List String :=
  call.bucket.toList ++ call.keySegments

/-- Every request an operation makes goes to the segments of its call, behind the
base path of the provider. -/
theorem make_pathSegments (hstyle : ResolvesPathStyle A.providers forcePathStyle basePath)
    (hbuilds : BuildsRequests A.requests) {provider : Provider}
    (hforced : forcePathStyle provider = true) {call : OperationCall} {made : MakeRequestCall}
    (hplain : ∀ bucket, call.bucket = some bucket → PlainBucket bucket)
    (hmade : call.make A.requests (some (A.providers.resolveEndpoint provider)) = .ok made) :
    made.endpoint.uri.pathSegments = basePath provider ++ call.segments := by
  cases call with
  | s3Operation operation request =>
      have hcall : operation.call A.requests (some (A.providers.resolveEndpoint provider))
          request = .ok made := hmade
      rcases S3Operation.call_eq_ok_iff.mp hcall with
        ⟨resolveEndpoint, endpoint, hprovider, -, hresolve, rfl⟩
      cases hprovider
      have haddress :=
        (address_spec hbuilds.toAddsPathSegments operation request endpoint.uri).2.2.2.1
      rw [hstyle.pathSegments provider _ endpoint hforced hplain hresolve,
        List.append_assoc] at haddress
      exact haddress
  | listBuckets =>
      cases hresolve : A.providers.resolveEndpoint provider [] with
      | error message => simp [OperationCall.make, listBuckets, hresolve] at hmade
      | ok endpoint =>
          obtain rfl : _ = made := by
            simpa [OperationCall.make, listBuckets, hresolve] using hmade
          exact hstyle.pathSegments provider [] endpoint hforced hplain hresolve
  | writeGetObjectResponse request =>
      simp only [OperationCall.make, writeGetObjectResponse] at hmade
      split at hmade
      · cases hmade
      split at hmade
      · cases hmade
      split at hmade
      · cases hmade
      next endpoint hresolve =>
        split at hmade
        · cases hmade
        next uri hprefixed =>
          obtain rfl := Except.ok.inj hmade
          rcases hbuilds.authority_only _ _ _ hprefixed with ⟨authority, rfl⟩
          have hadds := hbuilds.pathSegments (endpoint.uri.setAuthority authority)
            "/WriteGetObjectResponse"
          have hpieces : pieces '/' "/WriteGetObjectResponse".toList =
              ["WriteGetObjectResponse".toList] := by
            decide
          have hpath := hstyle.pathSegments provider _ endpoint hforced hplain hresolve
          simp only [hadds, hpieces, OperationCall.segments, OperationCall.bucket,
            OperationCall.keySegments, ← List.append_assoc, ← hpath]
          simp [Uri.pathSegments]

/-! ## The request that is signed -/

/-- The bucket of the surrogate request: the configured one, or else the first
segment. -/
def BoltConfig.surrogateBucket (c : BoltConfig) (segments : List String) : String :=
  if c.authBucket ≠ "" then c.authBucket else segments.headD "n-auth-dummy"

theorem sourceBucket_eq_surrogateBucket (c : BoltConfig) (uri : Uri) :
    sourceBucket c uri.path = c.surrogateBucket uri.pathSegments := by
  unfold sourceBucket BoltConfig.surrogateBucket Uri.pathSegments
  rw [splitString_eq_pieces]
  split
  · rfl
  · cases pieces '/' uri.path.toList <;> rfl

/-- The HEAD request for the object under a prefix in a bucket, with a security
token or without. -/
def surrogateRequest (region bucket : String) (token : Option String) (authPrefix : String) :
    HttpRequest where
  uri :=
    { scheme := .https
      authority := "s3." ++ region ++ ".amazonaws.com"
      port := httpsDefaultPort
      path := pathText [bucket, authPrefix, "auth"]
      queryString := "" }
  method := .httpHead
  headers := fun key =>
    if key = "x-amz-content-sha256" then
      some "e3b0c44298fc1c149afbf4c8996fb92427ae41e4649b934ca495991b7852b855"
    else if key = "x-amz-security-token" then token
    else none

/-- Beside token and content hash the surrogate request has no headers. -/
theorem createBoltHeadRequest_headers (E : Externals) (c : BoltConfig) (request : HttpRequest)
    (authPrefix key : String) :
    (createBoltHeadRequest E c request authPrefix).headers key =
      if key = "x-amz-content-sha256" then
        some "e3b0c44298fc1c149afbf4c8996fb92427ae41e4649b934ca495991b7852b855"
      else if key = "x-amz-security-token" then request.headers "x-amz-security-token"
      else none := by
  have hhash : headerKey "x-amz-content-sha256" = "x-amz-content-sha256" := by decide
  have htoken : headerKey "x-amz-security-token" = "x-amz-security-token" := by decide
  split
  next h =>
    subst h
    exact HttpRequest.setHeaderValue_get_self _ _ hhash
  next hne =>
    split
    next h =>
      subst h
      exact createBoltHeadRequest_token c request authPrefix
    next hne' =>
      unfold createBoltHeadRequest
      rw [HttpRequest.setHeaderValue_get_of_ne _ _ (by rwa [hhash]), copyHeader_eq_writeHeader,
        writeHeader_of_ne _ (by rwa [htoken])]
      rfl

/-- The request the signer creates is that request, whole. -/
theorem createBoltHeadRequest_eq_surrogateRequest {E : Externals} (hparse : ParsesUris E)
    {c : BoltConfig} (hregion : Avoids ['/', '?', ':'] c.region) {request : HttpRequest}
    (hbucket : Avoids ['/', '?'] (c.surrogateBucket request.uri.pathSegments))
    {authPrefix : String} (hletters : IsAuthPrefix authPrefix) :
    createBoltHeadRequest E c request authPrefix =
      surrogateRequest c.region (c.surrogateBucket request.uri.pathSegments)
        (request.headers "x-amz-security-token") authPrefix := by
  have hext : ∀ r r' : HttpRequest, r.uri = r'.uri → r.method = r'.method →
      r.headers = r'.headers → r = r' := by
    rintro ⟨uri, method, headers⟩ ⟨uri', method', headers'⟩ rfl rfl rfl
    rfl
  have hsource := sourceBucket_eq_surrogateBucket c request.uri
  have hne : c.surrogateBucket request.uri.pathSegments ≠ "" := by
    rw [← hsource]
    exact sourceBucket_ne_empty c request.uri.path
  apply hext
  · exact createBoltHeadRequest_uri_eq hparse hregion hsource ⟨hne, hbucket⟩ hletters.avoids
  · simp [createBoltHeadRequest, copyHeader_eq_writeHeader, HttpRequest.setHeaderValue_method,
      writeHeader_method, standardHttpRequest, surrogateRequest]
  · funext key
    exact createBoltHeadRequest_headers E c request authPrefix key

/-- The request signed for a call is the surrogate request of the configured
bucket, or else of the first segment its request goes to: that of an overridden
endpoint, if it has a path, or the bucket of the call. -/
def SignsSurrogate (A : AwsSdk Provider) (basePath : Provider → List String)
    (app : Application Provider) (client : Nat) (call : OperationCall) (signCall : SignCall)
    (x : SignInput) : Prop :=
  let s := app.process.statics
  ∃ object provider bucket, app.clients client = some object ∧
    object.endpointProvider = some provider ∧
    bucket = s.config.surrogateBucket (basePath (app.providers provider) ++ call.segments) ∧
    (Avoids ['/', '?'] bucket →
      (signCall.perform A.externals s x).head =
        some (surrogateRequest s.config.region bucket
          (signCall.request.headers "x-amz-security-token") (getRandomString x.prefixRand)))

/-- In every reachable state, whatever operation is called with whatever key, of
the call only its bucket and its security token go into the request that is
signed for it, provided the bucket is plain and the configured region can be read
back from a host. -/
theorem call_signs_surrogate (hstyle : ResolvesPathStyle A.providers forcePathStyle basePath)
    (hbuilds : BuildsRequests A.requests) (hparse : ParsesUris A.externals)
    (hreach : app.Reachable A) {client id : Nat} {call : OperationCall} {x : SignInput}
    {signCall : SignCall} {e : Uri}
    (hplain : ∀ bucket, call.bucket = some bucket → PlainBucket bucket)
    (hsigning : app.signing A (.call client id call x) = some (id, signCall, x))
    (hselect : (selectBoltEndpoints A.externals app.process.statics.config
      signCall.request.method x.select).result = .ok e)
    (hregion : Avoids ['/', '?', ':'] app.process.statics.config.region) :
    SignsSurrogate A basePath app client call signCall x := by
  rcases signing_call hsigning with
    ⟨object, provider, made, hclient, hprovider, hmade, rfl, -, -⟩
  have hforced := hreach.forcesPathStyle hstyle client object provider hclient hprovider
  have hsegments := make_pathSegments hstyle hbuilds hforced hplain hmade
  -- Parameters added to the query leave the path alone.
  have hpath : (made.signCall A.requests object.signer).request.uri.pathSegments =
      made.endpoint.uri.pathSegments := by
    rcases hbuilds.uri made.request made.endpoint.uri made.method with ⟨parameters, huri⟩
    simp [MakeRequestCall.signCall, huri, Uri.pathSegments, Uri.setQueryString]
  refine ⟨object, provider, _, hclient, hprovider, rfl, ?_⟩
  rw [← hsegments, ← hpath]
  intro hbucket
  rw [perform_head hselect, headRequest_eq,
    createBoltHeadRequest_eq_surrogateRequest hparse hregion hbucket
      (getRandomString_isAuthPrefix _)]

/-! ## A call in the sample environment -/

/-- The reference provider behaves as documented. -/
theorem referenceProviderLibrary_resolves :
    ResolvesPathStyle referenceProviderLibrary ReferenceProvider.forcePathStyle
      fun provider => provider.baseUri.pathSegments where
  forcePathStyle_set := fun _ _ => rfl
  forcePathStyle_override := fun _ _ => rfl
  pathSegments := by
    intro provider params endpoint hforced hplain hresolve
    obtain rfl := Except.ok.inj hresolve
    cases hbucket : params.lookup "Bucket" with
    | none => simp
    | some bucket =>
        rcases hplain bucket hbucket with ⟨hne, hletters, -⟩
        have hslash : '/' ∉ bucket.toList := by
          intro hmem
          rcases hletters '/' hmem with h | h <;> exact absurd h (by decide)
        have hadds := referenceRequestLibrary_builds.pathSegments provider.baseUri bucket
        rw [pieces_of_free hslash] at hadds
        simp only [hforced, if_true]
        refine hadds.trans ?_
        simp [hne]

/-- A call of the sample application that reads an object. -/
theorem sample_call_signs_surrogate :
    ∃ signCall, SignsSurrogate sampleAwsSdk (fun provider => provider.baseUri.pathSegments)
      (applicationRun sampleAwsSdk
        (Application.initial sampleExternals sampleEnv 0 sampleProviders) [sampleConstruct])
      0 sampleObjectCall signCall (sampleSignInput 1000 (sampleResponse 0) sampleV4) :=
  ⟨_, call_signs_surrogate referenceProviderLibrary_resolves referenceRequestLibrary_builds
    (referenceParseUri_parses _) ⟨_, _, _, _, rfl⟩
    (fun bucket hbucket => by cases hbucket; exact ⟨by decide, by decide, by decide⟩)
    (rfl : (applicationRun sampleAwsSdk
      (Application.initial sampleExternals sampleEnv 0 sampleProviders)
      [sampleConstruct]).signing sampleAwsSdk (.call 0 1 sampleObjectCall _) = _)
    rfl (by decide)⟩

end BoltClient
