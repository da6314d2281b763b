import BoltClient.Client

/-!
# What presigning leaves in the URL

The V4 presigner puts its authentication into the query string of the request
it is given.  That request is the surrogate HEAD request, and the transplant to
the caller's request copies headers only.  This file compares the query
parameters the V4 presigner adds with those of the presigned URL.

Main results:

- Theorem {lit}`presign_uri`: the presigned URI is the caller's URI with another
  authority, whatever the V4 presigner did.
- Theorem {lit}`presignContract_iff`: no call that returns meets the contract of
  a presigned URL.

Current gaps:

- Whether a server accepts the URL is not modelled.
-/

namespace BoltClient

/-- The parameter belongs to a presignature. -/
def IsAmzParameter (name : String) : Prop := "X-Amz-".toList <+: name.toList

instance : DecidablePred IsAmzParameter := fun name =>
  inferInstanceAs (Decidable ("X-Amz-".toList <+: name.toList))

/-- The presignature parameters the V4 presigner adds to the HEAD request. -/
def addedParameters (E : Externals) (s : Statics) (call : SignCall) (x : SignInput) :
    List (String × String) :=
  let headRequest := call.headRequest E s x
  let signedHead := (call.v4Sign x headRequest).2
  (E.queryParameters signedHead.uri.queryString).filter fun p =>
    IsAmzParameter p.1 ∧ p ∉ E.queryParameters headRequest.uri.queryString

section Presign

variable (E : Externals) (s : Statics) (signer : BoltSigner) (request : HttpRequest)
  (region serviceName : Option String) (x : SignInput)

/-- The call of {lit}`PresignRequest` with a given expiration. -/
def presignCall (expiration : Int) : SignCall where
  kind := .presignRequest expiration
  signer := signer
  request := request
  region := region
  serviceName := serviceName

/-- When the call reports success, every parameter the V4 presigner added is in
the query of the request, next to the original parameters. -/
def CarriesPresignature (expiration : Int) : Prop :=
  let call := presignCall signer request region serviceName expiration
  let outcome := presignRequest E s signer request region serviceName expiration x
  outcome.result = .ok true →
    (∀ p ∈ addedParameters E s call x,
      p ∈ E.queryParameters outcome.request.uri.queryString) ∧
    ∀ p ∈ E.queryParameters request.uri.queryString,
      p ∈ E.queryParameters outcome.request.uri.queryString

/-- What a presigned URI promises for every expiration: it carries the
presignature, and calls that differ in the expiration alone leave different
URIs. -/
structure PresignContract : Prop where
  carries : ∀ expiration,
    CarriesPresignature E s signer request region serviceName x expiration
  expires : ∀ expiration expiration', expiration ≠ expiration' →
    (presignRequest E s signer request region serviceName expiration x).result = .ok true →
    (presignRequest E s signer request region serviceName expiration' x).result = .ok true →
    (presignRequest E s signer request region serviceName expiration x).request.uri ≠
      (presignRequest E s signer request region serviceName expiration' x).request.uri

/-- All parameters added by the V4 presigner were in the request's query
already. -/
def AlreadyPresigned (expiration : Int) : Prop :=
  ∀ p ∈ addedParameters E s (presignCall signer request region serviceName expiration) x,
    p ∈ E.queryParameters request.uri.queryString

variable {E s signer request region serviceName x}

theorem presignRequest_eq_perform (expiration : Int) :
    presignRequest E s signer request region serviceName expiration x =
      (presignCall signer request region serviceName expiration).perform E s x := rfl

/-- A presigned URI is the caller's URI with the authority of the endpoint. -/
theorem presign_uri {e : Uri}
    (hselect : (selectBoltEndpoints E s.config request.method x.select).result = .ok e)
    (expiration : Int) :
    (presignRequest E s signer request region serviceName expiration x).request.uri =
      request.uri.setAuthority e.authority := by
  rw [presignRequest_eq_perform, perform_uri hselect]
  rfl

/-- A call that does not throw reports success, whatever the expiration. -/
theorem presign_result {e : Uri}
    (hselect : (selectBoltEndpoints E s.config request.method x.select).result = .ok e)
    (expiration : Int) :
    (presignRequest E s signer request region serviceName expiration x).result = .ok true := by
  rw [presignRequest_eq_perform, perform_result hselect]

/-- A call whose endpoint fetch throws does not report success. -/
theorem presign_result_of_fetchThrows (h : FetchThrows E s.config x.select) (expiration : Int) :
    (presignRequest E s signer request region serviceName expiration x).result ≠ .ok true := by
  rcases perform_of_fetchThrows (presignCall signer request region serviceName expiration) h with
    ⟨e, -, -, hresult⟩
  rw [presignRequest_eq_perform, hresult]
  simp

/-- Nothing a caller sees of the result or the URI depends on the expiration. -/
theorem presign_expiration_irrelevant (E : Externals) (s : Statics) (signer : BoltSigner)
    (request : HttpRequest) (region serviceName : Option String) (x : SignInput)
    (expiration expiration' : Int) :
    (presignRequest E s signer request region serviceName expiration x).result =
        (presignRequest E s signer request region serviceName expiration' x).result ∧
      (presignRequest E s signer request region serviceName expiration x).request.uri =
        (presignRequest E s signer request region serviceName expiration' x).request.uri := by
  cases hselect : (selectBoltEndpoints E s.config request.method x.select).result with
  | error e =>
      have hthrew : ∀ expiration,
          (presignRequest E s signer request region serviceName expiration x).result =
              .error e ∧
            (presignRequest E s signer request region serviceName expiration x).request =
              request := by
        intro expiration
        rw [presignRequest_eq_perform, perform_of_threw hselect]
        exact ⟨rfl, rfl⟩
      rw [(hthrew expiration).1, (hthrew expiration').1, (hthrew expiration).2,
        (hthrew expiration').2]
      exact ⟨rfl, rfl⟩
  | ok e =>
      rw [presign_result hselect, presign_result hselect, presign_uri hselect,
        presign_uri hselect]
      exact ⟨rfl, rfl⟩

/-- The presignature is carried exactly when the call throws or the request had
all of it before. -/
theorem carriesPresignature_iff (expiration : Int) :
    CarriesPresignature E s signer request region serviceName x expiration ↔
      FetchThrows E s.config x.select ∨
        AlreadyPresigned E s signer request region serviceName x expiration := by
  unfold CarriesPresignature
  by_cases hthrows : FetchThrows E s.config x.select
  · exact iff_of_true (fun h => absurd h (presign_result_of_fetchThrows hthrows expiration))
      (Or.inl hthrows)
  · rcases selectBoltEndpoints_returns request.method hthrows with ⟨e, hselect⟩
    -- The query is the original one, so the first half asks for nothing else.
    have hquery : (presignRequest E s signer request region serviceName expiration
        x).request.uri.queryString = request.uri.queryString := by
      rw [presign_uri hselect, Uri.setAuthority_queryString]
    rw [or_iff_right hthrows]
    simp only [hquery]
    constructor
    · intro h
      exact (h (presign_result hselect expiration)).1
    · intro h _
      exact ⟨h, fun _ hp => hp⟩

/-- The contract of a presigned URI is met only by calls that do not return. -/
theorem presignContract_iff_fetchThrows :
    PresignContract E s signer request region serviceName x ↔
      FetchThrows E s.config x.select := by
  constructor
  · intro h
    by_contra hnot
    rcases selectBoltEndpoints_returns request.method hnot with ⟨e, hselect⟩
    have hdiffer := h.expires 0 1 (by decide) (presign_result hselect 0)
      (presign_result hselect 1)
    have hsame :=
      (presign_expiration_irrelevant E s signer request region serviceName x 0 1).2
    exact hdiffer hsame
  · intro hthrows
    exact
      { carries := fun expiration =>
          (carriesPresignature_iff expiration).mpr (Or.inl hthrows)
        expires := fun expiration _ _ hresult =>
          absurd hresult (presign_result_of_fetchThrows hthrows expiration) }

end Presign

/-- The URL of {lit}`GeneratePresignedUrl` does not depend on the expiration. -/
theorem generatePresignedUrl_expiration_irrelevant (E : Externals) (s : Statics)
    (client : BoltS3Client) (bucket key : String) (method : HttpMethod)
    (region serviceName : Option String) (customizedHeaders : CustomizedHeaders)
    (x : SignInput) (expiration expiration' : Nat) :
    (generatePresignedUrl E s client bucket key method region serviceName customizedHeaders
        expiration x).2 =
      (generatePresignedUrl E s client bucket key method region serviceName customizedHeaders
        expiration' x).2 := by
  unfold generatePresignedUrl
  cases client.endpointProvider with
  | none => rfl
  | some resolveEndpoint =>
      cases hresolve : resolveEndpoint bucket with
      | error e => simp only [hresolve]
      | ok url =>
          simp only [hresolve, awsGeneratePresignedUrl]
          rcases presign_expiration_irrelevant E s client.signer
              (requestToPresign E (objectUrl E url key) method customizedHeaders)
              region serviceName x (BitVec.ofNat 64 expiration).toInt
              (BitVec.ofNat 64 expiration').toInt with
            ⟨hresult, huri⟩
          rw [hresult, huri]

/-- Presigning loses the presignature.  A call meets the contract of a presigned
URI only by throwing; a call that returns carries the presignature only if the
request had it before; and the URL handed to the user is the same for every
expiration. -/
theorem presignContract_iff (E : Externals) (s : Statics) (signer : BoltSigner)
    (request : HttpRequest) (region serviceName : Option String) (x : SignInput) :
    (PresignContract E s signer request region serviceName x ↔
        FetchThrows E s.config x.select) ∧
      (∀ expiration, CarriesPresignature E s signer request region serviceName x expiration ↔
        FetchThrows E s.config x.select ∨
          AlreadyPresigned E s signer request region serviceName x expiration) ∧
      ∀ endpointProvider bucket key method customizedHeaders expiration expiration',
        (generatePresignedUrl E s ⟨signer, endpointProvider⟩ bucket key method region serviceName
            customizedHeaders expiration x).2 =
          (generatePresignedUrl E s ⟨signer, endpointProvider⟩ bucket key method region serviceName
            customizedHeaders expiration' x).2 :=
  ⟨presignContract_iff_fetchThrows, carriesPresignature_iff,
    fun _ _ _ _ _ _ _ => generatePresignedUrl_expiration_irrelevant _ _ _ _ _ _ _ _ _ _ _ _⟩

/-- The URL presigned for one minute shows no trace of the presignature, and is
also the one presigned for an hour. -/
theorem presignature_lost :
    ¬PresignContract sampleExternals sampleStatics (.newDefault "s3" "us-east-1")
      (standardHttpRequest
        (referenceParseUri "https://s3.us-east-1.amazonaws.com/bucket/key?versionId=3") .httpGet)
      (some "us-east-1") (some "s3") (sampleSignInput 1000 (sampleResponse 0) sampleV4) := by
  intro h
  have hexpires := (h.carries 60 (by rfl)).1 ("X-Amz-Expires", "60") (by decide +kernel)
  exact absurd hexpires (by decide +kernel)

end BoltClient
