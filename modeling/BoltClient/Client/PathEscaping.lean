import BoltClient.Client.Constructors
import BoltClient.Signer.Surrogate
import BoltClient.Library.PercentEncoding

/-!
# How often the path of the surrogate request is encoded

The V4 signer signs a canonical request.  Its path is percent-encoded once, and a
second time if the signer was told to escape paths.  The constructor from a
configuration alone leaves this setting to its default and so differs from all
the others.

Main results:

- Theorem {lit}`canonicalPath_eq_iff`: the setting goes unnoticed exactly on paths
  that the first encoding leaves alone.
- Theorem {lit}`constructorsSignAlike_iff`: all constructors sign a surrogate
  request alike exactly when its path is such a path.

Current gaps:

- The computation of the signature from the canonical request is a parameter.
-/

namespace BoltClient

open BoltClient.Library.UrlText
open BoltClient.Library.PercentEncoding

/-! ## Canonical requests -/

/-- The characters that the SDK leaves alone when it encodes a path to be sent,
and when it encodes a path for the canonical request.  The first encoding leaves
unreserved characters and slashes alone; none leaves a percent sign. -/
structure PathEncodings where
  sentSafe : Char → Bool
  canonicalSafe : Char → Bool
  unreserved_sentSafe : ∀ ch, unreserved ch = true → sentSafe ch = true
  slash_sentSafe : sentSafe '/' = true
  percent_not_canonicalSafe : canonicalSafe '%' = false

/-- The request that is signed. -/
structure CanonicalRequest where
  method : HttpMethod
  path : List Char
  queryString : String
  headers : HeaderValueCollection
  payloadHash : String

/-- The V4 algorithm with the credentials and the clock of one moment: how paths
are encoded, what stands for the payload, and the authorization header for a
canonical request, a region and a service. -/
structure V4Algorithm where
  encodings : PathEncodings
  payloadHash : PayloadSigningPolicy → HttpRequest → Bool → String
  authorization : CanonicalRequest → String → String → String

/-- The path of the canonical request: encoded once, or a second time for a signer
that escapes paths. -/
def canonicalPath (encodings : PathEncodings) (urlEscapePath : Bool) (path : String) :
    List Char :=
  encode encodings.canonicalSafe
    (if urlEscapePath then encode encodings.sentSafe path.toList else path.toList)

/-- The canonical request a signer makes of a request. -/
def canonicalRequest (V : V4Algorithm) (signer : AwsAuthV4Signer) (request : HttpRequest)
    (signBody : Bool) : CanonicalRequest where
  method := request.method
  path := canonicalPath V.encodings signer.urlEscapePath request.uri.path
  queryString := request.uri.queryString
  headers := request.headers
  payloadHash := V.payloadHash signer.signingPolicy request signBody

/-- The authorization header a signer gives a request. -/
def authorizationHeader (V : V4Algorithm) (signer : AwsAuthV4Signer) (request : HttpRequest)
    (region serviceName : Option String) (signBody : Bool) : String :=
  V.authorization (canonicalRequest V signer request signBody) (region.getD signer.region)
    (serviceName.getD signer.serviceName)

/-- All characters of the path are left alone when it is encoded to be sent. -/
def PathLeftAlone (encodings : PathEncodings) (path : String) : Prop :=
  AllChars (fun ch => encodings.sentSafe ch = true) path

/-- Escaping or not goes unnoticed exactly on paths that are left alone. -/
theorem canonicalPath_eq_iff (encodings : PathEncodings) (path : String) :
    canonicalPath encodings true path = canonicalPath encodings false path ↔
      PathLeftAlone encodings path :=
  encode_encode_eq_iff encodings.percent_not_canonicalSafe

/-! ## The constructors compared -/

section Constructors

variable (V : V4Algorithm) (computeSignerRegion : String → String)
  (s3EndpointProvider : EndpointProvider)

/-- Clients built for the same region with the same policy give the request the
same canonical request and the same authorization header, whatever constructors
built them. -/
def ConstructorsSignAlike (region : String) (policy : PayloadSigningPolicy)
    (request : HttpRequest) : Prop :=
  ∀ k k' : Construction, k.region = region → k'.region = region →
    k.payloadSigningPolicy = policy → k'.payloadSigningPolicy = policy →
    let signer := (k.client computeSignerRegion s3EndpointProvider).signer.v4Signer
    let signer' := (k'.client computeSignerRegion s3EndpointProvider).signer.v4Signer
    ∀ (signingRegion serviceName : Option String) (signBody : Bool),
      canonicalRequest V signer request signBody = canonicalRequest V signer' request signBody ∧
        authorizationHeader V signer request signingRegion serviceName signBody =
          authorizationHeader V signer' request signingRegion serviceName signBody

/-- The V4 signer of a client, by region, policy and constructor. -/
theorem Construction.v4Signer_eq (k : Construction) {region : String}
    {policy : PayloadSigningPolicy} (hregion : k.region = region)
    (hpolicy : k.payloadSigningPolicy = policy) :
    (k.client computeSignerRegion s3EndpointProvider).signer.v4Signer =
      { serviceName := boltServiceName
        region := computeSignerRegion region
        signingPolicy := policy
        urlEscapePath := k.escapesPath
        signingAlgorithm := .sigv4 } := by
  rw [Construction.signer_eq, hregion, hpolicy]
  rfl

/-- The constructors sign a request alike exactly when its path is left alone. -/
theorem constructorsSignAlike_iff (region : String) (policy : PayloadSigningPolicy)
    (request : HttpRequest) :
    ConstructorsSignAlike V computeSignerRegion s3EndpointProvider region policy request ↔
      PathLeftAlone V.encodings request.uri.path := by
  rw [← canonicalPath_eq_iff]
  constructor
  · intro h
    have halike := (h (.ofConfiguration ⟨⟨region⟩, policy⟩ none)
      (.ofCredentials ⟨⟨region⟩, policy⟩ none) rfl rfl rfl rfl none none true).1
    exact congrArg CanonicalRequest.path halike
  · intro hescaped k k' hregion hregion' hpolicy hpolicy' signer signer'
      signingRegion serviceName signBody
    have hpath : canonicalPath V.encodings k.escapesPath request.uri.path =
        canonicalPath V.encodings k'.escapesPath request.uri.path := by
      cases k.escapesPath <;> cases k'.escapesPath
      · rfl
      · exact hescaped.symm
      · exact hescaped
      · rfl
    have hsigner : signer = _ :=
      k.v4Signer_eq computeSignerRegion s3EndpointProvider hregion hpolicy
    have hsigner' : signer' = _ :=
      k'.v4Signer_eq computeSignerRegion s3EndpointProvider hregion' hpolicy'
    have hcanonical : canonicalRequest V signer request signBody =
        canonicalRequest V signer' request signBody := by
      rw [hsigner, hsigner']
      simp only [canonicalRequest, hpath]
    refine ⟨hcanonical, ?_⟩
    unfold authorizationHeader
    rw [hcanonical, hsigner, hsigner']

end Constructors

/-! ## The path of the surrogate request -/

section HeadRequest

variable {encodings : PathEncodings}

/-- A path is left alone exactly when its segments are. -/
theorem pathLeftAlone_pathText (segments : List String) :
    PathLeftAlone encodings (pathText segments) ↔
      ∀ segment ∈ segments, PathLeftAlone encodings segment := by
  unfold PathLeftAlone AllChars
  rw [pathText_toList]
  constructor
  · intro h segment hsegment ch hch
    exact h ch (List.mem_flatMap.mpr ⟨segment, hsegment, List.mem_cons_of_mem '/' hch⟩)
  · intro h ch hch
    rcases List.mem_flatMap.mp hch with ⟨segment, hsegment, hch⟩
    rcases List.mem_cons.mp hch with rfl | hch
    · exact encodings.slash_sentSafe
    · exact h segment hsegment ch hch

/-- Prefixes are left alone. -/
theorem IsAuthPrefix.leftAlone {authPrefix : String} (h : IsAuthPrefix authPrefix) :
    PathLeftAlone encodings authPrefix := by
  refine AllChars.imp h.2 ?_
  intro ch hlower
  apply encodings.unreserved_sentSafe ch
  have halphanum : ch.isAlphanum = ((ch.isUpper || ch.isLower) || ch.isDigit) := rfl
  simp [unreserved, halphanum, hlower]

/-- The path of the surrogate request is left alone exactly when its bucket is. -/
theorem headPath_leftAlone_iff {E : Externals} {c : BoltConfig} {request : HttpRequest}
    {authPrefix : String} (hparse : ParsesUris E) (hregion : Avoids ['/', '?', ':'] c.region)
    (hbucket : Avoids ['/', '?'] (sourceBucket c request.uri.path))
    (hletters : IsAuthPrefix authPrefix) :
    PathLeftAlone encodings (createBoltHeadRequest E c request authPrefix).uri.path ↔
      PathLeftAlone encodings (sourceBucket c request.uri.path) := by
  have hauth : PathLeftAlone encodings "auth" := by
    have hunreserved : AllChars (fun ch => unreserved ch = true) "auth" := by decide
    exact hunreserved.imp encodings.unreserved_sentSafe
  rw [createBoltHeadRequest_uri_eq hparse hregion rfl ⟨sourceBucket_ne_empty _ _, hbucket⟩
    hletters.avoids, pathLeftAlone_pathText]
  simp [hletters.leftAlone, hauth]

end HeadRequest

/-- All constructors sign the surrogate request of a call alike exactly when its
path is left alone; that is, for a bucket that is one segment, exactly when every
character of the bucket is. -/
theorem headRequest_signedAlike_iff (V : V4Algorithm) (computeSignerRegion : String → String)
    (s3EndpointProvider : EndpointProvider) (E : Externals) (c : BoltConfig)
    (request : HttpRequest) (authPrefix region : String) (policy : PayloadSigningPolicy) :
    (ConstructorsSignAlike V computeSignerRegion s3EndpointProvider region policy
        (createBoltHeadRequest E c request authPrefix) ↔
      PathLeftAlone V.encodings (createBoltHeadRequest E c request authPrefix).uri.path) ∧
    (ParsesUris E → Avoids ['/', '?', ':'] c.region →
      Avoids ['/', '?'] (sourceBucket c request.uri.path) → IsAuthPrefix authPrefix →
      (PathLeftAlone V.encodings (createBoltHeadRequest E c request authPrefix).uri.path ↔
        PathLeftAlone V.encodings (sourceBucket c request.uri.path))) :=
  ⟨constructorsSignAlike_iff V computeSignerRegion s3EndpointProvider region policy _,
    headPath_leftAlone_iff⟩

/-! ## Sample inputs -/

/-- The SDK's encodings: a few more characters are left alone in a path that is
sent. -/
def sdkPathEncodings : PathEncodings where
  sentSafe := fun ch => unreserved ch || ch ∈ ['/', '$', '&', ',', ':', '=', '@']
  canonicalSafe := fun ch => unreserved ch || ch = '/'
  unreserved_sentSafe := fun ch h => by simp [h]
  slash_sentSafe := by decide
  percent_not_canonicalSafe := by decide

/-- A V4 algorithm whose authorization header shows the canonical path. -/
def sampleV4Algorithm : V4Algorithm where
  encodings := sdkPathEncodings
  payloadHash := fun _ _ _ => "e3b0c44298fc1c149afbf4c8996fb92427ae41e4649b934ca495991b7852b855"
  authorization := fun request region serviceName =>
    String.ofList request.path ++ ";" ++ region ++ ";" ++ serviceName

/-- A blank in the bucket is encoded twice through the constructor from a
configuration alone, and once through the others. -/
theorem blank_in_bucket_signed_differently :
    ¬ConstructorsSignAlike sampleV4Algorithm id (fun _ => .error "") "us-east-1"
      .requestDependent
      (createBoltHeadRequest sampleExternals { sampleConfig with authBucket := "auth bucket" }
        (standardHttpRequest (referenceParseUri "https://s3.us-east-1.amazonaws.com/bucket/key")
          .httpGet) "abcd") := by
  intro h
  have halike := (h (.ofConfiguration ⟨⟨"us-east-1"⟩, .requestDependent⟩ none)
    (.ofCredentials ⟨⟨"us-east-1"⟩, .requestDependent⟩ none) rfl rfl rfl rfl none none true).1
  have hpath := congrArg CanonicalRequest.path halike
  exact absurd hpath (by decide)

end BoltClient
