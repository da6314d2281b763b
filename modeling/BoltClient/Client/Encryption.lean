import BoltClient.Client.Presign
import BoltClient.Signer.Transplant

/-!
# Presigned URLs for encrypted objects

The variants of {lit}`GeneratePresignedUrl` for server-side encryption put headers
on the request they presign: the algorithm, and the key or its name.  They are
emplaced in the headers of the caller, which keep their spelling; on the request
names are lower-case, and of several spellings the last one counts.  The signer
presigns a surrogate request instead, and hands back a URL only.  This file says
what is left of the headers on this way.

Main results:

- Theorem {lit}`setHeaderValues_encryption`: the headers on the request that is
  presigned.
- Theorem {lit}`encryption_left_out`: the URL, the state of the process and the
  request that is signed are the same with any encryption and without.

Current gaps:

- Hashing and Base64 belong to the SDK.
-/

namespace BoltClient

open BoltClient.Library.SortedMaps

/-! ## Headers for server-side encryption -/

/-- {lit}`SSEHeaders::SERVER_SIDE_ENCRYPTION`. -/
def serverSideEncryption : String := "x-amz-server-side-encryption"

/-- {lit}`SSEHeaders::SERVER_SIDE_ENCRYPTION_AWS_KMS_KEY_ID`. -/
def serverSideEncryptionAwsKmsKeyId : String := "x-amz-server-side-encryption-aws-kms-key-id"

/-- {lit}`SSEHeaders::SERVER_SIDE_ENCRYPTION_CUSTOMER_ALGORITHM`. -/
def serverSideEncryptionCustomerAlgorithm : String :=
  "x-amz-server-side-encryption-customer-algorithm"

/-- {lit}`SSEHeaders::SERVER_SIDE_ENCRYPTION_CUSTOMER_KEY`. -/
def serverSideEncryptionCustomerKey : String := "x-amz-server-side-encryption-customer-key"

/-- {lit}`SSEHeaders::SERVER_SIDE_ENCRYPTION_CUSTOMER_KEY_MD5`. -/
def serverSideEncryptionCustomerKeyMd5 : String :=
  "x-amz-server-side-encryption-customer-key-MD5"

/-- {lit}`Aws::Utils::HashingUtils`. -/
structure HashingUtils where
  base64Decode : String → List UInt8
  base64Encode : List UInt8 → String
  calculateMd5 : List UInt8 → List UInt8

/-- The kinds of server-side encryption a URL can be presigned for. -/
inductive Encryption where
  | sseS3
  | sseKms (kmsMasterKeyId : String)
  | sseC (base64EncodedAes256Key : String)

/-- The headers an encryption asks for, in the order they are added. -/
def Encryption.headers (H : HashingUtils) : Encryption → List (String × String)
  | .sseS3 => [(serverSideEncryption, "AES256")]
  | .sseKms kmsMasterKeyId =>
      [(serverSideEncryption, "aws:kms"), (serverSideEncryptionAwsKmsKeyId, kmsMasterKeyId)]
  | .sseC base64EncodedAes256Key =>
      [(serverSideEncryptionCustomerAlgorithm, "AES256"),
        (serverSideEncryptionCustomerKey, base64EncodedAes256Key),
        (serverSideEncryptionCustomerKeyMd5,
          H.base64Encode (H.calculateMd5 (H.base64Decode base64EncodedAes256Key)))]

/-! ## The variants of GeneratePresignedUrl -/

section Variants

variable (E : Externals) (H : HashingUtils) (s : Statics) (client : BoltS3Client)
  (bucket key : String) (method : HttpMethod) (region serviceName : Option String)
  (customizedHeaders : CustomizedHeaders) (expirationInSeconds : Nat) (x : SignInput)

/-- What the variants share: the headers of an encryption are emplaced in those of
the caller.  The overloads without headers start from none. -/
def generatePresignedUrlWith (encryption : Encryption) :
    Statics × Except BoltError String :=
  generatePresignedUrl E s client bucket key method region serviceName
    (customizedHeaders.emplaceAll (encryption.headers H)) expirationInSeconds x

/-- {lit}`BoltS3Client::GeneratePresignedUrlWithSSES3`. -/
def generatePresignedUrlWithSseS3 : Statics × Except BoltError String :=
  generatePresignedUrlWith E H s client bucket key method region serviceName customizedHeaders
    expirationInSeconds x .sseS3

/-- {lit}`BoltS3Client::GeneratePresignedUrlWithSSEKMS`. -/
def generatePresignedUrlWithSseKms (kmsMasterKeyId : String) :
    Statics × Except BoltError String :=
  generatePresignedUrlWith E H s client bucket key method region serviceName customizedHeaders
    expirationInSeconds x (.sseKms kmsMasterKeyId)

/-- {lit}`BoltS3Client::GeneratePresignedUrlWithSSEC`. -/
def generatePresignedUrlWithSseC (base64EncodedAes256Key : String) :
    Statics × Except BoltError String :=
  generatePresignedUrlWith E H s client bucket key method region serviceName customizedHeaders
    expirationInSeconds x (.sseC base64EncodedAes256Key)

end Variants

/-! ## The headers on the request -/

/-- No two headers of an encryption have one name, in whatever spelling. -/
theorem encryption_names_nodup (H : HashingUtils) (encryption : Encryption) :
    ((encryption.headers H).map fun entry => headerKey entry.1).Nodup := by
  cases encryption <;> simp only [Encryption.headers, List.map_cons, List.map_nil] <;>
    decide +kernel

section Headers

variable {H : HashingUtils} {encryption : Encryption} {customizedHeaders : CustomizedHeaders}

/-- Where the entries of an encryption end up: those under a name the caller has not
used are added. -/
theorem mem_emplaceAll_encryption {entry : String × String} :
    entry ∈ (customizedHeaders.emplaceAll (encryption.headers H)).entries ↔
      entry ∈ customizedHeaders.entries ∨
        entry ∈ encryption.headers H ∧ ∀ q ∈ customizedHeaders.entries, q.1 ≠ entry.1 := by
  apply SortedMap.mem_emplaceAll_iff
  refine List.Nodup.of_map headerKey ?_
  rw [List.map_map]
  exact encryption_names_nodup H encryption

/-- The value an encryption header has on the request: that of the last spelling of
its name among the caller's that does not come before its own, or else its own. -/
theorem last_encryption {entry : String × String} (hmem : entry ∈ encryption.headers H) :
    ((customizedHeaders.emplaceAll (encryption.headers H)).last fun name =>
        headerKey name = headerKey entry.1).map Prod.snd =
      some (((customizedHeaders.last fun name =>
        headerKey name = headerKey entry.1 ∧ entry.1 ≤ name).map Prod.snd).getD entry.2) := by
  -- No other header of the encryption has this name.
  have hown : ∀ q ∈ encryption.headers H, headerKey q.1 = headerKey entry.1 → q = entry :=
    fun q hq hsame =>
      List.inj_on_of_nodup_map (encryption_names_nodup H encryption) hq hmem hsame
  cases hlast : customizedHeaders.last fun name =>
      headerKey name = headerKey entry.1 ∧ entry.1 ≤ name with
  | some other =>
      rcases SortedMap.last_eq_some_iff.mp hlast with ⟨hother, ⟨hsame, hle⟩, hgreatest⟩
      have hmerged : (customizedHeaders.emplaceAll (encryption.headers H)).last
          (fun name => headerKey name = headerKey entry.1) = some other := by
        refine SortedMap.last_eq_some_iff.mpr
          ⟨mem_emplaceAll_encryption.mpr (Or.inl hother), hsame, fun q hq hqsame => ?_⟩
        rcases mem_emplaceAll_encryption.mp hq with hq | ⟨hq, -⟩
        · rcases le_total entry.1 q.1 with hbehind | hbefore
          · exact hgreatest q hq ⟨hqsame, hbehind⟩
          · exact hbefore.trans hle
        · rw [hown q hq hqsame]
          exact hle
      rw [hmerged]
      rfl
  | none =>
      have hnone := SortedMap.last_eq_none_iff.mp hlast
      have hmerged : (customizedHeaders.emplaceAll (encryption.headers H)).last
          (fun name => headerKey name = headerKey entry.1) = some entry := by
        refine SortedMap.last_eq_some_iff.mpr
          ⟨mem_emplaceAll_encryption.mpr (Or.inr ⟨hmem, ?_⟩), rfl, fun q hq hqsame => ?_⟩
        · intro q hq hname
          exact hnone q hq ⟨by rw [hname], hname.ge⟩
        rcases mem_emplaceAll_encryption.mp hq with hq | ⟨hq, -⟩
        · exact le_of_not_ge fun hbehind => hnone q hq ⟨hqsame, hbehind⟩
        · rw [hown q hq hqsame]
      rw [hmerged]
      rfl

/-- On the request that is presigned, a header of the encryption has the value of the
last spelling of its name among the caller's that does not come before its own, or
else its own value; all other headers are those the caller customizes. -/
theorem setHeaderValues_encryption (H : HashingUtils) (encryption : Encryption)
    (customizedHeaders : CustomizedHeaders) (request : HttpRequest) :
    (∀ entry ∈ encryption.headers H,
      (request.setHeaderValues (customizedHeaders.emplaceAll (encryption.headers H))).headers
          (headerKey entry.1) =
        some (((customizedHeaders.last fun name =>
          headerKey name = headerKey entry.1 ∧ entry.1 ≤ name).map Prod.snd).getD entry.2)) ∧
    ∀ key, (∀ entry ∈ encryption.headers H, headerKey entry.1 ≠ key) →
      (request.setHeaderValues (customizedHeaders.emplaceAll (encryption.headers H))).headers key =
        (request.setHeaderValues customizedHeaders).headers key := by
  constructor
  · intro entry hmem
    rw [HttpRequest.setHeaderValues_get, last_encryption hmem]
    rfl
  · intro key hother
    rw [HttpRequest.setHeaderValues_get, HttpRequest.setHeaderValues_get]
    congr 2
    apply SortedMap.last_congr
    intro entry hkey
    rw [mem_emplaceAll_encryption]
    exact or_iff_left fun h => hother entry h.1 hkey

-- A header the caller has capitalised comes before that of the encryption, and loses.
example :
    let customizedHeaders : CustomizedHeaders :=
      ⟨[("X-Amz-Server-Side-Encryption", "aws:kms")], List.pairwise_singleton _ _⟩
    (requestToPresign sampleExternals "https://s3.us-east-1.amazonaws.com/bucket/key" .httpPut
      (customizedHeaders.emplaceAll [(serverSideEncryption, "AES256")])).headers
        "x-amz-server-side-encryption" = some "AES256" := by
  decide +kernel

end Headers

/-! ## What becomes of them -/

section Presigning

variable (E : Externals) (s : Statics)

/-- Requests that agree in URI, method and security token have the same surrogate
request signed for them. -/
theorem headRequest_congr {call call' : SignCall} (x : SignInput)
    (huri : call.request.uri = call'.request.uri)
    (htoken : call.request.headers "x-amz-security-token" =
      call'.request.headers "x-amz-security-token") :
    call.headRequest E s x = call'.headRequest E s x := by
  unfold SignCall.headRequest createBoltHeadRequest copyHeader
  rw [huri, htoken]

/-- What a call returns, and the URI and the state it leaves, are decided by URI and
method of its request. -/
theorem perform_congr (call call' : SignCall) (x : SignInput)
    (huri : call.request.uri = call'.request.uri)
    (hmethod : call.request.method = call'.request.method) :
    (call.perform E s x).statics = (call'.perform E s x).statics ∧
      (call.perform E s x).result = (call'.perform E s x).result ∧
      (call.perform E s x).request.uri = (call'.perform E s x).request.uri := by
  cases hselect : (selectBoltEndpoints E s.config call.request.method x.select).result with
  | error e =>
      have hselect' : (selectBoltEndpoints E s.config call'.request.method x.select).result =
          .error e := hmethod ▸ hselect
      rw [perform_of_threw hselect, perform_of_threw hselect', hmethod]
      exact ⟨rfl, rfl, huri⟩
  | ok e =>
      have hselect' : (selectBoltEndpoints E s.config call'.request.method x.select).result =
          .ok e := hmethod ▸ hselect
      rw [perform_statics hselect, perform_statics hselect', perform_result hselect,
        perform_result hselect', perform_uri hselect, perform_uri hselect', huri]
      exact ⟨rfl, rfl, rfl⟩

end Presigning

/-- The headers a caller customizes have no part in the URL, nor in the state that
is left. -/
theorem generatePresignedUrl_headers_irrelevant (E : Externals) (s : Statics)
    (client : BoltS3Client) (bucket key : String) (method : HttpMethod)
    (region serviceName : Option String) (headers headers' : CustomizedHeaders)
    (expiration : Nat) (x : SignInput) :
    generatePresignedUrl E s client bucket key method region serviceName headers expiration x =
      generatePresignedUrl E s client bucket key method region serviceName headers' expiration
        x := by
  unfold generatePresignedUrl
  cases client.endpointProvider with
  | none => rfl
  | some resolveEndpoint =>
      cases hresolve : resolveEndpoint bucket with
      | error e => simp only [hresolve]
      | ok url =>
          let call (headers : CustomizedHeaders) : SignCall :=
            presignCall client.signer (requestToPresign E (objectUrl E url key) method headers)
              region serviceName (BitVec.ofNat 64 expiration).toInt
          rcases perform_congr E s (call headers) (call headers') x
              (by simp [call, presignCall, requestToPresign])
              (by simp [call, presignCall, requestToPresign]) with
            ⟨hstatics, hresult, hpresigned⟩
          simp only [hresolve, awsGeneratePresignedUrl, presignRequest_eq_perform]
          rw [hstatics, hresult, hpresigned]

/-- Whatever encryption a URL is presigned for, and whatever headers the caller
customizes: the URL and the state it leaves are those of a URL without any headers,
and the request that is signed is that for the caller's own headers, although the
headers of the encryption are on the request that is presigned, unless the caller
has spelled one of them the same or later. -/
theorem encryption_left_out (E : Externals) (H : HashingUtils) (s : Statics)
    (client : BoltS3Client) (bucket key : String) (method : HttpMethod)
    (region serviceName : Option String) (customizedHeaders : CustomizedHeaders)
    (expiration : Nat) (x : SignInput) :
    let plain := generatePresignedUrl E s client bucket key method region serviceName .empty
      expiration x
    generatePresignedUrlWithSseS3 E H s client bucket key method region serviceName
        customizedHeaders expiration x = plain ∧
    (∀ kmsMasterKeyId, generatePresignedUrlWithSseKms E H s client bucket key method region
        serviceName customizedHeaders expiration x kmsMasterKeyId = plain) ∧
    (∀ base64EncodedAes256Key, generatePresignedUrlWithSseC E H s client bucket key method region
        serviceName customizedHeaders expiration x base64EncodedAes256Key = plain) ∧
    ∀ (encryption : Encryption) (signer : BoltSigner) (url : String) (expiration' : Int),
      let presigned := requestToPresign E url method
        (customizedHeaders.emplaceAll (encryption.headers H))
      (presignCall signer presigned region serviceName expiration').headRequest E s x =
        (presignCall signer (requestToPresign E url method customizedHeaders) region serviceName
          expiration').headRequest E s x ∧
      (∀ entry ∈ encryption.headers H, presigned.headers (headerKey entry.1) =
        some (((customizedHeaders.last fun name =>
          headerKey name = headerKey entry.1 ∧ entry.1 ≤ name).map Prod.snd).getD entry.2)) ∧
      ∀ key, (∀ entry ∈ encryption.headers H, headerKey entry.1 ≠ key) →
        presigned.headers key = (requestToPresign E url method customizedHeaders).headers key := by
  intro plain
  have hplain : ∀ headers, generatePresignedUrl E s client bucket key method region serviceName
      headers expiration x = plain := fun headers =>
    generatePresignedUrl_headers_irrelevant E s client bucket key method region serviceName
      headers .empty expiration x
  refine ⟨hplain _, fun _ => hplain _, fun _ => hplain _, ?_⟩
  intro encryption signer url expiration' presigned
  rcases setHeaderValues_encryption H encryption customizedHeaders
    (standardHttpRequest (E.parseUri url) method) with ⟨hencryption, hothers⟩
  refine ⟨?_, hencryption, hothers⟩
  apply headRequest_congr
  · simp [presigned, presignCall, requestToPresign]
  · refine hothers "x-amz-security-token" ?_
    cases encryption <;> simp only [Encryption.headers, List.forall_mem_cons] <;> decide +kernel

end BoltClient
