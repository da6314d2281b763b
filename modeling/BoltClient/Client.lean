import BoltClient.Signer

/-!
# BoltS3Client: presigned URLs

This file translates {lit}`BoltS3Client::GeneratePresignedUrl` of
{lit}`bolt_s3_client.cpp`.  The endpoint provider is part of the SDK and stays a
function from the bucket to an address; {lit}`AWSClient::GeneratePresignedUrl`
is the SDK's caller of the signer.

Main results:

- Definition {lit}`generatePresignedUrl`: the URL for an object, from its
  resolved address.

Current gaps:

- The variants for server-side encryption are in {lit}`Client.Encryption`, the S3
  operations in {lit}`Client.Operations`.
-/

namespace BoltClient

/-- What a {lit}`BoltS3Client` holds to presign: its signer and its endpoint
provider, which may be the null pointer and may fail to resolve a bucket. -/
structure BoltS3Client where
  signer : BoltSigner
  endpointProvider : Option (String → Except String String)

/-- The request {lit}`AWSClient::GeneratePresignedUrl` has presigned: a fresh one
for the address, on which it sets the headers the caller customizes. -/
def requestToPresign (E : Externals) (url : String) (method : HttpMethod)
    (customizedHeaders : CustomizedHeaders) : HttpRequest :=
  (standardHttpRequest (E.parseUri url) method).setHeaderValues customizedHeaders

/-- {lit}`AWSClient::GeneratePresignedUrl`: the URI string of the request once
{lit}`PresignRequest` has succeeded on it, and the empty string when it has not.
The expiration is converted from {lit}`uint64_t` to {lit}`long long`. -/
def awsGeneratePresignedUrl (E : Externals) (s : Statics) (signer : BoltSigner)
    (url : String) (method : HttpMethod) (region serviceName : Option String)
    (customizedHeaders : CustomizedHeaders) (expirationInSeconds : Nat) (x : SignInput) :
    Statics × Except BoltError String :=
  let request := requestToPresign E url method customizedHeaders
  let outcome := presignRequest E s signer request region serviceName
    (BitVec.ofNat 64 expirationInSeconds).toInt x
  (outcome.statics,
    outcome.result.map fun ok => if ok then E.uriString outcome.request.uri else "")

/-- The address of an object below the resolved address of its bucket. -/
def objectUrl (E : Externals) (url key : String) : String :=
  let uri := E.parseUri url
  E.uriString (uri.setPath (uri.path ++ "/" ++ key))

/-- {lit}`BoltS3Client::GeneratePresignedUrl`.  Signing region and service name
are those of the resolved endpoint, as the SDK passes them on. -/
def generatePresignedUrl (E : Externals) (s : Statics) (client : BoltS3Client)
    (bucket key : String) (method : HttpMethod) (region serviceName : Option String)
    (customizedHeaders : CustomizedHeaders) (expirationInSeconds : Nat) (x : SignInput) :
    Statics × Except BoltError String :=
  match client.endpointProvider with
  | none => (s, .ok "")
  | some resolveEndpoint =>
      match resolveEndpoint bucket with
      | .error _ => (s, .ok "")
      | .ok url =>
          awsGeneratePresignedUrl E s client.signer (objectUrl E url key) method region
            serviceName customizedHeaders expirationInSeconds x

end BoltClient
