import Mathlib.Data.String.Basic
import BoltClient.Sdk.UriText

/-!
# The S3 operations of BoltS3Client

This file translates the operations of {lit}`bolt_s3_client.cpp`.  All but two of
them are one function applied to different values: it checks that the fields the
operation insists on have been set, has the endpoint provider resolve an address,
puts the key behind its path and a subresource into its query, and hands the
result to {lit}`MakeRequest` of the SDK with a method.  The values of each
operation form an {lit}`S3Operation`; {lit}`ListBuckets` and
{lit}`WriteGetObjectResponse` have bodies of their own.

Main results:

- Theorem {lit}`S3Operation.call_eq_ok_iff`: when an operation makes a request, and
  which.
- Theorem {lit}`operations_contract`: what every operation of the client promises
  of its checks and of the address it uses.

Current gaps:

- Responses, and the response streams some operations set up, are left out.
- Of the endpoint provider and of {lit}`AddPathSegments` only their documented
  behaviour is used.
-/

namespace BoltClient

open BoltClient.Library.Pieces

/-! ## Requests and errors -/

/-- The fields of a request that some operation insists on. -/
inductive RequestField where
  | bucket
  | copySource
  | id
  | key
  | objectAttributes
  | partNumber
  | requestRoute
  | requestToken
  | uploadId
deriving DecidableEq, Repr

/-- The name of a field in the messages of the client. -/
def RequestField.name : RequestField → String
  | .bucket => "Bucket"
  | .copySource => "CopySource"
  | .id => "Id"
  | .key => "Key"
  | .objectAttributes => "ObjectAttributes"
  | .partNumber => "PartNumber"
  | .requestRoute => "RequestRoute"
  | .requestToken => "RequestToken"
  | .uploadId => "UploadId"

/-- {lit}`Aws::Endpoint::EndpointParameters`. -/
abbrev EndpointParameters := List (String × String)

/-- What the client reads of a request: the {lit}`HasBeenSet` functions,
{lit}`GetKey`, {lit}`GetRequestRoute` and {lit}`GetEndpointContextParams`.  The SDK
puts a bucket among the endpoint parameters when it has been set. -/
structure S3Request where
  hasBeenSet : RequestField → Bool
  key : String
  requestRoute : String
  endpointContextParams : EndpointParameters
  bucket_set : hasBeenSet .bucket = (endpointContextParams.lookup "Bucket").isSome

/-- The errors an operation returns instead of making a request. -/
inductive OperationError where
  /-- {lit}`AWS_OPERATION_CHECK_PTR` of the endpoint provider. -/
  | nullEndpointProvider
  /-- {lit}`AWSError<S3Errors>` of type {lit}`MISSING_PARAMETER`. -/
  | missingParameter (exceptionName message : String) (isRetryable : Bool)
  /-- {lit}`AWS_OPERATION_CHECK_SUCCESS`, with the message of the resolution. -/
  | endpointResolutionFailure (message : String)
  /-- The error of {lit}`AddPrefixIfMissing`. -/
  | hostPrefix (message : String)
deriving DecidableEq, Repr

/-- The error for a required field that is not set. -/
def missingRequiredField (field : RequestField) : OperationError :=
  .missingParameter "MISSING_PARAMETER" ("Missing required field [" ++ field.name ++ "]") false

/-- The message tells the fields apart. -/
theorem missingRequiredField_inj {field field' : RequestField} :
    missingRequiredField field = missingRequiredField field' ↔ field = field' := by
  cases field <;> cases field' <;> decide

/-! ## Endpoints -/

/-- {lit}`Aws::Endpoint::AWSEndpoint`: its URI, and signing region and name of its
authentication scheme. -/
structure AwsEndpoint where
  uri : Uri
  signingRegion : Option String
  signingName : Option String

/-- {lit}`S3EndpointProviderBase::ResolveEndpoint` at one moment. -/
abbrev ResolveEndpoint := EndpointParameters → Except String AwsEndpoint

/-- {lit}`URI::SetQueryString`. -/
def Uri.setQueryString (uri : Uri) (queryString : String) : Uri :=
  { uri with queryString := queryString }

/-- What the operations use of the SDK's endpoints and requests. -/
structure RequestLibrary where
  /-- {lit}`AWSEndpoint::AddPathSegments`. -/
  addPathSegments : Uri → String → Uri
  /-- {lit}`AWSEndpoint::AddPrefixIfMissing`; an error is given by its message. -/
  addPrefixIfMissing : Uri → String → Except String Uri
  /-- {lit}`AWSClient::BuildHttpRequest`.  {lit}`ListBuckets` passes no request. -/
  buildHttpRequest : Option S3Request → Uri → HttpMethod → HttpRequest
  /-- {lit}`AmazonWebServiceRequest::SignBody`. -/
  signBody : Option S3Request → Bool

/-- {lit}`AddPathSegments` splits its text at slashes, puts the pieces behind the
segments of the path, and leaves the rest of the URI alone. -/
structure AddsPathSegments (L : RequestLibrary) : Prop where
  pathSegments : ∀ uri text, (L.addPathSegments uri text).pathSegments =
    uri.pathSegments ++ (pieces '/' text.toList).map String.ofList
  path_only : ∀ uri text, ∃ path, L.addPathSegments uri text = uri.setPath path

/-- Beside this, {lit}`AddPrefixIfMissing` changes the authority alone, and a request
is built for the given method and URI, with parameters added to its query. -/
structure BuildsRequests (L : RequestLibrary) : Prop extends AddsPathSegments L where
  authority_only : ∀ uri hostPrefix uri', L.addPrefixIfMissing uri hostPrefix = .ok uri' →
    ∃ authority, uri' = uri.setAuthority authority
  method : ∀ request uri method, (L.buildHttpRequest request uri method).method = method
  uri : ∀ request uri method, ∃ parameters,
    (L.buildHttpRequest request uri method).uri =
      uri.setQueryString (uri.queryString ++ parameters)

/-! ## The family of operations -/

/-- What an operation addresses: its bucket alone, or an object in it. -/
inductive Resource where
  | bucket
  | object
deriving DecidableEq, Repr

/-- The function of the SDK an operation hands its request to. -/
inductive MakeRequestFunction where
  | makeRequest
  | makeRequestWithUnparsedResponse
  | makeRequestWithEventStream
deriving DecidableEq, Repr

/-- The call of {lit}`MakeRequest`, or of one of its siblings, an operation ends
with. -/
structure MakeRequestCall where
  function : MakeRequestFunction
  request : Option S3Request
  endpoint : AwsEndpoint
  method : HttpMethod

/-- The values in which the operations of the family differ: the name, the fields
in the order they are checked, whether the key goes into the path, the query
string if one is set, the method, and the function called in the end. -/
structure S3Operation where
  name : String
  requiredFields : List RequestField
  resource : Resource
  subresource : Option String
  method : HttpMethod
  function : MakeRequestFunction
deriving DecidableEq, Repr

/-- The first required field that has not been set. -/
def S3Operation.missingField (operation : S3Operation) (request : S3Request) :
    Option RequestField :=
  operation.requiredFields.find? fun field => !request.hasBeenSet field

/-- The address an operation uses, from the resolved one. -/
def S3Operation.address (L : RequestLibrary) (operation : S3Operation) (request : S3Request)
    (uri : Uri) : Uri :=
  let uri :=
    match operation.resource with
    | .bucket => uri
    | .object => L.addPathSegments uri request.key
  match operation.subresource with
  | none => uri
  | some query => uri.setQueryString query

/-- The body shared by the operations of the family.  The endpoint provider may be
the null pointer. -/
def S3Operation.call (L : RequestLibrary) (endpointProvider : Option ResolveEndpoint)
    (operation : S3Operation) (request : S3Request) : Except OperationError MakeRequestCall :=
  match endpointProvider with
  | none => .error .nullEndpointProvider
  | some resolveEndpoint =>
      match operation.missingField request with
      | some field => .error (missingRequiredField field)
      | none =>
          match resolveEndpoint request.endpointContextParams with
          | .error message => .error (.endpointResolutionFailure message)
          | .ok endpoint =>
              .ok
                { function := operation.function
                  request := some request
                  endpoint := { endpoint with uri := operation.address L request endpoint.uri }
                  method := operation.method }

/-! ## The operations -/

namespace S3Operation

def abortMultipartUpload : S3Operation :=
  ⟨"AbortMultipartUpload", [.bucket, .key, .uploadId], .object, none, .httpDelete, .makeRequest⟩

def completeMultipartUpload : S3Operation :=
  ⟨"CompleteMultipartUpload", [.bucket, .key, .uploadId], .object, none, .httpPost, .makeRequest⟩

def copyObject : S3Operation :=
  ⟨"CopyObject", [.bucket, .copySource, .key], .object, none, .httpPut, .makeRequest⟩

def createBucket : S3Operation :=
  ⟨"CreateBucket", [.bucket], .bucket, none, .httpPut, .makeRequest⟩

def createMultipartUpload : S3Operation :=
  ⟨"CreateMultipartUpload", [.bucket, .key], .object, some "?uploads", .httpPost, .makeRequest⟩

def deleteBucket : S3Operation :=
  ⟨"DeleteBucket", [.bucket], .bucket, none, .httpDelete, .makeRequest⟩

def deleteBucketAnalyticsConfiguration : S3Operation :=
  ⟨"DeleteBucketAnalyticsConfiguration", [.bucket, .id], .bucket, some "?analytics",
    .httpDelete, .makeRequest⟩

def deleteBucketCors : S3Operation :=
  ⟨"DeleteBucketCors", [.bucket], .bucket, some "?cors", .httpDelete, .makeRequest⟩

def deleteBucketEncryption : S3Operation :=
  ⟨"DeleteBucketEncryption", [.bucket], .bucket, some "?encryption", .httpDelete, .makeRequest⟩

def deleteBucketIntelligentTieringConfiguration : S3Operation :=
  ⟨"DeleteBucketIntelligentTieringConfiguration", [.bucket, .id], .bucket,
    some "?intelligent-tiering", .httpDelete, .makeRequest⟩

def deleteBucketInventoryConfiguration : S3Operation :=
  ⟨"DeleteBucketInventoryConfiguration", [.bucket, .id], .bucket, some "?inventory",
    .httpDelete, .makeRequest⟩

def deleteBucketLifecycle : S3Operation :=
  ⟨"DeleteBucketLifecycle", [.bucket], .bucket, some "?lifecycle", .httpDelete, .makeRequest⟩

def deleteBucketMetricsConfiguration : S3Operation :=
  ⟨"DeleteBucketMetricsConfiguration", [.bucket, .id], .bucket, some "?metrics",
    .httpDelete, .makeRequest⟩

def deleteBucketOwnershipControls : S3Operation :=
  ⟨"DeleteBucketOwnershipControls", [.bucket], .bucket, some "?ownershipControls",
    .httpDelete, .makeRequest⟩

def deleteBucketPolicy : S3Operation :=
  ⟨"DeleteBucketPolicy", [.bucket], .bucket, some "?policy", .httpDelete, .makeRequest⟩

def deleteBucketReplication : S3Operation :=
  ⟨"DeleteBucketReplication", [.bucket], .bucket, some "?replication", .httpDelete, .makeRequest⟩

def deleteBucketTagging : S3Operation :=
  ⟨"DeleteBucketTagging", [.bucket], .bucket, some "?tagging", .httpDelete, .makeRequest⟩

def deleteBucketWebsite : S3Operation :=
  ⟨"DeleteBucketWebsite", [.bucket], .bucket, some "?website", .httpDelete, .makeRequest⟩

def deleteObject : S3Operation :=
  ⟨"DeleteObject", [.bucket, .key], .object, none, .httpDelete, .makeRequest⟩

def deleteObjectTagging : S3Operation :=
  ⟨"DeleteObjectTagging", [.bucket, .key], .object, some "?tagging", .httpDelete, .makeRequest⟩

def deleteObjects : S3Operation :=
  ⟨"DeleteObjects", [.bucket], .bucket, some "?delete", .httpPost, .makeRequest⟩

def deletePublicAccessBlock : S3Operation :=
  ⟨"DeletePublicAccessBlock", [.bucket], .bucket, some "?publicAccessBlock",
    .httpDelete, .makeRequest⟩

def getBucketAccelerateConfiguration : S3Operation :=
  ⟨"GetBucketAccelerateConfiguration", [.bucket], .bucket, some "?accelerate",
    .httpGet, .makeRequest⟩

def getBucketAcl : S3Operation :=
  ⟨"GetBucketAcl", [.bucket], .bucket, some "?acl", .httpGet, .makeRequest⟩

def getBucketAnalyticsConfiguration : S3Operation :=
  ⟨"GetBucketAnalyticsConfiguration", [.bucket, .id], .bucket, some "?analytics",
    .httpGet, .makeRequest⟩

def getBucketCors : S3Operation :=
  ⟨"GetBucketCors", [.bucket], .bucket, some "?cors", .httpGet, .makeRequest⟩

def getBucketEncryption : S3Operation :=
  ⟨"GetBucketEncryption", [.bucket], .bucket, some "?encryption", .httpGet, .makeRequest⟩

def getBucketIntelligentTieringConfiguration : S3Operation :=
  ⟨"GetBucketIntelligentTieringConfiguration", [.bucket, .id], .bucket, some "?intelligent-tiering",
    .httpGet, .makeRequest⟩

def getBucketInventoryConfiguration : S3Operation :=
  ⟨"GetBucketInventoryConfiguration", [.bucket, .id], .bucket, some "?inventory",
    .httpGet, .makeRequest⟩

def getBucketLifecycleConfiguration : S3Operation :=
  ⟨"GetBucketLifecycleConfiguration", [.bucket], .bucket, some "?lifecycle", .httpGet, .makeRequest⟩

def getBucketLocation : S3Operation :=
  ⟨"GetBucketLocation", [.bucket], .bucket, some "?location", .httpGet, .makeRequest⟩

def getBucketLogging : S3Operation :=
  ⟨"GetBucketLogging", [.bucket], .bucket, some "?logging", .httpGet, .makeRequest⟩

def getBucketMetricsConfiguration : S3Operation :=
  ⟨"GetBucketMetricsConfiguration", [.bucket, .id], .bucket, some "?metrics",
    .httpGet, .makeRequest⟩

def getBucketNotificationConfiguration : S3Operation :=
  ⟨"GetBucketNotificationConfiguration", [.bucket], .bucket, some "?notification",
    .httpGet, .makeRequest⟩

def getBucketOwnershipControls : S3Operation :=
  ⟨"GetBucketOwnershipControls", [.bucket], .bucket, some "?ownershipControls",
    .httpGet, .makeRequest⟩

def getBucketPolicy : S3Operation :=
  ⟨"GetBucketPolicy", [.bucket], .bucket, some "?policy",
    .httpGet, .makeRequestWithUnparsedResponse⟩

def getBucketPolicyStatus : S3Operation :=
  ⟨"GetBucketPolicyStatus", [.bucket], .bucket, some "?policyStatus", .httpGet, .makeRequest⟩

def getBucketReplication : S3Operation :=
  ⟨"GetBucketReplication", [.bucket], .bucket, some "?replication", .httpGet, .makeRequest⟩

def getBucketRequestPayment : S3Operation :=
  ⟨"GetBucketRequestPayment", [.bucket], .bucket, some "?requestPayment", .httpGet, .makeRequest⟩

def getBucketTagging : S3Operation :=
  ⟨"GetBucketTagging", [.bucket], .bucket, some "?tagging", .httpGet, .makeRequest⟩

def getBucketVersioning : S3Operation :=
  ⟨"GetBucketVersioning", [.bucket], .bucket, some "?versioning", .httpGet, .makeRequest⟩

def getBucketWebsite : S3Operation :=
  ⟨"GetBucketWebsite", [.bucket], .bucket, some "?website", .httpGet, .makeRequest⟩

def getObject : S3Operation :=
  ⟨"GetObject", [.bucket, .key], .object, none, .httpGet, .makeRequestWithUnparsedResponse⟩

def getObjectAcl : S3Operation :=
  ⟨"GetObjectAcl", [.bucket, .key], .object, some "?acl", .httpGet, .makeRequest⟩

def getObjectAttributes : S3Operation :=
  ⟨"GetObjectAttributes", [.bucket, .key, .objectAttributes], .object, some "?attributes",
    .httpGet, .makeRequest⟩

def getObjectLegalHold : S3Operation :=
  ⟨"GetObjectLegalHold", [.bucket, .key], .object, some "?legal-hold", .httpGet, .makeRequest⟩

def getObjectLockConfiguration : S3Operation :=
  ⟨"GetObjectLockConfiguration", [.bucket], .bucket, some "?object-lock", .httpGet, .makeRequest⟩

def getObjectRetention : S3Operation :=
  ⟨"GetObjectRetention", [.bucket, .key], .object, some "?retention", .httpGet, .makeRequest⟩

def getObjectTagging : S3Operation :=
  ⟨"GetObjectTagging", [.bucket, .key], .object, some "?tagging", .httpGet, .makeRequest⟩

def getObjectTorrent : S3Operation :=
  ⟨"GetObjectTorrent", [.bucket, .key], .object, some "?torrent",
    .httpGet, .makeRequestWithUnparsedResponse⟩

def getPublicAccessBlock : S3Operation :=
  ⟨"GetPublicAccessBlock", [.bucket], .bucket, some "?publicAccessBlock", .httpGet, .makeRequest⟩

def headBucket : S3Operation :=
  ⟨"HeadBucket", [.bucket], .bucket, none, .httpHead, .makeRequest⟩

def headObject : S3Operation :=
  ⟨"HeadObject", [.bucket, .key], .object, none, .httpHead, .makeRequest⟩

def listBucketAnalyticsConfigurations : S3Operation :=
  ⟨"ListBucketAnalyticsConfigurations", [.bucket], .bucket, some "?analytics",
    .httpGet, .makeRequest⟩

def listBucketIntelligentTieringConfigurations : S3Operation :=
  ⟨"ListBucketIntelligentTieringConfigurations", [.bucket], .bucket, some "?intelligent-tiering",
    .httpGet, .makeRequest⟩

def listBucketInventoryConfigurations : S3Operation :=
  ⟨"ListBucketInventoryConfigurations", [.bucket], .bucket, some "?inventory",
    .httpGet, .makeRequest⟩

def listBucketMetricsConfigurations : S3Operation :=
  ⟨"ListBucketMetricsConfigurations", [.bucket], .bucket, some "?metrics", .httpGet, .makeRequest⟩

def listMultipartUploads : S3Operation :=
  ⟨"ListMultipartUploads", [.bucket], .bucket, some "?uploads", .httpGet, .makeRequest⟩

def listObjectVersions : S3Operation :=
  ⟨"ListObjectVersions", [.bucket], .bucket, some "?versions", .httpGet, .makeRequest⟩

def listObjects : S3Operation :=
  ⟨"ListObjects", [.bucket], .bucket, none, .httpGet, .makeRequest⟩

def listObjectsV2 : S3Operation :=
  ⟨"ListObjectsV2", [.bucket], .bucket, some "?list-type=2", .httpGet, .makeRequest⟩

def listParts : S3Operation :=
  ⟨"ListParts", [.bucket, .key, .uploadId], .object, none, .httpGet, .makeRequest⟩

def putBucketAccelerateConfiguration : S3Operation :=
  ⟨"PutBucketAccelerateConfiguration", [.bucket], .bucket, some "?accelerate",
    .httpPut, .makeRequest⟩

def putBucketAcl : S3Operation :=
  ⟨"PutBucketAcl", [.bucket], .bucket, some "?acl", .httpPut, .makeRequest⟩

def putBucketAnalyticsConfiguration : S3Operation :=
  ⟨"PutBucketAnalyticsConfiguration", [.bucket, .id], .bucket, some "?analytics",
    .httpPut, .makeRequest⟩

def putBucketCors : S3Operation :=
  ⟨"PutBucketCors", [.bucket], .bucket, some "?cors", .httpPut, .makeRequest⟩

def putBucketEncryption : S3Operation :=
  ⟨"PutBucketEncryption", [.bucket], .bucket, some "?encryption", .httpPut, .makeRequest⟩

def putBucketIntelligentTieringConfiguration : S3Operation :=
  ⟨"PutBucketIntelligentTieringConfiguration", [.bucket, .id], .bucket, some "?intelligent-tiering",
    .httpPut, .makeRequest⟩

def putBucketInventoryConfiguration : S3Operation :=
  ⟨"PutBucketInventoryConfiguration", [.bucket, .id], .bucket, some "?inventory",
    .httpPut, .makeRequest⟩

def putBucketLifecycleConfiguration : S3Operation :=
  ⟨"PutBucketLifecycleConfiguration", [.bucket], .bucket, some "?lifecycle", .httpPut, .makeRequest⟩

def putBucketLogging : S3Operation :=
  ⟨"PutBucketLogging", [.bucket], .bucket, some "?logging", .httpPut, .makeRequest⟩

def putBucketMetricsConfiguration : S3Operation :=
  ⟨"PutBucketMetricsConfiguration", [.bucket, .id], .bucket, some "?metrics",
    .httpPut, .makeRequest⟩

def putBucketNotificationConfiguration : S3Operation :=
  ⟨"PutBucketNotificationConfiguration", [.bucket], .bucket, some "?notification",
    .httpPut, .makeRequest⟩

def putBucketOwnershipControls : S3Operation :=
  ⟨"PutBucketOwnershipControls", [.bucket], .bucket, some "?ownershipControls",
    .httpPut, .makeRequest⟩

def putBucketPolicy : S3Operation :=
  ⟨"PutBucketPolicy", [.bucket], .bucket, some "?policy", .httpPut, .makeRequest⟩

def putBucketReplication : S3Operation :=
  ⟨"PutBucketReplication", [.bucket], .bucket, some "?replication", .httpPut, .makeRequest⟩

def putBucketRequestPayment : S3Operation :=
  ⟨"PutBucketRequestPayment", [.bucket], .bucket, some "?requestPayment", .httpPut, .makeRequest⟩

def putBucketTagging : S3Operation :=
  ⟨"PutBucketTagging", [.bucket], .bucket, some "?tagging", .httpPut, .makeRequest⟩

def putBucketVersioning : S3Operation :=
  ⟨"PutBucketVersioning", [.bucket], .bucket, some "?versioning", .httpPut, .makeRequest⟩

def putBucketWebsite : S3Operation :=
  ⟨"PutBucketWebsite", [.bucket], .bucket, some "?website", .httpPut, .makeRequest⟩

def putObject : S3Operation :=
  ⟨"PutObject", [.bucket, .key], .object, none, .httpPut, .makeRequest⟩

def putObjectAcl : S3Operation :=
  ⟨"PutObjectAcl", [.bucket, .key], .object, some "?acl", .httpPut, .makeRequest⟩

def putObjectLegalHold : S3Operation :=
  ⟨"PutObjectLegalHold", [.bucket, .key], .object, some "?legal-hold", .httpPut, .makeRequest⟩

def putObjectLockConfiguration : S3Operation :=
  ⟨"PutObjectLockConfiguration", [.bucket], .bucket, some "?object-lock", .httpPut, .makeRequest⟩

def putObjectRetention : S3Operation :=
  ⟨"PutObjectRetention", [.bucket, .key], .object, some "?retention", .httpPut, .makeRequest⟩

def putObjectTagging : S3Operation :=
  ⟨"PutObjectTagging", [.bucket, .key], .object, some "?tagging", .httpPut, .makeRequest⟩

def putPublicAccessBlock : S3Operation :=
  ⟨"PutPublicAccessBlock", [.bucket], .bucket, some "?publicAccessBlock", .httpPut, .makeRequest⟩

def restoreObject : S3Operation :=
  ⟨"RestoreObject", [.bucket, .key], .object, some "?restore", .httpPost, .makeRequest⟩

def selectObjectContent : S3Operation :=
  ⟨"SelectObjectContent", [.bucket, .key], .object, some "?select&select-type=2",
    .httpPost, .makeRequestWithEventStream⟩

def uploadPart : S3Operation :=
  ⟨"UploadPart", [.bucket, .key, .partNumber, .uploadId], .object, none, .httpPut, .makeRequest⟩

def uploadPartCopy : S3Operation :=
  ⟨"UploadPartCopy", [.bucket, .copySource, .key, .partNumber, .uploadId], .object, none,
    .httpPut, .makeRequest⟩

/-- The operations of the family, in the order of the source. -/
def all : List S3Operation :=
  [abortMultipartUpload, completeMultipartUpload, copyObject, createBucket,
    createMultipartUpload, deleteBucket, deleteBucketAnalyticsConfiguration, deleteBucketCors,
    deleteBucketEncryption, deleteBucketIntelligentTieringConfiguration,
    deleteBucketInventoryConfiguration, deleteBucketLifecycle, deleteBucketMetricsConfiguration,
    deleteBucketOwnershipControls, deleteBucketPolicy, deleteBucketReplication,
    deleteBucketTagging, deleteBucketWebsite, deleteObject, deleteObjectTagging, deleteObjects,
    deletePublicAccessBlock, getBucketAccelerateConfiguration, getBucketAcl,
    getBucketAnalyticsConfiguration, getBucketCors, getBucketEncryption,
    getBucketIntelligentTieringConfiguration, getBucketInventoryConfiguration,
    getBucketLifecycleConfiguration, getBucketLocation, getBucketLogging,
    getBucketMetricsConfiguration, getBucketNotificationConfiguration,
    getBucketOwnershipControls, getBucketPolicy, getBucketPolicyStatus, getBucketReplication,
    getBucketRequestPayment, getBucketTagging, getBucketVersioning, getBucketWebsite, getObject,
    getObjectAcl, getObjectAttributes, getObjectLegalHold, getObjectLockConfiguration,
    getObjectRetention, getObjectTagging, getObjectTorrent, getPublicAccessBlock, headBucket,
    headObject, listBucketAnalyticsConfigurations, listBucketIntelligentTieringConfigurations,
    listBucketInventoryConfigurations, listBucketMetricsConfigurations, listMultipartUploads,
    listObjectVersions, listObjects, listObjectsV2, listParts, putBucketAccelerateConfiguration,
    putBucketAcl, putBucketAnalyticsConfiguration, putBucketCors, putBucketEncryption,
    putBucketIntelligentTieringConfiguration, putBucketInventoryConfiguration,
    putBucketLifecycleConfiguration, putBucketLogging, putBucketMetricsConfiguration,
    putBucketNotificationConfiguration, putBucketOwnershipControls, putBucketPolicy,
    putBucketReplication, putBucketRequestPayment, putBucketTagging, putBucketVersioning,
    putBucketWebsite, putObject, putObjectAcl, putObjectLegalHold, putObjectLockConfiguration,
    putObjectRetention, putObjectTagging, putPublicAccessBlock, restoreObject,
    selectObjectContent, uploadPart, uploadPartCopy]

end S3Operation

/-- {lit}`BoltS3Client::ListBuckets`, which takes no request and resolves without
parameters. -/
def listBuckets (endpointProvider : Option ResolveEndpoint) :
    Except OperationError MakeRequestCall :=
  match endpointProvider with
  | none => .error .nullEndpointProvider
  | some resolveEndpoint =>
      match resolveEndpoint [] with
      | .error message => .error (.endpointResolutionFailure message)
      | .ok endpoint =>
          .ok
            { function := .makeRequest
              request := none
              endpoint := endpoint
              method := .httpGet }

/-- {lit}`BoltS3Client::WriteGetObjectResponse`. -/
def writeGetObjectResponse (L : RequestLibrary) (endpointProvider : Option ResolveEndpoint)
    (request : S3Request) : Except OperationError MakeRequestCall :=
  match endpointProvider with
  | none => .error .nullEndpointProvider
  | some resolveEndpoint =>
      if request.hasBeenSet .requestRoute = false then
        .error (missingRequiredField .requestRoute)
      else if request.hasBeenSet .requestToken = false then
        .error (missingRequiredField .requestToken)
      else
        match resolveEndpoint request.endpointContextParams with
        | .error message => .error (.endpointResolutionFailure message)
        | .ok endpoint =>
            match L.addPrefixIfMissing endpoint.uri ("" ++ request.requestRoute ++ ".") with
            | .error message => .error (.hostPrefix message)
            | .ok uri =>
                .ok
                  { function := .makeRequest
                    request := some request
                    endpoint :=
                      { endpoint with uri := L.addPathSegments uri "/WriteGetObjectResponse" }
                    method := .httpPost }

/-! ## When an operation makes a request -/

variable {L : RequestLibrary} {operation : S3Operation} {request : S3Request}

/-- No field is missing exactly when all required ones are set. -/
theorem missingField_eq_none_iff :
    operation.missingField request = none ↔
      ∀ field ∈ operation.requiredFields, request.hasBeenSet field = true := by
  simp [S3Operation.missingField]

/-- An operation makes a request exactly when it has an endpoint provider, its
required fields are set and its address is resolved. -/
theorem S3Operation.call_eq_ok_iff {endpointProvider : Option ResolveEndpoint}
    {made : MakeRequestCall} :
    operation.call L endpointProvider request = .ok made ↔
      ∃ resolveEndpoint endpoint, endpointProvider = some resolveEndpoint ∧
        (∀ field ∈ operation.requiredFields, request.hasBeenSet field = true) ∧
        resolveEndpoint request.endpointContextParams = .ok endpoint ∧
        made =
          { function := operation.function
            request := some request
            endpoint := { endpoint with uri := operation.address L request endpoint.uri }
            method := operation.method } := by
  rw [← missingField_eq_none_iff]
  unfold S3Operation.call
  cases endpointProvider with
  | none => simp
  | some resolveEndpoint =>
      cases hmissing : operation.missingField request with
      | some field => simp
      | none =>
          cases hresolve : resolveEndpoint request.endpointContextParams with
          | error message => simp [hresolve]
          | ok endpoint => simp [hresolve, eq_comm]

/-! ## What the operations promise -/

/-- Every operation insists on a bucket, on a key exactly when it addresses an
object, and lists its fields by name. -/
theorem all_requiredFields : ∀ operation ∈ S3Operation.all,
    .bucket ∈ operation.requiredFields ∧
      (operation.resource = .object ↔ .key ∈ operation.requiredFields) ∧
      operation.requiredFields.Pairwise fun field field' => field.name < field'.name := by
  decide

/-- The field reported missing is the first one by name. -/
theorem missingField_eq_some_iff
    (hsorted : operation.requiredFields.Pairwise fun field field' => field.name < field'.name)
    {field : RequestField} :
    operation.missingField request = some field ↔
      field ∈ operation.requiredFields ∧ request.hasBeenSet field = false ∧
        ∀ other ∈ operation.requiredFields, request.hasBeenSet other = false →
          field.name ≤ other.name := by
  unfold S3Operation.missingField
  rw [List.find?_eq_some_iff_append]
  constructor
  · rintro ⟨hunset, above, below, hfields, habove⟩
    rw [hfields] at hsorted
    refine ⟨by simp [hfields], by simpa using hunset, ?_⟩
    intro other hother hmissing
    rw [hfields, List.mem_append, List.mem_cons] at hother
    rcases hother with hother | rfl | hother
    · have hset : request.hasBeenSet other = true := by simpa using habove other hother
      rw [hset] at hmissing
      cases hmissing
    · exact le_refl _
    · exact ((List.pairwise_cons.mp (List.pairwise_append.mp hsorted).2.1).1 other hother).le
  · rintro ⟨hmem, hunset, hfirst⟩
    rcases List.append_of_mem hmem with ⟨above, below, hfields⟩
    refine ⟨by simpa using hunset, above, below, hfields, ?_⟩
    intro other hother
    -- A field listed before has a smaller name, so it is set.
    have hlt : other.name < field.name := by
      rw [hfields] at hsorted
      exact (List.pairwise_append.mp hsorted).2.2 other hother field (by simp)
    by_contra hmissing
    have hle := hfirst other (by simp [hfields, hother]) (by simpa using hmissing)
    exact absurd hlt (not_lt.mpr hle)

/-- The segments the key of a request becomes. -/
def S3Operation.keySegments (operation : S3Operation) (request : S3Request) : List String :=
  match operation.resource with
  | .bucket => []
  | .object => (pieces '/' request.key.toList).map String.ofList

/-- Key and subresource change path and query only. -/
theorem address_spec (hadds : AddsPathSegments L) (operation : S3Operation)
    (request : S3Request) (uri : Uri) :
    (operation.address L request uri).scheme = uri.scheme ∧
      (operation.address L request uri).authority = uri.authority ∧
      (operation.address L request uri).port = uri.port ∧
      (operation.address L request uri).pathSegments =
        uri.pathSegments ++ operation.keySegments request ∧
      (operation.address L request uri).queryString =
        operation.subresource.getD uri.queryString := by
  rcases hadds.path_only uri request.key with ⟨path, hpath⟩
  have hsegments := hadds.pathSegments uri request.key
  unfold S3Operation.address S3Operation.keySegments
  cases operation.resource <;> cases operation.subresource <;>
    simp_all [Uri.setPath, Uri.setQueryString, Uri.pathSegments]

/-- What an operation promises: it reports the first required field, by name, that
is not set; it makes no request without a bucket, nor one for an object without a
key; and it leaves host and port of the resolved address alone, puts the segments
of the key behind its path, and replaces the query by the subresource, if the
operation has one. -/
structure OperationContract (L : RequestLibrary) (operation : S3Operation) : Prop where
  reports : ∀ resolveEndpoint request field,
    operation.call L (some resolveEndpoint) request = .error (missingRequiredField field) ↔
      field ∈ operation.requiredFields ∧ request.hasBeenSet field = false ∧
        ∀ other ∈ operation.requiredFields, request.hasBeenSet other = false →
          field.name ≤ other.name
  checked : ∀ endpointProvider request made,
    operation.call L endpointProvider request = .ok made →
      (∃ bucket, request.endpointContextParams.lookup "Bucket" = some bucket) ∧
        (operation.resource = .object → request.hasBeenSet .key = true)
  addressed : ∀ resolveEndpoint request made endpoint,
    operation.call L (some resolveEndpoint) request = .ok made →
    resolveEndpoint request.endpointContextParams = .ok endpoint →
      made.endpoint.uri.scheme = endpoint.uri.scheme ∧
        made.endpoint.uri.authority = endpoint.uri.authority ∧
        made.endpoint.uri.port = endpoint.uri.port ∧
        made.endpoint.uri.pathSegments =
          endpoint.uri.pathSegments ++ operation.keySegments request ∧
        made.endpoint.uri.queryString = operation.subresource.getD endpoint.uri.queryString

/-- No two operations make requests that agree in method, resource, subresource
and required fields. -/
theorem all_distinct : (S3Operation.all.map fun operation =>
    (operation.method, operation.resource, operation.subresource,
      operation.requiredFields)).Nodup := by
  decide +kernel

/-- Every operation of the family keeps the contract. -/
theorem operations_contract (hadds : AddsPathSegments L) :
    ∀ operation ∈ S3Operation.all, OperationContract L operation := by
  intro operation hmem
  rcases all_requiredFields operation hmem with ⟨hbucket, hkey, hsorted⟩
  constructor
  · intro resolveEndpoint request field
    rw [← missingField_eq_some_iff hsorted]
    unfold S3Operation.call
    cases hmissing : operation.missingField request with
    | some field' => simp [missingRequiredField_inj]
    | none =>
        cases hresolve : resolveEndpoint request.endpointContextParams with
        | error message => simp [hresolve, missingRequiredField]
        | ok endpoint => simp [hresolve]
  · intro endpointProvider request made hmade
    rcases S3Operation.call_eq_ok_iff.mp hmade with ⟨_, _, -, hset, -, -⟩
    refine ⟨?_, fun hobject => hset .key (hkey.mp hobject)⟩
    have hsome := hset .bucket hbucket
    rw [request.bucket_set] at hsome
    exact Option.isSome_iff_exists.mp hsome
  · intro resolveEndpoint request made endpoint hmade hresolve
    rcases S3Operation.call_eq_ok_iff.mp hmade with
      ⟨resolveEndpoint', endpoint', hprovider, -, hresolve', rfl⟩
    cases hprovider
    obtain rfl : endpoint = endpoint' := Except.ok.inj (hresolve.symm.trans hresolve')
    exact address_spec hadds operation request endpoint.uri

/-! ## Reference implementation -/

/-- Split the text at slashes and put the pieces behind the path.  A slash at the
end stays. -/
def referenceAddPathSegments (uri : Uri) (text : String) : Uri :=
  let segments := uri.pathSegments ++ (pieces '/' text.toList).map String.ofList
  let trailing := if text.toList.getLast? = some '/' then 1 else 0
  uri.setPath (pathText segments ++ String.ofList (List.replicate trailing '/'))

/-- A library that builds requests without headers of their own. -/
def referenceRequestLibrary : RequestLibrary where
  addPathSegments := referenceAddPathSegments
  addPrefixIfMissing := fun uri hostPrefix =>
    if hostPrefix.toList <+: uri.authority.toList then .ok uri
    else .ok (uri.setAuthority (hostPrefix ++ uri.authority))
  buildHttpRequest := fun _ uri method => standardHttpRequest uri method
  signBody := fun _ => true

/-- The reference library behaves as documented. -/
theorem referenceRequestLibrary_builds : BuildsRequests referenceRequestLibrary where
  pathSegments := by
    intro uri text
    have hsegments : ∀ segment ∈ uri.pathSegments ++ (pieces '/' text.toList).map String.ofList,
        segment ≠ "" ∧ '/' ∉ segment.toList := by
      intro segment hsegment
      unfold Uri.pathSegments at hsegment
      rw [← List.map_append, List.mem_map] at hsegment
      rcases hsegment with ⟨piece, hpiece, rfl⟩
      rcases List.mem_append.mp hpiece with hpiece | hpiece
      all_goals
        rcases ne_nil_and_free_of_mem_pieces hpiece with ⟨hne, hfree⟩
        exact ⟨by simpa using hne, by simpa using hfree⟩
    show (pieces '/' (pathText _ ++ String.ofList (List.replicate _ '/')).toList).map _ = _
    rw [String.toList_append, String.toList_ofList, pieces_pathText _ hsegments, List.map_map]
    simp
  path_only := fun _ _ => ⟨_, rfl⟩
  authority_only := by
    intro uri hostPrefix uri' h
    simp only [referenceRequestLibrary] at h
    split at h
    · exact ⟨uri.authority, (Except.ok.inj h).symm⟩
    · exact ⟨_, (Except.ok.inj h).symm⟩
  method := fun _ _ _ => rfl
  uri := fun _ uri _ =>
    ⟨"", by simp [referenceRequestLibrary, standardHttpRequest, Uri.setQueryString]⟩

/-- Reading the tags of an object over the reference library. -/
theorem operations_contract_reference :
    OperationContract referenceRequestLibrary .getObjectTagging :=
  operations_contract referenceRequestLibrary_builds.toAddsPathSegments _ (by decide)

end BoltClient
