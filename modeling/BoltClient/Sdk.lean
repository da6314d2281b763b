import Mathlib.Data.List.AList
import Mathlib.Data.String.Basic
import Mathlib.Logic.Function.Basic
import BoltClient.Library.SortedMaps

/-!
# The AWS SDK, cpr and JSON as the client sees them

The Bolt client is written against three third-party libraries that are not
part of the repository.  This file fixes the data they exchange with the client
and collects their functions in the structure {lit}`Externals`, a parameter of
every function of the model.

The URI type has independent scheme, authority, port, path and query fields.
Its setters follow the SDK: {lit}`SetAuthority` changes the authority alone and
{lit}`SetScheme` also moves a default or missing port to the default of the new
scheme.

Main results:

- Theorems {lit}`setHeaderValue_get_self` and {lit}`setHeaderValue_get_of_ne`:
  setting a header replaces the value under its lower-case name only.
- Theorem {lit}`setHeaderValues_get`: of the headers of a map with one lower-case
  name, the last one is left.

Current gaps:

- Request bodies, response streams and the credentials provider are left out:
  no modelled function reads them.
- {lit}`SetHeaderValue` stores the value it is given, without trimming it.
-/

namespace BoltClient

open BoltClient.Library.SortedMaps

/-! ## URIs -/

/-- {lit}`Aws::Http::Scheme`. -/
inductive Scheme where
  | http
  | https
deriving DecidableEq, Repr

/-- {lit}`Aws::Http::HTTP_DEFAULT_PORT`. -/
def httpDefaultPort : Nat := 80

/-- {lit}`Aws::Http::HTTPS_DEFAULT_PORT`. -/
def httpsDefaultPort : Nat := 443

/-- {lit}`Aws::Http::URI`. -/
structure Uri where
  scheme : Scheme
  authority : String
  port : Nat
  path : String
  queryString : String
deriving DecidableEq, Repr

/-- The URI of the default constructor {lit}`Aws::Http::URI()`. -/
def Uri.empty : Uri where
  scheme := .http
  authority := ""
  port := httpDefaultPort
  path := "/"
  queryString := ""

/-- {lit}`URI::SetAuthority`. -/
def Uri.setAuthority (uri : Uri) (authority : String) : Uri :=
  { uri with authority := authority }

/-- {lit}`URI::SetPath`. -/
def Uri.setPath (uri : Uri) (path : String) : Uri :=
  { uri with path := path }

/-- {lit}`URI::SetScheme`. -/
def Uri.setScheme (uri : Uri) : Scheme → Uri
  | .http =>
      { uri with
        scheme := .http
        port := if uri.port = httpsDefaultPort ∨ uri.port = 0 then httpDefaultPort
          else uri.port }
  | .https =>
      { uri with
        scheme := .https
        port := if uri.port = httpDefaultPort ∨ uri.port = 0 then httpsDefaultPort
          else uri.port }

@[simp] theorem Uri.setAuthority_scheme (uri : Uri) (a : String) :
    (uri.setAuthority a).scheme = uri.scheme := rfl

@[simp] theorem Uri.setAuthority_authority (uri : Uri) (a : String) :
    (uri.setAuthority a).authority = a := rfl

@[simp] theorem Uri.setAuthority_port (uri : Uri) (a : String) :
    (uri.setAuthority a).port = uri.port := rfl

@[simp] theorem Uri.setAuthority_path (uri : Uri) (a : String) :
    (uri.setAuthority a).path = uri.path := rfl

@[simp] theorem Uri.setAuthority_queryString (uri : Uri) (a : String) :
    (uri.setAuthority a).queryString = uri.queryString := rfl

@[simp] theorem Uri.setScheme_scheme (uri : Uri) (s : Scheme) :
    (uri.setScheme s).scheme = s := by
  cases s <;> rfl

@[simp] theorem Uri.setScheme_authority (uri : Uri) (s : Scheme) :
    (uri.setScheme s).authority = uri.authority := by
  cases s <;> rfl

/-! ## Requests -/

/-- {lit}`Aws::Http::HttpMethod`. -/
inductive HttpMethod where
  | httpGet
  | httpPost
  | httpDelete
  | httpPut
  | httpHead
  | httpPatch
deriving DecidableEq, Repr

/-- {lit}`Aws::Http::HeaderValueCollection`: values under lower-case names. -/
abbrev HeaderValueCollection := String → Option String

/-- The name under which a header is stored. -/
def headerKey (name : String) : String :=
  String.ofList (name.toList.map Char.toLower)

/-- {lit}`Aws::Http::HttpRequest`. -/
structure HttpRequest where
  uri : Uri
  method : HttpMethod
  headers : HeaderValueCollection

/-- {lit}`StandardHttpRequest(uri, method)`: a request without headers. -/
def standardHttpRequest (uri : Uri) (method : HttpMethod) : HttpRequest where
  uri := uri
  method := method
  headers := fun _ => none

/-- {lit}`HttpRequest::SetHeaderValue`. -/
def HttpRequest.setHeaderValue (request : HttpRequest) (name value : String) : HttpRequest :=
  { request with headers := Function.update request.headers (headerKey name) (some value) }

/-- A {lit}`HeaderValueCollection` as a caller fills it: a {lit}`std::map`, in which
a header may stand under several spellings of its name. -/
abbrev CustomizedHeaders := SortedMap String String

/-- Set the headers of a map, in its order. -/
def HttpRequest.setHeaderValues (request : HttpRequest) (headers : CustomizedHeaders) :
    HttpRequest :=
  headers.entries.foldl (fun request (name, value) => request.setHeaderValue name value) request

/-- {lit}`HttpRequest::GetHeaderValue`: an absent header reads as the empty
string. -/
def HttpRequest.getHeaderValue (request : HttpRequest) (name : String) : String :=
  (request.headers (headerKey name)).getD ""

@[simp] theorem HttpRequest.setHeaderValue_uri (r : HttpRequest) (name value : String) :
    (r.setHeaderValue name value).uri = r.uri := rfl

@[simp] theorem HttpRequest.setHeaderValue_method (r : HttpRequest) (name value : String) :
    (r.setHeaderValue name value).method = r.method := rfl

/-- The header just set reads back. -/
theorem HttpRequest.setHeaderValue_get_self (r : HttpRequest) {name key : String}
    (value : String) (hkey : headerKey name = key) :
    (r.setHeaderValue name value).headers key = some value := by
  subst hkey
  simp [HttpRequest.setHeaderValue]

/-- Every other header is left alone. -/
theorem HttpRequest.setHeaderValue_get_of_ne (r : HttpRequest) {name key : String}
    (value : String) (hkey : key ≠ headerKey name) :
    (r.setHeaderValue name value).headers key = r.headers key := by
  simp [HttpRequest.setHeaderValue, Function.update_of_ne hkey]

/-- Setting headers touches nothing else, and does to them what a run through the map
does that writes under lower-case names. -/
theorem HttpRequest.setHeaderValues_eq (r : HttpRequest) (headers : CustomizedHeaders) :
    r.setHeaderValues headers =
      { r with headers := headers.entries.foldl (writeEntry headerKey) r.headers } := by
  unfold HttpRequest.setHeaderValues
  induction headers.entries generalizing r with
  | nil => rfl
  | cons entry entries ih =>
      rw [List.foldl_cons, List.foldl_cons, ih]
      rfl

@[simp] theorem HttpRequest.setHeaderValues_uri (r : HttpRequest)
    (headers : CustomizedHeaders) : (r.setHeaderValues headers).uri = r.uri := by
  rw [HttpRequest.setHeaderValues_eq]

@[simp] theorem HttpRequest.setHeaderValues_method (r : HttpRequest)
    (headers : CustomizedHeaders) : (r.setHeaderValues headers).method = r.method := by
  rw [HttpRequest.setHeaderValues_eq]

/-- Of the headers of a map with one lower-case name, the last one is left. -/
theorem HttpRequest.setHeaderValues_get (r : HttpRequest) (headers : CustomizedHeaders)
    (key : String) :
    (r.setHeaderValues headers).headers key =
      ((headers.last fun name => headerKey name = key).map Prod.snd).or (r.headers key) := by
  rw [HttpRequest.setHeaderValues_eq]
  exact headers.foldl_writeEntry headerKey r.headers key

/-! ## The V4 signer -/

/-- {lit}`AWSAuthV4Signer::PayloadSigningPolicy`. -/
inductive PayloadSigningPolicy where
  | requestDependent
  | always
  | never
deriving DecidableEq, Repr

/-- {lit}`Aws::Auth::AWSSigningAlgorithm`. -/
inductive AwsSigningAlgorithm where
  | sigv4
  | asymmetricSigv4
deriving DecidableEq, Repr

/-- An {lit}`AWSAuthV4Signer`, given by the arguments of its constructor other
than the credentials provider. -/
structure AwsAuthV4Signer where
  serviceName : String
  region : String
  signingPolicy : PayloadSigningPolicy
  urlEscapePath : Bool
  signingAlgorithm : AwsSigningAlgorithm
deriving DecidableEq, Repr

/-- The two signing functions, with the argument only one of them has. -/
inductive SignKind where
  | signRequest (signBody : Bool)
  | presignRequest (expirationTimeInSeconds : Int)

/-- One call of a signing function of an {lit}`AWSAuthV4Signer`, with all its
arguments.  Strings passed as {lit}`const char*` are optional because the null
pointer is a legal argument. -/
structure V4Call where
  kind : SignKind
  signer : AwsAuthV4Signer
  request : HttpRequest
  region : Option String
  serviceName : Option String

/-- What the signing functions of {lit}`AWSAuthV4Signer` do at one moment, with
the clock and the credentials of that moment: the result of a call, and the
request as it leaves it. -/
abbrev V4Signing := V4Call → Bool × HttpRequest

/-! ## Fetching and decoding the endpoint map -/

/-- {lit}`BoltEndpoints`: endpoint lists under their keys. -/
abbrev BoltEndpoints := AList fun _ : String => List String

/-- {lit}`std::map::find`: the list bound to a key. -/
def BoltEndpoints.find (endpoints : BoltEndpoints) (key : String) : Option (List String) :=
  endpoints.lookup key

/-- {lit}`cpr::ErrorCode`. -/
inductive ErrorCode where
  | ok
  | failure (code : Nat)
deriving DecidableEq, Repr

/-- {lit}`cpr::Response`. -/
structure Response where
  errorCode : ErrorCode
  errorMessage : String
  statusCode : Nat
  text : String
deriving DecidableEq, Repr

/-- Clock readings of {lit}`std::chrono::system_clock`, in its ticks. -/
abbrev Time := Int

/-- The functions of the libraries the client is built on. -/
structure Externals where
  /-- The constructor {lit}`URI(const Aws::String&)`. -/
  parseUri : String → Uri
  /-- {lit}`URI::GetURIString`. -/
  uriString : Uri → String
  /-- {lit}`URI::GetQueryStringParameters` of a query string. -/
  queryParameters : String → List (String × String)
  /-- {lit}`json::parse` followed by {lit}`get<BoltEndpoints>`; an exception is
  given by its message. -/
  decodeEndpoints : String → Except String BoltEndpoints
  /-- Ticks of the system clock in one second. -/
  ticksPerSecond : Nat

/-- {lit}`std::chrono::seconds`. -/
def Externals.seconds (E : Externals) (n : Nat) : Time :=
  n * E.ticksPerSecond

theorem Externals.seconds_nonneg (E : Externals) (n : Nat) : 0 ≤ E.seconds n := by
  exact Int.mul_nonneg (Int.natCast_nonneg _) (Int.natCast_nonneg _)

/-- More seconds are no fewer ticks. -/
theorem Externals.seconds_mono (E : Externals) {m n : Nat} (h : m ≤ n) :
    E.seconds m ≤ E.seconds n := by
  unfold Externals.seconds
  exact_mod_cast Nat.mul_le_mul_right _ h

/-! ## Reference implementation

Concrete functions that behave as the libraries do on well-formed input without
percent-encoding.  Concrete runs of the model are evaluated with them; no
general result depends on them. -/

/-- Split at the first {lit}`"://"`. -/
def splitAtSeparator : List Char → Option (List Char × List Char)
  | [] => none
  | c :: cs =>
      if (c :: cs).take 3 = [':', '/', '/'] then some ([], cs.drop 2)
      else (splitAtSeparator cs).map fun (before, after) => (c :: before, after)

/-- The number written by decimal digits. -/
def digitsValue (digits : List Char) : Nat :=
  digits.foldl (fun n d => 10 * n + (d.toNat - '0'.toNat)) 0

/-- Parse scheme, authority, port, path and query of a URI string. -/
def referenceParseUri (text : String) : Uri :=
  let (scheme, rest) :=
    match splitAtSeparator text.toList with
    | none => (Scheme.http, text.toList)
    | some (before, after) =>
        (if before = ['h', 't', 't', 'p', 's'] then Scheme.https else Scheme.http, after)
  let authority := rest.takeWhile fun c => c ∉ [':', '/', '?']
  let afterAuthority := rest.drop authority.length
  let port :=
    if afterAuthority.head? = some ':' then
      digitsValue ((afterAuthority.drop 1).takeWhile Char.isDigit)
    else if scheme = .https then httpsDefaultPort else httpDefaultPort
  let pathAndQuery := afterAuthority.dropWhile fun c => c ∉ ['/', '?']
  let path := pathAndQuery.takeWhile (· ≠ '?')
  { scheme := scheme
    authority := String.ofList authority
    port := port
    path := if path = [] then "/" else String.ofList path
    queryString := String.ofList (pathAndQuery.drop path.length) }

/-- Print a URI; the default port of the scheme is left out. -/
def referenceUriString (uri : Uri) : String :=
  let (scheme, defaultPort) :=
    match uri.scheme with
    | .http => ("http", httpDefaultPort)
    | .https => ("https", httpsDefaultPort)
  scheme ++ "://" ++ uri.authority ++
    (if uri.port = defaultPort then "" else ":" ++ uri.port.repr) ++ uri.path ++ uri.queryString

/-- The {lit}`key=value` pairs of a query string. -/
def referenceQueryParameters (query : String) : List (String × String) :=
  ((query.toList.dropWhile (· = '?')).splitOn '&').map fun pair =>
    (String.ofList (pair.takeWhile (· ≠ '=')), String.ofList ((pair.dropWhile (· ≠ '=')).drop 1))

/-- The libraries with a given JSON decoder and a clock in milliseconds. -/
def referenceExternals (decode : String → Except String BoltEndpoints) : Externals where
  parseUri := referenceParseUri
  uriString := referenceUriString
  queryParameters := referenceQueryParameters
  decodeEndpoints := decode
  ticksPerSecond := 1000

/-- Endpoint maps some quicksilver answers decode to. -/
def sampleAnswers : List (String × BoltEndpoints) :=
  [("\x7b\"main_read_endpoints\":[\"10.0.0.1\"],\"main_write_endpoints\":[\"10.0.0.2\"]\x7d",
      [⟨"main_read_endpoints", ["10.0.0.1"]⟩,
        ⟨"main_write_endpoints", ["10.0.0.2"]⟩].toAList),
    ("\x7b\"main_read_endpoints\":[\"10.1.0.1\"]\x7d",
      [⟨"main_read_endpoints", ["10.1.0.1"]⟩].toAList),
    ("\x7b\"main_read_endpoints\":[]\x7d", [⟨"main_read_endpoints", []⟩].toAList),
    ("\x7b\x7d", ∅)]

/-- The libraries with a JSON decoder that knows the sample answers. -/
def sampleExternals : Externals :=
  referenceExternals fun text =>
    match sampleAnswers.lookup text with
    | none => .error "parse error"
    | some endpoints => .ok endpoints

/-- A successful response with the sample answer of the given number. -/
def sampleResponse (n : Nat) : Response where
  errorCode := .ok
  errorMessage := ""
  statusCode := 200
  text := ((sampleAnswers[n]?).map Prod.fst).getD ""

/-- The response of a host that cannot be reached. -/
def unreachableResponse : Response where
  errorCode := .failure 7
  errorMessage := "Failed to connect"
  statusCode := 0
  text := ""

/-- The headers of a V4 signature. -/
def sampleV4Headers (headRequest : HttpRequest) : HttpRequest :=
  (headRequest.setHeaderValue "x-amz-date" "20240101T000000Z").setHeaderValue "authorization"
    "AWS4-HMAC-SHA256 Credential=AKID/20240101/us-east-1/s3/aws4_request, Signature=0"

/-- The query string of a V4 presignature. -/
def sampleV4Query (expirationTimeInSeconds : Int) : String :=
  let expires := expirationTimeInSeconds.toNat.repr
  "?X-Amz-Algorithm=AWS4-HMAC-SHA256&X-Amz-Date=20240101T000000Z&X-Amz-Expires=" ++ expires ++
    "&X-Amz-Signature=0" ++ expires

/-- A V4 signer that signs with headers and presigns with query parameters. -/
def sampleV4 : V4Signing := fun call =>
  match call.kind with
  | .signRequest _ => (true, sampleV4Headers call.request)
  | .presignRequest expiration =>
      (true, { call.request with
        uri := { call.request.uri with queryString := sampleV4Query expiration } })

/-- A V4 signer that fails and leaves the request alone. -/
def failingV4 : V4Signing := fun call => (false, call.request)

example :
    referenceParseUri "https://bolt.example.com:8443/bucket/key?versionId=7" =
      ⟨.https, "bolt.example.com", 8443, "/bucket/key", "?versionId=7"⟩ := by
  decide

end BoltClient
