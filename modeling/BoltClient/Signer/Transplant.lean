import BoltClient.Signer

/-!
# The transplant of a signature

Bolt builds the surrogate request again from the request it receives and checks
the transplanted signature against it.  This works only if prefix, token, date,
hash and signature all come from the same surrogate request, no later write hits
an earlier one, and the rest of the request is left alone.

The transplant is a list of header writes under distinct names, and its effect
is read off that list.

Main results:

- Theorem {lit}`signBoltRequest_eq_writeHeaders`: the transplant is its list of
  writes.
- Theorems {lit}`writeHeaders_of_mem` and {lit}`writeHeaders_of_not_mem`: what
  writes under distinct names leave under each name.
- Theorem {lit}`perform_carriesSignature`: what a signed request carries.

Current gaps:

- What the V4 signature covers is not looked at.
-/

namespace BoltClient

/-! ## Writing several headers -/

/-- A write to a header, of a value if there is one. -/
abbrev HeaderWrite := String × Option String

/-- The request after a write. -/
def HttpRequest.writeHeader (request : HttpRequest) (write : HeaderWrite) : HttpRequest :=
  match write.2 with
  | some value => request.setHeaderValue write.1 value
  | none => request

/-- The request after several writes. -/
def HttpRequest.writeHeaders (request : HttpRequest) (writes : List HeaderWrite) : HttpRequest :=
  writes.foldl HttpRequest.writeHeader request

theorem copyHeader_eq_writeHeader (headers : HeaderValueCollection) (name : String)
    (request : HttpRequest) :
    copyHeader headers name request = request.writeHeader (name, headers name) := rfl

@[simp] theorem writeHeader_method (request : HttpRequest) (write : HeaderWrite) :
    (request.writeHeader write).method = request.method := by
  unfold HttpRequest.writeHeader
  split <;> rfl

/-- A write replaces the value under its own name. -/
theorem writeHeader_self (request : HttpRequest) (write : HeaderWrite) :
    (request.writeHeader write).headers (headerKey write.1) =
      write.2.or (request.headers (headerKey write.1)) := by
  rcases write with ⟨name, _ | value⟩
  · rfl
  · exact request.setHeaderValue_get_self value rfl

/-- A write leaves every other name alone. -/
theorem writeHeader_of_ne (request : HttpRequest) {write : HeaderWrite} {key : String}
    (hkey : key ≠ headerKey write.1) :
    (request.writeHeader write).headers key = request.headers key := by
  rcases write with ⟨name, _ | value⟩
  · rfl
  · exact request.setHeaderValue_get_of_ne value hkey

@[simp] theorem writeHeaders_method (request : HttpRequest) (writes : List HeaderWrite) :
    (request.writeHeaders writes).method = request.method := by
  induction writes generalizing request with
  | nil => rfl
  | cons write writes ih => exact (ih _).trans (writeHeader_method request write)

/-- Names that are not written keep their values. -/
theorem writeHeaders_of_not_mem {request : HttpRequest} {writes : List HeaderWrite} {key : String}
    (hkey : key ∉ writes.map fun write => headerKey write.1) :
    (request.writeHeaders writes).headers key = request.headers key := by
  induction writes generalizing request with
  | nil => rfl
  | cons write writes ih =>
      simp only [List.map_cons, List.mem_cons, not_or] at hkey
      exact (ih hkey.2).trans (writeHeader_of_ne request hkey.1)

/-- Among writes under distinct names each takes effect. -/
theorem writeHeaders_of_mem {request : HttpRequest} {writes : List HeaderWrite}
    (hdistinct : (writes.map fun write => headerKey write.1).Nodup) {write : HeaderWrite}
    (hmem : write ∈ writes) :
    (request.writeHeaders writes).headers (headerKey write.1) =
      write.2.or (request.headers (headerKey write.1)) := by
  induction writes generalizing request with
  | nil => cases hmem
  | cons first writes ih =>
      rw [List.map_cons, List.nodup_cons] at hdistinct
      rcases List.mem_cons.mp hmem with rfl | hmem
      · exact (writeHeaders_of_not_mem hdistinct.1).trans (writeHeader_self request write)
      · have hne : headerKey write.1 ≠ headerKey first.1 := by
          intro heq
          exact hdistinct.1 (heq ▸ List.mem_map_of_mem hmem)
        rw [← writeHeader_of_ne request hne]
        exact ih hdistinct.2 hmem

/-! ## The writes of the transplant -/

/-- The headers a V4 signature consists of. -/
def signatureHeaders : List String :=
  ["x-amz-security-token", "x-amz-date", "authorization", "x-amz-content-sha256"]

/-- The writes of the transplant, in order. -/
def transplantWrites (s : Statics) (request : HttpRequest) (signedHeaders : HeaderValueCollection)
    (authPrefix : String) : List HeaderWrite :=
  signatureHeaders.map (fun name => (name, signedHeaders name)) ++
    [("host", some s.config.boltHostName),
      ("x-bolt-auth-prefix", some authPrefix),
      ("user-agent", some (s.config.userAgentPrefix ++ request.getHeaderValue "user-agent")),
      ("x-bolt-passthrough-Read",
        if s.config.disablePassThroughRead then some "disable" else none)]

/-- The names the transplant writes. -/
def transplantNames : List String :=
  signatureHeaders ++ ["host", "x-bolt-auth-prefix", "user-agent", "x-bolt-passthrough-read"]

section Writes

variable (s : Statics) (request : HttpRequest) (signedHeaders : HeaderValueCollection)
  (boltUri : Uri) (authPrefix : String)

theorem transplantWrites_names :
    (transplantWrites s request signedHeaders authPrefix).map (fun write => headerKey write.1) =
      transplantNames := by
  simp only [transplantWrites, signatureHeaders, List.map_cons, List.map_nil, List.cons_append,
    List.nil_append]
  decide

/-- The transplant replaces the URI and makes its writes. -/
theorem signBoltRequest_eq_writeHeaders :
    (signBoltRequest s request signedHeaders boltUri authPrefix).2.1 =
      HttpRequest.writeHeaders { request with uri := boltUri }
        (transplantWrites s request signedHeaders authPrefix) := by
  -- The user agent is read after six writes, none of which is to it.
  let early := HttpRequest.writeHeaders { request with uri := boltUri }
    (signatureHeaders.map (fun name => (name, signedHeaders name)) ++
      [("host", some s.config.boltHostName), ("x-bolt-auth-prefix", some authPrefix)])
  have hread : early.getHeaderValue "user-agent" = request.getHeaderValue "user-agent" := by
    unfold HttpRequest.getHeaderValue
    refine congrArg (fun value => Option.getD value "") (writeHeaders_of_not_mem ?_)
    simp only [signatureHeaders, List.map_cons, List.map_nil, List.cons_append, List.nil_append]
    decide
  have hwrites : (signBoltRequest s request signedHeaders boltUri authPrefix).2.1 =
      (early.writeHeader ("user-agent",
          some (s.config.userAgentPrefix ++ early.getHeaderValue "user-agent"))).writeHeader
        ("x-bolt-passthrough-Read",
          if s.config.disablePassThroughRead then some "disable" else none) := by
    cases hflag : s.config.disablePassThroughRead <;>
      simp only [signBoltRequest, hflag] <;> rfl
  rw [hwrites, hread]
  rfl

end Writes

/-! ## What a signed request carries -/

/-- A signed request carries the signature of the surrogate request: that request
names the bucket and the prefix the signed request carries, the V4 signer's
headers are on the signed request, and beside these and the client's own headers
nothing but the URI has changed. -/
structure CarriesSignature (E : Externals) (s : Statics) (call : SignCall) (x : SignInput)
    (headRequest : HttpRequest) : Prop where
  head_eq : (call.perform E s x).head = some headRequest
  head_uri : headRequest.uri = E.parseUri ("https://s3." ++ s.config.region ++
    ".amazonaws.com/" ++ sourceBucket s.config call.request.uri.path ++ "/" ++
    getRandomString x.prefixRand ++ "/auth")
  head_token : ∀ token, call.request.headers "x-amz-security-token" = some token →
    headRequest.headers "x-amz-security-token" = some token
  auth_prefix : (call.perform E s x).request.headers "x-bolt-auth-prefix" =
    some (getRandomString x.prefixRand)
  signature : ∀ name ∈ signatureHeaders, ∀ value,
    (call.v4Sign x headRequest).2.headers name = some value →
      (call.perform E s x).request.headers name = some value
  signature_absent : ∀ name ∈ signatureHeaders,
    (call.v4Sign x headRequest).2.headers name = none →
      (call.perform E s x).request.headers name = call.request.headers name
  host : (call.perform E s x).request.headers "host" = some s.config.boltHostName
  user_agent : (call.perform E s x).request.headers "user-agent" =
    some (s.config.userAgentPrefix ++ call.request.getHeaderValue "user-agent")
  passthrough : s.config.disablePassThroughRead = true →
    (call.perform E s x).request.headers "x-bolt-passthrough-read" = some "disable"
  passthrough_absent : s.config.disablePassThroughRead = false →
    (call.perform E s x).request.headers "x-bolt-passthrough-read" =
      call.request.headers "x-bolt-passthrough-read"
  others : ∀ key, key ∉ transplantNames →
    (call.perform E s x).request.headers key = call.request.headers key
  method : (call.perform E s x).request.method = call.request.method
  path : (call.perform E s x).request.uri.path = call.request.uri.path
  query : (call.perform E s x).request.uri.queryString = call.request.uri.queryString

variable {E : Externals} {s : Statics} {call : SignCall} {x : SignInput}

/-- A token of the request is on the surrogate request. -/
theorem createBoltHeadRequest_token (c : BoltConfig) (request : HttpRequest)
    (authPrefix : String) :
    (createBoltHeadRequest E c request authPrefix).headers "x-amz-security-token" =
      request.headers "x-amz-security-token" := by
  have hcopied := writeHeader_self
    (standardHttpRequest (E.parseUri (headObjectUrl c request.uri.path authPrefix)) .httpHead)
    ("x-amz-security-token", request.headers "x-amz-security-token")
  unfold createBoltHeadRequest
  rw [HttpRequest.setHeaderValue_get_of_ne _ _ (by decide), copyHeader_eq_writeHeader]
  simpa [headerKey, standardHttpRequest] using hcopied

/-- The surrogate request is made from the configuration before the call. -/
theorem headRequest_eq (E : Externals) (s : Statics) (call : SignCall) (x : SignInput) :
    call.headRequest E s x =
      createBoltHeadRequest E s.config call.request (getRandomString x.prefixRand) := by
  rcases afterRefreshCheck_eq E s.config x.select with ⟨endpoints, refreshTime, hconfig⟩
  unfold SignCall.headRequest
  rw [hconfig]
  rfl

/-- A call that has an endpoint selected makes the writes of the transplant. -/
theorem perform_request_eq {e : Uri}
    (hselect : (selectBoltEndpoints E s.config call.request.method x.select).result = .ok e) :
    (call.perform E s x).request =
      HttpRequest.writeHeaders
        { call.request with uri := call.request.uri.setAuthority e.authority }
        (transplantWrites s call.request (call.v4Sign x (call.headRequest E s x)).2.headers
          (getRandomString x.prefixRand)) := by
  rcases afterRefreshCheck_eq E s.config x.select with ⟨endpoints, refreshTime, hconfig⟩
  rw [perform_of_selected hselect]
  simp only [signBoltRequest_eq_writeHeaders, hconfig]
  rfl

/-- A call that has an endpoint selected leaves under each name it writes the
value written there, if there was one to write. -/
theorem perform_header {e : Uri}
    (hselect : (selectBoltEndpoints E s.config call.request.method x.select).result = .ok e)
    (name : String) {key : String} {value : Option String} (hkey : headerKey name = key)
    (hmem : (name, value) ∈ transplantWrites s call.request
      (call.v4Sign x (call.headRequest E s x)).2.headers (getRandomString x.prefixRand)) :
    (call.perform E s x).request.headers key = value.or (call.request.headers key) := by
  have hdistinct : ((transplantWrites s call.request
      (call.v4Sign x (call.headRequest E s x)).2.headers
      (getRandomString x.prefixRand)).map fun write => headerKey write.1).Nodup := by
    rw [transplantWrites_names]
    decide
  subst hkey
  rw [perform_request_eq hselect, writeHeaders_of_mem hdistinct hmem]

/-- A value that is written whatever else holds stands under its name. -/
theorem perform_header_some {e : Uri}
    (hselect : (selectBoltEndpoints E s.config call.request.method x.select).result = .ok e)
    (name : String) {key value : String} (hkey : headerKey name = key)
    (hmem : (name, some value) ∈ transplantWrites s call.request
      (call.v4Sign x (call.headRequest E s x)).2.headers (getRandomString x.prefixRand)) :
    (call.perform E s x).request.headers key = some value :=
  perform_header hselect name hkey hmem

/-- The host header names the Bolt cluster of the configuration. -/
theorem perform_host {e : Uri}
    (hselect : (selectBoltEndpoints E s.config call.request.method x.select).result = .ok e) :
    (call.perform E s x).request.headers "host" = some s.config.boltHostName :=
  perform_header_some hselect "host" (by decide) (List.mem_append_right _ (by simp))

/-- Under the name of a signature header stands what the V4 signer gave it, or
else what stood there before. -/
theorem perform_signatureHeader {e : Uri}
    (hselect : (selectBoltEndpoints E s.config call.request.method x.select).result = .ok e)
    {name : String} (hname : name ∈ signatureHeaders) :
    (call.perform E s x).request.headers name =
      ((call.v4Sign x (call.headRequest E s x)).2.headers name).or
        (call.request.headers name) := by
  have hkeys : ∀ name ∈ signatureHeaders, headerKey name = name := by decide
  apply perform_header hselect name (hkeys name hname)
  exact List.mem_append_left _ (List.mem_map_of_mem hname)

/-- Under the name of the pass-through header stands the mark that disables it, if
it is to be set, or else what stood there before. -/
theorem perform_passthrough {e : Uri}
    (hselect : (selectBoltEndpoints E s.config call.request.method x.select).result = .ok e) :
    (call.perform E s x).request.headers "x-bolt-passthrough-read" =
      (if s.config.disablePassThroughRead then some "disable" else none).or
        (call.request.headers "x-bolt-passthrough-read") := by
  apply perform_header hselect "x-bolt-passthrough-Read" (by decide)
  exact List.mem_append_right _ (by simp)

/-- A call that has an endpoint selected carries the signature of its surrogate
request. -/
theorem carriesSignature_of_selected {e : Uri}
    (hselect : (selectBoltEndpoints E s.config call.request.method x.select).result = .ok e) :
    CarriesSignature E s call x (call.headRequest E s x) where
  head_eq := perform_head hselect
  head_uri := by
    rw [headRequest_eq, createBoltHeadRequest_uri]
    rfl
  head_token := by
    intro token htoken
    rw [headRequest_eq, createBoltHeadRequest_token, htoken]
  auth_prefix :=
    perform_header_some hselect "x-bolt-auth-prefix" (by decide)
      (List.mem_append_right _ (by simp))
  signature := by
    intro name hname value hvalue
    rw [perform_signatureHeader hselect hname, hvalue]
    rfl
  signature_absent := by
    intro name hname habsent
    rw [perform_signatureHeader hselect hname, habsent]
    rfl
  host := perform_host hselect
  user_agent :=
    perform_header_some hselect "user-agent" (by decide) (List.mem_append_right _ (by simp))
  passthrough := by
    intro hflag
    rw [perform_passthrough hselect, hflag]
    rfl
  passthrough_absent := by
    intro hflag
    rw [perform_passthrough hselect, hflag]
    rfl
  others := by
    intro key hkey
    rw [perform_request_eq hselect, writeHeaders_of_not_mem]
    rwa [transplantWrites_names]
  method := by rw [perform_request_eq hselect, writeHeaders_method]
  path := by rw [perform_uri hselect, Uri.setAuthority_path]
  query := by rw [perform_uri hselect, Uri.setAuthority_queryString]

/-- A request with a security token, and with headers of its own under names the
transplant writes. -/
def sampleTokenRequest : HttpRequest :=
  ((((standardHttpRequest (referenceParseUri "https://s3.us-east-1.amazonaws.com/bucket/key")
    .httpGet).setHeaderValue "x-amz-security-token" "token").setHeaderValue
      "x-amz-content-sha256" "UNSIGNED-PAYLOAD").setHeaderValue
        "User-Agent" "aws-sdk-cpp").setHeaderValue "host" "s3.us-east-1.amazonaws.com"

end BoltClient
