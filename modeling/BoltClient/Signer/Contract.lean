import BoltClient.Signer

/-!
# What one signing call promises

A caller of {lit}`SignRequest` or {lit}`PresignRequest` relies on three things:
that the request now goes to the selected endpoint and nowhere else, that a
failed call leaves no trace, and that a call without an endpoint to go to fails.
The signer drops the V4 signer's result, merges the two URIs by authority alone
and does not test for the empty endpoint, so each promise holds on a part of the
inputs only.  Each theorem of this file says on which.

Main results:

- Theorem {lit}`perform_addressed_iff`: the signed URI agrees with the selected
  endpoint exactly for HTTPS requests on the endpoint's port.
- Theorem {lit}`perform_allOrNothing_iff`: a call is all-or-nothing exactly when
  its fetch throws or the V4 signer accepts.
- Theorem {lit}`perform_reports_missing_endpoint_iff`: a missing endpoint is
  reported exactly when the fetch throws or there is an endpoint.

Current gaps:

- The V4 signer is a parameter; what its signature covers is not looked at.
-/

namespace BoltClient

variable {E : Externals} {s : Statics} {call : SignCall} {x : SignInput}

/-! ## Where the signed request goes -/

/-- Unless it throws, a selection that does not return the empty URI returns an
HTTPS one. -/
theorem selected_scheme {c : BoltConfig} {method : HttpMethod} {y : SelectInput} {e : Uri}
    (hselect : (selectBoltEndpoints E c method y).result = .ok e) (hne : e ≠ Uri.empty) :
    e.scheme = .https := by
  rcases selectBoltEndpoints_selected hselect with
    ⟨hempty, -⟩ | ⟨key, -, value, -, endpoint, -, huri⟩
  · exact absurd hempty hne
  · rw [huri]
    exact endpointUri_scheme E endpoint

/-- When an endpoint is selected and the call reports success, the request has
the endpoint's scheme, authority and port, hence the HTTPS scheme, and the
original path and query. -/
def AddressedToEndpoint (E : Externals) (s : Statics) (call : SignCall) (x : SignInput) : Prop :=
  ∀ e, (selectBoltEndpoints E s.config call.request.method x.select).result = .ok e →
    e ≠ Uri.empty → (call.perform E s x).result = .ok true →
    let uri := (call.perform E s x).request.uri
    uri.scheme = e.scheme ∧ uri.authority = e.authority ∧ uri.port = e.port ∧
      uri.scheme = .https ∧ uri.path = call.request.uri.path ∧
      uri.queryString = call.request.uri.queryString

/-- When an endpoint is selected, the request already is an HTTPS request on the
port of that endpoint. -/
def HttpsOnEndpointPort (E : Externals) (s : Statics) (call : SignCall) (x : SignInput) : Prop :=
  ∀ e, (selectBoltEndpoints E s.config call.request.method x.select).result = .ok e →
    e ≠ Uri.empty →
    call.request.uri.scheme = .https ∧ call.request.uri.port = e.port

/-- A signed request is addressed to the selected endpoint exactly when it was
an HTTPS request on the endpoint's port before: only the authority is replaced. -/
theorem perform_addressed_iff (E : Externals) (s : Statics) (call : SignCall) (x : SignInput) :
    AddressedToEndpoint E s call x ↔ HttpsOnEndpointPort E s call x := by
  constructor
  · intro h e hselect hne
    rcases h e hselect hne (perform_result hselect) with ⟨-, -, hport, hscheme, -, -⟩
    rw [perform_uri hselect] at hport hscheme
    exact ⟨hscheme, hport⟩
  · intro h e hselect hne _
    rcases h e hselect hne with ⟨hscheme, hport⟩
    have hendpoint : e.scheme = .https := selected_scheme hselect hne
    have hagree : call.request.uri.scheme = e.scheme := hscheme.trans hendpoint.symm
    simp only [perform_uri hselect]
    exact ⟨hagree, rfl, hport, hscheme, rfl, rfl⟩

/-- A request of a client configured with HTTP keeps its scheme and its port. -/
theorem http_request_not_addressed :
    ¬AddressedToEndpoint sampleExternals sampleStatics
      (sampleCall (.signRequest true) .httpGet "http://s3.us-east-1.amazonaws.com/bucket/key")
      (sampleSignInput 1000 (sampleResponse 0) sampleV4) := by
  intro h
  have haddressed := h (endpointUri sampleExternals "10.0.0.1") (by rfl) (by decide) (by rfl)
  exact absurd haddressed.2.2.2.1 (by decide)

/-! ## What a failed call leaves behind -/

/-- A failure below the signer: no endpoint map could be had, or the V4 signer
refused. -/
def SigningFailed (E : Externals) (s : Statics) (call : SignCall) (x : SignInput) : Prop :=
  (∃ e, (selectBoltEndpoints E s.config call.request.method x.select).result = .error e) ∨
    (call.perform E s x).v4Result = some false

/-- A call with a failure below reports it and leaves the request and the shared
endpoint alone; success is reported only if the V4 signer reported it. -/
structure AllOrNothing (E : Externals) (s : Statics) (call : SignCall) (x : SignInput) :
    Prop where
  propagates : ∀ e,
    (selectBoltEndpoints E s.config call.request.method x.select).result = .error e →
    (call.perform E s x).result = .error e
  reports : SigningFailed E s call x → (call.perform E s x).result ≠ .ok true
  request_unchanged : SigningFailed E s call x → (call.perform E s x).request = call.request
  endpoint_unchanged : SigningFailed E s call x →
    (call.perform E s x).statics.selectedBoltEndpoint = s.selectedBoltEndpoint
  success_only : (call.perform E s x).result = .ok true →
    (call.perform E s x).v4Result = some true

/-- A call whose fetch throws has changed nothing and passes the exception on. -/
theorem allOrNothing_of_fetchThrows (hthrows : FetchThrows E s.config x.select) :
    AllOrNothing E s call x := by
  rcases perform_of_fetchThrows call hthrows with ⟨e, hstatics, hrequest, hresult⟩
  exact
    { propagates := fun _ h => by rw [perform_of_threw h]
      reports := fun _ => by simp [hresult]
      request_unchanged := fun _ => hrequest
      endpoint_unchanged := fun _ => by rw [hstatics]
      success_only := fun h => by simp [hresult] at h }

/-- A call in which nothing fails has nothing to undo. -/
theorem allOrNothing_of_accepted (hnot : ¬FetchThrows E s.config x.select)
    (haccepts : (call.v4Sign x (call.headRequest E s x)).1 = true) :
    AllOrNothing E s call x := by
  rcases selectBoltEndpoints_returns call.request.method hnot with ⟨e, hselect⟩
  have hv4 : (call.perform E s x).v4Result = some true := by
    rw [perform_v4Result hselect, haccepts]
  have hfine : ¬SigningFailed E s call x := by
    rintro (⟨e', herror⟩ | hrefused)
    · rw [hselect] at herror
      cases herror
    · rw [hv4] at hrefused
      cases hrefused
  exact
    { propagates := fun _ h => by rw [perform_of_threw h]
      reports := fun h => absurd h hfine
      request_unchanged := fun h => absurd h hfine
      endpoint_unchanged := fun h => absurd h hfine
      success_only := fun _ => hv4 }

/-- A call is all-or-nothing exactly when its endpoint fetch throws or the V4
signer accepts the HEAD request. -/
theorem perform_allOrNothing_iff (E : Externals) (s : Statics) (call : SignCall)
    (x : SignInput) :
    AllOrNothing E s call x ↔
      FetchThrows E s.config x.select ∨
        (call.v4Sign x (call.headRequest E s x)).1 = true := by
  by_cases hthrows : FetchThrows E s.config x.select
  · exact iff_of_true (allOrNothing_of_fetchThrows hthrows) (Or.inl hthrows)
  · constructor
    · intro h
      rcases selectBoltEndpoints_returns call.request.method hthrows with ⟨e, hselect⟩
      have hsuccess := h.success_only (perform_result hselect)
      rw [perform_v4Result hselect] at hsuccess
      exact Or.inr (Option.some.inj hsuccess)
    · rintro (h | haccepts)
      · exact absurd h hthrows
      · exact allOrNothing_of_accepted hthrows haccepts

/-- A V4 signer that refuses goes unnoticed: the call reports success and the
request has been readdressed. -/
theorem refused_signature_reported_as_success :
    ¬AllOrNothing sampleExternals sampleStatics
      (sampleCall (.signRequest true) .httpGet "https://s3.us-east-1.amazonaws.com/bucket/key")
      (sampleSignInput 1000 (sampleResponse 0) failingV4) := by
  intro h
  have hsuccess := h.success_only (by rfl)
  exact absurd hsuccess (by decide)

/-! ## Calls without an endpoint -/

/-- Success means that the request goes to a listed endpoint of the method's
order, and without one the call reports failure. -/
def ReportsMissingEndpoint (E : Externals) (s : Statics) (call : SignCall) (x : SignInput) :
    Prop :=
  let endpoints := (call.perform E s x).statics.config.boltEndpoints
  ((call.perform E s x).result = .ok true →
      ∃ key ∈ preferredOrder call.request.method, ∃ value, endpoints.find key = some value ∧
        ∃ endpoint ∈ value,
          (call.perform E s x).request.uri.authority = (E.parseUri endpoint).authority) ∧
    (¬HasEndpoint endpoints call.request.method → (call.perform E s x).result ≠ .ok true)

/-- A signing call reports a missing endpoint exactly when its endpoint fetch
throws or the map held after the refresh check has an endpoint for the method. -/
theorem perform_reports_missing_endpoint_iff (E : Externals) (s : Statics) (call : SignCall)
    (x : SignInput) :
    ReportsMissingEndpoint E s call x ↔
      FetchThrows E s.config x.select ∨
        HasEndpoint (s.config.afterRefreshCheck E x.select).boltEndpoints
          call.request.method := by
  by_cases hthrows : FetchThrows E s.config x.select
  · rcases perform_of_fetchThrows call hthrows with ⟨e, -, -, hresult⟩
    have hnot : (call.perform E s x).result ≠ .ok true := by
      rw [hresult]
      simp
    exact iff_of_true ⟨fun h => absurd h hnot, fun _ => hnot⟩ (Or.inl hthrows)
  · rcases selectBoltEndpoints_returns call.request.method hthrows with ⟨e, hselect⟩
    unfold ReportsMissingEndpoint
    simp only [perform_statics hselect, perform_result hselect, perform_uri hselect,
      Uri.setAuthority_authority, hthrows, false_or]
    constructor
    · intro h
      by_contra hmissing
      exact h.2 hmissing rfl
    · intro hhas
      refine ⟨fun _ => ?_, fun hmissing => absurd hhas hmissing⟩
      rcases selectBoltEndpoints_selected hselect with
        ⟨-, hmissing⟩ | ⟨key, hkey, value, hfind, endpoint, hmem, huri⟩
      · exact absurd hhas hmissing
      · refine ⟨key, hkey, value, hfind, endpoint, hmem, ?_⟩
        rw [huri, endpointUri_authority]

/-- A write with only read endpoints known reports success and leaves a request
without authority. -/
theorem write_without_endpoint_reported_as_success :
    ¬ReportsMissingEndpoint sampleExternals sampleStatics
      (sampleCall (.signRequest true) .httpPut "https://s3.us-east-1.amazonaws.com/bucket/key")
      (sampleSignInput 1000 (sampleResponse 1) sampleV4) := by
  intro h
  exact h.2 (by decide) (by rfl)

end BoltClient
