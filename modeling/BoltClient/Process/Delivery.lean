import BoltClient.CurlClient.Override
import BoltClient.Process.Pinning
import BoltClient.Signer.Transplant

/-!
# Requests that are delivered to Bolt

A signed request arrives at a Bolt endpoint when three parts of the client agree:
the selection, which chooses the address, the transplant, which sets the host
header, and the override, which turns the connection to the chosen address under
the name in its URL.  This file puts the three together, from the signing of a
request to its sending in a later step.

Main results:

- Theorem {lit}`selected_listed_iff`: a signing takes its address from the list of
  some key its method may use exactly when there is an endpoint for the method.
- Theorem {lit}`delivered_iff`: when a request that is sent before anything else
  is signed is delivered to Bolt.

Current gaps:

- What the server does with the request is not modelled.
-/

namespace BoltClient

open BoltClient.Library.Runs
open BoltClient.Library.RankedLists
open BoltClient.Library.Registers
open BoltClient.Library.UrlText

variable {E : Externals} {target : String → String → String}

/-- The address stands in the map in a list the method may use. -/
def ListedFor (E : Externals) (endpoints : BoltEndpoints) (method : HttpMethod)
    (authority : String) : Prop :=
  ∃ key ∈ preferredOrder method, ∃ value, endpoints.find key = some value ∧
    ∃ endpoint ∈ value, authority = (E.parseUri endpoint).authority

/-- A listed address comes from a list that has an element. -/
theorem ListedFor.hasEndpoint {endpoints : BoltEndpoints} {method : HttpMethod}
    {authority : String} (h : ListedFor E endpoints method authority) :
    HasEndpoint endpoints method := by
  rcases h with ⟨key, hkey, value, hfind, endpoint, hmem, -⟩
  refine ⟨key, hkey, ?_⟩
  rintro (hnone | hnil)
  · rw [hfind] at hnone
    cases hnone
  · rw [hfind] at hnil
    cases hnil
    cases hmem

/-- A selection returns a listed address exactly when the map it chooses from has
an endpoint for the method. -/
theorem selected_listed_iff {c : BoltConfig} {method : HttpMethod} {x : SelectInput} {e : Uri}
    (hselect : (selectBoltEndpoints E c method x).result = .ok e) :
    ListedFor E (c.afterRefreshCheck E x).boltEndpoints method e.authority ↔
      HasEndpoint (c.afterRefreshCheck E x).boltEndpoints method := by
  constructor
  · intro h
    exact h.hasEndpoint
  · intro hhas
    rcases selectBoltEndpoints_selected hselect with
      ⟨-, hmissing⟩ | ⟨key, hkey, value, hfind, endpoint, hmem, rfl⟩
    · exact absurd hhas hmissing
    · exact ⟨key, hkey, value, hfind, endpoint, hmem, endpointUri_authority E endpoint⟩

/-- A request, signed in one state of the static members and sent in another, is
delivered to Bolt: the connection goes to an address that is listed for its method
in the map it was signed with, the host header names the host of the URL that is
opened, and path and query are the request's. -/
structure DeliveredToBolt (E : Externals) (signing sending : Statics) (call : SignCall)
    (x : SignInput) (handle : CurlHandle) : Prop where
  listed : ListedFor E (signing.config.afterRefreshCheck E x.select).boltEndpoints
    call.request.method (call.perform E signing x).request.uri.authority
  connects : ConnectsToSelected sending
    (E.uriString (call.perform E signing x).request.uri) handle
  host : (call.perform E signing x).request.headers "host" = some sending.config.boltHostName

section Signed

variable {s : Statics} {call : SignCall} {x : SignInput} {uri : Uri}

/-- What a step that signs a request leaves. -/
theorem signedUri_sign {p : Process} {id : Nat}
    (hsigned : signedUri E p (.sign id call x) = some uri) :
    ∃ e, (selectBoltEndpoints E p.statics.config call.request.method x.select).result = .ok e ∧
      uri = (call.perform E p.statics x).request.uri ∧
      uri = call.request.uri.setAuthority e.authority := by
  have hresult : (call.perform E p.statics x).result = .ok true ∧
      (call.perform E p.statics x).request.uri = uri := by
    unfold signedUri at hsigned
    simp only at hsigned
    split at hsigned
    · exact ⟨by assumption, Option.some.inj hsigned⟩
    · cases hsigned
  have hnot : ¬FetchThrows E p.statics.config x.select := not_fetchThrows_of_result hresult.1
  rcases selectBoltEndpoints_returns call.request.method hnot with ⟨e, hselect⟩
  refine ⟨e, hselect, hresult.2.symm, ?_⟩
  rw [← hresult.2, perform_uri hselect]

/-- With its own URI in the shared variable a request is connected to its address
exactly when it is on port 443 and the host name contains no mark. -/
theorem connects_pinned_iff (hprint : PrintsUris E target)
    (hstored : s.selectedBoltEndpoint = uri) (hname : Avoids ['/', ':'] s.config.boltHostName) :
    ConnectsToSelected s (E.uriString uri) (pinnedHandle E s.config.boltHostName uri) ↔
      uri.port = 443 ∧ Avoids ['?', '#', '@'] s.config.boltHostName := by
  subst hstored
  exact connectsToSelected_iff hprint hname

end Signed

/-- In every run of a process, a request that is signed, and sent before any other
signing succeeds, is delivered to Bolt exactly when the map it was signed with has
an endpoint for its method, the request is on port 443, the Bolt host name contains
no mark, and it has not changed in between. -/
theorem delivered_iff (hprint : PrintsUris E target) (p : Process)
    {before mid : List ProcessOp} {id : Nat} {call : SignCall} {x : SignInput} {uri : Uri}
    (hsigned : signedUri E (processRun E p before) (.sign id call x) = some uri)
    (hmid : lastSigned E (processRun E p (before ++ [.sign id call x])) mid = none)
    (hname : Avoids ['/', ':']
      (processRun E p (before ++ .sign id call x :: mid)).statics.config.boltHostName) :
    let signing := (processRun E p before).statics
    let sending := processRun E p (before ++ .sign id call x :: mid)
    DeliveredToBolt E signing sending.statics call x (sentHandle E sending uri) ↔
      HasEndpoint (signing.config.afterRefreshCheck E x.select).boltEndpoints
          call.request.method ∧
        call.request.uri.port = 443 ∧
        Avoids ['?', '#', '@'] sending.statics.config.boltHostName ∧
        sending.statics.config.boltHostName = signing.config.boltHostName := by
  intro signing sending
  rcases signedUri_sign hsigned with ⟨e, hselect, hperform, huri⟩
  have hlast : lastSigned E p (before ++ .sign id call x :: mid) = some uri :=
    lastWrite_eq_some_iff.mpr ⟨before, _, mid, rfl, hsigned, hmid⟩
  have hstored : sending.statics.selectedBoltEndpoint = uri := by
    rw [run_selectedBoltEndpoint, hlast]
    rfl
  have hport : uri.port = call.request.uri.port := by rw [huri, Uri.setAuthority_port]
  have hauthority : uri.authority = e.authority := by rw [huri, Uri.setAuthority_authority]
  have hlisted := selected_listed_iff hselect
  have hconnects := connects_pinned_iff hprint hstored hname
  have hhost : (call.perform E signing x).request.headers "host" =
      some signing.config.boltHostName := perform_host hselect
  rw [send_pinned_of_no_signing_between hsigned hmid]
  constructor
  · intro h
    have hl := h.listed
    have hc := h.connects
    rw [← hperform] at hl hc
    rw [hauthority] at hl
    rcases hconnects.mp hc with ⟨h443, hmarks⟩
    refine ⟨hlisted.mp hl, hport.symm.trans h443, hmarks, ?_⟩
    exact Option.some.inj (h.host.symm.trans hhost)
  · rintro ⟨hhas, h443, hmarks, hsame⟩
    refine ⟨?_, ?_, ?_⟩
    · rw [← hperform, hauthority]
      exact hlisted.mpr hhas
    · rw [← hperform]
      exact hconnects.mpr ⟨hport.trans h443, hmarks⟩
    · rw [hhost, hsame]

/-- The first request of a process, sent right after it is signed. -/
example :
    let p := Process.initial printingExternals sampleEnv 0
    let call := sampleCall (.signRequest true) .httpGet
      "https://s3.us-east-1.amazonaws.com/bucket/a"
    let x := sampleSignInput 1000 (sampleResponse 0) sampleV4
    let uri : Uri := ⟨.https, "10.0.0.1", 443, "/bucket/a", ""⟩
    DeliveredToBolt printingExternals p.statics
      (processRun printingExternals p [.sign 1 call x]).statics call x
      (sentHandle printingExternals (processRun printingExternals p [.sign 1 call x]) uri) := by
  intro p call x uri
  have hsigned : signedUri printingExternals (processRun printingExternals p [])
      (.sign 1 call x) = some uri := by
    decide +kernel
  have hmid : lastSigned printingExternals
      (processRun printingExternals p ([] ++ [.sign 1 call x])) [] = none := rfl
  exact (delivered_iff printingExternals_prints p hsigned hmid (by decide)).mpr
    ⟨by decide, rfl, by decide, by decide⟩

end BoltClient
