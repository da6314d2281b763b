import Mathlib.Logic.Function.Iterate
import BoltClient.Library.Runs
import BoltClient.Signer.Transplant

/-!
# Signing one request again and again

A request may be handed to the signer more than once.  Each signing that returns
overwrites what the one before left, except the user agent, to which it adds; a
signing that throws leaves the request as it was.

Main results:

- Theorem {lit}`resigned`: what a request looks like after any number of signings,
  by whatever signers, some of which may have thrown.

Current gaps:

- The configuration is only changed by the signings themselves in between.
-/

namespace BoltClient

open BoltClient.Library.Runs

/-! ## Signings of one request -/

/-- The same call for another request. -/
def SignCall.forRequest (call : SignCall) (request : HttpRequest) : SignCall :=
  { call with request := request }

@[simp] theorem forRequest_request (call : SignCall) (request : HttpRequest) :
    (call.forRequest request).request = request := rfl

/-- One more signing of a request, with the arguments of a call. -/
def resignOutcome (E : Externals) (state : Statics × HttpRequest) (op : SignCall × SignInput) :
    SignOutcome :=
  (op.1.forRequest state.2).perform E state.1 op.2

/-- The statics and the request after the request is signed once more. -/
def resignStep (E : Externals) (state : Statics × HttpRequest) (op : SignCall × SignInput) :
    Statics × HttpRequest :=
  ((resignOutcome E state op).statics, (resignOutcome E state op).request)

/-- The random prefix of a signing that returns. -/
def returnedPrefix (E : Externals) (state : Statics × HttpRequest)
    (op : SignCall × SignInput) : List String :=
  match (resignOutcome E state op).result with
  | .ok _ => [getRandomString op.2.prefixRand]
  | .error _ => []

/-- A signing keeps the parts of the configuration that the transplant reads. -/
structure SameIdentity (c c' : BoltConfig) : Prop where
  boltHostName : c'.boltHostName = c.boltHostName
  userAgentPrefix : c'.userAgentPrefix = c.userAgentPrefix

theorem SameIdentity.trans {c c' c'' : BoltConfig} (h : SameIdentity c c')
    (h' : SameIdentity c' c'') : SameIdentity c c'' where
  boltHostName := h'.boltHostName.trans h.boltHostName
  userAgentPrefix := h'.userAgentPrefix.trans h.userAgentPrefix

variable {E : Externals}

theorem resignStep_sameIdentity (state : Statics × HttpRequest) (op : SignCall × SignInput) :
    SameIdentity state.1.config (resignStep E state op).1.config := by
  have hconfig : (resignStep E state op).1.config =
      state.1.config.afterRefreshCheck E op.2.select :=
    (perform_config E state.1 _ op.2).trans (selectBoltEndpoints_config_eq E _ _ _)
  rcases afterRefreshCheck_eq E state.1.config op.2.select with ⟨endpoints, refreshTime, hcheck⟩
  rw [hconfig, hcheck]
  exact ⟨rfl, rfl⟩

/-- A signing throws and leaves the request alone, or it returns with the signature
of its surrogate request on the request. -/
theorem resignStep_cases (state : Statics × HttpRequest) (op : SignCall × SignInput) :
    (returnedPrefix E state op = [] ∧ (resignStep E state op).2 = state.2) ∨
      (returnedPrefix E state op = [getRandomString op.2.prefixRand] ∧
        (∃ authority, (resignStep E state op).2.uri = state.2.uri.setAuthority authority) ∧
        ∃ headRequest,
          CarriesSignature E state.1 (op.1.forRequest state.2) op.2 headRequest) := by
  cases hselect : (selectBoltEndpoints E state.1.config
      (op.1.forRequest state.2).request.method op.2.select).result with
  | error e =>
      have houtcome : (resignOutcome E state op).request = state.2 ∧
          (resignOutcome E state op).result = .error e := by
        unfold resignOutcome
        rw [perform_of_threw hselect]
        exact ⟨rfl, rfl⟩
      refine Or.inl ⟨?_, houtcome.1⟩
      simp [returnedPrefix, houtcome.2]
  | ok e =>
      have hresult : (resignOutcome E state op).result = .ok true := perform_result hselect
      refine Or.inr ⟨?_, ⟨e.authority, perform_uri hselect⟩, _,
        carriesSignature_of_selected hselect⟩
      simp [returnedPrefix, hresult]

/-! ## Any number of signings -/

/-- What a request looks like after signings of which some returned: nothing has
happened to it if none did; the user agent has got one prefix for each of them, host
and random prefix are those of the last, and nothing but the headers of the client
and the authority has changed. -/
structure Resigned (c : BoltConfig) (request : HttpRequest) (prefixes : List String)
    (signed : HttpRequest) : Prop where
  unsigned : prefixes = [] → signed = request
  user_agent : prefixes ≠ [] → signed.headers "user-agent" =
    some ((c.userAgentPrefix ++ ·)^[prefixes.length] (request.getHeaderValue "user-agent"))
  host : prefixes ≠ [] → signed.headers "host" = some c.boltHostName
  auth_prefix : ∀ authPrefix ∈ prefixes.getLast?,
    signed.headers "x-bolt-auth-prefix" = some authPrefix
  others : ∀ key, key ∉ transplantNames → signed.headers key = request.headers key
  method : signed.method = request.method
  uri : ∃ authority, signed.uri = request.uri.setAuthority authority

/-- The user agent reads as the prefixes so far in front of the first one, also when
there are none. -/
theorem Resigned.userAgent {c : BoltConfig} {request signed : HttpRequest}
    {prefixes : List String} (h : Resigned c request prefixes signed) :
    signed.getHeaderValue "user-agent" =
      (c.userAgentPrefix ++ ·)^[prefixes.length] (request.getHeaderValue "user-agent") := by
  by_cases hnil : prefixes = []
  · rw [h.unsigned hnil, hnil]
    rfl
  · have hkey : headerKey "user-agent" = "user-agent" := by decide
    rw [HttpRequest.getHeaderValue, hkey, h.user_agent hnil]
    rfl

/-- A request that has not been signed. -/
theorem Resigned.refl (c : BoltConfig) (request : HttpRequest) :
    Resigned c request [] request where
  unsigned := fun _ => rfl
  user_agent := fun h => absurd rfl h
  host := fun h => absurd rfl h
  auth_prefix := by
    intro authPrefix hlast
    cases hlast
  others := fun _ _ => rfl
  method := rfl
  uri := ⟨request.uri.authority, rfl⟩

/-- One more signing. -/
theorem Resigned.step {c : BoltConfig} {request : HttpRequest} {prefixes : List String}
    {state : Statics × HttpRequest} (hidentity : SameIdentity c state.1.config)
    (h : Resigned c request prefixes state.2) (op : SignCall × SignInput) :
    Resigned c request (prefixes ++ returnedPrefix E state op) (resignStep E state op).2 := by
  rcases resignStep_cases (E := E) state op with
    ⟨hthrew, hsame⟩ | ⟨hreturned, ⟨authority, huri⟩, headRequest, hcarries⟩
  · rw [hthrew, hsame, List.append_nil]
    exact h
  · rw [hreturned]
    have hne : prefixes ++ [getRandomString op.2.prefixRand] ≠ [] := by simp
    constructor
    · exact fun hnil => absurd hnil hne
    · intro _
      have hagent := hcarries.user_agent
      rw [forRequest_request, h.userAgent, hidentity.userAgentPrefix] at hagent
      rw [List.length_append, List.length_singleton, Function.iterate_succ_apply']
      exact hagent
    · intro _
      rw [← hidentity.boltHostName]
      exact hcarries.host
    · intro authPrefix hlast
      rw [List.getLast?_concat, Option.mem_some_iff] at hlast
      rw [← hlast]
      exact hcarries.auth_prefix
    · intro key hkey
      exact (hcarries.others key hkey).trans (h.others key hkey)
    · exact hcarries.method.trans h.method
    · rcases h.uri with ⟨authority', huri'⟩
      exact ⟨authority, by rw [huri, huri']; rfl⟩

/-- After any sequence of signings of one request, by whatever signers and at whatever
times, the request is that of the last signing that returned, with one prefix in
front of its user agent for each that did. -/
theorem resigned (E : Externals) (s : Statics) (request : HttpRequest)
    (ops : List (SignCall × SignInput)) :
    Resigned s.config request (collect (resignStep E) (returnedPrefix E) (s, request) ops)
      (run (resignStep E) (s, request) ops).2 := by
  refine (run_history_invariant
    (fun prefixes (state : Statics × HttpRequest) => SameIdentity s.config state.1.config ∧
      Resigned s.config request prefixes state.2) ?_ ?_).2
  · exact ⟨⟨rfl, rfl⟩, Resigned.refl s.config request⟩
  · rintro before op after - ⟨hidentity, hsigned⟩
    exact ⟨hidentity.trans (resignStep_sameIdentity _ op), hsigned.step hidentity op⟩

end BoltClient
