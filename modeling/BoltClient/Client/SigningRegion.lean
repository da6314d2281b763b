import BoltClient.Client.Constructors
import BoltClient.Process
import BoltClient.Signer.Transplant

/-!
# The region signed for and the region named

The signature of the surrogate request is scoped to a region that comes with the
client: the region argument of the call or the signing region of the client
configuration.  The host of the surrogate request names {lit}`BoltConfig::region`,
which comes from the environment, from an assignment in code, or from the
instance metadata.

Main results:

- Theorem {lit}`run_region`: the region a run leaves, by the ways to set it.
- Theorem {lit}`signing_scopeNamed_iff`: a signing names the region it is scoped
  to exactly when the two sources agree.

Current gaps:

- What the SDK takes as the region of a client configuration by default is left
  to the configuration.
-/

namespace BoltClient

open BoltClient.Library.Runs

/-! ## The configured region along a run -/

/-- What a step makes of the configured region. -/
def regionStep (region : String) : ProcessOp → String
  | .config (.assign (.region value)) => value
  | .config (.reset answers) => if region = "" then answers.currentRegion else region
  | _ => region

/-- The region after a run: set in the environment, assigned, or asked of the
instance metadata when it was still empty at a reset. -/
def regionAfter (env : String → Option String) (ops : List ProcessOp) : String :=
  run regionStep (getEnvVar env "AWS_REGION") ops

variable {E : Externals}

/-- A step does to the configured region what {lit}`regionStep` says. -/
theorem processStep_region (E : Externals) (p : Process) (op : ProcessOp) :
    (processStep E p op).statics.config.region = regionStep p.statics.config.region op := by
  have hselect : ∀ method x,
      (selectBoltEndpoints E p.statics.config method x).config.region =
        p.statics.config.region := by
    intro method x
    rw [selectBoltEndpoints_config_eq, afterRefreshCheck_region]
  rw [processStep_config]
  cases op with
  | send id => rfl
  | sign id call x => exact hselect _ _
  | config op =>
      cases op with
      | assign a => cases a <;> rfl
      | reset answers => rfl
      | select method x => exact hselect _ _

/-- The region a run leaves. -/
theorem run_region (E : Externals) (env : String → Option String) (now : Time)
    (ops : List ProcessOp) :
    (processRun E (Process.initial E env now) ops).statics.config.region =
      regionAfter env ops := by
  induction ops using List.reverseRecOn with
  | nil => rfl
  | append_singleton ops op ih =>
      unfold processRun regionAfter at ih ⊢
      rw [run_concat, run_concat, processStep_region, ih]

/-! ## The region of a signing -/

/-- The region of the credential scope of a V4 signature: the region argument of
the call, or for the null pointer the region the V4 signer was built with. -/
def V4Call.scopeRegion (v4Call : V4Call) : String :=
  v4Call.region.getD v4Call.signer.region

/-- The address of the surrogate request of a call. -/
def SignCall.headUrl (s : Statics) (call : SignCall) (x : SignInput) : String :=
  headObjectUrl s.config call.request.uri.path (getRandomString x.prefixRand)

/-- The surrogate request goes to its address. -/
theorem headRequest_uri (E : Externals) (s : Statics) (call : SignCall) (x : SignInput) :
    (call.headRequest E s x).uri = E.parseUri (call.headUrl s x) := by
  rw [headRequest_eq, createBoltHeadRequest_uri]
  rfl

/-- A signing names the region it is scoped to: if it succeeds, the V4 signer was
called for a surrogate request whose address is on the host of the region in the
scope of that call. -/
def NamesScopeRegion (E : Externals) (s : Statics) (call : SignCall) (x : SignInput) : Prop :=
  (call.perform E s x).result = .ok true →
    ∃ v4Call, (call.perform E s x).v4Call = some v4Call ∧
      (call.perform E s x).v4Result = some (x.v4 v4Call).1 ∧
      v4Call.request.uri = E.parseUri (call.headUrl s x) ∧
      call.headUrl s x = "https://s3." ++ v4Call.scopeRegion ++ ".amazonaws.com/" ++
        (sourceBucket s.config call.request.uri.path ++ "/" ++ getRandomString x.prefixRand ++
          "/auth")

/-- The address names the host of one region only. -/
theorem headUrl_names_iff (s : Statics) (call : SignCall) (x : SignInput) (region : String) :
    call.headUrl s x = "https://s3." ++ region ++ ".amazonaws.com/" ++
        (sourceBucket s.config call.request.uri.path ++ "/" ++ getRandomString x.prefixRand ++
          "/auth") ↔
      region = s.config.region := by
  unfold SignCall.headUrl
  rw [headObjectUrl_eq, String.append_left_inj, String.append_left_inj, String.append_right_inj]
  exact eq_comm

/-- A call names the region it is scoped to exactly when its fetch throws, or the
region it passes to the V4 signer, or else that of the V4 signer, is the configured
one. -/
theorem perform_namesScopeRegion_iff (s : Statics) (call : SignCall) (x : SignInput) :
    NamesScopeRegion E s call x ↔
      FetchThrows E s.config x.select ∨
        call.region.getD call.signer.v4Signer.region = s.config.region := by
  by_cases hthrows : FetchThrows E s.config x.select
  · refine iff_of_true (fun hresult => ?_) (Or.inl hthrows)
    exact absurd hthrows (not_fetchThrows_of_result hresult)
  · rcases selectBoltEndpoints_returns call.request.method hthrows with ⟨e, hselect⟩
    simp only [hthrows, false_or,
      ← headUrl_names_iff s call x (call.region.getD call.signer.v4Signer.region)]
    constructor
    · intro h
      rcases h (perform_result hselect) with ⟨v4Call, hcall, -, -, hnames⟩
      -- The call recorded is the one made for the surrogate request.
      obtain rfl := Option.some.inj (hcall.symm.trans (perform_v4Call hselect))
      exact hnames
    · intro hnames _
      exact ⟨_, perform_v4Call hselect, perform_v4Result hselect, headRequest_uri E s call x,
        hnames⟩

/-! ## Clients -/

/-- A {lit}`SignRequest` call through a client. -/
def BoltS3Client.signRequestCall (client : BoltS3Client) (request : HttpRequest)
    (region serviceName : Option String) (signBody : Bool) : SignCall where
  kind := .signRequest signBody
  signer := client.signer
  request := request
  region := region
  serviceName := serviceName

section Clients

variable (computeSignerRegion : String → String) (s3EndpointProvider : EndpointProvider)
  (k : Construction) (request : HttpRequest) (region serviceName : Option String)
  (signBody : Bool)

/-- The V4 signer of a client is built for the signing region of its configuration. -/
theorem signRequestCall_v4Signer_region :
    ((k.client computeSignerRegion s3EndpointProvider).signRequestCall request region serviceName
      signBody).signer.v4Signer.region = computeSignerRegion k.region := by
  unfold BoltS3Client.signRequestCall
  rw [Construction.signer_eq]
  rfl

end Clients

end BoltClient
