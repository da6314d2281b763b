import BoltClient.Process
import BoltClient.Signer.Transplant

/-!
# One region and one domain for each signed request

The Bolt host name and the quicksilver address are derived from the public
fields of {lit}`BoltConfig` by a reset, while the HEAD request reads the region
field itself.  A signed request is built from one region and one domain as long
as the fields agree with what the last reset derived from them.

Main results:

- Theorem {lit}`signedConsistently_iff`: what one signing needs, given the
  fields the derived strings were made from.
- Theorem {lit}`signings_consistent_iff`: in a run that starts with a reset, every
  signed request is consistent exactly when region and domain are at each
  signing, taken together, what they were at the last reset.

Current gaps:

- The zone is left out: it only occurs in the query of the quicksilver address.
-/

namespace BoltClient

open BoltClient.Library.Runs
open BoltClient.Library.Registers

/-! ## One signing -/

/-- If the call reports success, the HEAD request, the host header, the override
of the connection and any endpoint fetch all name the region and the domain in
the public fields. -/
def SignedConsistently (E : Externals) (s : Statics) (call : SignCall) (x : SignInput) : Prop :=
  let outcome := call.perform E s x
  let hostName := "bolt." ++ s.config.region ++ "." ++ s.config.customDomain
  outcome.result = .ok true →
    (∃ headRequest object, outcome.head = some headRequest ∧
      headRequest.uri =
        E.parseUri ("https://s3." ++ s.config.region ++ ".amazonaws.com/" ++ object)) ∧
    outcome.request.headers "host" = some hostName ∧
    overrideOptionsOnConnectionHandle E outcome.statics
        (some (E.uriString outcome.request.uri)) (.forUrl (E.uriString outcome.request.uri)) =
      pinnedHandle E hostName outcome.request.uri ∧
    ∀ refresh url, outcome.refresh = some refresh → refresh.request = some url →
      ∃ query, url = "https://quicksilver." ++ s.config.region ++ "." ++ s.config.customDomain ++
        "/services/bolt" ++ query

/-- Host names agree when region and domain do, taken together. -/
theorem createBoltHostName_inj {region customDomain region' customDomain' : String} :
    createBoltHostName region customDomain = createBoltHostName region' customDomain' ↔
      region ++ "." ++ customDomain = region' ++ "." ++ customDomain' := by
  unfold createBoltHostName
  simp only [String.append_assoc, String.append_right_inj]

/-- The quicksilver address depends on region and domain taken together. -/
theorem createQuicksilverUrl_congr {region customDomain region' customDomain' : String}
    (zoneId : String) (h : region ++ "." ++ customDomain = region' ++ "." ++ customDomain') :
    ∃ query, createQuicksilverUrl region' zoneId customDomain' =
      "https://quicksilver." ++ region ++ "." ++ customDomain ++ "/services/bolt" ++ query := by
  refine ⟨if zoneId = "" then "" else "?az=" ++ zoneId, ?_⟩
  unfold createQuicksilverUrl
  have hfront :=
    calc
      "https://quicksilver." ++ region' ++ "." ++ customDomain' =
          "https://quicksilver." ++ (region' ++ "." ++ customDomain') := by
        rw [String.append_assoc, String.append_assoc, String.append_assoc]
      _ = "https://quicksilver." ++ (region ++ "." ++ customDomain) := by rw [h]
      _ = "https://quicksilver." ++ region ++ "." ++ customDomain := by
        rw [String.append_assoc, String.append_assoc, String.append_assoc]
  rw [hfront]

section Signing

variable {E : Externals} {s : Statics} {call : SignCall} {x : SignInput}
  {region zoneId customDomain : String}

/-- Right after a successful signing its connection is pinned under the host
name of the configuration. -/
theorem override_after_signing {e : Uri}
    (hselect : (selectBoltEndpoints E s.config call.request.method x.select).result = .ok e) :
    overrideOptionsOnConnectionHandle E (call.perform E s x).statics
        (some (E.uriString (call.perform E s x).request.uri))
        (.forUrl (E.uriString (call.perform E s x).request.uri)) =
      pinnedHandle E s.config.boltHostName (call.perform E s x).request.uri := by
  have hhost : (call.perform E s x).statics.config.boltHostName = s.config.boltHostName := by
    rw [perform_statics hselect, afterRefreshCheck_boltHostName]
  have hstored : (call.perform E s x).statics.selectedBoltEndpoint =
      (call.perform E s x).request.uri := by
    rw [perform_statics hselect, perform_uri hselect]
  rw [← hhost, override_pins_iff, hstored]
  exact ⟨rfl, rfl, rfl⟩

/-- The HEAD request of a signing names the region of the public field. -/
theorem head_of_signing {e : Uri}
    (hselect : (selectBoltEndpoints E s.config call.request.method x.select).result = .ok e) :
    ∃ headRequest object, (call.perform E s x).head = some headRequest ∧
      headRequest.uri =
        E.parseUri ("https://s3." ++ s.config.region ++ ".amazonaws.com/" ++ object) := by
  refine ⟨call.headRequest E s x, sourceBucket s.config call.request.uri.path ++ "/" ++
    getRandomString x.prefixRand ++ "/auth", perform_head hselect, ?_⟩
  rw [headRequest_eq, createBoltHeadRequest_uri, headObjectUrl_eq]

/-- When the derived strings were made from the given fields, a signing is
consistent exactly when it throws or the public fields agree with these, taken
together. -/
theorem signedConsistently_iff (call : SignCall) (x : SignInput)
    (hhost : s.config.boltHostName = createBoltHostName region customDomain)
    (hurl : s.config.quicksilverUrl = createQuicksilverUrl region zoneId customDomain) :
    SignedConsistently E s call x ↔
      (¬FetchThrows E s.config x.select →
        s.config.region ++ "." ++ s.config.customDomain = region ++ "." ++ customDomain) := by
  constructor
  · intro h hnot
    rcases selectBoltEndpoints_returns call.request.method hnot with ⟨e, hselect⟩
    rcases h (perform_result hselect) with ⟨-, hheader, -, -⟩
    rw [perform_host hselect, hhost] at hheader
    exact (createBoltHostName_inj.mp (Option.some.inj hheader)).symm
  · intro h hresult
    have hnot := not_fetchThrows_of_result hresult
    have hagree := h hnot
    rcases selectBoltEndpoints_returns call.request.method hnot with ⟨e, hselect⟩
    have hname : s.config.boltHostName =
        "bolt." ++ s.config.region ++ "." ++ s.config.customDomain := by
      rw [hhost]
      exact createBoltHostName_inj.mpr hagree.symm
    refine ⟨head_of_signing hselect, ?_, ?_, ?_⟩
    · rw [perform_host hselect, hname]
    · rw [← hname]
      exact override_after_signing hselect
    · intro refresh url hrefresh hrequest
      rw [perform_refresh] at hrefresh
      rw [selectBoltEndpoints_refresh_request hrefresh hrequest, hurl]
      exact createQuicksilverUrl_congr zoneId hagree

end Signing

/-! ## Runs with reconfigurations -/

/-- Assignments to the region and the domain, constructions of clients, and
signings. -/
def ProcessOp.Reconfigures : ProcessOp → Prop
  | .config (.assign (.region _)) => True
  | .config (.assign (.customDomain _)) => True
  | .config (.reset _) => True
  | .sign _ _ _ => True
  | _ => False

/-- A step that signs a request does so consistently. -/
def SignsConsistently (E : Externals) (p : Process) (before : List ProcessOp)
    (op : ProcessOp) : Prop :=
  ∀ id call x, op = .sign id call x →
    SignedConsistently E (processRun E p before).statics call x

/-- Region and domain are, taken together, what they were at the last reset
whenever a signing that does not throw is made. -/
def AgreesWithLastReset (E : Externals) (p : Process) (before : List ProcessOp)
    (op : ProcessOp) : Prop :=
  ∀ id call x, op = .sign id call x →
    ¬FetchThrows E (processRun E p before).statics.config x.select →
    ∀ latched, lastReset E p before = some latched →
      (processRun E p before).statics.config.region ++ "." ++
          (processRun E p before).statics.config.customDomain =
        latched.region ++ "." ++ latched.customDomain

/-- A run of reconfigurations leaves the host name of its last reset. -/
theorem run_boltHostName {E : Externals} {p : Process} {ops : List ProcessOp}
    (hops : ∀ op ∈ ops, op.Reconfigures) :
    (processRun E p ops).statics.config.boltHostName =
      ((lastReset E p ops).map BoltConfig.boltHostName).getD p.statics.config.boltHostName := by
  refine run_of_lastReset (fun _ _ _ => rfl) fun a hmem c => ?_
  cases a with
  | boltHostName value => exact (hops _ hmem).elim
  | region value => rfl
  | zoneId value => rfl
  | customDomain value => rfl
  | authBucket value => rfl
  | userAgentPrefix value => rfl
  | disablePassThroughRead value => rfl

/-- A run that starts with a reset has a last one. -/
theorem exists_lastReset (E : Externals) (p : Process) (answers : InstanceMetadata)
    (ops : List ProcessOp) :
    ∃ latched, lastReset E p (.config (.reset answers) :: ops) = some latched := by
  have hsplit : ProcessOp.config (.reset answers) :: ops =
      [.config (.reset answers)] ++ ops := rfl
  unfold lastReset
  rw [hsplit, lastWrite_append]
  cases lastWrite (processStep E) resetConfig
      (run (processStep E) p [.config (.reset answers)]) ops with
  | none => exact ⟨_, rfl⟩
  | some latched => exact ⟨latched, rfl⟩

/-- After a run of reconfigurations with a reset in it, a signing is consistent
exactly when it throws or the fields agree with the last reset. -/
theorem signsConsistently_iff {E : Externals} {p : Process} {before : List ProcessOp}
    {latched : BoltConfig} (hbefore : ∀ op ∈ before, op.Reconfigures)
    (hlast : lastReset E p before = some latched) (op : ProcessOp) :
    SignsConsistently E p before op ↔ AgreesWithLastReset E p before op := by
  rcases lastReset_derived hlast with ⟨hhost, hurl⟩
  have hhost' := run_boltHostName (E := E) (p := p) hbefore
  have hurl' := run_quicksilverUrl E p before
  rw [hlast, Option.map_some, Option.getD_some] at hhost' hurl'
  have hstep : ∀ call x, SignedConsistently E (processRun E p before).statics call x ↔ _ :=
    fun call x => signedConsistently_iff call x (hhost'.trans hhost) (hurl'.trans hurl)
  constructor
  · intro h id call x hop hnot latched' hlast'
    obtain rfl : latched = latched' := Option.some.inj (hlast.symm.trans hlast')
    exact (hstep call x).mp (h id call x hop) hnot
  · intro h id call x hop
    exact (hstep call x).mpr fun hnot => h id call x hop hnot latched hlast

/-- In every run that starts with a client construction and goes on with
assignments to region and domain, client constructions and signings, all signed
requests are built from one region and one domain exactly when region and domain
are, at each signing that does not throw, what they were at the last
construction, taken together. -/
theorem signings_consistent_iff (E : Externals) (env : String → Option String) (start : Time)
    (answers : InstanceMetadata) (rest : List ProcessOp)
    (hrest : ∀ op ∈ rest, op.Reconfigures) :
    AtEachStep (SignsConsistently E (Process.initial E env start))
        (.config (.reset answers) :: rest) ↔
      AtEachStep (AgreesWithLastReset E (Process.initial E env start))
        (.config (.reset answers) :: rest) := by
  refine atEachStep_congr ?_
  intro before op after hsplit
  cases before with
  | nil =>
      -- The first step is the construction, which signs nothing.
      rcases List.cons.inj hsplit with ⟨rfl, -⟩
      exact iff_of_true (fun _ _ _ h => by cases h) (fun _ _ _ h => by cases h)
  | cons first before =>
      rcases List.cons.inj hsplit with ⟨rfl, hrest'⟩
      rcases exists_lastReset E (Process.initial E env start) answers before with ⟨latched, hlast⟩
      refine signsConsistently_iff ?_ hlast op
      intro op' hmem
      rcases List.mem_cons.mp hmem with rfl | hmem
      · trivial
      · exact hrest op' (by simp [hrest', hmem])

/-- A client constructed and used without touching the fields in between. -/
theorem signing_after_construction_consistent :
    AtEachStep (SignsConsistently sampleExternals (Process.initial sampleExternals sampleEnv 0))
      [.config (.reset ⟨"us-east-1", "use1-az1"⟩),
        .sign 1
          (sampleCall (.signRequest true) .httpGet "https://s3.us-east-1.amazonaws.com/bucket/a")
          (sampleSignInput 1000 (sampleResponse 0) sampleV4)] := by
  refine (signings_consistent_iff sampleExternals sampleEnv 0 ⟨"us-east-1", "use1-az1"⟩
    [.sign 1
      (sampleCall (.signRequest true) .httpGet "https://s3.us-east-1.amazonaws.com/bucket/a")
      (sampleSignInput 1000 (sampleResponse 0) sampleV4)]
    (by rintro op (_ | ⟨_, ⟨⟩⟩); trivial)).mpr ?_
  intro before op after hsplit id call x hop _ latched hlast
  cases before with
  | nil =>
      rcases List.cons.inj hsplit with ⟨rfl, -⟩
      cases hop
  | cons first before =>
      rcases List.cons.inj hsplit with ⟨rfl, hsplit⟩
      cases before with
      | nil =>
          rw [← Option.some.inj hlast]
          rfl
      | cons second before =>
          have hlength := congrArg List.length hsplit
          simp at hlength

/-- A region assigned after the construction of the client reaches the HEAD
request but not the host header. -/
theorem region_assigned_after_construction_inconsistent :
    ¬AtEachStep (SignsConsistently sampleExternals (Process.initial sampleExternals sampleEnv 0))
      [.config (.reset ⟨"us-east-1", "use1-az1"⟩),
        .config (.assign (.region "eu-west-1")),
        .sign 1
          (sampleCall (.signRequest true) .httpGet "https://s3.us-east-1.amazonaws.com/bucket/a")
          (sampleSignInput 1000 (sampleResponse 0) sampleV4)] := by
  intro h
  have hsigned := h
    [.config (.reset ⟨"us-east-1", "use1-az1"⟩), .config (.assign (.region "eu-west-1"))]
    (.sign 1
      (sampleCall (.signRequest true) .httpGet "https://s3.us-east-1.amazonaws.com/bucket/a")
      (sampleSignInput 1000 (sampleResponse 0) sampleV4)) [] rfl 1 _ _ rfl
  exact absurd (hsigned (by rfl)).2.1 (by decide +kernel)

end BoltClient
