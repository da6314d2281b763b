import BoltClient.BoltConfig.Refresh
import BoltClient.Process

/-!
# Where a handed-out endpoint was obtained

A reset derives the quicksilver address anew but keeps the cached endpoint map,
which may have been fetched from the address before.  This file follows the
address a cached map came from along the runs of a process.

Main results:

- Theorem {lit}`lastFill_request_eq`: a map with an entry came from the address
  that was in force when the cache was last filled.
- Theorem {lit}`endpoints_obtained_since_reset_iff`: after every reset the
  endpoints handed out come from an address in force since then exactly when no
  selection is served from a map filled under an address that has been replaced.

Current gaps:

- A reset that restores an earlier address counts as that address.
-/

namespace BoltClient

open BoltClient.Library.Runs
open BoltClient.Library.Registers

variable {E : Externals} {p : Process}

/-! ## The address of the cached map -/

/-- The quicksilver address of a process. -/
def Process.quicksilverUrl (p : Process) : String := p.statics.config.quicksilverUrl

/-- The address in force when a step fills the cache. -/
def fillUrl (E : Externals) (p : Process) (op : ProcessOp) : Option String :=
  (configOp op).bind fun op =>
    if fillsOf E p.statics.config op = [] then none else some p.quicksilverUrl

/-- The address that was in force when the cache was last filled. -/
def urlAtLastFill (E : Externals) (p : Process) (ops : List ProcessOp) : Option String :=
  lastWrite (processStep E) (fillUrl E) p ops

/-- The most recent fill along a run of the process. -/
def lastFillOfRun (E : Externals) (p : Process) (ops : List ProcessOp) : Option EndpointFill :=
  lastFill E p.statics.config (configOps ops)

/-- An operation fills the cache at most once, and with an entry only from the
address in force. -/
theorem fillsOf_cases (E : Externals) (c : BoltConfig) (op : ConfigOp) :
    fillsOf E c op = [] ∨ ∃ f, fillsOf E c op = [f] ∧
      (f.endpoints.entries ≠ [] → f.request = some c.quicksilverUrl) := by
  cases op with
  | assign a => exact Or.inl rfl
  | reset answers => exact Or.inl rfl
  | select method x =>
      rcases selectBoltEndpoints_cases E c method x with
        ⟨hdue, -⟩ | ⟨e, hdue, hget, -⟩ | ⟨endpoints, hdue, hget, -⟩
      · exact Or.inl (fillsOf_of_not_due hdue)
      · exact Or.inl (fillsOf_of_error hdue hget)
      · refine Or.inr ⟨_, fillsOf_of_ok hdue hget, fun hentries => ?_⟩
        cases hrequest : (getBoltEndpoints E c x.http "").request with
        | some url => rw [(getBoltEndpoints_request_eq hrequest).1]
        | none =>
            -- Without an address to ask the answer has no entry.
            have hnothing := getBoltEndpoints_result_of_request_none hrequest
            rw [hget] at hnothing
            have hempty : endpoints = ∅ := Except.ok.inj hnothing
            rw [hempty] at hentries
            exact absurd rfl hentries

theorem lastFillOfRun_concat (ops : List ProcessOp) (op : ProcessOp) :
    lastFillOfRun E p (ops ++ [op]) =
      ((configOp op).bind fun o =>
        (fillsOf E (processRun E p ops).statics.config o).getLast?).or
          (lastFillOfRun E p ops) := by
  unfold lastFillOfRun
  rw [configOps_concat, run_config]
  cases configOp op with
  | none => simp
  | some o => simp [lastFill_concat]

/-- A cached map with an entry was asked of the address in force when the cache
was last filled. -/
theorem lastFill_request_eq (ops : List ProcessOp) {f : EndpointFill}
    (hlast : lastFillOfRun E p ops = some f) (hentries : f.endpoints.entries ≠ []) :
    ∃ url, urlAtLastFill E p ops = some url ∧ f.request = some url := by
  induction ops using List.reverseRecOn with
  | nil => cases hlast
  | append_singleton ops op ih =>
      rw [lastFillOfRun_concat] at hlast
      unfold urlAtLastFill at ih ⊢
      rw [lastWrite_concat]
      cases hop : configOp op with
      | none =>
          rw [hop, Option.bind_none, Option.none_or] at hlast
          simpa [fillUrl, hop] using ih hlast
      | some o =>
          rw [hop, Option.bind_some] at hlast
          rcases fillsOf_cases E (processRun E p ops).statics.config o with
            hnone | ⟨g, hfill, hrequest⟩
          · rw [hnone, List.getLast?_nil, Option.none_or] at hlast
            simpa [fillUrl, hop, hnone] using ih hlast
          · rw [hfill] at hlast
            obtain rfl : g = f := by simpa using hlast
            refine ⟨(processRun E p ops).quicksilverUrl, ?_, hrequest hentries⟩
            simp [fillUrl, hop, hfill]

/-- The cached map of a process is that of its most recent fill. -/
theorem run_map_eq_lastFill (hempty : p.statics.config.boltEndpoints = ∅)
    (ops : List ProcessOp) :
    (processRun E p ops).statics.config.boltEndpoints =
      ((lastFillOfRun E p ops).map EndpointFill.endpoints).getD ∅ := by
  rw [run_config, run_boltEndpoints_eq_lastFill hempty]
  rfl

/-- A map that offers an endpoint has an entry. -/
theorem HasEndpoint.entries_ne_nil {endpoints : BoltEndpoints} {method : HttpMethod}
    (h : HasEndpoint endpoints method) : endpoints.entries ≠ [] := by
  intro hentries
  rcases h with ⟨key, -, husable⟩
  refine husable (Or.inl ?_)
  rw [AList.ext (t := ∅) hentries]
  rfl

/-! ## Endpoints handed out after a reset -/

/-- The selection a step makes. -/
def selectionOf : ProcessOp → Option (HttpMethod × SelectInput)
  | .config (.select method x) => some (method, x)
  | .sign _ call x => some (call.request.method, x.select)
  | _ => none

theorem configOp_of_selectionOf {op : ProcessOp} {method : HttpMethod} {y : SelectInput}
    (h : selectionOf op = some (method, y)) : configOp op = some (.select method y) := by
  cases op with
  | send id => cases h
  | sign id call x => cases h; rfl
  | config op =>
      cases op with
      | assign a => cases h
      | reset answers => cases h
      | select method' x => cases h; rfl

/-- If the step hands out an endpoint, then for every reset before it the map it
was taken from was asked of an address in force at that reset or later. -/
def ObtainedSinceReset (E : Externals) (p : Process) (before : List ProcessOp)
    (op : ProcessOp) : Prop :=
  ∀ method y uri, selectionOf op = some (method, y) →
    (selectBoltEndpoints E (processRun E p before).statics.config method y).result = .ok uri →
    uri ≠ Uri.empty →
    ∀ pre answers mid, before = pre ++ .config (.reset answers) :: mid →
      ∃ f mid₁ mid₂, lastFillOfRun E p (before ++ [op]) = some f ∧
        (selectBoltEndpoints E (processRun E p before).statics.config method
          y).config.boltEndpoints = f.endpoints ∧
        mid = mid₁ ++ mid₂ ∧
        f.request =
          some (processRun E p (pre ++ .config (.reset answers) :: mid₁)).quicksilverUrl

/-- If the step is served from the cache, and the cached map has an endpoint for
it, then the address in force is the one in force when the cache was filled. -/
def CacheFromUrlInForce (E : Externals) (p : Process) (before : List ProcessOp)
    (op : ProcessOp) : Prop :=
  ∀ method y, selectionOf op = some (method, y) →
    ¬(processRun E p before).statics.config.RefreshDue y.checkClock →
    HasEndpoint (processRun E p before).statics.config.boltEndpoints method →
    urlAtLastFill E p before = some (processRun E p before).quicksilverUrl

section Selection

variable {before : List ProcessOp} {op : ProcessOp} {method : HttpMethod} {y : SelectInput}
  {uri : Uri}

/-- What a step with a selection hands out comes from the most recent fill, and
that was asked of the address in force then. -/
theorem selection_fill (hempty : p.statics.config.boltEndpoints = ∅)
    (hop : selectionOf op = some (method, y))
    (hok : (selectBoltEndpoints E (processRun E p before).statics.config method y).result =
      .ok uri)
    (hne : uri ≠ Uri.empty) :
    ∃ f url, lastFillOfRun E p (before ++ [op]) = some f ∧
      (selectBoltEndpoints E (processRun E p before).statics.config method
        y).config.boltEndpoints = f.endpoints ∧
      urlAtLastFill E p (before ++ [op]) = some url ∧ f.request = some url := by
  have hconfig : (processRun E p (before ++ [op])).statics.config =
      (selectBoltEndpoints E (processRun E p before).statics.config method y).config := by
    unfold processRun
    rw [run_concat, processStep_config, configOp_of_selectionOf hop]
    rfl
  have hmap := run_map_eq_lastFill (E := E) hempty (before ++ [op])
  rw [hconfig] at hmap
  -- The endpoint handed out is an entry of that map.
  have hhas : HasEndpoint (selectBoltEndpoints E (processRun E p before).statics.config method
      y).config.boltEndpoints method := by
    rw [selectBoltEndpoints_config_eq]
    exact hasEndpoint_of_selected hok hne
  cases hlast : lastFillOfRun E p (before ++ [op]) with
  | none =>
      rw [hlast] at hmap
      exact absurd (congrArg AList.entries hmap) hhas.entries_ne_nil
  | some f =>
      rw [hlast] at hmap
      have hentries : f.endpoints.entries ≠ [] := by
        rw [← show _ = f.endpoints from hmap]
        exact hhas.entries_ne_nil
      rcases lastFill_request_eq _ hlast hentries with ⟨url, hurl, hrequest⟩
      exact ⟨f, url, rfl, hmap, hurl, hrequest⟩

/-- A selection that fills the cache does so from the address in force. -/
theorem urlAtLastFill_of_due (hop : selectionOf op = some (method, y))
    (hdue : (processRun E p before).statics.config.RefreshDue y.checkClock)
    (hok : (selectBoltEndpoints E (processRun E p before).statics.config method y).result =
      .ok uri) :
    urlAtLastFill E p (before ++ [op]) = some (processRun E p before).quicksilverUrl := by
  unfold urlAtLastFill
  rw [lastWrite_concat]
  cases hget : (getBoltEndpoints E (processRun E p before).statics.config y.http "").result with
  | error e =>
      rw [selectBoltEndpoints_of_error method hdue hget] at hok
      cases hok
  | ok endpoints =>
      simp [fillUrl, configOp_of_selectionOf hop, fillsOf_of_ok hdue hget]

/-- A selection served from the cache does not change where the map came from. -/
theorem urlAtLastFill_of_not_due (hop : selectionOf op = some (method, y))
    (hdue : ¬(processRun E p before).statics.config.RefreshDue y.checkClock) :
    urlAtLastFill E p (before ++ [op]) = urlAtLastFill E p before := by
  unfold urlAtLastFill
  rw [lastWrite_concat]
  simp [fillUrl, configOp_of_selectionOf hop, fillsOf_of_not_due hdue]

/-- A fresh map with an endpoint for the method hands one out. -/
theorem hands_out_of_not_due
    (hdue : ¬(processRun E p before).statics.config.RefreshDue y.checkClock)
    (hhas : HasEndpoint (processRun E p before).statics.config.boltEndpoints method) :
    ∃ uri, (selectBoltEndpoints E (processRun E p before).statics.config method y).result =
      .ok uri ∧ uri ≠ Uri.empty := by
  rw [selectBoltEndpoints_of_not_due method hdue]
  rcases selectFromOrder_returns E (processRun E p before).statics.config.boltEndpoints
      y.pickRand (preferredOrder method) with
    ⟨uri, huri⟩
  refine ⟨uri, huri, ?_⟩
  rintro rfl
  exact selectFromOrder_empty_iff_not_hasEndpoint.mp huri hhas

end Selection

/-- Without a reset the address stays what it was. -/
theorem run_quicksilverUrl_of_no_reset {ops : List ProcessOp} (h : lastReset E p ops = none) :
    (processRun E p ops).quicksilverUrl = p.quicksilverUrl := by
  unfold Process.quicksilverUrl
  rw [run_quicksilverUrl, h]
  rfl

/-- A part of a run without resets has none either. -/
theorem lastReset_none_of_append {ops ops' : List ProcessOp}
    (h : lastReset E p (ops ++ ops') = none) : lastReset E p ops = none := by
  unfold lastReset at h ⊢
  rw [lastWrite_append] at h
  exact (Option.or_eq_none_iff.mp h).2

/-- Before the first reset the cache was filled from the address still in force. -/
theorem urlAtLastFill_of_no_reset {before : List ProcessOp} {url : String}
    (hreset : lastReset E p before = none) (hurl : urlAtLastFill E p before = some url) :
    url = (processRun E p before).quicksilverUrl := by
  rcases lastWrite_eq_some_iff.mp hurl with ⟨pre, op, post, rfl, hfill, -⟩
  have hpre : lastReset E p pre = none := lastReset_none_of_append hreset
  have hthen := run_quicksilverUrl_of_no_reset hpre
  have hnow := run_quicksilverUrl_of_no_reset hreset
  rw [hnow, ← hthen]
  unfold fillUrl at hfill
  rcases Option.bind_eq_some_iff.mp hfill with ⟨o, -, hfill⟩
  split at hfill
  · cases hfill
  · exact (Option.some.inj hfill).symm

/-- After the last reset of a run the address stays the same. -/
theorem quicksilverUrl_since_reset {pre mid mid₁ mid₂ : List ProcessOp} {op : ProcessOp}
    (hmid : lastReset E (processRun E p (pre ++ [op])) mid = none)
    (hsplit : mid = mid₁ ++ mid₂) :
    (processRun E p (pre ++ op :: mid₁)).quicksilverUrl =
      (processRun E p (pre ++ op :: mid)).quicksilverUrl := by
  have hmid₁ : lastReset E (processRun E p (pre ++ [op])) mid₁ = none := by
    rw [hsplit] at hmid
    exact lastReset_none_of_append hmid
  unfold processRun
  rw [run_middle _ _ _ _ mid₁, run_middle _ _ _ _ mid, run_quicksilverUrl_of_no_reset hmid₁,
    run_quicksilverUrl_of_no_reset hmid]

/-- One step hands out only endpoints obtained since every earlier reset exactly
when it is not served from a map filled under another address. -/
theorem obtainedSinceReset_iff (hempty : p.statics.config.boltEndpoints = ∅)
    (before : List ProcessOp) (op : ProcessOp) :
    ObtainedSinceReset E p before op ↔ CacheFromUrlInForce E p before op := by
  constructor
  · intro h method y hop hdue hhas
    rcases hands_out_of_not_due hdue hhas with ⟨uri, hok, hne⟩
    rcases selection_fill hempty hop hok hne with ⟨f, url, hlast, -, hurl, hrequest⟩
    have hurl' : urlAtLastFill E p before = some url := by
      rw [← urlAtLastFill_of_not_due hop hdue, hurl]
    rw [hurl']
    cases hreset : lastReset E p before with
    | none => rw [urlAtLastFill_of_no_reset hreset hurl']
    | some w =>
        -- Look at the last reset: the address has not changed since.
        rcases lastWrite_eq_some_iff.mp hreset with ⟨pre, op', mid, rfl, hop', hmid⟩
        rcases eq_reset_of_resetConfig hop' with ⟨answers, rfl, -⟩
        rcases h method y uri hop hok hne pre answers mid rfl with
          ⟨f', mid₁, mid₂, hlast', -, hsplit, hrequest'⟩
        have hfill : f = f' := Option.some.inj (hlast.symm.trans hlast')
        have hsince := quicksilverUrl_since_reset (E := E) (p := p) hmid hsplit
        rw [← hrequest, hfill, hrequest', hsince]
  · intro h method y uri hop hok hne pre answers mid hbefore
    rcases selection_fill hempty hop hok hne with ⟨f, url, hlast, hmap, hurl, hrequest⟩
    refine ⟨f, mid, [], hlast, hmap, by simp, ?_⟩
    rw [hrequest, ← hurl, ← hbefore]
    by_cases hdue : (processRun E p before).statics.config.RefreshDue y.checkClock
    · exact urlAtLastFill_of_due hop hdue hok
    · rw [urlAtLastFill_of_not_due hop hdue]
      refine h method y hop hdue ?_
      have hhas := hasEndpoint_of_selected hok hne
      rwa [BoltConfig.afterRefreshCheck, if_neg hdue] at hhas

/-- In every run of a process, every endpoint handed out after a reset was
obtained from an address in force at that reset or later exactly when no
selection or signing is served from a map that was fetched under an address
other than the one now in force. -/
theorem endpoints_obtained_since_reset_iff (E : Externals) (env : String → Option String)
    (start : Time) (ops : List ProcessOp) :
    AtEachStep (ObtainedSinceReset E (Process.initial E env start)) ops ↔
      AtEachStep (CacheFromUrlInForce E (Process.initial E env start)) ops :=
  atEachStep_congr fun before op _ _ => obtainedSinceReset_iff rfl before op

/-- A process that fetches its endpoints, is moved to another region and
constructs a new client. -/
def sampleMove : List ProcessOp :=
  [.config (.reset ⟨"us-east-1", "use1-az1"⟩),
    .config (.select .httpGet (sampleInput 1000 (sampleResponse 0))),
    .config (.assign (.region "eu-west-1")),
    .config (.reset ⟨"us-east-1", "use1-az1"⟩)]

/-- A signing one second later. -/
def sampleSignAfterMove : ProcessOp :=
  .sign 1
    (sampleCall (.signRequest true) .httpGet "https://s3.eu-west-1.amazonaws.com/bucket/a")
    (sampleSignInput 2000 (sampleResponse 1) sampleV4)

/-- After a move to another region and the construction of a new client, the
next signing still takes its endpoint from the map of the old region. -/
theorem endpoint_of_old_region_handed_out :
    ¬AtEachStep
      (ObtainedSinceReset sampleExternals (Process.initial sampleExternals sampleEnv 0))
      (sampleMove ++ [sampleSignAfterMove]) := by
  intro h
  obtain ⟨f, mid₁, mid₂, hlast, -, hmid, hrequest⟩ :=
    h sampleMove sampleSignAfterMove [] rfl _ _ (endpointUri sampleExternals "10.0.0.1") rfl
      (by rfl) (by decide) (sampleMove.take 3) _ [] rfl
  rcases List.append_eq_nil_iff.mp hmid.symm with ⟨rfl, rfl⟩
  have hurl := congrArg (fun fill : Option EndpointFill => fill.bind EndpointFill.request) hlast
  simp only [Option.bind_some, hrequest] at hurl
  exact absurd hurl (by decide +kernel)

end BoltClient
