import BoltClient.BoltConfig.Runs
import BoltClient.BoltConfig.Selection

/-!
# How fresh the endpoint cache is kept

The refresh guard asks quicksilver again when the refresh time has passed or
the cached map is empty.  Over runs of selections and resets this bounds the age
of the map a selection uses and the rate of fetches, and a failed fetch changes
nothing.  The guard and the selection loop do not agree on what an empty cache
is, which the last section makes precise.

Main results:

- Theorem {lit}`refresh_contract`: the cached map is the most recent fill, a
  failed fetch leaves the cache and is attempted again, no selection uses a map
  older than 179 seconds, and no fetch follows a non-empty one within 60 seconds.
- Theorem {lit}`emptyAnswer_refreshes_iff`: a selection that finds nothing has
  refreshed exactly when it was not served from a fresh map without an endpoint
  for its method.

Current gaps:

- The status code of an answer is not looked at, as in the source.
-/

namespace BoltClient

open BoltClient.Library.Runs
open BoltClient.Library.LeaseCache

/-! ## Failed fetches -/

variable {E : Externals} {c : BoltConfig} {method : HttpMethod} {x : SelectInput}

/-- A selection whose fetch throws was due, throws itself and leaves the whole
configuration as it was. -/
theorem selectBoltEndpoints_fetch_threw {refresh : Refresh} {e : BoltError}
    (hrefresh : (selectBoltEndpoints E c method x).refresh = some refresh)
    (hthrew : refresh.result = .error e) :
    c.RefreshDue x.checkClock ∧ refresh = getBoltEndpoints E c x.http "" ∧
      selectBoltEndpoints E c method x =
        { config := c, refresh := some refresh, result := .error e } := by
  rcases selectBoltEndpoints_cases E c method x with
    ⟨-, h⟩ | ⟨e', hdue, hget, h⟩ | ⟨endpoints, -, hget, h⟩
  · rw [h] at hrefresh
    cases hrefresh
  · rw [h] at hrefresh ⊢
    have hrefresh' : getBoltEndpoints E c x.http "" = refresh := Option.some.inj hrefresh
    subst hrefresh'
    have he : e' = e := Except.error.inj (hget.symm.trans hthrew)
    subst he
    exact ⟨hdue, rfl, rfl⟩
  · rw [h] at hrefresh
    have hrefresh' : getBoltEndpoints E c x.http "" = refresh := Option.some.inj hrefresh
    rw [← hrefresh', hget] at hthrew
    cases hthrew

/-- A selection makes a refresh exactly when it is due, and it is that of
{lit}`GetBoltEndpoints`. -/
theorem selectBoltEndpoints_refresh (E : Externals) (c : BoltConfig) (method : HttpMethod)
    (x : SelectInput) :
    (selectBoltEndpoints E c method x).refresh =
      if c.RefreshDue x.checkClock then some (getBoltEndpoints E c x.http "") else none := by
  rcases selectBoltEndpoints_cases E c method x with
    ⟨hdue, h⟩ | ⟨e, hdue, -, h⟩ | ⟨endpoints, hdue, -, h⟩
  · rw [h, if_neg hdue]
  · rw [h, if_pos hdue]
  · rw [h, if_pos hdue]

/-- A fetch that throws did ask an address. -/
theorem getBoltEndpoints_set_of_threw {http : String → Response} {e : BoltError}
    (hget : (getBoltEndpoints E c http "").result = .error e) :
    c.quicksilverUrl ≠ "" ∧ c.region ≠ "" := by
  by_contra hunset
  have hunset' : c.quicksilverUrl = "" ∨ c.region = "" := by
    by_contra h
    exact hunset (not_or.mp h)
  simp [getBoltEndpoints, hunset'] at hget

/-- An address built by {lit}`CreateQuicksilverUrl` is never empty. -/
theorem createQuicksilverUrl_ne_empty (region zoneId customDomain : String) :
    createQuicksilverUrl region zoneId customDomain ≠ "" := by
  intro h
  unfold createQuicksilverUrl at h
  -- The literal in front of the region alone is not empty.
  iterate 5 replace h := (String.append_eq_empty_iff.mp h).1
  exact absurd h (by decide)

/-- A reset keeps a configuration that can ask quicksilver able to do so, and
touches neither the cache nor its refresh time. -/
theorem reset_can_ask (hregion : c.region ≠ "") (answers : InstanceMetadata) :
    (c.reset answers).region = c.region ∧ (c.reset answers).quicksilverUrl ≠ "" ∧
      leaseOf (c.reset answers) = leaseOf c := by
  refine ⟨by simp [BoltConfig.reset, hregion], ?_, rfl⟩
  exact createQuicksilverUrl_ne_empty _ _ _

/-! ## The contract over runs of selections and resets -/

/-- The operation is a reset. -/
def ConfigOp.IsReset : ConfigOp → Prop
  | .reset _ => True
  | _ => False

/-- Resets alone keep the cache and the ability to ask quicksilver. -/
theorem run_resets_can_ask {ops : List ConfigOp} (hops : ∀ op ∈ ops, op.IsReset)
    (hurl : c.quicksilverUrl ≠ "") (hregion : c.region ≠ "") :
    leaseOf (configRun E c ops) = leaseOf c ∧ (configRun E c ops).quicksilverUrl ≠ "" ∧
      (configRun E c ops).region ≠ "" := by
  refine run_invariant
    (fun s => leaseOf s = leaseOf c ∧ s.quicksilverUrl ≠ "" ∧ s.region ≠ "")
    ConfigOp.IsReset ?_ ⟨rfl, hurl, hregion⟩ hops
  intro s op hreset hs
  cases op with
  | assign a => exact hreset.elim
  | select method x => exact hreset.elim
  | reset answers =>
      rcases hs with ⟨hlease, -, hregion⟩
      rcases reset_can_ask hregion answers with ⟨hregion', hurl', hlease'⟩
      exact ⟨hlease'.trans hlease, hurl', by rw [configStep_reset, hregion']; exact hregion⟩

/-- Readings of one operation come after the readings of everything before it. -/
theorem ClockNonDecreasing.le {before after : List ConfigOp} {op : ConfigOp}
    (h : ClockNonDecreasing E c (before ++ op :: after)) {s t : Time}
    (hs : s ∈ collect (configStep E) (clockReadings E) c before)
    (ht : t ∈ clockReadings E (configRun E c before) op) : s ≤ t := by
  unfold ClockNonDecreasing at h
  rw [collect_append, List.pairwise_append] at h
  exact h.2.2 s hs t (by simp [ht])

/-- The two readings of one selection are in order. -/
theorem ClockNonDecreasing.check_le_refresh {before after : List ConfigOp}
    (h : ClockNonDecreasing E c (before ++ .select method x :: after))
    {endpoints : BoltEndpoints} (hdue : (configRun E c before).RefreshDue x.checkClock)
    (hget : (getBoltEndpoints E (configRun E c before) x.http "").result = .ok endpoints) :
    x.checkClock ≤ x.refreshClock := by
  unfold ClockNonDecreasing at h
  rw [collect_append, List.pairwise_append, collect_cons, List.pairwise_append] at h
  have hpair := h.2.1.1
  rw [clockReadings, fillsOf_of_ok hdue hget] at hpair
  simpa using hpair

/-- The check of a selection is one of its readings. -/
theorem checkClock_mem_readings (E : Externals) (c : BoltConfig) (method : HttpMethod)
    (x : SelectInput) : x.checkClock ∈ clockReadings E c (.select method x) := by
  simp [clockReadings]

/-- The cached map of a run is that of its most recent fill. -/
theorem run_boltEndpoints_eq_lastFill {c : BoltConfig} (hempty : c.boltEndpoints = ∅)
    (ops : List ConfigOp) :
    (configRun E c ops).boltEndpoints =
      ((lastFill E c ops).map EndpointFill.endpoints).getD ∅ := by
  have hfilled := run_filledBy E (c := c) (by rw [hempty]; rfl) ops
  cases hlast : lastFill E c ops with
  | none =>
      have hblank := hfilled.blank_of_none (by simp [hlast])
      exact AList.ext hblank
  | some f => exact hfilled.value_eq f.toFill (by simp [hlast])

/-- A failed fetch leaves the cache alone, and the next selection, with only
resets in between, asks quicksilver again. -/
theorem failed_fetch_retried {before mid after : List ConfigOp} {method' : HttpMethod}
    {x' : SelectInput} {refresh : Refresh} {e : BoltError}
    (hclock : ClockNonDecreasing E c
      (before ++ .select method x :: (mid ++ .select method' x' :: after)))
    (hrefresh : (selectBoltEndpoints E (configRun E c before) method x).refresh = some refresh)
    (hthrew : refresh.result = .error e) (hmid : ∀ op ∈ mid, op.IsReset) :
    ∃ refresh' url,
      (selectBoltEndpoints E (configRun E c (before ++ .select method x :: mid))
        method' x').refresh = some refresh' ∧
      refresh'.request = some url := by
  rcases selectBoltEndpoints_fetch_threw hrefresh hthrew with ⟨hdue, hget, houtcome⟩
  rw [hget] at hthrew
  rcases getBoltEndpoints_set_of_threw hthrew with ⟨hurl, hregion⟩
  -- After the failed selection the configuration is the one before it.
  have hstate : configRun E c (before ++ .select method x :: mid) =
      configRun E (configRun E c before) mid := by
    unfold configRun
    rw [run_append, run_cons, configStep_select, houtcome]
  rcases run_resets_can_ask hmid hurl hregion with ⟨hlease, hurl', hregion'⟩
  rw [hstate]
  -- The clock has not gone back, so the cache is still due.
  have hle : x.checkClock ≤ x'.checkClock := by
    have hclock' : ClockNonDecreasing E c
        ((before ++ .select method x :: mid) ++ .select method' x' :: after) := by
      simpa using hclock
    refine hclock'.le ?_ (checkClock_mem_readings E _ method' x')
    rw [collect_append, collect_cons]
    simp [checkClock_mem_readings]
  have hdue' : (configRun E (configRun E c before) mid).RefreshDue x'.checkClock := by
    have hvalue := congrArg Lease.value hlease
    have hexpiry := congrArg Lease.expiry hlease
    simp only [leaseOf] at hvalue hexpiry
    unfold BoltConfig.RefreshDue
    rw [hvalue, hexpiry]
    exact hdue.imp (fun h => lt_of_lt_of_le h hle) id
  exact ⟨_, _, (selectBoltEndpoints_refresh E _ method' x').trans (if_pos hdue'),
    getBoltEndpoints_request_of_ne hurl' hregion'⟩

/-- A selection that returns uses a map filled at most 179 seconds before its
freshness check. -/
theorem selection_map_recent (hempty : c.boltEndpoints = ∅) {before after : List ConfigOp}
    (hclock : ClockNonDecreasing E c (before ++ .select method x :: after)) {uri : Uri}
    (hok : (selectBoltEndpoints E (configRun E c before) method x).result = .ok uri) :
    ∃ f, lastFill E c (before ++ [.select method x]) = some f ∧
      (selectBoltEndpoints E (configRun E c before) method x).config.boltEndpoints =
        f.endpoints ∧
      x.checkClock - E.seconds 179 ≤ f.completedAt := by
  have hfilled := run_filledBy E (c := c) (by rw [hempty]; rfl) before
  -- A selection that returns did not fail to fetch.
  have hanswer : (configRun E c before).RefreshDue x.checkClock →
      ∃ endpoints, (getBoltEndpoints E (configRun E c before) x.http "").result =
        .ok endpoints := by
    intro hdue
    cases hget : (getBoltEndpoints E (configRun E c before) x.http "").result with
    | error e => exact absurd ⟨hdue, e, hget⟩ (not_fetchThrows_of_selected hok)
    | ok endpoints => exact ⟨endpoints, rfl⟩
  -- One that fetched took its second reading after the first.
  have horder : (configRun E c before).RefreshDue x.checkClock →
      x.checkClock ≤ x.refreshClock := by
    intro hdue
    rcases hanswer hdue with ⟨endpoints, hget⟩
    exact hclock.check_le_refresh hdue hget
  rcases hfilled.fill_recent (u := useOf E (configRun E c before) x) (E.seconds_nonneg 179)
      hanswer horder with
    ⟨f', hlast, hvalue, hage⟩
  rw [← fillsOf_select E _ method, ← Option.map_or, ← lastFill_concat] at hlast
  rcases Option.map_eq_some_iff.mp hlast with ⟨f, hf, rfl⟩
  refine ⟨f, hf, ?_, hage⟩
  rw [← leaseOf_select E _ method] at hvalue
  exact hvalue

/-- Each use of the lease cache along a run has its own clock reading. -/
theorem checkedAt_mem_readings (E : Externals) (c : BoltConfig) (ops : List ConfigOp) :
    ∀ u ∈ collect (configStep E) (usesOf E) c ops,
      u.checkedAt ∈ collect (configStep E) (clockReadings E) c ops := by
  induction ops generalizing c with
  | nil => simp
  | cons op ops ih =>
      intro u hu
      rw [collect_cons, List.mem_append] at hu ⊢
      rcases hu with hu | hu
      · left
        cases op with
        | assign a => simp [usesOf] at hu
        | reset answers => simp [usesOf] at hu
        | select method x =>
            simp only [usesOf, List.mem_singleton] at hu
            subst hu
            exact checkClock_mem_readings E c method x
      · exact Or.inr (ih _ u hu)

/-- Within 60 seconds of the completion of a fetch with a non-empty answer no
selection fetches again. -/
theorem no_fetch_within_minute (hempty : c.boltEndpoints = ∅)
    {before mid after : List ConfigOp} {method' : HttpMethod} {x' : SelectInput}
    {f : EndpointFill}
    (hclock : ClockNonDecreasing E c
      (before ++ .select method x :: (mid ++ .select method' x' :: after)))
    (hfill : fillsOf E (configRun E c before) (.select method x) = [f])
    (hne : f.endpoints.entries ≠ [])
    (hle : x'.checkClock ≤ f.completedAt + E.seconds 60) :
    (selectBoltEndpoints E (configRun E c (before ++ .select method x :: mid))
      method' x').refresh = none := by
  have hsplit : before ++ .select method x :: mid =
      (before ++ [.select method x]) ++ mid := by simp
  have hlast : lastFill E c (before ++ [.select method x]) = some f := by
    rw [lastFill_concat, hfill]
    rfl
  have hfilled := run_filledBy E (c := c) (by rw [hempty]; rfl)
    (before ++ [.select method x])
  rw [hlast] at hfilled
  -- No selection in between reads the clock later than the one in question.
  have hmid : ∀ u ∈ collect (configStep E) (usesOf E)
      (configRun E c (before ++ [.select method x])) mid,
      u.checkedAt ≤ f.completedAt + E.seconds 60 := by
    intro u hu
    have hclock' : ClockNonDecreasing E c
        ((before ++ .select method x :: mid) ++ .select method' x' :: after) := by
      simpa using hclock
    have hread : u.checkedAt ∈
        collect (configStep E) (clockReadings E) c (before ++ .select method x :: mid) := by
      rw [hsplit, collect_append]
      exact List.mem_append_right _ (checkedAt_mem_readings E _ mid u hu)
    exact (hclock'.le hread (checkClock_mem_readings E _ method' x')).trans hle
  have hlease := run_refines_leaseCache E (configRun E c (before ++ [.select method x])) mid
  rw [hfilled.run_use hne hmid] at hlease
  have hnotdue :
      ¬(configRun E c (before ++ .select method x :: mid)).RefreshDue x'.checkClock := by
    unfold configRun
    rw [run_middle, refreshDue_iff_due E _ x', hlease]
    exact hfilled.not_due hne hle
  rw [selectBoltEndpoints_of_not_due method' hnotdue]

/-- What a run promises about the endpoint cache. -/
structure RefreshContract (E : Externals) (c : BoltConfig) (ops : List ConfigOp) : Prop where
  /-- A selection fetches exactly when its check finds the cache due, and the fetch
  is the one {lit}`GetBoltEndpoints` makes for its answers. -/
  fetches_iff_due : ∀ before method x after, ops = before ++ .select method x :: after →
    (selectBoltEndpoints E (configRun E c before) method x).refresh =
      if (configRun E c before).RefreshDue x.checkClock then
        some (getBoltEndpoints E (configRun E c before) x.http "")
      else none
  /-- The cached map is at every moment the initial empty map or the map of the
  most recent {lit}`GetBoltEndpoints` call that did not throw. -/
  map_eq_lastFill : ∀ before after, ops = before ++ after →
    (configRun E c before).boltEndpoints =
      ((lastFill E c before).map EndpointFill.endpoints).getD ∅
  /-- A selection whose fetch throws throws too and leaves the map and the
  refresh time as they were, and the next selection, across any resets, hands an
  address to {lit}`ExecuteRequest` again. -/
  failed_fetch : ∀ before method x after refresh e,
    ops = before ++ .select method x :: after →
    (selectBoltEndpoints E (configRun E c before) method x).refresh = some refresh →
    refresh.result = .error e →
    (selectBoltEndpoints E (configRun E c before) method x).result = .error e ∧
      (selectBoltEndpoints E (configRun E c before) method x).config.boltEndpoints =
        (configRun E c before).boltEndpoints ∧
      (selectBoltEndpoints E (configRun E c before) method x).config.refreshTime =
        (configRun E c before).refreshTime ∧
      ∀ mid method' x' after', after = mid ++ .select method' x' :: after' →
        (∀ op ∈ mid, op.IsReset) →
        ∃ refresh' url,
          (selectBoltEndpoints E (configRun E c (before ++ .select method x :: mid))
            method' x').refresh = some refresh' ∧
          refresh'.request = some url
  /-- A selection that returns uses a map whose fetch had completed at most 179
  seconds before the freshness check. -/
  map_recent : ∀ before method x after uri, ops = before ++ .select method x :: after →
    (selectBoltEndpoints E (configRun E c before) method x).result = .ok uri →
    ∃ f, lastFill E c (before ++ [.select method x]) = some f ∧
      (selectBoltEndpoints E (configRun E c before) method x).config.boltEndpoints =
        f.endpoints ∧
      x.checkClock - E.seconds 179 ≤ f.completedAt
  /-- Up to and including 60 seconds after a fetch with a non-empty answer no
  further fetch is made. -/
  no_early_fetch : ∀ before method x mid method' x' after f,
    ops = before ++ .select method x :: (mid ++ .select method' x' :: after) →
    fillsOf E (configRun E c before) (.select method x) = [f] →
    f.endpoints.entries ≠ [] → x'.checkClock ≤ f.completedAt + E.seconds 60 →
    (selectBoltEndpoints E (configRun E c (before ++ .select method x :: mid))
      method' x').refresh = none

/-- Every run from the initial configuration with a clock that never goes back
keeps the contract of the endpoint cache. -/
theorem refresh_contract (E : Externals) (env : String → Option String) (start : Time)
    (ops : List ConfigOp)
    (hclock : ClockNonDecreasing E (BoltConfig.initial E env start) ops) :
    RefreshContract E (BoltConfig.initial E env start) ops where
  fetches_iff_due := fun before method x _ _ => selectBoltEndpoints_refresh E _ method x
  map_eq_lastFill := fun before _ _ => run_boltEndpoints_eq_lastFill rfl before
  failed_fetch := by
    intro before method x after refresh e hops hrefresh hthrew
    rcases selectBoltEndpoints_fetch_threw hrefresh hthrew with ⟨-, -, houtcome⟩
    refine ⟨by rw [houtcome], by rw [houtcome], by rw [houtcome], ?_⟩
    intro mid method' x' after' hafter hmid
    rw [hops, hafter] at hclock
    exact failed_fetch_retried hclock hrefresh hthrew hmid
  map_recent := by
    intro before method x after uri hops hok
    rw [hops] at hclock
    exact selection_map_recent rfl hclock hok
  no_early_fetch := by
    intro before method x mid method' x' after f hops hfill hne hle
    rw [hops] at hclock
    exact no_fetch_within_minute rfl hclock hfill hne hle

/-- A quicksilver that is first out of reach, then answers, and is not asked
again ten seconds later. -/
theorem refresh_contract_outage :
    RefreshContract sampleExternals (BoltConfig.initial sampleExternals sampleEnv 0)
      [.select .httpGet (sampleInput 1000 unreachableResponse),
        .reset ⟨"us-east-1", "use1-az1"⟩,
        .select .httpGet (sampleInput 2000 (sampleResponse 0)),
        .select .httpPut (sampleInput 12000 (sampleResponse 0))] :=
  refresh_contract sampleExternals sampleEnv 0 _ (by unfold ClockNonDecreasing; decide)

/-! ## Answers without an endpoint -/

/-- What holds of every selection of a run, as a property of the configuration
it starts from. -/
def AtEachSelection (E : Externals) (c : BoltConfig)
    (P : BoltConfig → HttpMethod → SelectInput → Prop) (ops : List ConfigOp) : Prop :=
  AtEachStep (fun before op => ∀ method x, op = .select method x →
    P (configRun E c before) method x) ops

/-- A selection finds nothing only after a refresh of its own whose answer has
no endpoint for the method, and a cached map without such an endpoint makes it
refresh. -/
def RefreshesWhenNothingUsable (E : Externals) (c : BoltConfig) (method : HttpMethod)
    (x : SelectInput) : Prop :=
  ((selectBoltEndpoints E c method x).result = .ok Uri.empty →
      ∃ refresh endpoints, (selectBoltEndpoints E c method x).refresh = some refresh ∧
        refresh.result = .ok endpoints ∧ ¬HasEndpoint endpoints method) ∧
    (¬HasEndpoint c.boltEndpoints method →
      (selectBoltEndpoints E c method x).refresh ≠ none)

/-- If the selection is served from the cache, the cached map has an endpoint
for its method. -/
def CacheUsableUnlessDue (c : BoltConfig) (method : HttpMethod) (x : SelectInput) : Prop :=
  ¬c.RefreshDue x.checkClock → HasEndpoint c.boltEndpoints method

/-- One selection refreshes when nothing is usable exactly when it is not served
from a fresh map without an endpoint for its method. -/
theorem refreshesWhenNothingUsable_iff (E : Externals) (c : BoltConfig) (method : HttpMethod)
    (x : SelectInput) :
    RefreshesWhenNothingUsable E c method x ↔ CacheUsableUnlessDue c method x := by
  unfold RefreshesWhenNothingUsable CacheUsableUnlessDue
  rcases selectBoltEndpoints_cases E c method x with
    ⟨hdue, h⟩ | ⟨e, hdue, hget, h⟩ | ⟨endpoints, hdue, hget, h⟩
  · rw [h]
    simp only [hdue, selectFromOrder_empty_iff_not_hasEndpoint]
    simp
  · rw [h]
    exact iff_of_true (by simp) fun hnot => absurd hdue hnot
  · rw [h]
    refine iff_of_true ⟨fun hempty => ?_, by simp⟩ fun hnot => absurd hdue hnot
    exact ⟨_, endpoints, rfl, hget, selectFromOrder_empty_iff_not_hasEndpoint.mp hempty⟩

/-- In every run from the initial configuration, all selections refresh when
nothing is usable exactly when none of them is served from a fresh, non-empty
map without an endpoint for its method. -/
theorem emptyAnswer_refreshes_iff (E : Externals) (env : String → Option String)
    (start : Time) (ops : List ConfigOp) :
    AtEachSelection E (BoltConfig.initial E env start) (RefreshesWhenNothingUsable E) ops ↔
      AtEachSelection E (BoltConfig.initial E env start) CacheUsableUnlessDue ops := by
  refine atEachStep_congr ?_
  intro before op after _
  constructor
  · intro h method x hop
    exact (refreshesWhenNothingUsable_iff E _ method x).mp (h method x hop)
  · intro h method x hop
    exact (refreshesWhenNothingUsable_iff E _ method x).mpr (h method x hop)

/-- One answer that binds a key to the empty list makes the next selection find
nothing without asking, although quicksilver has an endpoint by then. -/
theorem emptyAnswer_not_refreshed :
    ¬AtEachSelection sampleExternals sampleConfig
      (RefreshesWhenNothingUsable sampleExternals)
      [.select .httpGet (sampleInput 1000 (sampleResponse 2)),
        .select .httpGet (sampleInput 2000 (sampleResponse 0))] := by
  intro h
  have hsecond := (h [.select .httpGet (sampleInput 1000 (sampleResponse 2))]
    (.select .httpGet (sampleInput 2000 (sampleResponse 0))) [] rfl _ _ rfl).2
  exact hsecond (by decide) (by decide)

end BoltClient
