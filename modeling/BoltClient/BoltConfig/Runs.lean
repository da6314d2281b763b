import Mathlib.Algebra.Order.Group.Int
import BoltClient.BoltConfig
import BoltClient.Library.LeaseCache

/-!
# Runs of the configuration

The operations a process performs on {lit}`BoltConfig` are assignments to its
public fields, {lit}`BoltConfig::Reset` (one per client construction) and
{lit}`BoltConfig::SelectBoltEndpoints`.  This file fixes their runs, records the
fills of the endpoint cache along a run, and shows that a run refines the lease
cache of {lit}`Library.LeaseCache`.

Main results:

- Theorem {lit}`leaseOf_select`: a selection is one use of a lease cache with a
  lease of 60 to 179 seconds.
- Theorem {lit}`run_refines_leaseCache`: the endpoint cache of a run is the
  lease cache after the uses made along it.
- Theorem {lit}`run_filledBy`: the cache agrees with its most recent fill.

Current gaps:

- Each operation is atomic; concurrent writes to the static members are not
  modelled.
-/

namespace BoltClient

open BoltClient.Library.Runs
open BoltClient.Library.LeaseCache

/-! ## Operations -/

/-- An assignment to a public static member of {lit}`BoltConfig`. -/
inductive Assignment where
  | region (value : String)
  | zoneId (value : String)
  | customDomain (value : String)
  | authBucket (value : String)
  | userAgentPrefix (value : String)
  | boltHostName (value : String)
  | disablePassThroughRead (value : Bool)

/-- The configuration after an assignment. -/
def BoltConfig.assign (c : BoltConfig) : Assignment → BoltConfig
  | .region value => { c with region := value }
  | .zoneId value => { c with zoneId := value }
  | .customDomain value => { c with customDomain := value }
  | .authBucket value => { c with authBucket := value }
  | .userAgentPrefix value => { c with userAgentPrefix := value }
  | .boltHostName value => { c with boltHostName := value }
  | .disablePassThroughRead value => { c with disablePassThroughRead := value }

/-- Operations on the configuration. -/
inductive ConfigOp where
  | assign (a : Assignment)
  | reset (answers : InstanceMetadata)
  | select (method : HttpMethod) (x : SelectInput)

/-- The configuration after one operation. -/
def configStep (E : Externals) (c : BoltConfig) : ConfigOp → BoltConfig
  | .assign a => c.assign a
  | .reset answers => c.reset answers
  | .select method x => (selectBoltEndpoints E c method x).config

@[simp] theorem configStep_assign (E : Externals) (c : BoltConfig) (a : Assignment) :
    configStep E c (.assign a) = c.assign a := rfl

@[simp] theorem configStep_reset (E : Externals) (c : BoltConfig) (a : InstanceMetadata) :
    configStep E c (.reset a) = c.reset a := rfl

@[simp] theorem configStep_select (E : Externals) (c : BoltConfig) (method : HttpMethod)
    (x : SelectInput) :
    configStep E c (.select method x) = (selectBoltEndpoints E c method x).config := rfl

@[simp] theorem assign_boltEndpoints (c : BoltConfig) (a : Assignment) :
    (c.assign a).boltEndpoints = c.boltEndpoints := by
  cases a <;> rfl

@[simp] theorem assign_refreshTime (c : BoltConfig) (a : Assignment) :
    (c.assign a).refreshTime = c.refreshTime := by
  cases a <;> rfl

@[simp] theorem assign_quicksilverUrl (c : BoltConfig) (a : Assignment) :
    (c.assign a).quicksilverUrl = c.quicksilverUrl := by
  cases a <;> rfl

/-- The configuration after a run. -/
abbrev configRun (E : Externals) (c : BoltConfig) (ops : List ConfigOp) : BoltConfig :=
  run (configStep E) c ops

/-! ## Fills and clock readings along a run -/

/-- A {lit}`GetBoltEndpoints` call that did not throw: the address it asked, the
map it returned and the clock reading taken right after it. -/
structure EndpointFill where
  request : Option String
  endpoints : BoltEndpoints
  completedAt : Time

/-- The fill a refresh amounts to, unless it threw. -/
def Refresh.fill (refresh : Refresh) (completedAt : Time) : Option EndpointFill :=
  match refresh.result with
  | .error _ => none
  | .ok endpoints => some ⟨refresh.request, endpoints, completedAt⟩

/-- The fill one operation makes, if any. -/
def fillsOf (E : Externals) (c : BoltConfig) : ConfigOp → List EndpointFill
  | .select method x =>
      ((selectBoltEndpoints E c method x).refresh.bind fun refresh =>
        refresh.fill x.refreshClock).toList
  | _ => []

/-- The most recent {lit}`GetBoltEndpoints` call of a run that did not throw. -/
def lastFill (E : Externals) (c : BoltConfig) (ops : List ConfigOp) : Option EndpointFill :=
  (collect (configStep E) (fillsOf E) c ops).getLast?

/-- The clock readings one operation takes, in order.  The second one is taken
only once {lit}`GetBoltEndpoints` has returned. -/
def clockReadings (E : Externals) (c : BoltConfig) : ConfigOp → List Time
  | .select method x =>
      x.checkClock :: ((fillsOf E c (.select method x)).map fun _ => x.refreshClock)
  | _ => []

/-- The clock never goes back along a run. -/
def ClockNonDecreasing (E : Externals) (c : BoltConfig) (ops : List ConfigOp) : Prop :=
  (collect (configStep E) (clockReadings E) c ops).Pairwise (· ≤ ·)

section Fills

variable {E : Externals} {c : BoltConfig} {method : HttpMethod} {x : SelectInput}

theorem fillsOf_of_not_due (hdue : ¬c.RefreshDue x.checkClock) :
    fillsOf E c (.select method x) = [] := by
  simp [fillsOf, selectBoltEndpoints_of_not_due method hdue]

theorem fillsOf_of_error (hdue : c.RefreshDue x.checkClock) {e : BoltError}
    (hget : (getBoltEndpoints E c x.http "").result = .error e) :
    fillsOf E c (.select method x) = [] := by
  simp [fillsOf, selectBoltEndpoints_of_error method hdue hget, Refresh.fill, hget]

theorem fillsOf_of_ok (hdue : c.RefreshDue x.checkClock) {endpoints : BoltEndpoints}
    (hget : (getBoltEndpoints E c x.http "").result = .ok endpoints) :
    fillsOf E c (.select method x) =
      [⟨(getBoltEndpoints E c x.http "").request, endpoints, x.refreshClock⟩] := by
  simp [fillsOf, selectBoltEndpoints_of_ok method hdue hget, Refresh.fill, hget]

/-- One more operation makes its own fill the most recent one, if it makes one. -/
theorem lastFill_concat (E : Externals) (c : BoltConfig) (ops : List ConfigOp)
    (op : ConfigOp) :
    lastFill E c (ops ++ [op]) =
      (fillsOf E (configRun E c ops) op).getLast?.or (lastFill E c ops) :=
  getLast?_collect_concat _ _ _ _ _

end Fills

/-! ## The endpoint cache is a lease cache -/

/-- A map without entries, the value of {lit}`boltEndpoints.empty()`. -/
def NoEntries (endpoints : BoltEndpoints) : Prop := endpoints.entries = []

instance : DecidablePred NoEntries := fun endpoints =>
  inferInstanceAs (Decidable (endpoints.entries = []))

/-- The cached map and its refresh time as a lease. -/
def leaseOf (c : BoltConfig) : Lease Time BoltEndpoints :=
  ⟨c.boltEndpoints, c.refreshTime⟩

/-- The EndpointFill of the configuration as a fill of its lease. -/
def EndpointFill.toFill (f : EndpointFill) : Fill Time BoltEndpoints :=
  ⟨f.endpoints, f.completedAt⟩

/-- What a selection meets, seen as one use of the lease cache. -/
def useOf (E : Externals) (c : BoltConfig) (x : SelectInput) :
    Use Time BoltEndpoints BoltError where
  checkedAt := x.checkClock
  answer := (getBoltEndpoints E c x.http "").result
  completedAt := x.refreshClock
  ttl := E.seconds (60 + x.refreshRand % 120)

/-- The uses one operation makes of the lease cache. -/
def usesOf (E : Externals) (c : BoltConfig) : ConfigOp → List (Use Time BoltEndpoints BoltError)
  | .select _ x => [useOf E c x]
  | _ => []

/-- The refresh guard is the test whether the lease is due. -/
theorem refreshDue_iff_due (E : Externals) (c : BoltConfig) (x : SelectInput) :
    c.RefreshDue x.checkClock ↔ (leaseOf c).Due NoEntries (useOf E c x) :=
  Iff.rfl

/-- Every lease is at least 60 seconds long. -/
theorem useOf_ttl_ge (E : Externals) (c : BoltConfig) (x : SelectInput) :
    E.seconds 60 ≤ (useOf E c x).ttl :=
  E.seconds_mono (Nat.le_add_right _ _)

/-- Every lease is at most 179 seconds long. -/
theorem useOf_ttl_le (E : Externals) (c : BoltConfig) (x : SelectInput) :
    (useOf E c x).ttl ≤ E.seconds 179 := by
  have hlt : x.refreshRand % 120 < 120 := Nat.mod_lt _ (by decide)
  exact E.seconds_mono (by omega)

/-- One selection uses the lease cache once. -/
theorem leaseOf_select (E : Externals) (c : BoltConfig) (method : HttpMethod)
    (x : SelectInput) :
    leaseOf (selectBoltEndpoints E c method x).config =
      (leaseOf c).use NoEntries (useOf E c x) := by
  rcases selectBoltEndpoints_cases E c method x with
    ⟨hdue, h⟩ | ⟨e, -, hget, h⟩ | ⟨endpoints, hdue, hget, h⟩
  · have hdue' : ¬(leaseOf c).Due NoEntries (useOf E c x) := hdue
    rw [h, Lease.use_of_not_due hdue']
  · rw [h, Lease.use_of_error hget]
  · have hdue' := (refreshDue_iff_due E c x).mp hdue
    rw [h, Lease.use_of_ok hdue' hget]
    rfl

/-- The fill of a selection is the fill of the lease cache. -/
theorem fillsOf_select (E : Externals) (c : BoltConfig) (method : HttpMethod)
    (x : SelectInput) :
    (fillsOf E c (.select method x)).getLast?.map EndpointFill.toFill =
      (leaseOf c).fill? NoEntries (useOf E c x) := by
  rcases selectBoltEndpoints_cases E c method x with
    ⟨hdue, -⟩ | ⟨e, hdue, hget, -⟩ | ⟨endpoints, hdue, hget, -⟩
  · have hdue' : ¬(leaseOf c).Due NoEntries (useOf E c x) := hdue
    rw [fillsOf_of_not_due hdue, Lease.fill?_of_not_due hdue']
    rfl
  · rw [fillsOf_of_error hdue hget, Lease.fill?_of_error hget]
    rfl
  · have hdue' := (refreshDue_iff_due E c x).mp hdue
    rw [fillsOf_of_ok hdue hget, Lease.fill?_of_ok hdue' hget]
    rfl

/-- The endpoint cache after a run is the lease cache after the uses made along
the run. -/
theorem run_refines_leaseCache (E : Externals) (c : BoltConfig) (ops : List ConfigOp) :
    leaseOf (configRun E c ops) =
      run (Lease.use NoEntries) (leaseOf c) (collect (configStep E) (usesOf E) c ops) := by
  refine run_simulation leaseOf ?_ c ops
  intro c op
  cases op with
  | assign a => simp [usesOf, leaseOf]
  | reset answers => simp [usesOf, leaseOf]
  | select method x => exact leaseOf_select E c method x

/-- After a run from a configuration without endpoints the cache holds the map
of the most recent fill, leased for 60 to 179 seconds from its completion. -/
theorem run_filledBy (E : Externals) {c : BoltConfig} (hempty : NoEntries c.boltEndpoints)
    (ops : List ConfigOp) :
    FilledBy NoEntries (E.seconds 60) (E.seconds 179)
      ((lastFill E c ops).map EndpointFill.toFill) (leaseOf (configRun E c ops)) := by
  refine run_history_invariant
    (fun fills s => FilledBy NoEntries (E.seconds 60) (E.seconds 179)
      (fills.getLast?.map EndpointFill.toFill) (leaseOf s))
    (FilledBy.of_blank hempty) ?_
  intro before op after _ hbefore
  rw [List.getLast?_append]
  cases op with
  | assign a => simpa [fillsOf, leaseOf] using hbefore
  | reset answers => simpa [fillsOf, leaseOf] using hbefore
  | select method x =>
      rw [configStep_select, leaseOf_select]
      have huse := hbefore.use (useOf_ttl_ge E (configRun E c before) x)
        (useOf_ttl_le E (configRun E c before) x)
      rw [← fillsOf_select E _ method] at huse
      cases hfill : (fillsOf E (configRun E c before) (.select method x)).getLast? with
      | none => simpa [hfill] using huse
      | some f => simpa [hfill] using huse

end BoltClient
