import BoltClient.Process.Delivery
import BoltClient.Process.Provenance

/-!
# Endpoints are available while quicksilver answers

The cached map starts out empty and is replaced by whatever a refresh returns.  As
long as every answer of quicksilver serves the methods that are used, no selection
of a process comes back without an endpoint, however selections, signings and
reconfigurations are interleaved.

Main results:

- Theorem {lit}`processStep_serves`: a step keeps a map that serves the methods.
- Theorem {lit}`selections_available`: in every run whose refreshes are answered by
  maps that serve the methods, every selection returns a listed endpoint.

Current gaps:

- Answers are whole maps; an endpoint that does not respond stays in use.
-/

namespace BoltClient

open BoltClient.Library.Runs
open BoltClient.Library.RankedLists

variable {E : Externals} {methods : Set HttpMethod}

/-- The map has an endpoint for each of the methods. -/
def Serves (methods : Set HttpMethod) (endpoints : BoltEndpoints) : Prop :=
  ∀ method ∈ methods, HasEndpoint endpoints method

/-- If the selection is due for a refresh, it is answered by a map that serves the
methods. -/
def AnsweredUsably (E : Externals) (methods : Set HttpMethod) (c : BoltConfig)
    (x : SelectInput) : Prop :=
  c.RefreshDue x.checkClock →
    ∃ endpoints, (getBoltEndpoints E c x.http "").result = .ok endpoints ∧ Serves methods endpoints

/-- The map is still empty, or serves the methods. -/
def EmptyOrServes (methods : Set HttpMethod) (endpoints : BoltEndpoints) : Prop :=
  endpoints.entries = [] ∨ Serves methods endpoints

/-- Past the refresh check of a usably answered selection the map serves the
methods. -/
theorem afterRefreshCheck_serves {c : BoltConfig} {x : SelectInput}
    (hmap : EmptyOrServes methods c.boltEndpoints) (hanswer : AnsweredUsably E methods c x) :
    Serves methods (c.afterRefreshCheck E x).boltEndpoints := by
  unfold BoltConfig.afterRefreshCheck
  by_cases hdue : c.RefreshDue x.checkClock
  · rcases hanswer hdue with ⟨endpoints, hget, hserves⟩
    simpa [hdue, refreshBoltEndpoints, hget] using hserves
  · rw [if_neg hdue]
    -- An empty map would have been due.
    exact hmap.resolve_left fun hempty => hdue (Or.inr hempty)

/-- A usably answered selection returns an endpoint that is listed for its method. -/
theorem selection_listed {c : BoltConfig} {method : HttpMethod} {x : SelectInput}
    (hmap : EmptyOrServes methods c.boltEndpoints) (hanswer : AnsweredUsably E methods c x)
    (hmethod : method ∈ methods) :
    ∃ e, (selectBoltEndpoints E c method x).result = .ok e ∧
      ListedFor E (c.afterRefreshCheck E x).boltEndpoints method e.authority := by
  have hnot : ¬FetchThrows E c x := by
    rintro ⟨hdue, e, hthrew⟩
    rcases hanswer hdue with ⟨endpoints, hget, -⟩
    rw [hget] at hthrew
    cases hthrew
  rcases selectBoltEndpoints_returns method hnot with ⟨e, hselect⟩
  have hserves := afterRefreshCheck_serves hmap hanswer
  exact ⟨e, hselect, (selected_listed_iff hselect).mpr (hserves method hmethod)⟩

/-- Every step whose selection, if it has one, is usably answered keeps a map that
is empty or serves the methods. -/
theorem processStep_serves {p : Process} {op : ProcessOp}
    (hmap : EmptyOrServes methods p.statics.config.boltEndpoints)
    (hanswer : ∀ method x, selectionOf op = some (method, x) →
      AnsweredUsably E methods p.statics.config x) :
    EmptyOrServes methods (processStep E p op).statics.config.boltEndpoints := by
  have hselection : ∀ method x, selectionOf op = some (method, x) →
      EmptyOrServes methods
        (selectBoltEndpoints E p.statics.config method x).config.boltEndpoints := by
    intro method x hop
    rw [selectBoltEndpoints_config_eq]
    exact Or.inr (afterRefreshCheck_serves hmap (hanswer method x hop))
  cases op with
  | send id => exact hmap
  | sign id call x =>
      show EmptyOrServes methods (call.perform E p.statics x).statics.config.boltEndpoints
      rw [perform_config]
      exact hselection _ _ rfl
  | config op =>
      cases op with
      | assign a =>
          show EmptyOrServes methods (p.statics.config.assign a).boltEndpoints
          rw [assign_boltEndpoints]
          exact hmap
      | reset answers => exact hmap
      | select method x => exact hselection _ _ rfl

/-- In every run of a process in which only the given methods are used, and every
refresh is answered by a map with an endpoint for each of them, every selection,
also that of every signing, returns an endpoint that the current map lists for its
method. -/
theorem selections_available (env : String → Option String) (start : Time)
    {ops : List ProcessOp}
    (hmethods : ∀ op ∈ ops, ∀ method x, selectionOf op = some (method, x) → method ∈ methods)
    (hanswers : ∀ before op after, ops = before ++ op :: after →
      ∀ method x, selectionOf op = some (method, x) →
        AnsweredUsably E methods
          (processRun E (Process.initial E env start) before).statics.config x) :
    AtEachStep (fun before op => ∀ method x, selectionOf op = some (method, x) →
      let c := (processRun E (Process.initial E env start) before).statics.config
      ∃ e, (selectBoltEndpoints E c method x).result = .ok e ∧
        ListedFor E (c.afterRefreshCheck E x).boltEndpoints method e.authority) ops := by
  -- Along every beginning of the run the map is empty or serves the methods.
  have hmap : ∀ before after, ops = before ++ after →
      EmptyOrServes methods
        (processRun E (Process.initial E env start) before).statics.config.boltEndpoints := by
    intro before after hops
    refine prefix_induction
      (P := fun before => EmptyOrServes methods
        (processRun E (Process.initial E env start) before).statics.config.boltEndpoints)
      (Or.inl rfl) ?_
    intro before' op rest hbefore hmap'
    unfold processRun
    rw [run_concat]
    exact processStep_serves hmap' (hanswers before' op (rest ++ after) (by simp [hops, hbefore]))
  intro before op after hsplit method x hop
  have hmethod : method ∈ methods := hmethods op (by simp [hsplit]) method x hop
  exact selection_listed (hmap before (op :: after) hsplit)
    (hanswers before op after hsplit method x hop) hmethod

/-- A run with one fetch, answered by a map with an endpoint for every method, then a
reset, an assignment, and a selection that is served from the cache while quicksilver
is out of reach. -/
def sampleCachedRun : List ProcessOp :=
  [.config (.select .httpGet (sampleInput 1000 (sampleResponse 0))),
    .config (.reset ⟨"us-east-1", "use1-az1"⟩),
    .config (.assign (.region "eu-west-1")),
    .config (.select .httpPut (sampleInput 2000 unreachableResponse))]

/-- Every selection of that run returns a listed endpoint. -/
theorem sample_selections_available :
    AtEachStep (fun before op => ∀ method x, selectionOf op = some (method, x) →
      let c := (processRun sampleExternals (Process.initial sampleExternals sampleEnv 0)
        before).statics.config
      ∃ e, (selectBoltEndpoints sampleExternals c method x).result = .ok e ∧
        ListedFor sampleExternals (c.afterRefreshCheck sampleExternals x).boltEndpoints method
          e.authority)
      sampleCachedRun := by
  have hserves : Serves Set.univ [⟨"main_read_endpoints", ["10.0.0.1"]⟩,
      ⟨"main_write_endpoints", ["10.0.0.2"]⟩].toAList := by
    intro method _
    cases method <;> decide
  refine @selections_available sampleExternals Set.univ sampleEnv 0 _
    (fun _ _ _ _ _ => trivial) ?_
  intro before op after hsplit method x hop
  unfold sampleCachedRun at hsplit
  rcases before with _ | ⟨_, _ | ⟨_, _ | ⟨_, _ | ⟨_, before⟩⟩⟩⟩
  · cases hsplit
    cases hop
    exact fun _ => ⟨_, rfl, hserves⟩
  · cases hsplit
    cases hop
  · cases hsplit
    cases hop
  · cases hsplit
    cases hop
    -- The map fetched a second before is still fresh.
    exact fun hdue => absurd hdue (by decide)
  · simp at hsplit

end BoltClient
