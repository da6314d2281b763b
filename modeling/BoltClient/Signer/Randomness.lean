import Mathlib.Algebra.Order.BigOperators.Ring.Finset
import BoltClient.Library.Draws
import BoltClient.Signer.Surrogate

/-!
# What rand() decides

Two things are left to {lit}`rand()`: which endpoint of a list a selection returns,
and the prefix of the surrogate request.  Both take a remainder of the number they
draw.  This file counts how many numbers lead to each choice.

Main results:

- Theorem {lit}`selection_counts`: how many draws make a selection return a given
  endpoint.
- Theorem {lit}`prefix_counts`: how many draws make each of the prefixes, none of
  which is left out or preferred by more than one round.

Current gaps:

- Numbers are counted up to a bound; the generator behind {lit}`rand()` is not
  modelled.
-/

namespace BoltClient

open BoltClient.Library.Draws
open BoltClient.Library.RankedLists

/-! ## Endpoints -/

variable {E : Externals}

/-- A pick returns an endpoint exactly when the number picks it in the list. -/
theorem pickFrom_eq_ok_iff {key : String} {value : List String} (hne : value ≠ [])
    (n : Nat) (uri : Uri) :
    pickFrom E n (some (key, value)) = .ok uri ↔ Picks (value.map (endpointUri E)) uri n := by
  have hlt : n % (value.map (endpointUri E)).length < (value.map (endpointUri E)).length := by
    rw [List.length_map]
    exact pick_lt hne n
  rw [pickFrom_some hne, Except.ok.injEq]
  unfold Picks
  rw [List.getElem?_eq_getElem hlt, Option.some.injEq]
  simp

/-- Whatever number is drawn for the pick, the selection has the same refresh check
behind it. -/
theorem selection_eq_pickFrom {c : BoltConfig} {x : SelectInput} (method : HttpMethod)
    (hnot : ¬FetchThrows E c x) (n : Nat) :
    (selectBoltEndpoints E c method (x.withPick n)).result =
      pickFrom E n
        (firstUsable (c.afterRefreshCheck E x).boltEndpoints.find (preferredOrder method)) := by
  rw [selectBoltEndpoints_withPick method hnot, selectFromOrder_eq_pickFrom]

/-- Of the numbers below a bound that may be drawn for the pick, every URI of the first
list of the order that has one gets as many as the others, for each place it stands
at; a last, started round goes to the front of the list. -/
theorem selection_counts {c : BoltConfig} {x : SelectInput} {method : HttpMethod}
    (hnot : ¬FetchThrows E c x)
    (hhas : HasEndpoint (c.afterRefreshCheck E x).boltEndpoints method) :
    ∃ above key below value, preferredOrder method = above ++ key :: below ∧
      (c.afterRefreshCheck E x).boltEndpoints.find key = some value ∧ value ≠ [] ∧
      (∀ k ∈ above, Useless (c.afterRefreshCheck E x).boltEndpoints.find k) ∧
      ∀ uri bound,
        Nat.count (fun n => (selectBoltEndpoints E c method (x.withPick n)).result = .ok uri)
            bound =
          bound / value.length * (value.map (endpointUri E)).count uri +
            ((value.take (bound % value.length)).map (endpointUri E)).count uri := by
  cases hfirst : firstUsable (c.afterRefreshCheck E x).boltEndpoints.find
      (preferredOrder method) with
  | none =>
      have huseless := firstUsable_eq_none_iff.mp hfirst
      rcases hhas with ⟨key, hkey, husable⟩
      exact absurd (huseless key hkey) husable
  | some choice =>
      rcases choice with ⟨key, value⟩
      rcases firstUsable_eq_some_iff.mp hfirst with
        ⟨above, below, horder, hfind, hne, habove⟩
      refine ⟨above, key, below, value, horder, hfind, hne, habove, ?_⟩
      intro uri bound
      have hpick : ∀ n, (selectBoltEndpoints E c method (x.withPick n)).result = .ok uri ↔
          Picks (value.map (endpointUri E)) uri n := by
        intro n
        rw [selection_eq_pickFrom method hnot n, hfirst]
        exact pickFrom_eq_ok_iff hne n uri
      have hcount := count_pick (value.map (endpointUri E)) uri (by simpa using hne) bound
      simp only [hpick]
      rw [hcount, List.length_map, List.map_take]

/-- A configuration whose cached map has no main read endpoint and four main write
endpoints, of which two are the same. -/
def sampleListConfig : BoltConfig :=
  { sampleConfig with
    boltEndpoints := [⟨"main_read_endpoints", []⟩,
      ⟨"main_write_endpoints", ["10.0.0.1", "10.0.0.2", "10.0.0.1", "10.0.0.3"]⟩,
      ⟨"failover_read_endpoints", ["10.1.0.1"]⟩].toAList }

/-- Reads are spread over the main write endpoints of that configuration. -/
theorem sample_selection_counts :
    let x := sampleInput 1000 unreachableResponse
    ∃ above key below value, preferredOrder .httpGet = above ++ key :: below ∧
      (sampleListConfig.afterRefreshCheck sampleExternals x).boltEndpoints.find key =
        some value ∧ value ≠ [] ∧
      (∀ k ∈ above, Useless
        (sampleListConfig.afterRefreshCheck sampleExternals x).boltEndpoints.find k) ∧
      ∀ uri bound,
        Nat.count (fun n => (selectBoltEndpoints sampleExternals sampleListConfig .httpGet
            (x.withPick n)).result = .ok uri) bound =
          bound / value.length * (value.map (endpointUri sampleExternals)).count uri +
            ((value.take (bound % value.length)).map (endpointUri sampleExternals)).count uri := by
  intro x
  have hnot : ¬FetchThrows sampleExternals sampleListConfig x := by
    rintro ⟨hdue, -⟩
    exact absurd hdue (by decide)
  exact selection_counts hnot (by decide)

/-! ## Prefixes -/

/-- Four numbers as {lit}`getRandomString` draws them. -/
def drawn (draws : Fin 4 → Nat) (i : Nat) : Nat :=
  if h : i < 4 then draws ⟨i, h⟩ else 0

/-- The draws make the prefix of the letters they pick. -/
theorem getRandomString_drawn_iff (draws : Fin 4 → Nat) (word : Fin 4 → Char) :
    getRandomString (drawn draws) = String.ofList (List.ofFn word) ↔
      ∀ i, Picks alpha (word i) (draws i) := by
  have hpick : ∀ i : Fin 4, Picks alpha (word i) (draws i) ↔
      alpha.get ⟨draws i % alpha.length, Nat.mod_lt _ (by decide)⟩ = word i := by
    intro i
    have hlt : draws i % alpha.length < alpha.length := Nat.mod_lt _ (by decide)
    unfold Picks
    rw [List.getElem?_eq_getElem hlt, Option.some.injEq]
    rfl
  simp only [hpick, Fin.forall_fin_succ]
  unfold getRandomString
  rw [String.ofList_inj]
  simp [List.range_succ, drawn, List.ofFn_succ]

/-- Of the ways to draw four numbers below a bound, each prefix of four letters gets
at least the fourth power of the full rounds through the alphabet, and at most that of
one round more. -/
theorem prefix_counts (word : Fin 4 → Char) (hword : ∀ i, word i ∈ alpha) (bound : Nat) :
    let ways := ((Fintype.piFinset fun _ : Fin 4 => Finset.range bound).filter fun draws =>
      getRandomString (drawn draws) = String.ofList (List.ofFn word)).card
    (bound / 26) ^ 4 ≤ ways ∧ ways ≤ (bound / 26 + 1) ^ 4 := by
  intro ways
  have hways : ways = ∏ i, Nat.count (Picks alpha (word i)) bound := by
    rw [← card_picks]
    simp only [ways, getRandomString_drawn_iff]
  have hletter : ∀ i, bound / 26 ≤ Nat.count (Picks alpha (word i)) bound ∧
      Nat.count (Picks alpha (word i)) bound ≤ bound / 26 + 1 := by
    intro i
    have hnodup : alpha.Nodup := by decide
    have hlength : alpha.length = 26 := by decide
    have hbounds := count_pick_bounds alpha (word i) (by decide) bound
    rwa [List.count_eq_one_of_mem hnodup (hword i), hlength, Nat.mul_one, Nat.mul_one] at hbounds
  rw [hways]
  constructor
  · calc (bound / 26) ^ 4 = ∏ _i : Fin 4, bound / 26 := by simp
      _ ≤ ∏ i, Nat.count (Picks alpha (word i)) bound :=
          Finset.prod_le_prod (fun _ _ => Nat.zero_le _) fun i _ => (hletter i).1
  · calc ∏ i, Nat.count (Picks alpha (word i)) bound
        ≤ ∏ _i : Fin 4, (bound / 26 + 1) :=
          Finset.prod_le_prod (fun _ _ => Nat.zero_le _) fun i _ => (hletter i).2
      _ = (bound / 26 + 1) ^ 4 := by simp

/-- The prefix of four times the first letter, with a generator of 31 bits. -/
theorem sample_prefix_counts :
    let ways := ((Fintype.piFinset fun _ : Fin 4 => Finset.range 2147483648).filter fun draws =>
      getRandomString (drawn draws) = String.ofList (List.ofFn fun _ : Fin 4 => 'a')).card
    (2147483648 / 26) ^ 4 ≤ ways ∧ ways ≤ (2147483648 / 26 + 1) ^ 4 :=
  prefix_counts (fun _ => 'a') (by decide) 2147483648

end BoltClient
