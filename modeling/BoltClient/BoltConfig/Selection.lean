import BoltClient.BoltConfig
import BoltClient.Library.RankedLists

/-!
# Which endpoint a selection returns

The selection loop of {lit}`SelectBoltEndpoints` is the ranked choice of
{lit}`Library.RankedLists` over the endpoint map, followed by a random pick
inside the chosen list.  This file proves that refinement and reads off what a
caller can rely on.

Main results:

- Theorem {lit}`selectFromOrder_eq_pickFrom`: the loop refines the ranked
  choice; by {lit}`pickFrom_some` its random index is always in range.
- Theorem {lit}`selectBoltEndpoints_ranked`: when a call throws, the order of
  preference, the returned URI, its independence of everything ranked lower, and
  the reachability of every element of the chosen list.
- Theorem {lit}`selectFromOrder_eq_empty_iff`: the empty URI is returned exactly
  when no list of the order has an element.
- Theorem {lit}`selectBoltEndpoints_selected`: what a selection that returns has
  selected.

Current gaps:

- Keys and endpoints are any strings; whether an endpoint is an address is not
  asked.
-/

namespace BoltClient

open BoltClient.Library.RankedLists

/-! ## The loop refines the ranked choice -/

instance (find : String → Option (List String)) (key : String) :
    Decidable (Useless find key) :=
  inferInstanceAs (Decidable (_ ∨ _))

/-- Some list of the method's order has an element. -/
def HasEndpoint (endpoints : BoltEndpoints) (method : HttpMethod) : Prop :=
  ∃ key ∈ preferredOrder method, ¬Useless endpoints.find key

instance (endpoints : BoltEndpoints) (method : HttpMethod) :
    Decidable (HasEndpoint endpoints method) :=
  inferInstanceAs (Decidable (∃ key ∈ preferredOrder method, _))

/-- The URI built from one listed endpoint. -/
def endpointUri (E : Externals) (endpoint : String) : Uri :=
  (E.parseUri endpoint).setScheme .https

@[simp] theorem endpointUri_scheme (E : Externals) (endpoint : String) :
    (endpointUri E endpoint).scheme = .https := by
  simp [endpointUri]

@[simp] theorem endpointUri_authority (E : Externals) (endpoint : String) :
    (endpointUri E endpoint).authority = (E.parseUri endpoint).authority := by
  simp [endpointUri]

/-- A listed endpoint is never the empty URI, whose scheme is HTTP. -/
theorem endpointUri_ne_empty (E : Externals) (endpoint : String) :
    endpointUri E endpoint ≠ Uri.empty := by
  intro h
  have hscheme := congrArg Uri.scheme h
  rw [endpointUri_scheme] at hscheme
  cases hscheme

variable {E : Externals} {endpoints : BoltEndpoints} {rand : Nat} {order : List String}
  {above below value : List String} {key : String}

/-- The URI made of a choice: a random element of the chosen list, or the empty
URI without a choice. -/
def pickFrom (E : Externals) (rand : Nat) :
    Option (String × List String) → Except BoltError Uri
  | none => .ok Uri.empty
  | some (_, value) =>
      match value[rand % value.length]? with
      | none => .error .outOfRange
      | some endpoint => .ok (endpointUri E endpoint)

/-- The loop refines the ranked choice of the order. -/
theorem selectFromOrder_eq_pickFrom :
    selectFromOrder E endpoints rand order =
      pickFrom E rand (firstUsable endpoints.find order) := by
  induction order with
  | nil => rfl
  | cons key keys ih =>
      cases hfind : endpoints.find key with
      | none =>
          rw [firstUsable_cons_of_useless (Or.inl hfind), ← ih]
          simp [selectFromOrder, hfind]
      | some value =>
          cases value with
          | nil =>
              rw [firstUsable_cons_of_useless (Or.inr hfind), ← ih]
              simp [selectFromOrder, hfind]
          | cons v vs =>
              rw [firstUsable_cons_of_usable hfind (List.cons_ne_nil v vs)]
              simp only [selectFromOrder, hfind, List.length_cons, Nat.zero_lt_succ, if_true]
              rfl

/-- The index {lit}`rand() % value.size()` is in range. -/
theorem pick_lt (hne : value ≠ []) (rand : Nat) : rand % value.length < value.length :=
  Nat.mod_lt _ (List.length_pos_iff.mpr hne)

/-- A pick from a non-empty list never runs into the range check. -/
theorem pickFrom_some (hne : value ≠ []) :
    pickFrom E rand (some (key, value)) =
      .ok (endpointUri E (value.get ⟨rand % value.length, pick_lt hne rand⟩)) := by
  have hget : value[rand % value.length]? =
      some (value.get ⟨rand % value.length, pick_lt hne rand⟩) :=
    List.getElem?_eq_getElem (pick_lt hne rand)
  simp only [pickFrom, hget]

/-- The loop returns a pick from the first non-empty list of the order. -/
theorem selectFromOrder_of_first (horder : order = above ++ key :: below)
    (hfind : endpoints.find key = some value) (hne : value ≠ [])
    (habove : ∀ k ∈ above, Useless endpoints.find k) :
    selectFromOrder E endpoints rand order =
      .ok (endpointUri E (value.get ⟨rand % value.length, pick_lt hne rand⟩)) := by
  rw [selectFromOrder_eq_pickFrom,
    firstUsable_eq_some_iff.mpr ⟨above, below, horder, hfind, hne, habove⟩,
    pickFrom_some hne]

/-- Whatever the loop returns is the empty URI, and then every key of the order
is useless, or a listed endpoint whose better-ranked keys are all useless. -/
theorem selectFromOrder_cases (E : Externals) (endpoints : BoltEndpoints) (rand : Nat)
    (order : List String) :
    ((∀ k ∈ order, Useless endpoints.find k) ∧
        selectFromOrder E endpoints rand order = .ok Uri.empty) ∨
      ∃ above key below value endpoint, order = above ++ key :: below ∧
        endpoints.find key = some value ∧ endpoint ∈ value ∧
        (∀ k ∈ above, Useless endpoints.find k) ∧
        selectFromOrder E endpoints rand order = .ok (endpointUri E endpoint) := by
  rw [selectFromOrder_eq_pickFrom]
  cases hchoice : firstUsable endpoints.find order with
  | none => exact Or.inl ⟨firstUsable_eq_none_iff.mp hchoice, rfl⟩
  | some choice =>
      rcases choice with ⟨key, value⟩
      rcases firstUsable_eq_some_iff.mp hchoice with ⟨above, below, horder, hfind, hne, habove⟩
      exact Or.inr ⟨above, key, below, value, _, horder, hfind, List.get_mem _ _, habove,
        pickFrom_some hne⟩

/-- The loop returns: the range check of {lit}`value.at` never throws. -/
theorem selectFromOrder_returns (E : Externals) (endpoints : BoltEndpoints) (rand : Nat)
    (order : List String) : ∃ uri, selectFromOrder E endpoints rand order = .ok uri := by
  rcases selectFromOrder_cases E endpoints rand order with
    ⟨-, h⟩ | ⟨_, _, _, _, _, _, _, _, _, h⟩
  · exact ⟨_, h⟩
  · exact ⟨_, h⟩

/-- The empty URI comes back exactly when no list of the order has an element. -/
theorem selectFromOrder_eq_empty_iff :
    selectFromOrder E endpoints rand order = .ok Uri.empty ↔
      ∀ k ∈ order, Useless endpoints.find k := by
  constructor
  · intro h
    rcases selectFromOrder_cases E endpoints rand order with
      ⟨huseless, -⟩ | ⟨_, _, _, _, endpoint, _, _, _, _, hpick⟩
    · exact huseless
    · have hempty : endpointUri E endpoint = Uri.empty := Except.ok.inj (hpick.symm.trans h)
      exact absurd hempty (endpointUri_ne_empty E endpoint)
  · intro h
    rw [selectFromOrder_eq_pickFrom, firstUsable_eq_none_iff.mpr h]
    rfl

/-- The loop finds nothing exactly when the map has no endpoint for the method. -/
theorem selectFromOrder_empty_iff_not_hasEndpoint {method : HttpMethod} :
    selectFromOrder E endpoints rand (preferredOrder method) = .ok Uri.empty ↔
      ¬HasEndpoint endpoints method := by
  rw [selectFromOrder_eq_empty_iff]
  simp [HasEndpoint]

/-! ## The refresh check -/

/-- The selection is due for a refresh and the refresh throws. -/
def FetchThrows (E : Externals) (c : BoltConfig) (x : SelectInput) : Prop :=
  c.RefreshDue x.checkClock ∧ ∃ e, (getBoltEndpoints E c x.http "").result = .error e

/-- The configuration once the refresh check is through. -/
def BoltConfig.afterRefreshCheck (E : Externals) (c : BoltConfig) (x : SelectInput) :
    BoltConfig :=
  if c.RefreshDue x.checkClock then (refreshBoltEndpoints E c x "").1 else c

/-- A selection leaves the configuration of its refresh check. -/
theorem selectBoltEndpoints_config_eq (E : Externals) (c : BoltConfig) (method : HttpMethod)
    (x : SelectInput) :
    (selectBoltEndpoints E c method x).config = c.afterRefreshCheck E x := by
  unfold BoltConfig.afterRefreshCheck
  rcases selectBoltEndpoints_cases E c method x with
    ⟨hdue, h⟩ | ⟨e, hdue, hget, h⟩ | ⟨endpoints, hdue, hget, h⟩
  · rw [h, if_neg hdue]
  · rw [h, if_pos hdue]
    simp [refreshBoltEndpoints, hget]
  · rw [h, if_pos hdue]
    simp [refreshBoltEndpoints, hget]

/-- The refresh check writes the endpoint map and the refresh time only. -/
theorem afterRefreshCheck_eq (E : Externals) (c : BoltConfig) (x : SelectInput) :
    ∃ endpoints refreshTime, c.afterRefreshCheck E x =
      { c with boltEndpoints := endpoints, refreshTime := refreshTime } := by
  rw [← selectBoltEndpoints_config_eq E c .httpGet x]
  exact selectBoltEndpoints_config E c .httpGet x

@[simp] theorem afterRefreshCheck_region (E : Externals) (c : BoltConfig) (x : SelectInput) :
    (c.afterRefreshCheck E x).region = c.region := by
  rcases afterRefreshCheck_eq E c x with ⟨_, _, h⟩
  rw [h]

@[simp] theorem afterRefreshCheck_boltHostName (E : Externals) (c : BoltConfig)
    (x : SelectInput) : (c.afterRefreshCheck E x).boltHostName = c.boltHostName := by
  rcases afterRefreshCheck_eq E c x with ⟨_, _, h⟩
  rw [h]

/-- A selection whose fetch throws throws the same exception and leaves the
configuration as it was. -/
theorem selectBoltEndpoints_of_fetchThrows {c : BoltConfig} {x : SelectInput}
    (method : HttpMethod) (h : FetchThrows E c x) :
    (selectBoltEndpoints E c method x).config = c ∧
      ∃ e, (selectBoltEndpoints E c method x).result = .error e := by
  rcases h with ⟨hdue, e, hget⟩
  rw [selectBoltEndpoints_of_error method hdue hget]
  exact ⟨rfl, e, rfl⟩

/-- Every other selection returns what the loop makes of the map held after the
refresh check. -/
theorem selectBoltEndpoints_of_not_fetchThrows {c : BoltConfig} {x : SelectInput}
    (method : HttpMethod) (h : ¬FetchThrows E c x) :
    (selectBoltEndpoints E c method x).result =
      selectFromOrder E (c.afterRefreshCheck E x).boltEndpoints x.pickRand
        (preferredOrder method) := by
  rw [← selectBoltEndpoints_config_eq E c method x]
  rcases selectBoltEndpoints_cases E c method x with
    ⟨-, hcall⟩ | ⟨e, hdue, hget, -⟩ | ⟨endpoints, -, -, hcall⟩
  · rw [hcall]
  · exact absurd ⟨hdue, e, hget⟩ h
  · rw [hcall]

/-- A selection that returns has not thrown. -/
theorem not_fetchThrows_of_selected {c : BoltConfig} {method : HttpMethod} {x : SelectInput}
    {uri : Uri} (hselect : (selectBoltEndpoints E c method x).result = .ok uri) :
    ¬FetchThrows E c x := by
  intro hthrows
  rcases selectBoltEndpoints_of_fetchThrows method hthrows with ⟨-, e, herror⟩
  rw [hselect] at herror
  cases herror

/-- A selection that returns gives the empty URI, and then the map held after the
refresh check has no endpoint for the method, or an endpoint of a list of that map
whose better-ranked keys are all useless. -/
theorem selectBoltEndpoints_ok_cases {c : BoltConfig} {method : HttpMethod} {x : SelectInput}
    {uri : Uri} (hselect : (selectBoltEndpoints E c method x).result = .ok uri) :
    (uri = Uri.empty ∧ ¬HasEndpoint (c.afterRefreshCheck E x).boltEndpoints method) ∨
      ∃ above key below value endpoint, preferredOrder method = above ++ key :: below ∧
        (c.afterRefreshCheck E x).boltEndpoints.find key = some value ∧ endpoint ∈ value ∧
        (∀ k ∈ above, Useless (c.afterRefreshCheck E x).boltEndpoints.find k) ∧
        uri = endpointUri E endpoint := by
  have hloop := selectBoltEndpoints_of_not_fetchThrows method
    (not_fetchThrows_of_selected hselect)
  rcases selectFromOrder_cases E (c.afterRefreshCheck E x).boltEndpoints x.pickRand
      (preferredOrder method) with
    ⟨-, hempty⟩ | ⟨above, key, below, value, endpoint, horder, hfind, hmem, habove, hpick⟩
  · left
    have huri : uri = Uri.empty := Except.ok.inj (hselect.symm.trans (hloop.trans hempty))
    exact ⟨huri, selectFromOrder_empty_iff_not_hasEndpoint.mp hempty⟩
  · right
    have huri : uri = endpointUri E endpoint :=
      Except.ok.inj (hselect.symm.trans (hloop.trans hpick))
    exact ⟨above, key, below, value, endpoint, horder, hfind, hmem, habove, huri⟩

/-- What a selection that returns hands out is the empty URI, or listed for the
method. -/
theorem selectBoltEndpoints_selected {c : BoltConfig} {method : HttpMethod} {x : SelectInput}
    {uri : Uri} (hselect : (selectBoltEndpoints E c method x).result = .ok uri) :
    (uri = Uri.empty ∧ ¬HasEndpoint (c.afterRefreshCheck E x).boltEndpoints method) ∨
      ∃ key ∈ preferredOrder method, ∃ value,
        (c.afterRefreshCheck E x).boltEndpoints.find key = some value ∧
          ∃ endpoint ∈ value, uri = endpointUri E endpoint := by
  rcases selectBoltEndpoints_ok_cases hselect with
    hempty | ⟨above, key, below, value, endpoint, horder, hfind, hmem, -, huri⟩
  · exact Or.inl hempty
  · have hkey : key ∈ preferredOrder method := by simp [horder]
    exact Or.inr ⟨key, hkey, value, hfind, endpoint, hmem, huri⟩

/-- Whatever a selection hands out, the map held after the refresh check has an
endpoint for the method. -/
theorem hasEndpoint_of_selected {c : BoltConfig} {method : HttpMethod} {x : SelectInput}
    {uri : Uri} (hselect : (selectBoltEndpoints E c method x).result = .ok uri)
    (hne : uri ≠ Uri.empty) :
    HasEndpoint (c.afterRefreshCheck E x).boltEndpoints method := by
  by_contra hmissing
  have hloop := selectBoltEndpoints_of_not_fetchThrows method
    (not_fetchThrows_of_selected hselect)
  rw [selectFromOrder_empty_iff_not_hasEndpoint.mpr hmissing] at hloop
  exact hne (Except.ok.inj (hselect.symm.trans hloop))

/-- A refresh made by a selection asks for {lit}`quicksilverUrl`, if for anything. -/
theorem selectBoltEndpoints_refresh_request {c : BoltConfig} {method : HttpMethod}
    {x : SelectInput} {refresh : Refresh} {url : String}
    (hrefresh : (selectBoltEndpoints E c method x).refresh = some refresh)
    (hrequest : refresh.request = some url) : url = c.quicksilverUrl := by
  rcases selectBoltEndpoints_cases E c method x with
    ⟨-, h⟩ | ⟨e, -, -, h⟩ | ⟨endpoints, -, -, h⟩
  · rw [h] at hrefresh
    cases hrefresh
  · rw [h] at hrefresh
    cases hrefresh
    exact (getBoltEndpoints_request_eq hrequest).1
  · rw [h] at hrefresh
    cases hrefresh
    exact (getBoltEndpoints_request_eq hrequest).1

/-- A selection whose fetch does not throw returns. -/
theorem selectBoltEndpoints_returns {c : BoltConfig} {x : SelectInput} (method : HttpMethod)
    (h : ¬FetchThrows E c x) : ∃ uri, (selectBoltEndpoints E c method x).result = .ok uri := by
  rw [selectBoltEndpoints_of_not_fetchThrows method h]
  exact selectFromOrder_returns _ _ _ _

/-- A selection throws exactly when it is due for a refresh and the refresh throws. -/
theorem selectBoltEndpoints_throws_iff {c : BoltConfig} {x : SelectInput} (method : HttpMethod) :
    (∃ e, (selectBoltEndpoints E c method x).result = .error e) ↔ FetchThrows E c x := by
  constructor
  · rintro ⟨e, herror⟩
    by_contra hnot
    rcases selectBoltEndpoints_returns method hnot with ⟨uri, hok⟩
    rw [herror] at hok
    cases hok
  · intro h
    exact (selectBoltEndpoints_of_fetchThrows method h).2

/-! ## The contract of {lit}`SelectBoltEndpoints` -/

/-- A selection with another number drawn for its pick. -/
def SelectInput.withPick (x : SelectInput) (n : Nat) : SelectInput :=
  { x with pickRand := n }

/-- Whatever number is drawn, a selection whose fetch does not throw returns what the
loop makes of it and of the map held after the refresh check. -/
theorem selectBoltEndpoints_withPick {c : BoltConfig} {x : SelectInput} (method : HttpMethod)
    (h : ¬FetchThrows E c x) (n : Nat) :
    (selectBoltEndpoints E c method (x.withPick n)).result =
      selectFromOrder E (c.afterRefreshCheck E x).boltEndpoints n (preferredOrder method) :=
  selectBoltEndpoints_of_not_fetchThrows (x := x.withPick n) method h

/-- What {lit}`SelectBoltEndpoints` promises of an order of lists, for the map held
after the refresh check and the number drawn for the pick. -/
structure RankedSelection (E : Externals) (method : HttpMethod) (order : List String) :
    Prop where
  /-- A call throws exactly when it is due for a refresh and the fetch throws. -/
  throws_iff : ∀ c x,
    (∃ e, (selectBoltEndpoints E c method x).result = .error e) ↔ FetchThrows E c x
  /-- A call leaves the configuration of its refresh check. -/
  config_eq : ∀ c x, (selectBoltEndpoints E c method x).config = c.afterRefreshCheck E x
  /-- The result is picked from the first non-empty list, at an index in range. -/
  first_list : ∀ c x above key below value, ¬FetchThrows E c x →
    order = above ++ key :: below →
    (c.afterRefreshCheck E x).boltEndpoints.find key = some value → value ≠ [] →
    (∀ k ∈ above, Useless (c.afterRefreshCheck E x).boltEndpoints.find k) →
    ∃ hlt : x.pickRand % value.length < value.length,
      (selectBoltEndpoints E c method x).result =
        .ok ((E.parseUri (value.get ⟨x.pickRand % value.length, hlt⟩)).setScheme .https)
  /-- Without a non-empty list in the order the result is the empty URI. -/
  no_list : ∀ c x, ¬FetchThrows E c x →
    (∀ k ∈ order, Useless (c.afterRefreshCheck E x).boltEndpoints.find k) →
    (selectBoltEndpoints E c method x).result = .ok Uri.empty
  /-- Lists ranked below the first non-empty one do not matter. -/
  lower_irrelevant : ∀ c c' x x' above key below value,
    ¬FetchThrows E c x → ¬FetchThrows E c' x' → x'.pickRand = x.pickRand →
    order = above ++ key :: below →
    (c.afterRefreshCheck E x).boltEndpoints.find key = some value → value ≠ [] →
    (∀ k ∈ above, Useless (c.afterRefreshCheck E x).boltEndpoints.find k) →
    (∀ k ∈ above ++ [key], (c'.afterRefreshCheck E x').boltEndpoints.find k =
      (c.afterRefreshCheck E x).boltEndpoints.find k) →
    (selectBoltEndpoints E c' method x').result = (selectBoltEndpoints E c method x).result
  /-- Keys outside the order do not matter. -/
  unlisted_irrelevant : ∀ c c' x x',
    ¬FetchThrows E c x → ¬FetchThrows E c' x' → x'.pickRand = x.pickRand →
    (∀ k ∈ order, (c'.afterRefreshCheck E x').boltEndpoints.find k =
      (c.afterRefreshCheck E x).boltEndpoints.find k) →
    (selectBoltEndpoints E c' method x').result = (selectBoltEndpoints E c method x).result
  /-- Every element of the first non-empty list is returned for some value of
  {lit}`rand()`, one below the length of the list. -/
  every_element : ∀ c x above key below value, ¬FetchThrows E c x →
    order = above ++ key :: below →
    (c.afterRefreshCheck E x).boltEndpoints.find key = some value → value ≠ [] →
    (∀ k ∈ above, Useless (c.afterRefreshCheck E x).boltEndpoints.find k) →
    ∀ endpoint ∈ value, ∃ rand < value.length,
      (selectBoltEndpoints E c method (x.withPick rand)).result =
        .ok ((E.parseUri endpoint).setScheme .https)
  /-- An endpoint is returned only from a list of the order, and only if every
  list ranked above it is missing or empty. -/
  from_order : ∀ c x uri, (selectBoltEndpoints E c method x).result = .ok uri →
    uri ≠ Uri.empty →
    ∃ above key below value endpoint, order = above ++ key :: below ∧
      (c.afterRefreshCheck E x).boltEndpoints.find key = some value ∧ endpoint ∈ value ∧
      uri = (E.parseUri endpoint).setScheme .https ∧
      ∀ k ∈ above, Useless (c.afterRefreshCheck E x).boltEndpoints.find k

/-- Every call is a ranked selection over the order of its method. -/
theorem selectBoltEndpoints_rankedSelection (E : Externals) (method : HttpMethod) :
    RankedSelection E method (preferredOrder method) where
  throws_iff := fun _ _ => selectBoltEndpoints_throws_iff method
  config_eq := fun c x => selectBoltEndpoints_config_eq E c method x
  first_list := by
    intro c x above key below value hnot horder hfind hne habove
    refine ⟨pick_lt hne x.pickRand, ?_⟩
    rw [selectBoltEndpoints_of_not_fetchThrows method hnot]
    exact selectFromOrder_of_first horder hfind hne habove
  no_list := by
    intro c x hnot huseless
    rw [selectBoltEndpoints_of_not_fetchThrows method hnot]
    exact selectFromOrder_eq_empty_iff.mpr huseless
  lower_irrelevant := by
    intro c c' x x' above key below value hnot hnot' hrand horder hfind hne habove hagree
    rw [selectBoltEndpoints_of_not_fetchThrows method hnot,
      selectBoltEndpoints_of_not_fetchThrows method hnot', hrand]
    simp only [selectFromOrder_eq_pickFrom]
    rw [firstUsable_congr_of_choice horder hfind hne habove hagree,
      firstUsable_eq_some_iff.mpr ⟨above, below, horder, hfind, hne, habove⟩]
  unlisted_irrelevant := by
    intro c c' x x' hnot hnot' hrand hagree
    rw [selectBoltEndpoints_of_not_fetchThrows method hnot,
      selectBoltEndpoints_of_not_fetchThrows method hnot', hrand]
    simp only [selectFromOrder_eq_pickFrom, firstUsable_congr hagree]
  every_element := by
    intro c x above key below value hnot horder hfind hne habove endpoint hmem
    rcases List.getElem_of_mem hmem with ⟨i, hi, rfl⟩
    refine ⟨i, hi, ?_⟩
    rw [selectBoltEndpoints_withPick method hnot, selectFromOrder_of_first horder hfind hne habove]
    simp only [Nat.mod_eq_of_lt hi, List.get_eq_getElem, endpointUri]
  from_order := by
    intro c x uri hselect hne
    rcases selectBoltEndpoints_ok_cases hselect with
      ⟨hempty, -⟩ | ⟨above, key, below, value, endpoint, horder, hfind, hmem, habove, huri⟩
    · exact absurd hempty hne
    · exact ⟨above, key, below, value, endpoint, horder, hfind, hmem, huri, habove⟩

/-- {lit}`SelectBoltEndpoints` ranks the lists by method and returns a random
element of the first non-empty one: it throws exactly when its refresh does, and
otherwise selects from the map held after the refresh check, over the read order
for GET and HEAD and over the write order for every other method. -/
theorem selectBoltEndpoints_ranked (E : Externals) (method : HttpMethod) :
    preferredOrder method =
        (if method = .httpGet ∨ method = .httpHead then
          ["main_read_endpoints", "main_write_endpoints", "failover_read_endpoints",
            "failover_write_endpoints"]
        else ["main_write_endpoints", "failover_write_endpoints"]) ∧
      RankedSelection E method (preferredOrder method) ∧
      (method ≠ .httpGet → method ≠ .httpHead → ∀ c x uri,
        (selectBoltEndpoints E c method x).result = .ok uri → uri ≠ Uri.empty →
        ∃ key ∈ ["main_write_endpoints", "failover_write_endpoints"], ∃ value,
          (c.afterRefreshCheck E x).boltEndpoints.find key = some value ∧
          ∃ endpoint ∈ value, uri = (E.parseUri endpoint).setScheme .https) := by
  have horder : preferredOrder method =
      (if method = .httpGet ∨ method = .httpHead then
        ["main_read_endpoints", "main_write_endpoints", "failover_read_endpoints",
          "failover_write_endpoints"]
      else ["main_write_endpoints", "failover_write_endpoints"]) := by
    cases method <;> decide
  have hranked := selectBoltEndpoints_rankedSelection E method
  refine ⟨horder, hranked, ?_⟩
  intro hget hhead c x uri hselect hne
  rcases hranked.from_order c x uri hselect hne with
    ⟨above, key, below, value, endpoint, hsplit, hfind, hmem, huri, -⟩
  have hwrite : preferredOrder method = ["main_write_endpoints", "failover_write_endpoints"] := by
    rw [horder, if_neg (by simp [hget, hhead])]
  exact ⟨key, by rw [← hwrite, hsplit]; simp, value, hfind, endpoint, hmem, huri⟩

end BoltClient
