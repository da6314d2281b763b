import BoltClient.Process.Interleaving
import BoltClient.Process.Redirection

/-!
# Where overlapping calls are sent

A call tries the lists of its order one after the other, and another call may install
a new map in between.  This file accounts for the address every call ends up with,
under every schedule, and for the shared endpoint.

Main results:

- Theorem {lit}`schedule_accounted`: one move keeps the account of the cached map, the
  shared endpoint and every call under way.
- Theorem {lit}`overlapping_calls_reported`: under every schedule a call is sent to an
  address quicksilver listed for its method, or it is sent nowhere, and then every list
  of its order was missing from some answer.
- Theorem {lit}`common_list_suffices`: a list that no answer lacks rules the latter out.

Current gaps:

- Answers are told apart by their content, not by the time they were given.
-/

namespace BoltClient

open BoltClient.Library.Runs
open BoltClient.Library.RankedLists
open BoltClient.Library.Threads

variable {E : Externals}

/-! ## Answers and lookups along a schedule -/

/-- The map the next access of a call obtains. -/
def SigningThread.fetched (E : Externals) (c : BoltConfig) (t : SigningThread) :
    List EndpointFill :=
  match t.phase with
  | .fetch =>
      ((getBoltEndpoints E c t.input.select.http "").fill t.input.select.refreshClock).toList
  | _ => []

/-- The map a move obtains. -/
def fetchedBy (E : Externals) (q : SigningPool) : SigningMove → List EndpointFill
  | .advance id =>
      match q.threads id with
      | some t => t.fetched E q.shared.config
      | none => []
  | _ => []

/-- The maps obtained along a schedule. -/
def fetchedFills (E : Externals) (p : SigningPool) (moves : List SigningMove) :
    List EndpointFill :=
  collect (signingSystem E).move (fetchedBy E) p moves

/-- The next access of a call looks for a list that the cached map, one of the maps
obtained, does not offer. -/
def MissesNext (fills : List EndpointFill) (q : SigningPool) (id : Nat) (key : String) : Prop :=
  ∃ t keys, q.threads id = some t ∧ t.phase = .pick (key :: keys) ∧
    ∃ f ∈ fills, f.endpoints = q.shared.config.boltEndpoints ∧ Useless f.endpoints.find key

/-- At some point of a schedule a call looked for a list in vain. -/
def Missed (E : Externals) (p : SigningPool) (moves : List SigningMove) (id : Nat)
    (key : String) : Prop :=
  ∃ before after, moves = before ++ .advance id :: after ∧
    MissesNext (fetchedFills E p before) ((signingSystem E).schedule p before) id key

/-- An address was listed, in a map obtained, under a key of the order, or it is empty
and every key of the order has been tried in vain. -/
def Explained (E : Externals) (fills : List EndpointFill) (missed : String → Prop)
    (order : List String) (authority : String) : Prop :=
  (authority = "" ∧ ∀ key ∈ order, missed key) ∨ ReportedUnder E fills order authority

theorem Explained.mono {fills fills' : List EndpointFill} {missed missed' : String → Prop}
    {order : List String} {authority : String} (h : Explained E fills missed order authority)
    (hfills : ∀ f ∈ fills, f ∈ fills') (hmissed : ∀ key, missed key → missed' key) :
    Explained E fills' missed' order authority := by
  rcases h with ⟨hempty, hall⟩ | hreported
  · exact Or.inl ⟨hempty, fun key hkey => hmissed key (hall key hkey)⟩
  · exact Or.inr (hreported.mono hfills fun _ hkey => hkey)

/-! ## The account of a call -/

/-- The cached map is one of the maps obtained. -/
def Obtained (fills : List EndpointFill) (endpoints : BoltEndpoints) : Prop :=
  ∃ f ∈ fills, f.endpoints = endpoints

/-- A map obtained without asking anybody is empty. -/
def AskedUnlessEmpty (fills : List EndpointFill) : Prop :=
  ∀ f ∈ fills, f.request = none → f.endpoints = ∅

/-- The address a URI was given in place of the one of the request. -/
def SentTo (E : Externals) (fills : List EndpointFill) (missed : String → Prop)
    (t : SigningThread) (uri : Uri) : Prop :=
  ∃ authority, uri = t.call.request.uri.setAuthority authority ∧
    Explained E fills missed t.order authority

/-- What is known of a call under way. -/
def SigningThread.Accounted (E : Externals) (fills : List EndpointFill)
    (missed : String → Prop) (cached : BoltEndpoints) (t : SigningThread) : Prop :=
  match t.phase with
  | .install endpoints => Obtained fills endpoints
  | .extend => Obtained fills cached
  | .pick keys =>
      Obtained fills cached ∧ ∃ tried, t.order = tried ++ keys ∧ ∀ key ∈ tried, missed key
  | .createHead boltEndpoint => Explained E fills missed t.order boltEndpoint.authority
  | .store pending => SentTo E fills missed t pending.boltUri
  | .finish pending => SentTo E fills missed t pending.boltUri
  | .returned request => SentTo E fills missed t request.uri
  | _ => True

section Account

variable {fills fills' : List EndpointFill} {missed missed' : String → Prop}
  {cached cached' : BoltEndpoints} {t : SigningThread}

theorem SentTo.mono {uri : Uri} (h : SentTo E fills missed t uri)
    (hfills : ∀ f ∈ fills, f ∈ fills') (hmissed : ∀ key, missed key → missed' key) :
    SentTo E fills' missed' t uri := by
  rcases h with ⟨authority, huri, hexplained⟩
  exact ⟨authority, huri, hexplained.mono hfills hmissed⟩

theorem Obtained.mono {endpoints : BoltEndpoints} (h : Obtained fills endpoints)
    (hfills : ∀ f ∈ fills, f ∈ fills') : Obtained fills' endpoints := by
  rcases h with ⟨f, hf, hendpoints⟩
  exact ⟨f, hfills f hf, hendpoints⟩

/-- What others do to the shared state keeps the account of a call. -/
theorem SigningThread.Accounted.mono (h : t.Accounted E fills missed cached)
    (hfills : ∀ f ∈ fills, f ∈ fills') (hmissed : ∀ key, missed key → missed' key)
    (hcached : Obtained fills cached → Obtained fills' cached') :
    t.Accounted E fills' missed' cached' := by
  rcases t with ⟨call, x, phase⟩
  cases phase with
  | install endpoints => exact Obtained.mono h hfills
  | extend => exact hcached h
  | pick keys =>
      rcases h with ⟨hobtained, tried, horder, htried⟩
      exact ⟨hcached hobtained, tried, horder, fun key hkey => hmissed key (htried key hkey)⟩
  | createHead boltEndpoint => exact Explained.mono h hfills hmissed
  | store pending => exact SentTo.mono h hfills hmissed
  | finish pending => exact SentTo.mono h hfills hmissed
  | returned request => exact SentTo.mono h hfills hmissed
  | checkTime => trivial
  | checkEmpty => trivial
  | fetch => trivial
  | threw e => trivial

/-- A map that offers a list came from an answer. -/
theorem reportedUnder_of_find {f : EndpointFill} {order : List String} {key endpoint : String}
    {value : List String} (hasked : AskedUnlessEmpty fills) (hf : f ∈ fills) (hkey : key ∈ order)
    (hfind : f.endpoints.find key = some value) (hmem : endpoint ∈ value) :
    ReportedUnder E fills order (E.parseUri endpoint).authority := by
  refine ⟨f, hf, ?_, key, hkey, value, hfind, endpoint, hmem, rfl⟩
  intro hrequest
  rw [hasked f hf hrequest] at hfind
  cases hfind

/-- A lookup keeps the account of its call: it finds a listed endpoint, or one more key
has been tried in vain. -/
theorem accounted_pick {c : BoltConfig} {call : SignCall} {x : SignInput} {keys : List String}
    (h : (SigningThread.mk call x (.pick keys)).Accounted E fills missed c.boltEndpoints)
    (hasked : AskedUnlessEmpty fills) (hmissed : ∀ key, missed key → missed' key)
    (hmisses : ∀ key ∈ keys.head?, ∀ f ∈ fills, f.endpoints = c.boltEndpoints →
      Useless f.endpoints.find key → missed' key) :
    (SigningThread.mk call x ((SigningThread.mk call x (.pick keys)).next E c)).Accounted E fills
      missed' c.boltEndpoints := by
  rcases h with ⟨⟨f, hf, hendpoints⟩, tried, horder, htried⟩
  cases keys with
  | nil =>
      refine Or.inl ⟨rfl, fun key hkey => hmissed key (htried key ?_)⟩
      have hall : preferredOrder call.request.method = tried :=
        horder.trans (List.append_nil tried)
      rwa [← hall]
  | cons key keys =>
      rcases next_pick_cases E c call x key keys with
        ⟨huseless, hnext, -⟩ | ⟨value, endpoint, hfind, hmem, hnext, -⟩
      · rw [← hendpoints] at huseless
        have hkey : missed' key := hmisses key rfl f hf hendpoints huseless
        rw [hnext]
        refine ⟨⟨f, hf, hendpoints⟩, tried ++ [key], horder.trans (by simp), ?_⟩
        intro k hk
        rcases List.mem_append.mp hk with hk | hk
        · exact hmissed k (htried k hk)
        · rw [List.mem_singleton.mp hk]
          exact hkey
      · rw [hnext]
        refine Or.inr ?_
        rw [endpointUri_authority]
        rw [← hendpoints] at hfind
        have hkey : key ∈ preferredOrder call.request.method := by
          rw [show preferredOrder call.request.method = tried ++ key :: keys from horder]
          simp
        exact reportedUnder_of_find hasked hf hkey hfind hmem

/-- An access keeps the account of its call: what it obtains and what it looks for in
vain is put on record. -/
theorem SigningThread.Accounted.advance {s : Statics}
    (h : t.Accounted E fills missed s.config.boltEndpoints)
    (hcached : s.config.boltEndpoints = ∅ ∨ Obtained fills s.config.boltEndpoints)
    (hasked : AskedUnlessEmpty fills) (hmissed : ∀ key, missed key → missed' key)
    (hmisses : ∀ key keys, t.phase = .pick (key :: keys) → ∀ f ∈ fills,
      f.endpoints = s.config.boltEndpoints → Useless f.endpoints.find key → missed' key) :
    ((signingSystem E).advance s t).2.Accounted E (fills ++ t.fetched E s.config) missed'
      ((signingSystem E).advance s t).1.config.boltEndpoints := by
  have hfills : ∀ f ∈ fills, f ∈ fills ++ t.fetched E s.config := fun f hf =>
    List.mem_append_left _ hf
  rcases t with ⟨call, x, phase⟩
  cases phase with
  | checkTime =>
      by_cases htime : x.select.checkClock > s.config.refreshTime <;>
        simp [signingSystem, SigningThread.next, SigningThread.Accounted, htime]
  | checkEmpty =>
      by_cases hempty : s.config.boltEndpoints.entries = []
      · simp [signingSystem, SigningThread.next, SigningThread.Accounted, hempty]
      · have hobtained : Obtained fills s.config.boltEndpoints := by
          refine hcached.resolve_left fun hnone => hempty ?_
          rw [hnone]
          rfl
        simp only [signingSystem, SigningThread.next, SigningThread.Accounted, hempty, if_false]
        exact ⟨hobtained.mono hfills, [], rfl, by simp⟩
  | fetch =>
      cases hget : (getBoltEndpoints E s.config x.select.http "").result with
      | error e => simp [signingSystem, SigningThread.next, SigningThread.Accounted, hget]
      | ok endpoints =>
          simp only [signingSystem, SigningThread.next, SigningThread.Accounted, hget]
          let request := (getBoltEndpoints E s.config x.select.http "").request
          exact ⟨⟨request, endpoints, x.select.refreshClock⟩,
            by simp [SigningThread.fetched, Refresh.fill, hget, request], rfl⟩
  | install endpoints => exact Obtained.mono h hfills
  | extend => exact ⟨Obtained.mono h hfills, [], rfl, by simp⟩
  | pick keys =>
      have hpick := accounted_pick h hasked hmissed (c := s.config) (fun key hkey f hf =>
        hmisses key keys.tail (by cases keys <;> cases hkey; rfl) f hf)
      exact hpick.mono hfills (fun _ hkey => hkey) fun hobtained => hobtained.mono hfills
  | createHead boltEndpoint => exact ⟨boltEndpoint.authority, rfl, Explained.mono h hfills hmissed⟩
  | store pending => exact SentTo.mono h hfills hmissed
  | finish pending =>
      have huri : ((SigningThread.mk call x (.finish pending)).transplanted s.config pending).uri =
          pending.boltUri := by
        simp [SigningThread.transplanted]
      simp only [signingSystem, SigningThread.next, SigningThread.Accounted, huri]
      exact SentTo.mono h hfills hmissed
  | returned request => exact SentTo.mono h hfills hmissed
  | threw e => trivial

end Account

/-! ## The account of a schedule -/

/-- What is known of the shared state and of the calls under way, given the maps
obtained and the lists each call has looked for in vain. -/
structure PoolAccounted (E : Externals) (initial : Uri) (fills : List EndpointFill)
    (missed : Nat → String → Prop) (q : SigningPool) : Prop where
  asked : AskedUnlessEmpty fills
  cached : q.shared.config.boltEndpoints = ∅ ∨ Obtained fills q.shared.config.boltEndpoints
  stored : q.shared.selectedBoltEndpoint = initial ∨
    q.shared.selectedBoltEndpoint.authority = "" ∨
    ReportedUnder E fills readOrderEndpoints q.shared.selectedBoltEndpoint.authority
  calls : ∀ id t, q.threads id = some t →
    t.Accounted E fills (missed id) q.shared.config.boltEndpoints

section Moves

variable {initial : Uri} {fills : List EndpointFill} {missed missed' : Nat → String → Prop}
  {q : SigningPool} {s : Statics} {t : SigningThread}

/-- A fetch that asks nobody yields no entry. -/
theorem fetched_asked (hasked : AskedUnlessEmpty fills) :
    AskedUnlessEmpty (fills ++ t.fetched E s.config) := by
  intro f hf hrequest
  rcases List.mem_append.mp hf with hf | hf
  · exact hasked f hf hrequest
  · rcases t with ⟨call, x, phase⟩
    cases phase with
    | fetch =>
        cases hget : (getBoltEndpoints E s.config x.select.http "").result with
        | error e => simp [SigningThread.fetched, Refresh.fill, hget] at hf
        | ok endpoints =>
            simp only [SigningThread.fetched, Refresh.fill, hget, Option.toList_some,
              List.mem_singleton] at hf
            subst hf
            have hnothing := getBoltEndpoints_result_of_request_none hrequest
            exact Except.ok.inj (hget.symm.trans hnothing)
    | _ => cases hf

/-- A write leaves a cached map that was obtained, if it was so before. -/
theorem write_cached {missed : String → Prop}
    (h : t.Accounted E fills missed s.config.boltEndpoints)
    (hcached : s.config.boltEndpoints = ∅ ∨ Obtained fills s.config.boltEndpoints) :
    ((t.write E s).config.boltEndpoints = ∅ ∨
        Obtained fills (t.write E s).config.boltEndpoints) ∧
      (Obtained fills s.config.boltEndpoints →
        Obtained fills (t.write E s).config.boltEndpoints) := by
  rcases t with ⟨call, x, phase⟩
  cases phase with
  | install endpoints => exact ⟨Or.inr h, fun _ => h⟩
  | _ => exact ⟨hcached, id⟩

/-- A write to the shared endpoint stores the address of a call. -/
theorem write_stored {missed : String → Prop}
    (h : t.Accounted E fills missed s.config.boltEndpoints)
    (hstored : s.selectedBoltEndpoint = initial ∨ s.selectedBoltEndpoint.authority = "" ∨
      ReportedUnder E fills readOrderEndpoints s.selectedBoltEndpoint.authority) :
    (t.write E s).selectedBoltEndpoint = initial ∨
      (t.write E s).selectedBoltEndpoint.authority = "" ∨
      ReportedUnder E fills readOrderEndpoints (t.write E s).selectedBoltEndpoint.authority := by
  rcases t with ⟨call, x, phase⟩
  cases phase with
  | store pending =>
      rcases h with ⟨authority, huri, hexplained⟩
      have hauthority : pending.boltUri.authority = authority := by simp [huri]
      right
      simp only [SigningThread.write, hauthority]
      rcases hexplained with ⟨hempty, -⟩ | hreported
      · exact Or.inl hempty
      · exact Or.inr (hreported.mono (fun _ hf => hf) (preferredOrder_subset _))
  | _ => exact hstored

/-- What neither obtains a map nor touches the cached map or the shared endpoint keeps
the account. -/
theorem PoolAccounted.frame (h : PoolAccounted E initial fills missed q) {q' : SigningPool}
    (hendpoints : q'.shared.config.boltEndpoints = q.shared.config.boltEndpoints)
    (hstored : q'.shared.selectedBoltEndpoint = q.shared.selectedBoltEndpoint)
    (hmissed : ∀ id key, missed id key → missed' id key)
    (hcalls : ∀ id t, q'.threads id = some t →
      q.threads id = some t ∨ ∃ request, t = SigningThread.begin request) :
    PoolAccounted E initial fills missed' q' := by
  refine ⟨h.asked, ?_, ?_, ?_⟩
  · rw [hendpoints]
    exact h.cached
  · rw [hstored]
    exact h.stored
  · intro id t ht
    rw [hendpoints]
    rcases hcalls id t ht with hbefore | ⟨request, rfl⟩
    · exact (h.calls id t hbefore).mono (fun _ hf => hf) (hmissed id) fun hobtained => hobtained
    · trivial

/-- A move keeps the account, with what it obtains and what it looks for in vain put on
record. -/
theorem PoolAccounted.move (h : PoolAccounted E initial fills missed q) (move : SigningMove)
    (hmissed : ∀ id key, missed id key → missed' id key)
    (hmisses : ∀ id key, move = .advance id → MissesNext fills q id key → missed' id key) :
    PoolAccounted E initial (fills ++ fetchedBy E q move) missed'
      ((signingSystem E).move q move) := by
  cases move with
  | change c =>
      rw [show fetchedBy E q (.change c) = [] from rfl, List.append_nil]
      exact h.frame rfl rfl hmissed fun id t ht => Or.inl ht
  | start id request =>
      rw [show fetchedBy E q (.start id request) = [] from rfl, List.append_nil]
      have hshared := move_start_shared (signingSystem E) (p := q) id request
      refine h.frame (by rw [hshared]) (by rw [hshared]) hmissed fun id' t ht => ?_
      rcases move_threads_cases _ ht with hbefore | ⟨call, -, -, rfl⟩ | ⟨_, hadvance, -, -⟩
      · exact Or.inl hbefore
      · exact Or.inr ⟨call, rfl⟩
      · cases hadvance
  | advance id =>
      cases hthread : q.threads id with
      | none =>
          have hnothing : fetchedBy E q (.advance id) = [] := by simp [fetchedBy, hthread]
          rw [move_advance_none _ hthread, hnothing, List.append_nil]
          exact h.frame rfl rfl hmissed fun id' t ht => Or.inl ht
      | some t =>
          have hfetched : fetchedBy E q (.advance id) = t.fetched E q.shared.config := by
            simp [fetchedBy, hthread]
          have hshared : ((signingSystem E).move q (.advance id)).shared = t.write E q.shared := by
            rw [move_advance _ hthread]
            rfl
          have hfills : ∀ f ∈ fills, f ∈ fills ++ t.fetched E q.shared.config := fun f hf =>
            List.mem_append_left _ hf
          have haccount := h.calls id t hthread
          have hcached := write_cached haccount h.cached
          rw [hfetched]
          refine ⟨fetched_asked h.asked, ?_, ?_, ?_⟩
          · rw [hshared]
            exact hcached.1.imp_right fun hobtained => hobtained.mono hfills
          · rw [hshared]
            refine (write_stored haccount h.stored).imp_right fun hcases => ?_
            exact hcases.imp_right fun hreported => hreported.mono hfills fun _ hkey => hkey
          · intro id' t' ht'
            rw [hshared]
            rcases move_threads_cases _ ht' with
              hbefore | ⟨_, hstart, -, -⟩ | ⟨before, hadvance, hbefore, rfl⟩
            · exact (h.calls id' t' hbefore).mono hfills (hmissed id')
                fun hobtained => (hcached.2 hobtained).mono hfills
            · cases hstart
            · cases hadvance
              obtain rfl := Option.some.inj (hbefore.symm.trans hthread)
              refine haccount.advance h.cached h.asked (hmissed id) ?_
              intro key keys hphase f hf hendpoints huseless
              exact hmisses id key rfl ⟨before, keys, hthread, hphase, f, hf, hendpoints, huseless⟩

end Moves

theorem Missed.append {p : SigningPool} {moves : List SigningMove} {id : Nat} {key : String}
    (h : Missed E p moves id key) (moves' : List SigningMove) :
    Missed E p (moves ++ moves') id key := by
  rcases h with ⟨before, after, rfl, hmisses⟩
  exact ⟨before, after ++ moves', by simp, hmisses⟩

/-- Every schedule that starts without calls and with an empty cache is accounted for. -/
theorem schedule_accounted (E : Externals) {s : Statics} (hempty : s.config.boltEndpoints = ∅)
    (moves : List SigningMove) :
    PoolAccounted E s.selectedBoltEndpoint (fetchedFills E ⟨s, fun _ => none⟩ moves)
      (Missed E ⟨s, fun _ => none⟩ moves)
      ((signingSystem E).schedule ⟨s, fun _ => none⟩ moves) := by
  induction moves using List.reverseRecOn with
  | nil =>
      refine ⟨?_, Or.inl hempty, Or.inl rfl, ?_⟩
      · simp [AskedUnlessEmpty, fetchedFills]
      · simp
  | append_singleton moves move ih =>
      unfold fetchedFills System.schedule at ih ⊢
      rw [collect_concat, run_concat]
      refine ih.move move (fun id key hmissed => hmissed.append _) ?_
      rintro id key rfl hmisses
      exact ⟨moves, [], by simp, hmisses⟩

/-! ## Where calls are sent -/

/-- A process that has just been started, with no call under way. -/
def SigningPool.initial (E : Externals) (env : String → Option String) (start : Time) :
    SigningPool :=
  ⟨Statics.initial E env start, fun _ => none⟩

/-- A list with an element in every answer keeps calls that may use it from being sent
nowhere, whatever else the answers say and whenever they arrive. -/
theorem common_list_suffices (E : Externals) (env : String → Option String) (start : Time)
    (moves : List SigningMove) {key : String}
    (hcommon : ∀ f ∈ fetchedFills E (SigningPool.initial E env start) moves,
      ¬Useless f.endpoints.find key)
    {id : Nat} {t : SigningThread} {request : HttpRequest}
    (ht : ((signingSystem E).schedule (SigningPool.initial E env start) moves).threads id = some t)
    (hphase : t.phase = .returned request) (hkey : key ∈ t.order) :
    ReportedUnder E (fetchedFills E (SigningPool.initial E env start) moves) t.order
      request.uri.authority := by
  have haccounted := schedule_accounted E (s := Statics.initial E env start) rfl moves
  have haccount := haccounted.calls id t ht
  simp only [SigningThread.Accounted, hphase] at haccount
  rcases haccount with ⟨authority, huri, ⟨-, hmissed⟩ | hreported⟩
  · rcases hmissed key hkey with ⟨before, after, rfl, -, -, -, -, f, hf, -, huseless⟩
    refine absurd huseless (hcommon f ?_)
    unfold fetchedFills at hf ⊢
    rw [collect_append]
    exact List.mem_append_left _ hf
  · have hauthority : request.uri.authority = authority := by simp [huri]
    rw [hauthority]
    exact hreported

/-- An answer that offers one list only. -/
def singleList (key : String) : BoltEndpoints := [⟨key, ["10.0.0.1"]⟩].toAList

/-- Both maps offer the reading call an endpoint, but it looks for each list in the map
that lacks it: the refresh of the second call comes right after its first lookup. -/
example :
    let E := referenceExternals fun _ => .ok (singleList "main_read_endpoints")
    let s : Statics :=
      { sampleStatics with
        config := { sampleConfig with boltEndpoints := singleList "main_write_endpoints" } }
    let call := sampleCall (.signRequest true) .httpGet "https://bucket.s3.amazonaws.com/key"
    let late := sampleConfig.refreshTime + 1
    let moves : List SigningMove :=
      [.start 0 (call, sampleSignInput 0 (sampleResponse 0) sampleV4),
        .start 1 (call, sampleSignInput late (sampleResponse 0) sampleV4)] ++
      List.replicate 3 (.advance 0) ++ List.replicate 3 (.advance 1) ++
      List.replicate 4 (.advance 0)
    let after := (signingSystem E).schedule ⟨s, fun _ => none⟩ moves
    HasEndpoint (singleList "main_write_endpoints") .httpGet ∧
      HasEndpoint (singleList "main_read_endpoints") .httpGet ∧
      (after.threads 0).map SigningThread.phase = some (.createHead Uri.empty) :=
  ⟨by decide, by decide, rfl⟩

end BoltClient
