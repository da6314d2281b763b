import BoltClient.BoltConfig.Runs
import BoltClient.CurlClient
import BoltClient.Library.Registers

/-!
# The process: signing and sending interleaved

All clients of a process share the static members.  A request is signed in one
step and sent in a later one, possibly from another thread, and any number of
other steps may come in between.  The state of the process is the static members
together with the URI each request was last signed with.

Main results:

- Theorem {lit}`run_config`: on the configuration, a run of the process is a run
  of {lit}`BoltConfig.Runs`, with every signing as a selection.
- Theorem {lit}`run_quicksilverUrl`: a run leaves the quicksilver address of its
  last reset.
- Theorem {lit}`selectedBoltEndpoint_isRegister`: the shared endpoint is a
  register written by successful signings only.
- Theorem {lit}`signed_lastSigned`: once any request is signed, the shared
  endpoint is the URI of the last successful signing.

Current gaps:

- Steps are atomic; {lit}`Process.Interleaving` takes signings apart into single
  accesses.
-/

namespace BoltClient

open BoltClient.Library.Runs
open BoltClient.Library.Registers

/-! ## Steps -/

/-- The shared state of a process and, for each request, the URI it was signed
with. -/
structure Process where
  statics : Statics
  signed : Nat → Option Uri

/-- A process right after its static initialisers. -/
def Process.initial (E : Externals) (env : String → Option String) (now : Time) : Process where
  statics := Statics.initial E env now
  signed := fun _ => none

/-- Steps of a process: operations on the configuration, the signing of a
request and its sending. -/
inductive ProcessOp where
  | config (op : ConfigOp)
  | sign (id : Nat) (call : SignCall) (x : SignInput)
  | send (id : Nat)

/-- The URI a step signs a request with, if it reports success. -/
def signedUri (E : Externals) (p : Process) : ProcessOp → Option Uri
  | .sign _ call x =>
      let outcome := call.perform E p.statics x
      match outcome.result with
      | .ok true => some outcome.request.uri
      | _ => none
  | _ => none

/-- The process after one step. -/
def processStep (E : Externals) (p : Process) (op : ProcessOp) : Process :=
  match op with
  | .config op =>
      { p with statics := { p.statics with config := configStep E p.statics.config op } }
  | .sign id call x =>
      { statics := (call.perform E p.statics x).statics
        signed :=
          match signedUri E p (.sign id call x) with
          | some uri => Function.update p.signed id (some uri)
          | none => p.signed }
  | .send _ => p

/-- The process after a run. -/
abbrev processRun (E : Externals) (p : Process) (ops : List ProcessOp) : Process :=
  run (processStep E) p ops

/-- The handle a request is sent with: opened for the URI the request was signed
with, which libcurl reports as its URL, and passed to the override. -/
def sentHandle (E : Externals) (p : Process) (uri : Uri) : CurlHandle :=
  overrideOptionsOnConnectionHandle E p.statics (some (E.uriString uri))
    (.forUrl (E.uriString uri))

/-! ## The configuration along a run -/

/-- What a step does to the configuration. -/
def configOp : ProcessOp → Option ConfigOp
  | .config op => some op
  | .sign _ call x => some (.select call.request.method x.select)
  | .send _ => none

/-- The operations a run performs on the configuration. -/
def configOps (ops : List ProcessOp) : List ConfigOp := ops.filterMap configOp

theorem configOps_concat (ops : List ProcessOp) (op : ProcessOp) :
    configOps (ops ++ [op]) = configOps ops ++ (configOp op).toList := by
  cases hop : configOp op <;> simp [configOps, hop]

/-- A step acts on the configuration through its configuration operation. -/
theorem processStep_config (E : Externals) (p : Process) (op : ProcessOp) :
    (processStep E p op).statics.config =
      run (configStep E) p.statics.config (configOp op).toList := by
  cases op with
  | config op => rfl
  | sign id call x => exact perform_config E p.statics call x
  | send id => rfl

/-- On the configuration, a run of the process is a run of its configuration
operations. -/
theorem run_config (E : Externals) (p : Process) (ops : List ProcessOp) :
    (processRun E p ops).statics.config = configRun E p.statics.config (configOps ops) := by
  have hrun := run_simulation (fun p : Process => p.statics.config)
    (processStep_config E) p ops
  rw [collect_const] at hrun
  rw [hrun]
  simp [configOps, List.filterMap_eq_flatMap_toList]

/-! ## Resets along a run -/

/-- The configuration a reset leaves. -/
def resetConfig (p : Process) : ProcessOp → Option BoltConfig
  | .config (.reset answers) => some (p.statics.config.reset answers)
  | _ => none

/-- The configuration as the last reset of a run left it. -/
def lastReset (E : Externals) (p : Process) (ops : List ProcessOp) : Option BoltConfig :=
  lastWrite (processStep E) resetConfig p ops

theorem eq_reset_of_resetConfig {p : Process} {op : ProcessOp} {c : BoltConfig}
    (h : resetConfig p op = some c) :
    ∃ answers, op = .config (.reset answers) ∧ p.statics.config.reset answers = c := by
  cases op with
  | send id => cases h
  | sign id call x => cases h
  | config op =>
      cases op with
      | assign a => cases h
      | reset answers => exact ⟨answers, rfl, Option.some.inj h⟩
      | select method x => cases h

/-- The derived strings of the last reset agree with its fields. -/
theorem lastReset_derived {E : Externals} {p : Process} {ops : List ProcessOp} {c : BoltConfig}
    (h : lastReset E p ops = some c) :
    c.boltHostName = createBoltHostName c.region c.customDomain ∧
      c.quicksilverUrl = createQuicksilverUrl c.region c.zoneId c.customDomain := by
  rcases lastWrite_eq_some_iff.mp h with ⟨before, op, after, -, hreset, -⟩
  rcases eq_reset_of_resetConfig hreset with ⟨answers, -, rfl⟩
  exact BoltConfig.reset_derived _ _

/-- A part of the configuration that neither selections nor the assignments of a
run touch is, after the run, as the last reset left it. -/
theorem run_of_lastReset {Part : Type*} {part : BoltConfig → Part} {E : Externals} {p : Process}
    {ops : List ProcessOp}
    (hselect : ∀ c endpoints refreshTime,
      part { c with boltEndpoints := endpoints, refreshTime := refreshTime } = part c)
    (hassign : ∀ a, .config (.assign a) ∈ ops → ∀ c : BoltConfig, part (c.assign a) = part c) :
    part (processRun E p ops).statics.config =
      ((lastReset E p ops).map part).getD (part p.statics.config) := by
  have hregister : IsRegister (· ∈ ops) (processStep E) (fun p => part p.statics.config)
      (fun p op => (resetConfig p op).map part) := by
    intro p op hmem
    have hselection : ∀ method y,
        part (selectBoltEndpoints E p.statics.config method y).config = part p.statics.config := by
      intro method y
      rcases selectBoltEndpoints_config E p.statics.config method y with
        ⟨endpoints, refreshTime, hconfig⟩
      rw [hconfig, hselect]
    show part (processStep E p op).statics.config = _
    rw [processStep_config]
    cases op with
    | send id => rfl
    | sign id call x => exact hselection _ _
    | config op =>
        cases op with
        | assign a => exact hassign a hmem _
        | reset answers => rfl
        | select method y => exact hselection _ _
  rw [hregister.read_run fun _ hmem => hmem, lastWrite_map]
  rfl

/-- A run leaves the quicksilver address of its last reset. -/
theorem run_quicksilverUrl (E : Externals) (p : Process) (ops : List ProcessOp) :
    (processRun E p ops).statics.config.quicksilverUrl =
      ((lastReset E p ops).map BoltConfig.quicksilverUrl).getD
        p.statics.config.quicksilverUrl :=
  run_of_lastReset (fun _ _ _ => rfl) fun a _ c => assign_quicksilverUrl c a

/-! ## The shared endpoint along a run -/

/-- A successful signing stores its URI in the shared variable; every other step
leaves the variable alone. -/
theorem selectedBoltEndpoint_isRegister (E : Externals) :
    IsRegister (fun _ => True) (processStep E) (fun p => p.statics.selectedBoltEndpoint)
      (signedUri E) := by
  intro p op _
  cases op with
  | config op => rfl
  | send id => rfl
  | sign id call x =>
      cases hselect :
          (selectBoltEndpoints E p.statics.config call.request.method x.select).result with
      | error e => simp [processStep, signedUri, perform_of_threw hselect]
      | ok e =>
          simp only [processStep, signedUri, perform_result hselect, perform_uri hselect,
            perform_statics hselect]
          rfl

/-- The URI of the last successful signing of a run, of whatever request. -/
def lastSigned (E : Externals) (p : Process) (ops : List ProcessOp) : Option Uri :=
  lastWrite (processStep E) (signedUri E) p ops

/-- A run leaves the URI of its last successful signing in the shared variable. -/
theorem run_selectedBoltEndpoint (E : Externals) (p : Process) (ops : List ProcessOp) :
    (processRun E p ops).statics.selectedBoltEndpoint =
      (lastSigned E p ops).getD p.statics.selectedBoltEndpoint :=
  (selectedBoltEndpoint_isRegister E).read_run fun _ _ => trivial

/-- When some request is signed, the shared variable holds the URI of the last
successful signing. -/
theorem signed_lastSigned {E : Externals} {p : Process} (hstart : ∀ id, p.signed id = none)
    {ops : List ProcessOp} {id : Nat} {uri : Uri}
    (hsigned : (processRun E p ops).signed id = some uri) :
    lastSigned E p ops = some (processRun E p ops).statics.selectedBoltEndpoint := by
  have hsome : ∃ v, lastSigned E p ops = some v := by
    induction ops using List.reverseRecOn with
    | nil => simp [hstart] at hsigned
    | append_singleton ops op ih =>
        unfold lastSigned at ih ⊢
        rw [lastWrite_concat]
        cases hwrite : signedUri E (processRun E p ops) op with
        | some v => exact ⟨v, rfl⟩
        | none =>
            -- Nothing was signed in this step, so the request was signed before.
            rw [Option.none_or]
            refine ih ?_
            rw [← hsigned]
            unfold processRun
            rw [run_concat]
            cases op with
            | config op => rfl
            | send id => rfl
            | sign id' call x => simp [processStep, hwrite]
  rcases hsome with ⟨v, hv⟩
  rw [run_selectedBoltEndpoint, hv]
  rfl

end BoltClient
