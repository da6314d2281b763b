import BoltClient.Library.Latches
import BoltClient.Process

/-!
# Region and zone from the instance metadata

Region and zone come from the environment or are assigned in code.  A reset asks the
metadata service of the instance for those that are still empty, and every
construction of a client makes a reset.  So both are latches, which the service fills
with its first answer that is not empty.

Main results:

- Theorem {lit}`processStep_field`: what a step does to a field.
- Theorem {lit}`metadata_latched`: what a field holds after any run, and which
  questions the service is asked.

Current gaps:

- An answer that takes long, or an instance without a service, gives the empty
  string.
-/

namespace BoltClient

open BoltClient.Library.Runs
open BoltClient.Library.Latches

/-- The fields that {lit}`BoltConfig::Reset` may ask for. -/
inductive MetadataField where
  | region
  | zoneId
deriving DecidableEq, Repr

/-- The content of a field. -/
def MetadataField.get (c : BoltConfig) : MetadataField → String
  | .region => c.region
  | .zoneId => c.zoneId

/-- The answer of the service for a field. -/
def MetadataField.answer (answers : InstanceMetadata) : MetadataField → String
  | .region => answers.currentRegion
  | .zoneId => answers.availabilityZoneId

/-- The value a step assigns to a field. -/
def MetadataField.assigned : MetadataField → ProcessOp → Option String
  | .region, .config (.assign (.region value)) => some value
  | .zoneId, .config (.assign (.zoneId value)) => some value
  | _, _ => none

/-- The answer a step has ready for a field, whether or not it is asked for. -/
def MetadataField.offered (field : MetadataField) : ProcessOp → List String
  | .config (.reset answers) => [field.answer answers]
  | _ => []

/-- The answers a step asks the service for. -/
def MetadataField.asked (field : MetadataField) (p : Process) : ProcessOp → List String
  | .config (.reset answers) =>
      if field.get p.statics.config = "" then [field.answer answers] else []
  | _ => []

/-- A step as an operation on the latch of a field. -/
def MetadataField.latchOps (field : MetadataField) (op : ProcessOp) : List (LatchOp String) :=
  (field.assigned op).toList.map .assign ++ (field.offered op).map .offer

variable {E : Externals} {field : MetadataField}

/-- A step acts on a field as on a latch. -/
theorem processStep_field (E : Externals) (field : MetadataField) (p : Process)
    (op : ProcessOp) :
    field.get (processStep E p op).statics.config =
      run (latchStep "") (field.get p.statics.config) (field.latchOps op) := by
  have hselect : ∀ method x,
      field.get (selectBoltEndpoints E p.statics.config method x).config =
        field.get p.statics.config := by
    intro method x
    rcases selectBoltEndpoints_config E p.statics.config method x with
      ⟨endpoints, refreshTime, hconfig⟩
    rw [hconfig]
    cases field <;> rfl
  rw [processStep_config]
  cases op with
  | send id => cases field <;> rfl
  | sign id call x =>
      refine (hselect _ _).trans ?_
      cases field <;> rfl
  | config op =>
      cases op with
      | assign a => cases field <;> cases a <;> rfl
      | reset answers => cases field <;> rfl
      | select method x =>
          refine (hselect _ _).trans ?_
          cases field <;> rfl

/-- The answers a step asks for are the offers its latch takes. -/
theorem asked_eq_taken (field : MetadataField) (p : Process) (op : ProcessOp) :
    field.asked p op =
      collect (latchStep "") (takenOffer "") (field.get p.statics.config)
        (field.latchOps op) := by
  cases op with
  | send id => cases field <;> rfl
  | sign id call x => cases field <;> rfl
  | config op =>
      cases op with
      | assign a => cases field <;> cases a <;> rfl
      | reset answers =>
          cases field <;> simp [MetadataField.asked, MetadataField.latchOps,
            MetadataField.assigned, MetadataField.offered, takenOffer]
      | select method x => cases field <;> rfl

/-- Steps that assign nothing to a field only offer answers to it. -/
theorem latchOps_of_unassigned {ops : List ProcessOp}
    (hunassigned : ∀ op ∈ ops, field.assigned op = none) :
    ops.flatMap field.latchOps = (ops.flatMap field.offered).map .offer := by
  rw [List.map_flatMap]
  refine List.flatMap_congr fun op hop => ?_
  simp [MetadataField.latchOps, hunassigned op hop]

/-- In every run of a process, as long as a field is not assigned: it holds the first
value that is not empty, of its content before and the answers the service gives at
resets; the service is not asked while it holds one, and of the answers it is asked
for all but the last are empty. -/
theorem metadata_latched (E : Externals) (field : MetadataField) (p : Process)
    {ops : List ProcessOp} (hunassigned : ∀ op ∈ ops, field.assigned op = none) :
    let asked := collect (processStep E) field.asked p ops
    field.get (processRun E p ops).statics.config =
        firstFilled "" (field.get p.statics.config :: ops.flatMap field.offered) ∧
      (field.get p.statics.config ≠ "" → asked = []) ∧
      ∀ answer ∈ asked.dropLast, answer = "" := by
  intro asked
  have hrun := run_simulation (fun p : Process => field.get p.statics.config)
    (processStep_field E field) p ops
  have hasked := collect_simulation (fun p : Process => field.get p.statics.config)
    (processStep_field E field) (takenOffer "") p ops
  rw [collect_const, latchOps_of_unassigned hunassigned] at hrun hasked
  simp only [← asked_eq_taken] at hasked
  have hasked : asked = _ := hasked.symm
  rw [hasked]
  refine ⟨hrun.trans (run_offers _), ?_, ?_⟩
  · intro hfilled
    exact taken_offers_of_filled hfilled _
  · intro answer hanswer
    exact taken_offers_blank _ answer hanswer

/-- Two clients are constructed on an instance whose environment names no region; the
service answers the second time only. -/
theorem sample_metadata_latched :
    let p := Process.initial sampleExternals (fun _ => none) 0
    let ops : List ProcessOp :=
      [.config (.reset ⟨"", "use1-az1"⟩), .config (.reset ⟨"us-east-1", "use1-az2"⟩)]
    let asked := collect (processStep sampleExternals) MetadataField.region.asked p ops
    MetadataField.region.get (processRun sampleExternals p ops).statics.config = "us-east-1" ∧
      ∀ answer ∈ asked.dropLast, answer = "" := by
  intro p ops asked
  have hunassigned : ∀ op ∈ ops, MetadataField.region.assigned op = none := by decide
  have hlatched := metadata_latched sampleExternals .region p hunassigned
  exact ⟨hlatched.1.trans (by decide), hlatched.2.2⟩

end BoltClient
