import BoltClient.Application

/-!
# What the clients of an application share

Clients are independent of each other up to two things: the static members of the
process, which the signer reads, and the endpoint provider objects, which several
clients may point to.  What a client hands to its signer is decided by the second
alone.

Main results:

- Theorem {lit}`clients_actsOnCells`: a client is what its last construction made of
  it.
- Theorem {lit}`signing_isolated`: what a client hands to its signer is the same
  after any two runs that treat it and its provider object alike, whatever else
  they do.

Current gaps:

- Providers that share state behind the SDK's interface are not considered.
-/

namespace BoltClient

open BoltClient.Library.Runs
open BoltClient.Library.Cells

variable {Provider : Type*} {A : AwsSdk Provider}

/-- The clients a step makes. -/
def Application.clientEffects (A : AwsSdk Provider) (_ : Application Provider) :
    ApplicationOp → List (Nat × ClientObject)
  | .construct client construction endpointProvider _ =>
      [(client, ⟨construction.signer A.computeSignerRegion, endpointProvider⟩)]
  | _ => []

/-- Clients are changed by their constructions alone. -/
theorem clients_actsOnCells (A : AwsSdk Provider) :
    ActsOnCells (applicationStep A) Application.clients (fun _ object => some object)
      (Application.clientEffects A) := by
  intro app op client
  cases op with
  | construct client' construction endpointProvider answers =>
      by_cases hsame : client' = client
      · subst hsame
        simp [applicationStep, Application.clientEffects]
      · simp [applicationStep, Application.clientEffects, effectsAt, hsame,
          Function.update_of_ne (Ne.symm hsame)]
  | config op => rfl
  | overrideEndpoint client' endpoint => rfl
  | call client' id call x => rfl
  | presign client' id bucket key method headers expiration x => rfl
  | send id => rfl

/-- The client a step calls. -/
def ApplicationOp.calledClient : ApplicationOp → Option Nat
  | .call client _ _ _ => some client
  | .presign client _ _ _ _ _ _ _ => some client
  | _ => none

/-- Two runs treat a client and a provider object alike: they start with the same,
construct the client alike, and have the same effects on the provider, be it
through this client or through others that point to it. -/
structure TreatsAlike (A : AwsSdk Provider) (client provider : Nat)
    (app app' : Application Provider) (ops ops' : List ApplicationOp) : Prop where
  client_start : app.clients client = app'.clients client
  provider_start : app.providers provider = app'.providers provider
  constructions : effectsAt client
      (collect (applicationStep A) (Application.clientEffects A) app ops) =
    effectsAt client (collect (applicationStep A) (Application.clientEffects A) app' ops')
  effects : effectsAt provider
      (collect (applicationStep A) Application.providerEffects app ops) =
    effectsAt provider (collect (applicationStep A) Application.providerEffects app' ops')

/-- What a step hands to the signer is a function of the client it calls and of the
provider object this client points to. -/
theorem signing_congr {app app' : Application Provider} {op : ApplicationOp} {client : Nat}
    (hop : op.calledClient = some client) (hclient : app.clients client = app'.clients client)
    (hprovider : ∀ object provider, app.clients client = some object →
      object.endpointProvider = some provider →
      app.providers provider = app'.providers provider) :
    app.signing A op = app'.signing A op := by
  have hresolver : ∀ object, app.clients client = some object →
      app.resolver A object = app'.resolver A object := by
    intro object hobject
    unfold Application.resolver
    cases hpointer : object.endpointProvider with
    | none => rfl
    | some provider =>
        simp only [Option.map_some, hprovider object provider hobject hpointer]
  cases op with
  | call client' id call x =>
      cases hop
      simp only [Application.signing, ← hclient]
      cases hobject : app.clients client with
      | none => rfl
      | some object => simp only [Option.bind_some, hresolver object hobject]
  | presign client' id bucket key method headers expiration x =>
      cases hop
      simp only [Application.signing, Application.presignCall, ← hclient]
      cases hobject : app.clients client with
      | none => rfl
      | some object => simp only [Option.bind_some, hresolver object hobject]
  | config op => cases hop
  | construct client' construction endpointProvider answers => cases hop
  | overrideEndpoint client' endpoint => cases hop
  | send id => cases hop

/-- What a client hands to its signer for a call or a presigned URL is the same
after any two runs that treat it and the provider object it points to alike:
other clients, other provider objects, the configuration, and the requests signed
and sent before have no part in it. -/
theorem signing_isolated {app app' : Application Provider} {ops ops' : List ApplicationOp}
    {client provider : Nat} (halike : TreatsAlike A client provider app app' ops ops')
    (hpointer : ∀ object, (applicationRun A app ops).clients client = some object →
      object.endpointProvider = none ∨ object.endpointProvider = some provider)
    {op : ApplicationOp} (hop : op.calledClient = some client) :
    (applicationRun A app ops).signing A op = (applicationRun A app' ops').signing A op := by
  refine signing_congr hop ?_ ?_
  · exact (clients_actsOnCells A).read_run_congr halike.client_start halike.constructions
  · intro object provider' hobject hprovider'
    obtain rfl : provider = provider' := by
      rcases hpointer object hobject with hnone | hsome
      · rw [hnone] at hprovider'
        cases hprovider'
      · exact Option.some.inj (hsome.symm.trans hprovider')
    exact (providers_actsOnCells A).read_run_congr halike.provider_start halike.effects

/-- Another client, with a provider object of its own that is moved, makes no
difference to the calls of the first. -/
theorem sample_signing_isolated :
    let app := Application.initial sampleExternals sampleEnv 0 sampleProviders
    let op := ApplicationOp.call 0 1 sampleObjectCall
      (sampleSignInput 1000 (sampleResponse 0) sampleV4)
    (applicationRun sampleAwsSdk app [sampleConstruct]).signing sampleAwsSdk op =
      (applicationRun sampleAwsSdk app
        [.construct 1 (.legacyOfConfiguration ⟨"eu-west-1"⟩ .never) (some 1)
            ⟨"us-east-1", "use1-az1"⟩,
          sampleConstruct, .overrideEndpoint 1 "https://example.com",
          .config (.assign (.region "eu-west-1"))]).signing sampleAwsSdk op := by
  intro app op
  have halike : TreatsAlike sampleAwsSdk 0 0 app app [sampleConstruct]
      [.construct 1 (.legacyOfConfiguration ⟨"eu-west-1"⟩ .never) (some 1)
          ⟨"us-east-1", "use1-az1"⟩,
        sampleConstruct, .overrideEndpoint 1 "https://example.com",
        .config (.assign (.region "eu-west-1"))] := by
    refine ⟨rfl, rfl, ?_, ?_⟩
    · simp [Application.clientEffects, sampleConstruct, effectsAt]
    · simp [Application.providerEffects, sampleConstruct, effectsAt, applicationStep]
  refine signing_isolated halike ?_ rfl
  intro object hobject
  exact Or.inr (by cases hobject; rfl)

end BoltClient
