import BoltClient.Client

/-!
# The constructors of BoltS3Client

All constructors install a signer for the service {lit}`s3` in the signing region
of the client configuration; they differ in where credentials and endpoint
provider come from and in the arguments they leave to their defaults.  Every
constructor ends with {lit}`init`, which resets the configuration.

Main results:

- Definition {lit}`Construction`: the ways to build a client.
- Theorem {lit}`Construction.signer_eq`: the signer a client is built with, by
  region, policy and path escaping.

Current gaps:

- Credentials are left out, as in the signer; so are the options of the legacy
  constructors that only the endpoint provider reads.
-/

namespace BoltClient

/-! ## Client configurations -/

/-- {lit}`Aws::Client::ClientConfiguration`. -/
structure ClientConfiguration where
  region : String

/-- {lit}`Aws::S3::S3ClientConfiguration`. -/
structure S3ClientConfiguration extends ClientConfiguration where
  payloadSigningPolicy : PayloadSigningPolicy

/-- An endpoint provider resolves a bucket to an address. -/
abbrev EndpointProvider := String → Except String String

/-- {lit}`BoltS3Client::SERVICE_NAME`. -/
def boltServiceName : String := "s3"

/-! ## Constructors

{lit}`Aws::Region::ComputeSignerRegion` and the endpoint provider that the legacy
constructors make belong to the SDK. -/

section Constructors

variable (computeSignerRegion : String → String) (s3EndpointProvider : EndpointProvider)

/-- What the constructors share: a client whose signer has the given policy and
path escaping. -/
def BoltS3Client.construct (configuration : ClientConfiguration)
    (signingPolicy : PayloadSigningPolicy) (urlEscapePath : Bool)
    (endpointProvider : Option EndpointProvider) : BoltS3Client where
  signer := .new boltServiceName (computeSignerRegion configuration.region) signingPolicy
    urlEscapePath .sigv4
  endpointProvider := endpointProvider

/-- The constructor from a configuration alone.  It leaves {lit}`urlEscapePath` to
its default. -/
def BoltS3Client.ofConfiguration (configuration : S3ClientConfiguration)
    (endpointProvider : Option EndpointProvider) : BoltS3Client :=
  construct computeSignerRegion configuration.toClientConfiguration
    configuration.payloadSigningPolicy true endpointProvider

/-- The constructor from credentials. -/
def BoltS3Client.ofCredentials (configuration : S3ClientConfiguration)
    (endpointProvider : Option EndpointProvider) : BoltS3Client :=
  construct computeSignerRegion configuration.toClientConfiguration
    configuration.payloadSigningPolicy false endpointProvider

/-- The constructor from a credentials provider. -/
def BoltS3Client.ofCredentialsProvider (configuration : S3ClientConfiguration)
    (endpointProvider : Option EndpointProvider) : BoltS3Client :=
  construct computeSignerRegion configuration.toClientConfiguration
    configuration.payloadSigningPolicy false endpointProvider

/-- The legacy constructor from a configuration alone. -/
def BoltS3Client.legacyOfConfiguration (configuration : ClientConfiguration)
    (signPayloads : PayloadSigningPolicy) : BoltS3Client :=
  construct computeSignerRegion configuration signPayloads false (some s3EndpointProvider)

/-- The legacy constructor from credentials. -/
def BoltS3Client.legacyOfCredentials (configuration : ClientConfiguration)
    (signPayloads : PayloadSigningPolicy) : BoltS3Client :=
  construct computeSignerRegion configuration signPayloads false (some s3EndpointProvider)

/-- The legacy constructor from a credentials provider. -/
def BoltS3Client.legacyOfCredentialsProvider (configuration : ClientConfiguration)
    (signPayloads : PayloadSigningPolicy) : BoltS3Client :=
  construct computeSignerRegion configuration signPayloads false (some s3EndpointProvider)

/-- One call of a constructor. -/
inductive Construction where
  | ofConfiguration (configuration : S3ClientConfiguration)
      (endpointProvider : Option EndpointProvider)
  | ofCredentials (configuration : S3ClientConfiguration)
      (endpointProvider : Option EndpointProvider)
  | ofCredentialsProvider (configuration : S3ClientConfiguration)
      (endpointProvider : Option EndpointProvider)
  | legacyOfConfiguration (configuration : ClientConfiguration)
      (signPayloads : PayloadSigningPolicy)
  | legacyOfCredentials (configuration : ClientConfiguration)
      (signPayloads : PayloadSigningPolicy)
  | legacyOfCredentialsProvider (configuration : ClientConfiguration)
      (signPayloads : PayloadSigningPolicy)

/-- The client a constructor builds. -/
def Construction.client : Construction → BoltS3Client
  | .ofConfiguration configuration endpointProvider =>
      .ofConfiguration computeSignerRegion configuration endpointProvider
  | .ofCredentials configuration endpointProvider =>
      .ofCredentials computeSignerRegion configuration endpointProvider
  | .ofCredentialsProvider configuration endpointProvider =>
      .ofCredentialsProvider computeSignerRegion configuration endpointProvider
  | .legacyOfConfiguration configuration signPayloads =>
      .legacyOfConfiguration computeSignerRegion s3EndpointProvider configuration signPayloads
  | .legacyOfCredentials configuration signPayloads =>
      .legacyOfCredentials computeSignerRegion s3EndpointProvider configuration signPayloads
  | .legacyOfCredentialsProvider configuration signPayloads =>
      .legacyOfCredentialsProvider computeSignerRegion s3EndpointProvider configuration
        signPayloads

end Constructors

/-- The region of the client configuration. -/
def Construction.region : Construction → String
  | .ofConfiguration configuration _ => configuration.region
  | .ofCredentials configuration _ => configuration.region
  | .ofCredentialsProvider configuration _ => configuration.region
  | .legacyOfConfiguration configuration _ => configuration.region
  | .legacyOfCredentials configuration _ => configuration.region
  | .legacyOfCredentialsProvider configuration _ => configuration.region

/-- The payload signing policy the client is built with. -/
def Construction.payloadSigningPolicy : Construction → PayloadSigningPolicy
  | .ofConfiguration configuration _ => configuration.payloadSigningPolicy
  | .ofCredentials configuration _ => configuration.payloadSigningPolicy
  | .ofCredentialsProvider configuration _ => configuration.payloadSigningPolicy
  | .legacyOfConfiguration _ signPayloads => signPayloads
  | .legacyOfCredentials _ signPayloads => signPayloads
  | .legacyOfCredentialsProvider _ signPayloads => signPayloads

/-- Whether the signer escapes the path: only the constructor from a configuration
alone has it do so. -/
def Construction.escapesPath : Construction → Bool
  | .ofConfiguration _ _ => true
  | _ => false

/-- The signer a client is built with. -/
theorem Construction.signer_eq (computeSignerRegion : String → String)
    (s3EndpointProvider : EndpointProvider) (k : Construction) :
    (k.client computeSignerRegion s3EndpointProvider).signer =
      .new boltServiceName (computeSignerRegion k.region) k.payloadSigningPolicy k.escapesPath
        .sigv4 := by
  cases k <;> rfl

end BoltClient
