import BoltClient.Library.Runs
import BoltClient.Library.LeaseCache
import BoltClient.Library.Registers
import BoltClient.Library.RankedLists
import BoltClient.Library.Pieces
import BoltClient.Library.UrlText
import BoltClient.Library.PercentEncoding
import BoltClient.Library.Draws
import BoltClient.Library.Cells
import BoltClient.Library.Latches
import BoltClient.Library.SortedMaps
import BoltClient.Library.Threads
import BoltClient.Sdk
import BoltClient.Sdk.UriText
import BoltClient.BoltConfig
import BoltClient.BoltConfig.Selection
import BoltClient.BoltConfig.Runs
import BoltClient.BoltConfig.Refresh
import BoltClient.BoltConfig.Quicksilver
import BoltClient.Signer
import BoltClient.Signer.Contract
import BoltClient.Signer.SplitString
import BoltClient.Signer.Surrogate
import BoltClient.Signer.Transplant
import BoltClient.Signer.Resigning
import BoltClient.Signer.Randomness
import BoltClient.CurlClient
import BoltClient.CurlClient.Override
import BoltClient.Client
import BoltClient.Client.Presign
import BoltClient.Client.Constructors
import BoltClient.Client.PathEscaping
import BoltClient.Client.Operations
import BoltClient.Client.Encryption
import BoltClient.Process
import BoltClient.Client.SigningRegion
import BoltClient.Process.Pinning
import BoltClient.Process.Provenance
import BoltClient.Process.Reconfiguration
import BoltClient.Process.Redirection
import BoltClient.Process.Delivery
import BoltClient.Process.Availability
import BoltClient.Process.Metadata
import BoltClient.Process.Interleaving
import BoltClient.Process.Linearization
import BoltClient.Process.Contention
import BoltClient.Process.Stampede
import BoltClient.HttpClientFactory
import BoltClient.Application
import BoltClient.Application.Surrogates
import BoltClient.Application.Delivery
import BoltClient.Application.Isolation
import BoltClient.Application.Executor
