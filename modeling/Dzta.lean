import Dzta.Library.Bytes
import Dzta.Library.Json
import Dzta.Library.JsonText
import Dzta.Library.JsonRoundTrip
import Dzta.Library.Machine
import Dzta.Library.GoJson
import Dzta.Library.PrimeCert
import Dzta.Library.R1CS
import Dzta.Library.BitGadget
import Dzta.Library.Sha256
import Dzta.Library.AesGcm
import Dzta.Library.SerdeJson
import Dzta.Library.Rust
import Dzta.Library.Base64
import Dzta.Library.Groth16
import Dzta.Library.Http
import Dzta.Library.Url
import Dzta.Chaincode.Types
import Dzta.Chaincode.Contract
import Dzta.Chaincode.Ledger
import Dzta.Chaincode.Registries
import Dzta.Chaincode.History
import Dzta.Chaincode.RichQuery
import Dzta.Zkp.ScalarField
import Dzta.Zkp.RoleCircuit
import Dzta.Zkp.Commitment
import Dzta.Shared.Models
import Dzta.Wallet.Record
import Dzta.Wallet.Unseal
import Dzta.Wallet.Nullifiers
import Dzta.Wallet.Store
import Dzta.Wallet.Runs
import Dzta.Wallet.Seeds
import Dzta.Fabric.Client
import Dzta.Fabric.Channel
import Dzta.Fabric.Did
import Dzta.Fabric.Status
import Dzta.Fabric.Races
import Dzta.Issuer.Issuance
import Dzta.Issuer.Agreement
import Dzta.Issuer.Lifecycle
import Dzta.Issuer.Calls
import Dzta.Edge.Filter
import Dzta.Prover.Gramine
import Dzta.Prover.Witness
import Dzta.Prover.Payload
import Dzta.Transport.Engine
import Dzta.Edge.Admission
import Dzta.Library.Effects
import Dzta.Library.Replay
import Dzta.Library.Interleaving
import Dzta.Daemon.Revocation
import Dzta.Daemon.Sync
import Dzta.Library.Rsa
import Dzta.Prover.Handshake
import Dzta.Broker.Messages
import Dzta.Broker.Services
import Dzta.Broker.Attestation
import Dzta.Broker.Vault
import Dzta.Broker.Release
import Dzta.Broker.Provision
import Dzta.Library.Ed25519
import Dzta.Library.JsonValue
import Dzta.Issuer.Validation
import Dzta.Issuer.Proof
import Dzta.Library.IterMap
import Dzta.Library.UrlHost
import Dzta.Fabric.Config
import Dzta.Fabric.Tls
import Dzta.Issuer.Mock
import Dzta.Library.SerdeVisitor
import Dzta.Wallet.Credentials
import Dzta.Library.Polling
import Dzta.Library.Process
import Dzta.Broker.Router
import Dzta.Prover.Messages
import Dzta.Prover.Runner
import Dzta.Prover.Proxy
import Dzta.Fabric.Submission
import Dzta.Fabric.Network
import Dzta.Fabric.Delivery
import Dzta.Daemon.System
import Dzta.Library.Base58
import Dzta.Issuer.Signer
import Dzta.Issuer.Registration
import Dzta.Issuer.Schemas
