import GatewayCompiler.Json.Reader
import GatewayCompiler.Main
import GatewayCompiler.Proofs.Gateway.Isolation
import GatewayCompiler.Proofs.Matching.Path
import GatewayCompiler.Proofs.Matching.Request
import GatewayCompiler.Proofs.Naming
import GatewayCompiler.Proofs.Routes.Targets
import GatewayCompiler.Proofs.Gateway.Inventory
import GatewayCompiler.Proofs.Gateway.Listeners
import GatewayCompiler.Proofs.Gateway.Fidelity
import GatewayCompiler.Proofs.Agreement
import GatewayCompiler.Proofs.Gateway.Grants
import GatewayCompiler.Proofs.Failure
import GatewayCompiler.Proofs.Routes.Conversions
import GatewayCompiler.Proofs.Faults.Route
import GatewayCompiler.Proofs.Faults.Gateway
import GatewayCompiler.Proofs.Faults.Attribution
import GatewayCompiler.Proofs.Faults.Output
import GatewayCompiler.Proofs.Base64
import GatewayCompiler.Proofs.Document
import GatewayCompiler.Proofs.Gateway.Frame
import GatewayCompiler.Proofs.Gateway.Extension
import GatewayCompiler.Proofs.Gateway.Policies
import GatewayCompiler.Proofs.Gateway.LoadOrder
import GatewayCompiler.Proofs.Graph.Contents
import GatewayCompiler.Proofs.Graph.Requirements
import GatewayCompiler.Proofs.Snapshot.Contents
import GatewayCompiler.Proofs.Schema.Manifest
import GatewayCompiler.Proofs.Schema.Core
import GatewayCompiler.Proofs.Schema.Gateway
import GatewayCompiler.Proofs.Schema.HttpRoute
import GatewayCompiler.Proofs.Files.Rerun
import GatewayCompiler.Proofs.Hostname.Acceptance
import GatewayCompiler.Proofs.Matching.Rewrite
import GatewayCompiler.Proofs.Routes.Weights
import GatewayCompiler.Proofs.Settings
import GatewayCompiler.Proofs.Wire.Canonical
import GatewayCompiler.Proofs.Manifest.Leaves
import GatewayCompiler.Proofs.Manifest.Groups
import GatewayCompiler.Proofs.Routes.Ledger
import GatewayCompiler.Proofs.Gateway.Certificates
import GatewayCompiler.Proofs.Matching.Substitution
import GatewayCompiler.Proofs.Files.AllOrNothing
import GatewayCompiler.Proofs.Routes.Matches
import GatewayCompiler.Proofs.Routes.Reuse
import GatewayCompiler.Proofs.Routes.HostNames
import GatewayCompiler.Proofs.Attachment
import GatewayCompiler.Proofs.Files.Listing
import GatewayCompiler.Proofs.Routes.SharedDomains
import GatewayCompiler.Proofs.Gateway.ListenerCheck
import GatewayCompiler.Proofs.Gateway.Names
