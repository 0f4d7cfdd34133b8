import CloudProvider.CommandLine
import CloudProvider.Host.Server
import CloudProvider.Main
import CloudProvider.Proofs.Backoff
import CloudProvider.Proofs.DurationSyntax
import CloudProvider.Proofs.Host.Addressing
import CloudProvider.Proofs.Host.Convergence
import CloudProvider.Proofs.Host.Deletion
import CloudProvider.Proofs.Host.Forgetting
import CloudProvider.Proofs.Host.GroupCreation
import CloudProvider.Proofs.Host.Identifying
import CloudProvider.Proofs.Host.Importing
import CloudProvider.Proofs.Host.Integers
import CloudProvider.Proofs.Host.Lines
import CloudProvider.Proofs.Host.Rejection
import CloudProvider.Proofs.Host.RuleSet
import CloudProvider.Proofs.Host.Secrecy
import CloudProvider.Proofs.Host.Sending
import CloudProvider.Proofs.Host.Session
import CloudProvider.Proofs.Host.Vanishing
import CloudProvider.Proofs.Json.Decode
import CloudProvider.Proofs.Json.Meaning
import CloudProvider.Proofs.Json.Normalize
import CloudProvider.Proofs.Network.HostBits
import CloudProvider.Proofs.Pattern
import CloudProvider.Proofs.Resource.Blocks
import CloudProvider.Proofs.Resource.Channel
import CloudProvider.Proofs.Resource.Channels.Kubernetes
import CloudProvider.Proofs.Resource.Channels.Names
import CloudProvider.Proofs.Resource.Channels.Network
import CloudProvider.Proofs.Resource.Checks
import CloudProvider.Proofs.Resource.Expansion
import CloudProvider.Proofs.Resource.Patching
import CloudProvider.Proofs.Resource.RoundTrip
import CloudProvider.Proofs.Resource.RulePlan
import CloudProvider.Proofs.Resource.Upgrading
import CloudProvider.Proofs.Schema.Conforming
import CloudProvider.Proofs.Schema.Preserving
import CloudProvider.Proofs.Schema.Wire
import CloudProvider.Proofs.Settings
import CloudProvider.Proofs.Url.Inverting
import CloudProvider.Proofs.Wait.Deadline
import CloudProvider.Proofs.Wait.Outcome
import CloudProvider.Resource.Type
