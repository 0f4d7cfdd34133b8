import CloudProvider.Resource.DnsRecord
import CloudProvider.Resource.EmailIdentity
import CloudProvider.Resource.FirewallGroup
import CloudProvider.Resource.LoadBalancer
import CloudProvider.Resource.NasInstance
import CloudProvider.Resource.NodePool
import CloudProvider.Resource.PrivateLan

/-!
# The types of resources

- `ResourceType`: the types that the provider has.
- `ResourceType.name`, `ResourceType.ofName?`: their names for the host.
- `ResourceType.resource`: what each type does.
-/

namespace CloudProvider
set_option autoImplicit false

/-- The types of resources, in order of their names. -/
inductive ResourceType where
  | dnsDomain
  | dnsRecord
  | emailIdentity
  | firewallGroup
  | kubernetesCluster
  | nodePool
  | loadBalancer
  | nasInstance
  | privateLan
deriving DecidableEq

namespace ResourceType

def all : List ResourceType :=
  [dnsDomain, dnsRecord, emailIdentity, firewallGroup, kubernetesCluster, nodePool, loadBalancer,
    nasInstance, privateLan]

/-- The name of a type for the host. -/
def name : ResourceType → String
  | dnsDomain => "fleetform_dns_domain"
  | dnsRecord => "fleetform_dns_record"
  | emailIdentity => "fleetform_email_identity"
  | firewallGroup => "fleetform_firewall_group"
  | kubernetesCluster => "fleetform_kubernetes_cluster"
  | nodePool => "fleetform_kubernetes_node_pool"
  | loadBalancer => "fleetform_load_balancer"
  | nasInstance => "fleetform_nas_instance"
  | privateLan => "fleetform_private_lan"

/-- The type with this name. -/
def ofName? (name : String) : Option ResourceType :=
  all.find? (·.name = name)

/-- What a type does. -/
def resource : ResourceType → Resource
  | dnsDomain => DnsDomain.lifecycle.resource
  | dnsRecord => DnsRecord.lifecycle.resource
  | emailIdentity => EmailIdentity.lifecycle.resource
  | firewallGroup => FirewallGroup.resource
  | kubernetesCluster => KubernetesCluster.lifecycle.resource
  | nodePool => NodePool.lifecycle.resource
  | loadBalancer => LoadBalancer.lifecycle.resource
  | nasInstance => NasInstance.lifecycle.resource
  | privateLan => PrivateLan.lifecycle.resource

end ResourceType

end CloudProvider
