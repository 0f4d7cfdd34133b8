import CloudProvider.Resource.KubernetesCluster

/-!
# Node pools

A group of equal machines that work for a Kubernetes cluster.

- `Autoscaling`: the limits of a pool that grows and shrinks by itself.
- `NodePool`: a pool as the API has it.
- `NodePool.Draft`, `NodePool.Changes`: what is sent to create and to change one.
- `NodePool.writeTo`: a pool written into the state of its resource.
- `NodePool.lifecycle`: the type of resource.
-/

namespace CloudProvider
open Json
set_option autoImplicit false

/-! ## Autoscaling -/

/-- The limits of a pool that grows and shrinks by itself. -/
structure Autoscaling where
  minNodes : UInt32
  maxNodes : UInt32
deriving DecidableEq

namespace Autoscaling

/-- Limits in a record of the type named `title`. -/
def decoder (title : String) : Decoder Autoscaling :=
  Record.decoder title <|
    Autoscaling.mk <$> Record.required "min_nodes" Decode.uint32
      <*> Record.required "max_nodes" Decode.uint32

def toJson (a : Autoscaling) : Json :=
  .object [("max_nodes", .uint32 a.maxNodes), ("min_nodes", .uint32 a.minNodes)]

def countAttribute : Attribute :=
  (Attribute.required .int).validate (.intBetween 1 100)

/-- The type of limits in a configuration. -/
def type : AttrType :=
  .object [("max_nodes", countAttribute), ("min_nodes", countAttribute)]

/-- The limits are in order, and the number of nodes is between them. -/
def check (a : Autoscaling) (count : UInt32) : Except ProviderError Unit :=
  if a.maxNodes < a.minNodes then
    .error (.invalidConfig
      s!"autoscaling.min_nodes ({a.minNodes}) is greater than max_nodes ({a.maxNodes})")
  else if a.minNodes ≤ count && count ≤ a.maxNodes then .ok ()
  else
    let least := a.minNodes
    let most := a.maxNodes
    .error (.invalidConfig
      s!"node_count {count} is outside the autoscaling range {least}..={most}")

/-- The limits that a resource with this number of nodes describes. -/
def ofState (count : UInt32) (s : ResourceState) : Except ProviderError (Option Autoscaling) := do
  match ← s.decode (Decode.list (decoder "struct AutoscalingBlock")) "autoscaling" with
  | some (a :: _) =>
    a.check count
    return some a
  | _ => return none

end Autoscaling

/-! ## Pools -/

/-- A pool as the API has it. -/
structure NodePool where
  id : String
  name : String
  nodeSize : String
  nodeCount : UInt32
  autoscaling : Option Autoscaling
  labels : Keyed String
  status : String
deriving DecidableEq

namespace NodePool

def decoder : Decoder NodePool :=
  Record.decoder "struct NodePool" <|
    NodePool.mk <$> Record.required "id" Decode.text
      <*> Record.required "name" Decode.text
      <*> Record.required "node_size" Decode.text
      <*> Record.required "node_count" Decode.uint32
      <*> Record.optional "autoscaling" (Autoscaling.decoder "struct Autoscaling")
      <*> Record.defaulted "labels" (Decode.map Decode.text) []
      <*> Record.required "status" Decode.text

def schema : Schema :=
  (Schema.new 0).withDescription "Group of identically sized worker nodes"
    |>.withAttribute "cluster_id" (Attribute.required .string).forceNew
    |>.withAttribute "name"
      ((Attribute.required .string).forceNew.validate (.pattern KubernetesCluster.namePattern))
    |>.withAttribute "node_size"
      ((Attribute.required .string).forceNew.withDescription
        "Instance size of every node, e.g. s-4vcpu-8gb")
    |>.withAttribute "node_count"
      (Autoscaling.countAttribute.withDescription
        "Desired node count; must sit inside the autoscaling range")
    |>.withAttribute "autoscaling" ((Attribute.optional (.list Autoscaling.type)).maxItems 1)
    |>.withAttribute "labels"
      ((Attribute.optional (.map .string)).withDescription
        "Kubernetes labels applied to every node")
    |>.withAttribute "status" (Attribute.computedOnly .string)
    |>.withTimeouts

/-! ## Requests -/

structure Draft where
  name : String
  nodeSize : String
  nodeCount : UInt32
  autoscaling : Option Autoscaling
  labels : Keyed String
deriving DecidableEq

def requestedCount (s : ResourceState) : Except ProviderError UInt32 :=
  match (s.int? "node_count").bind uint32OfInt64? with
  | some count => .ok count
  | none => .error (.invalidConfig "node_count is required")

def requestedLabels (s : ResourceState) : Except ProviderError (Keyed String) := do
  return (← s.decode (Decode.map Decode.text) "labels").getD []

def Draft.ofState (s : ResourceState) : Except ProviderError Draft := do
  let count ← requestedCount s
  return {
    name := ← s.requiredText "name"
    nodeSize := ← s.requiredText "node_size"
    nodeCount := count
    autoscaling := ← Autoscaling.ofState count s
    labels := ← requestedLabels s }

def labelsJson (labels : Keyed String) : Json :=
  .object (labels.mapValues .string)

/-- A draft as it is sent. No labels are left out. -/
def Draft.toJson (d : Draft) : Json :=
  .object (member? "autoscaling" Autoscaling.toJson d.autoscaling ++
    (if d.labels.isEmpty then [] else [("labels", labelsJson d.labels)]) ++
    [("name", .string d.name), ("node_count", .uint32 d.nodeCount),
      ("node_size", .string d.nodeSize)])

/-- What is sent to change a pool. Autoscaling may be taken away. -/
structure Changes where
  nodeCount : Option UInt32
  autoscaling : Option (Option Autoscaling)
  labels : Option (Keyed String)
deriving DecidableEq

/-- The changes that a resource asks for. The number of nodes and the limits are checked against
each other even if only one of them changes. -/
def Changes.ofState (s : ResourceState) : Except ProviderError Changes := do
  let count ← requestedCount s
  let autoscaling ← Autoscaling.ofState count s
  return {
    nodeCount := ← s.ifChanged "node_count" (.ok count)
    autoscaling := ← s.ifChanged "autoscaling" (.ok autoscaling)
    labels := ← s.ifChanged "labels" (requestedLabels s) }

def Changes.toJson (c : Changes) : Json :=
  .object (member? "autoscaling" (Json.option Autoscaling.toJson) c.autoscaling ++
    member? "labels" labelsJson c.labels ++ member? "node_count" .uint32 c.nodeCount)

/-! ## The type of resource -/

def writeTo (pool : NodePool) (s : ResourceState) : ResourceState :=
  s.set "name" (.string pool.name)
    |>.set "node_size" (.string pool.nodeSize)
    |>.set "node_count" (.uint32 pool.nodeCount)
    |>.set "autoscaling" (.array (pool.autoscaling.toList.map Autoscaling.toJson))
    |>.set "labels" (labelsJson pool.labels)
    |>.set "status" (.string pool.status)

def phases : Phases NodePool where
  status := status
  creating := ["DEPLOYING"]
  updating := ["DEPLOYING", "UPDATING", "SCALING"]
  deleting := [KubernetesCluster.active, "DESTROYING"]
  ready := KubernetesCluster.active

/-- An imported pool is named by its cluster and its own identity. -/
def adopt (id : String) (s : ResourceState) : Except ProviderError ResourceState := do
  let (cluster, pool) ← splitImportId "cluster_id/pool_id" id
  return (s.set "cluster_id" (.string cluster)).setId pool

def lifecycle : Lifecycle NodePool where
  kind := "node pool"
  schema := schema
  timeouts := .uniform (.ofMinutes 30)
  place := .inside ["kubernetes", "clusters"] "cluster_id" "node-pools"
  decoder := decoder
  identity := id
  draft _ s := do return (← Draft.ofState s).toJson
  updatable := ["node_count", "autoscaling", "labels"]
  changes s := do return (← Changes.ofState s).toJson
  writeTo := writeTo
  phases := some phases
  attachment := none
  adopt := adopt

end NodePool

end CloudProvider
