import CloudProvider.Resource.ForwardingRule
import CloudProvider.Resource.Lifecycle

/-!
# Load balancers

A load balancer distributes the traffic of a region over targets, and takes out those that are not
healthy.

- `HealthCheck`: how the health of targets is checked.
- `LoadBalancer`: a load balancer as the API has it.
- `LoadBalancer.Draft`, `LoadBalancer.Changes`: what is sent to create and to change one.
- `LoadBalancer.writeTo`: a load balancer written into the state of its resource.
- `LoadBalancer.lifecycle`: the type of resource.
-/

namespace CloudProvider
open Json
set_option autoImplicit false

/-! ## Health checks -/

/-- How the health of targets is checked. -/
structure HealthCheck where
  protocol : String
  port : UInt16
  path : Option String
  intervalSeconds : UInt32
  unhealthyThreshold : UInt32
deriving DecidableEq

namespace HealthCheck

/-- A check in a record of the type named `title`. -/
def decoder (title : String) : Decoder HealthCheck :=
  Record.decoder title <|
    HealthCheck.mk <$> Record.required "protocol" Decode.text
      <*> Record.required "port" Decode.uint16
      <*> Record.optional "path" Decode.text
      <*> Record.required "interval_seconds" Decode.uint32
      <*> Record.required "unhealthy_threshold" Decode.uint32

/-- A check with its path written as `path`. -/
def toJsonWith (path : List (String × Json)) (c : HealthCheck) : Json :=
  .object ([("interval_seconds", .uint32 c.intervalSeconds)] ++ path ++
    [("port", .uint16 c.port), ("protocol", .string c.protocol),
      ("unhealthy_threshold", .uint32 c.unhealthyThreshold)])

/-- A check as it is sent to the API. A missing path is left out. -/
def toJson (c : HealthCheck) : Json :=
  c.toJsonWith (member? "path" .string c.path)

/-- A check as it is written in a configuration. A missing path is null. -/
def toBlock (c : HealthCheck) : Json :=
  c.toJsonWith [("path", .option .string c.path)]

/-- The type of checks in a configuration. -/
def type : AttrType :=
  .object
    [("interval_seconds",
        (Attribute.optional .int).withDefault (.int64 30) |>.validate (.intBetween 5 300)),
      ("path", (Attribute.optional .string).validate (.pattern "^/")),
      ("port", portAttribute),
      ("protocol", protocolAttribute),
      ("unhealthy_threshold",
        (Attribute.optional .int).withDefault (.int64 3) |>.validate (.intBetween 1 10))]

/-- The check that a resource describes. Only a check that speaks HTTP has a path. -/
def ofState (s : ResourceState) : Except ProviderError (Option HealthCheck) := do
  match ← s.decode (Decode.list (decoder "struct HealthCheckBlock")) "health_check" with
  | some (c :: _) =>
    if c.protocol = "TCP" && c.path.isSome then
      throw (.invalidConfig "health_check.path is only valid for HTTP and HTTPS checks")
    return some c
  | _ => return none

end HealthCheck

/-! ## Load balancers -/

/-- A load balancer as the API has it. -/
structure LoadBalancer where
  id : String
  name : String
  region : String
  privateLanId : Option String
  status : String
  ips : List String
  forwardingRules : List ForwardingRule
  healthCheck : Option HealthCheck
deriving DecidableEq

namespace LoadBalancer

def decoder : Decoder LoadBalancer :=
  Record.decoder "struct LoadBalancer" <|
    LoadBalancer.mk <$> Record.required "id" Decode.text
      <*> Record.required "name" Decode.text
      <*> Record.required "region" Decode.text
      <*> Record.optional "private_lan_id" Decode.text
      <*> Record.required "status" Decode.text
      <*> Record.defaulted "ips" (Decode.list Decode.text) []
      <*> Record.defaulted "forwarding_rules" (Decode.list ForwardingRule.decoder) []
      <*> Record.optional "health_check" (HealthCheck.decoder "struct HealthCheck")

def schema : Schema :=
  (Schema.new 0).withDescription "Regional load balancer distributing traffic over target IPs"
    |>.withAttribute "name" ((Attribute.required .string).validate (.stringLength 1 63))
    |>.withAttribute "region" (Attribute.optional .string).computed.forceNew
    |>.withAttribute "private_lan_id"
      ((Attribute.optional .string).forceNew.withDescription
        "Private LAN the targets are reached through")
    |>.withAttribute "forwarding_rule"
      ((Attribute.required (.list ForwardingRule.type)).minItems 1)
    |>.withAttribute "health_check" ((Attribute.optional (.list HealthCheck.type)).maxItems 1)
    |>.withAttribute "ips" (Attribute.computedOnly (.list .string))
    |>.withAttribute "status" (Attribute.computedOnly .string)
    |>.withTimeouts

/-! ## Requests -/

structure Draft where
  name : String
  region : String
  privateLanId : Option String
  forwardingRules : List ForwardingRule
  healthCheck : Option HealthCheck
deriving DecidableEq

def Draft.ofState (region : String) (s : ResourceState) : Except ProviderError Draft := do
  return {
    name := ← s.requiredText "name"
    region := region
    privateLanId := s.text? "private_lan_id"
    forwardingRules := ← ForwardingRule.ofState s
    healthCheck := ← HealthCheck.ofState s }

def rulesJson (rules : List ForwardingRule) : Json :=
  .array (rules.map ForwardingRule.toJson)

def Draft.toJson (d : Draft) : Json :=
  .object ([("forwarding_rules", rulesJson d.forwardingRules)] ++
    member? "health_check" HealthCheck.toJson d.healthCheck ++ [("name", .string d.name)] ++
    member? "private_lan_id" .string d.privateLanId ++ [("region", .string d.region)])

/-- What is sent to change a load balancer. A health check may be taken away. -/
structure Changes where
  name : Option String
  forwardingRules : Option (List ForwardingRule)
  healthCheck : Option (Option HealthCheck)
deriving DecidableEq

def Changes.ofState (s : ResourceState) : Except ProviderError Changes := do
  return {
    name := ← s.ifChanged "name" (s.requiredText "name")
    forwardingRules := ← s.ifChanged "forwarding_rule" (ForwardingRule.ofState s)
    healthCheck := ← s.ifChanged "health_check" (HealthCheck.ofState s) }

def Changes.toJson (c : Changes) : Json :=
  .object (member? "forwarding_rules" rulesJson c.forwardingRules ++
    member? "health_check" (Json.option HealthCheck.toJson) c.healthCheck ++
    member? "name" .string c.name)

/-! ## The type of resource -/

def writeTo (lb : LoadBalancer) (s : ResourceState) : ResourceState :=
  s.set "name" (.string lb.name)
    |>.set "region" (.string lb.region)
    |>.set "private_lan_id" (.option .string lb.privateLanId)
    |>.set "forwarding_rule" (.array (lb.forwardingRules.map ForwardingRule.toBlock))
    |>.set "health_check" (.array (lb.healthCheck.toList.map HealthCheck.toBlock))
    |>.set "ips" (.strings lb.ips)
    |>.set "status" (.string lb.status)

def phases : Phases LoadBalancer where
  status := status
  creating := ["BUSY", "DEPLOYING"]
  updating := ["BUSY", "DEPLOYING", "UPDATING"]
  deleting := ["AVAILABLE", "BUSY", "DESTROYING"]
  ready := "AVAILABLE"

def lifecycle : Lifecycle LoadBalancer where
  kind := "load balancer"
  schema := schema
  timeouts := .uniform (.ofMinutes 30)
  place := .top ["load-balancers"]
  decoder := decoder
  identity := id
  draft region s := do return (← Draft.ofState (← s.region region) s).toJson
  updatable := ["name", "forwarding_rule", "health_check"]
  changes s := do return (← Changes.ofState s).toJson
  writeTo := writeTo
  phases := some phases
  attachment := none
  adopt := adoptVerbatim

end LoadBalancer

end CloudProvider
