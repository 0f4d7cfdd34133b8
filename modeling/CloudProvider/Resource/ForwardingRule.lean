import CloudProvider.ResourceState

/-!
# Forwarding rules

How a load balancer passes requests on.

- `Target`, `ForwardingRule`: a rule and the machines behind it.
- `ForwardingRule.decoder`, `ForwardingRule.blockDecoder`: rules of the API and of a
  configuration, which differ in the name of the targets.
- `ForwardingRule.checkDistinct`: names and ports are used once each.
- `ForwardingRule.ofState`: the rules that a resource describes.
-/

namespace CloudProvider
open Json
set_option autoImplicit false

/-! ## Targets -/

/-- A machine that requests are passed on to. -/
structure Target where
  ip : String
  port : UInt16
  weight : UInt32
deriving DecidableEq

namespace Target

/-- A target in a record of the type named `title`. -/
def decoder (title : String) : Decoder Target :=
  Record.decoder title <|
    Target.mk <$> Record.required "ip" Decode.text
      <*> Record.required "port" Decode.uint16
      <*> Record.required "weight" Decode.uint32

def toJson (t : Target) : Json :=
  .object [("ip", .string t.ip), ("port", .uint16 t.port), ("weight", .uint32 t.weight)]

end Target

def portAttribute : Attribute :=
  (Attribute.required .int).validate (.intBetween 1 65535)

/-- The protocols that a load balancer speaks. -/
def balancedProtocols : List String := ["HTTP", "HTTPS", "TCP"]

def protocolAttribute : Attribute :=
  (Attribute.optional .string).withDefault (.string "HTTP") |>.validate (.oneOf balancedProtocols)

/-- The type of targets in a configuration. -/
def Target.type : AttrType :=
  .object
    [("ip", (Attribute.required .string).validate .ipAddress),
      ("port", portAttribute),
      ("weight",
        (Attribute.optional .int).withDefault (.int64 1) |>.validate (.intBetween 0 256))]

/-! ## Rules -/

/-- How requests that come in at a port are passed on. -/
structure ForwardingRule where
  name : String
  protocol : String
  listenerPort : UInt16
  algorithm : String
  targets : List Target
deriving DecidableEq

namespace ForwardingRule

def decoder : Decoder ForwardingRule :=
  Record.decoder "struct ForwardingRule" <|
    ForwardingRule.mk <$> Record.required "name" Decode.text
      <*> Record.required "protocol" Decode.text
      <*> Record.required "listener_port" Decode.uint16
      <*> Record.required "algorithm" Decode.text
      <*> Record.defaulted "targets" (Decode.list (Target.decoder "struct Target")) []

/-- A rule of a configuration. -/
def blockDecoder : Decoder ForwardingRule :=
  Record.decoder "struct ForwardingRuleBlock" <|
    ForwardingRule.mk <$> Record.required "name" Decode.text
      <*> Record.required "protocol" Decode.text
      <*> Record.required "listener_port" Decode.uint16
      <*> Record.required "algorithm" Decode.text
      <*> Record.required "target" (Decode.list (Target.decoder "struct TargetBlock"))

/-- A rule whose targets have the name `targets`. -/
def toJsonWith (targets : String) (r : ForwardingRule) : Json :=
  .object
    [("algorithm", .string r.algorithm), ("listener_port", .uint16 r.listenerPort),
      ("name", .string r.name), ("protocol", .string r.protocol),
      (targets, .array (r.targets.map Target.toJson))]

/-- A rule as it is sent to the API. -/
def toJson : ForwardingRule → Json := toJsonWith "targets"

/-- A rule as it is written in a configuration. -/
def toBlock : ForwardingRule → Json := toJsonWith "target"

/-- The type of rules in a configuration. -/
def type : AttrType :=
  .object
    [("algorithm",
        (Attribute.optional .string).withDefault (.string "ROUND_ROBIN")
          |>.validate (.oneOf ["ROUND_ROBIN", "LEAST_CONNECTIONS", "SOURCE_IP"])),
      ("listener_port", portAttribute),
      ("name", (Attribute.required .string).validate (.stringLength 1 63)),
      ("protocol", protocolAttribute),
      ("target", (Attribute.required (.list Target.type)).minItems 1)]

/-! ## The rules of a resource -/

/-- No name and no port is used twice, `before` being the rules already seen. -/
def checkDistinct (before : List ForwardingRule) :
    List ForwardingRule → Except ProviderError Unit
  | [] => .ok ()
  | r :: rest =>
    if before.any (·.name = r.name) then
      .error (.invalidConfig ("duplicate forwarding_rule name " ++ Text.quote r.name))
    else if before.any (·.listenerPort = r.listenerPort) then
      .error (.invalidConfig
        s!"listener_port {r.listenerPort} is used by more than one forwarding_rule")
    else checkDistinct (r :: before) rest

/-- The rules that a resource describes. There is at least one. -/
def ofState (s : ResourceState) : Except ProviderError (List ForwardingRule) := do
  let rules := (← s.decode (Decode.list blockDecoder) "forwarding_rule").getD []
  if rules.isEmpty then throw (.invalidConfig "at least one forwarding_rule is required")
  checkDistinct [] rules
  return rules

end ForwardingRule

end CloudProvider
