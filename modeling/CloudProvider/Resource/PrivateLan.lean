import CloudProvider.Resource.Lifecycle

/-!
# Private networks

A private network connects resources inside one region.

- `PrivateLan`: a network as the API has it.
- `PrivateLan.Draft`, `PrivateLan.Changes`: what is sent to create and to change one.
- `PrivateLan.writeTo`: a network written into the state of its resource.
- `PrivateLan.lifecycle`: the type of resource.
-/

namespace CloudProvider
open Json
set_option autoImplicit false

/-- A network as the API has it. -/
structure PrivateLan where
  id : String
  name : String
  region : String
  ipRange : String
  description : Option String
  status : String
deriving DecidableEq

namespace PrivateLan

def decoder : Decoder PrivateLan :=
  Record.decoder "struct PrivateLan" <|
    PrivateLan.mk <$> Record.required "id" Decode.text
      <*> Record.required "name" Decode.text
      <*> Record.required "region" Decode.text
      <*> Record.required "ip_range" Decode.text
      <*> Record.optional "description" Decode.text
      <*> Record.required "status" Decode.text

def schema : Schema :=
  (Schema.new 0).withDescription "Private network connecting resources inside one region"
    |>.withAttribute "name" ((Attribute.required .string).validate (.stringLength 1 63))
    |>.withAttribute "region" (Attribute.optional .string).computed.forceNew
    |>.withAttribute "ip_range"
      ((Attribute.required .string).forceNew.validate .cidr
        |>.withDescription "IPv4 or IPv6 network, e.g. 10.0.0.0/24")
    |>.withAttribute "description" ((Attribute.optional .string).validate (.stringLength 0 255))
    |>.withAttribute "status" (Attribute.computedOnly .string)
    |>.withTimeouts

/-! ## Requests -/

structure Draft where
  name : String
  region : String
  ipRange : String
  description : Option String
deriving DecidableEq

def Draft.ofState (region : String) (s : ResourceState) : Except ProviderError Draft := do
  return {
    name := ← s.requiredText "name"
    region := region
    ipRange := ← s.requiredText "ip_range"
    description := s.text? "description" }

def Draft.toJson (d : Draft) : Json :=
  .object (member? "description" .string d.description ++
    [("ip_range", .string d.ipRange), ("name", .string d.name), ("region", .string d.region)])

structure Changes where
  name : Option String
  description : Option String
deriving DecidableEq

/-- The changes that a resource asks for. A description that is taken away becomes empty. -/
def Changes.ofState (s : ResourceState) : Changes where
  name := if s.hasChange "name" then s.text? "name" else none
  description :=
    if s.hasChange "description" then some ((s.text? "description").getD "") else none

def Changes.toJson (c : Changes) : Json :=
  .object (member? "description" .string c.description ++ member? "name" .string c.name)

/-! ## The type of resource -/

/-- Writes a network into the state of its resource. An empty description is none. -/
def writeTo (lan : PrivateLan) (s : ResourceState) : ResourceState :=
  s.set "name" (.string lan.name)
    |>.set "region" (.string lan.region)
    |>.set "ip_range" (.string lan.ipRange)
    |>.set "description" (.option .string (lan.description.filter (· ≠ "")))
    |>.set "status" (.string lan.status)

def phases : Phases PrivateLan where
  status := status
  creating := ["BUSY"]
  updating := ["BUSY"]
  deleting := ["AVAILABLE", "BUSY", "DESTROYING"]
  ready := "AVAILABLE"

def lifecycle : Lifecycle PrivateLan where
  kind := "private LAN"
  schema := schema
  timeouts := .default
  place := .top ["private-lans"]
  decoder := decoder
  identity := id
  draft region s := do return (← Draft.ofState (← s.region region) s).toJson
  updatable := ["name", "description"]
  changes s := .ok (Changes.ofState s).toJson
  writeTo := writeTo
  phases := some phases
  attachment := none
  adopt := adoptVerbatim

end PrivateLan

end CloudProvider
