import CloudProvider.Resource.Lifecycle

/-!
# Network storage

Network attached storage inside a private network. Its capacity never shrinks.

- `NasInstance`: a storage as the API has it.
- `NasInstance.Draft`, `NasInstance.Changes`: what is sent to create and to change one.
- `NasInstance.writeTo`: a storage written into the state of its resource.
- `NasInstance.lifecycle`: the type of resource.
-/

namespace CloudProvider
open Json
set_option autoImplicit false

/-- A storage as the API has it. -/
structure NasInstance where
  id : String
  name : String
  region : String
  sizeGb : Int64
  protocol : String
  privateLanId : String
  ipAddress : Option String
  mountPath : Option String
  status : String
deriving DecidableEq

namespace NasInstance

def decoder : Decoder NasInstance :=
  Record.decoder "struct NasInstance" <|
    NasInstance.mk <$> Record.required "id" Decode.text
      <*> Record.required "name" Decode.text
      <*> Record.required "region" Decode.text
      <*> Record.required "size_gb" Decode.int64
      <*> Record.required "protocol" Decode.text
      <*> Record.required "private_lan_id" Decode.text
      <*> Record.optional "ip_address" Decode.text
      <*> Record.optional "mount_path" Decode.text
      <*> Record.required "status" Decode.text

def defaultProtocol : String := "NFS"

def schema : Schema :=
  (Schema.new 0).withDescription "Network attached storage exported over NFS or SMB"
    |>.withAttribute "name" ((Attribute.required .string).validate (.stringLength 1 63))
    |>.withAttribute "region" (Attribute.optional .string).computed.forceNew
    |>.withAttribute "size_gb"
      ((Attribute.required .int).validate (.intBetween 100 65536)
        |>.withDescription "Capacity in GB; can be increased but never decreased")
    |>.withAttribute "protocol"
      ((Attribute.optional .string).withDefault (.string defaultProtocol)
        |>.forceNew.validate (.oneOf ["NFS", "SMB"]))
    |>.withAttribute "private_lan_id" (Attribute.required .string).forceNew
    |>.withAttribute "ip_address"
      ((Attribute.optional .string).computed.forceNew.validate .ipAddress
        |>.withDescription "Address inside the private LAN; assigned when omitted")
    |>.withAttribute "mount_path" (Attribute.computedOnly .string)
    |>.withAttribute "status" (Attribute.computedOnly .string)
    |>.withTimeouts

/-! ## Requests -/

structure Draft where
  name : String
  region : String
  sizeGb : Int64
  protocol : String
  privateLanId : String
  ipAddress : Option String
deriving DecidableEq

def requestedSize (s : ResourceState) : Except ProviderError Int64 :=
  match s.int? "size_gb" with
  | some size => .ok size
  | none => .error (.invalidConfig "size_gb is required")

def Draft.ofState (region : String) (s : ResourceState) : Except ProviderError Draft := do
  return {
    name := ← s.requiredText "name"
    region := region
    sizeGb := ← requestedSize s
    protocol := (s.text? "protocol").getD defaultProtocol
    privateLanId := ← s.requiredText "private_lan_id"
    ipAddress := s.text? "ip_address" }

def Draft.toJson (d : Draft) : Json :=
  .object (member? "ip_address" .string d.ipAddress ++
    [("name", .string d.name), ("private_lan_id", .string d.privateLanId),
      ("protocol", .string d.protocol), ("region", .string d.region),
      ("size_gb", .int64 d.sizeGb)])

structure Changes where
  name : Option String
  sizeGb : Option Int64
deriving DecidableEq

/-- The new capacity, which is not below the one before. -/
def grownSize (s : ResourceState) : Except ProviderError Int64 := do
  let size ← requestedSize s
  match s.prior? Decode.int64 "size_gb" with
  | some current =>
    if size < current then
      throw (.invalidConfig
        s!"size_gb can only grow (current {current} GB, requested {size} GB)")
    else return size
  | none => return size

def Changes.ofState (s : ResourceState) : Except ProviderError Changes := do
  return {
    name := ← s.ifChanged "name" (s.requiredText "name")
    sizeGb := ← s.ifChanged "size_gb" (grownSize s) }

def Changes.toJson (c : Changes) : Json :=
  .object (member? "name" .string c.name ++ member? "size_gb" .int64 c.sizeGb)

/-! ## The type of resource -/

def writeTo (nas : NasInstance) (s : ResourceState) : ResourceState :=
  s.set "name" (.string nas.name)
    |>.set "region" (.string nas.region)
    |>.set "size_gb" (.int64 nas.sizeGb)
    |>.set "protocol" (.string nas.protocol)
    |>.set "private_lan_id" (.string nas.privateLanId)
    |>.set "ip_address" (.option .string nas.ipAddress)
    |>.set "mount_path" (.option .string nas.mountPath)
    |>.set "status" (.string nas.status)

def phases : Phases NasInstance where
  status := status
  creating := ["PROVISIONING"]
  updating := ["PROVISIONING", "UPDATING", "RESIZING"]
  deleting := ["AVAILABLE", "DESTROYING"]
  ready := "AVAILABLE"

def lifecycle : Lifecycle NasInstance where
  kind := "NAS instance"
  schema := schema
  timeouts := .default
  place := .top ["nas", "instances"]
  decoder := decoder
  identity := id
  draft region s := do return (← Draft.ofState (← s.region region) s).toJson
  updatable := ["name", "size_gb"]
  changes s := do return (← Changes.ofState s).toJson
  writeTo := writeTo
  phases := some phases
  attachment := none
  adopt := adoptVerbatim

end NasInstance

end CloudProvider
