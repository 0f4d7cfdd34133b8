import CloudProvider.Network.Address
import CloudProvider.Resource.DnsDomain

/-!
# DNS records

A record in a hosted zone.

- `DnsRecord`: a record as the API has it.
- `DnsRecord.Draft`, `DnsRecord.Changes`: what is sent to create and to change one.
- `DnsRecord.check`: the parts of a record fit each other.
- `DnsRecord.writeTo`: a record written into the state of its resource.
- `DnsRecord.lifecycle`: the type of resource.
-/

namespace CloudProvider
open Json
set_option autoImplicit false

/-- A record as the API has it. -/
structure DnsRecord where
  id : String
  name : String
  type : String
  data : String
  ttl : UInt32
  priority : Option UInt32
deriving DecidableEq

namespace DnsRecord

def decoder : Decoder DnsRecord :=
  Record.decoder "struct DnsRecord" <|
    DnsRecord.mk <$> Record.required "id" Decode.text
      <*> Record.required "name" Decode.text
      <*> Record.required "type" Decode.text
      <*> Record.required "data" Decode.text
      <*> Record.required "ttl" Decode.uint32
      <*> Record.optional "priority" Decode.uint32

def types : List String := ["A", "AAAA", "CNAME", "MX", "TXT", "SRV", "NS", "CAA"]

/-- How many seconds a record is kept that does not say so. -/
def defaultTtl : Int64 := 3600

def schema : Schema :=
  (Schema.new 0).withDescription "DNS record in a hosted zone"
    |>.withAttribute "domain" DnsDomain.nameAttribute
    |>.withAttribute "name"
      ((Attribute.required .string).validate (.stringLength 1 253)
        |>.withDescription "Record name relative to the zone; @ for the apex")
    |>.withAttribute "type" ((Attribute.required .string).forceNew.validate (.oneOf types))
    |>.withAttribute "data" ((Attribute.required .string).validate (.stringLength 1 4096))
    |>.withAttribute "ttl"
      ((Attribute.optional .int).withDefault (.int64 defaultTtl)
        |>.validate (.intBetween 60 86400))
    |>.withAttribute "priority"
      ((Attribute.optional .int).validate (.intBetween 0 65535)
        |>.withDescription "Required for MX and SRV records")

/-! ## Parts that fit each other -/

def typesWithPriority : List String := ["MX", "SRV"]

/-- A record has a priority exactly if its type has one. -/
def checkPriority (type : String) (priority : Option UInt32) : Except ProviderError Unit :=
  match typesWithPriority.contains type, priority with
  | true, none => .error (.invalidConfig s!"priority is required for {type} records")
  | false, some _ => .error (.invalidConfig s!"priority is not allowed for {type} records")
  | _, _ => .ok ()

/-- An address record has an address of its kind, and the name of the zone itself is no alias. -/
def checkData (type name data : String) : Except ProviderError Unit :=
  if type = "A" && (Address.parseAs? .v4 data).isNone then
    .error (.invalidConfig ("A record data " ++ Text.quote data ++ " is not an IPv4 address"))
  else if type = "AAAA" && (Address.parseAs? .v6 data).isNone then
    .error (.invalidConfig ("AAAA record data " ++ Text.quote data ++ " is not an IPv6 address"))
  else if type = "CNAME" && name = "@" then
    .error (.invalidConfig "CNAME records cannot be created at the zone apex")
  else .ok ()

/-! ## Requests -/

structure Draft where
  name : String
  type : String
  data : String
  ttl : UInt32
  priority : Option UInt32
deriving DecidableEq

def requestedTtl (s : ResourceState) : Except ProviderError UInt32 :=
  match uint32OfInt64? ((s.int? "ttl").getD defaultTtl) with
  | some ttl => .ok ttl
  | none => .error (.invalidConfig "ttl out of range")

def requestedPriority (s : ResourceState) : Except ProviderError (Option UInt32) :=
  match s.int? "priority" with
  | none => .ok none
  | some n =>
    match uint32OfInt64? n with
    | some priority => .ok (some priority)
    | none => .error (.invalidConfig "priority out of range")

def Draft.ofState (s : ResourceState) : Except ProviderError Draft := do
  let type ← s.requiredText "type"
  let name ← s.requiredText "name"
  let data ← s.requiredText "data"
  let priority ← requestedPriority s
  checkPriority type priority
  checkData type name data
  return ⟨name, type, data, ← requestedTtl s, priority⟩

def Draft.toJson (d : Draft) : Json :=
  .object ([("data", .string d.data), ("name", .string d.name)] ++
    member? "priority" .uint32 d.priority ++ [("ttl", .uint32 d.ttl), ("type", .string d.type)])

structure Changes where
  name : Option String
  data : Option String
  ttl : Option UInt32
  priority : Option UInt32
deriving DecidableEq

/-- The changes that a resource asks for, out of a record that is checked as a whole. -/
def Changes.ofState (s : ResourceState) : Except ProviderError Changes := do
  let full ← Draft.ofState s
  return {
    name := if s.hasChange "name" then some full.name else none
    data := if s.hasChange "data" then some full.data else none
    ttl := if s.hasChange "ttl" then some full.ttl else none
    priority := if s.hasChange "priority" then full.priority else none }

def Changes.toJson (c : Changes) : Json :=
  .object (member? "data" .string c.data ++ member? "name" .string c.name ++
    member? "priority" .uint32 c.priority ++ member? "ttl" .uint32 c.ttl)

/-! ## The type of resource -/

def writeTo (r : DnsRecord) (s : ResourceState) : ResourceState :=
  s.set "name" (.string r.name)
    |>.set "type" (.string r.type)
    |>.set "data" (.string r.data)
    |>.set "ttl" (.uint32 r.ttl)
    |>.set "priority" (.option .uint32 r.priority)

/-- An imported record is named by its zone and its own identity. -/
def adopt (id : String) (s : ResourceState) : Except ProviderError ResourceState := do
  let (domain, record) ← splitImportId "domain/record_id" id
  return (s.set "domain" (.string domain)).setId record

def lifecycle : Lifecycle DnsRecord where
  kind := "DNS record"
  schema := schema
  timeouts := .default
  place := .inside ["dns", "domains"] "domain" "records"
  decoder := decoder
  identity := id
  draft _ s := do return (← Draft.ofState s).toJson
  updatable := ["name", "data", "ttl", "priority"]
  changes s := do return (← Changes.ofState s).toJson
  writeTo := writeTo
  phases := none
  attachment := none
  adopt := adopt

end DnsRecord

end CloudProvider
