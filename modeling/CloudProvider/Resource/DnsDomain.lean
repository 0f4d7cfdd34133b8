import CloudProvider.Resource.Lifecycle
import CloudProvider.Text.Lowercase

/-!
# DNS domains

A zone of the domain name system that is hosted by the cloud. The name of the zone is its
identity.

- `DnsDomain`: a zone as the API has it.
- `DnsDomain.Draft`: what is sent to create one.
- `DnsDomain.writeTo`: a zone written into the state of its resource.
- `DnsDomain.lifecycle`: the type of resource.
-/

namespace CloudProvider
open Json
set_option autoImplicit false

/-- A zone as the API has it. -/
structure DnsDomain where
  domain : String
  dnssecEnabled : Bool
  defaultIp : Option String
  nameServers : List String
deriving DecidableEq

namespace DnsDomain

def decoder : Decoder DnsDomain :=
  Record.decoder "struct DnsDomain" <|
    DnsDomain.mk <$> Record.required "domain" Decode.text
      <*> Record.defaulted "dnssec_enabled" Decode.boolean false
      <*> Record.optional "default_ip" Decode.text
      <*> Record.defaulted "name_servers" (Decode.list Decode.text) []

def namePattern : String :=
  "^([a-z0-9]([-a-z0-9]\x7b0,61\x7d[a-z0-9])?\\.)+[a-z]\x7b2,63\x7d$"

def nameAttribute : Attribute :=
  (Attribute.required .string).forceNew.validate (.pattern namePattern)

def schema : Schema :=
  (Schema.new 0).withDescription "Hosted DNS zone"
    |>.withAttribute "domain" nameAttribute
    |>.withAttribute "default_ip"
      ((Attribute.optional .string).forceNew.validate .ipAddress
        |>.withDescription "Creates apex and www A/AAAA records pointing here")
    |>.withAttribute "dnssec_enabled" ((Attribute.optional .bool).withDefault (.bool false))
    |>.withAttribute "name_servers" (Attribute.computedOnly (.list .string))

/-! ## Requests -/

structure Draft where
  domain : String
  defaultIp : Option String
  dnssecEnabled : Bool
deriving DecidableEq

/-- A zone is signed only if the resource says so. -/
def requestedSigning (s : ResourceState) : Bool :=
  (s.bool? "dnssec_enabled").getD false

/-- The zone that a resource describes. Its name is in small letters. -/
def Draft.ofState (s : ResourceState) : Except ProviderError Draft := do
  return {
    domain := Text.lowercase (← s.requiredText "domain")
    defaultIp := s.text? "default_ip"
    dnssecEnabled := requestedSigning s }

def Draft.toJson (d : Draft) : Json :=
  .object (member? "default_ip" .string d.defaultIp ++
    [("dnssec_enabled", .bool d.dnssecEnabled), ("domain", .string d.domain)])

/-- What is sent to change a zone: whether it is signed. -/
def changes (s : ResourceState) : Json :=
  .object [("dnssec_enabled", .bool (requestedSigning s))]

/-! ## The type of resource -/

/-- Writes a zone into the state of its resource. The default address matters only when the zone is
created, so that a given one stays. -/
def writeTo (zone : DnsDomain) (s : ResourceState) : ResourceState :=
  let s :=
    s.set "domain" (.string zone.domain)
      |>.set "dnssec_enabled" (.bool zone.dnssecEnabled)
      |>.set "name_servers" (.strings zone.nameServers)
  if s.isSet "default_ip" then s
  else s.set "default_ip" (.option .string zone.defaultIp)

/-- The name of an imported zone, in small letters and without points at its end. -/
def importedName (id : String) : String :=
  Text.lowercase (String.ofList (id.toList.reverse.dropWhile (· = '.')).reverse)

/-- An imported zone is named by its name. -/
def adopt (id : String) (s : ResourceState) : Except ProviderError ResourceState :=
  .ok (s.setId (importedName id))

def lifecycle : Lifecycle DnsDomain where
  kind := "DNS domain"
  schema := schema
  timeouts := .default
  place := .top ["dns", "domains"]
  decoder := decoder
  identity := domain
  draft _ s := do return (← Draft.ofState s).toJson
  updatable := ["dnssec_enabled"]
  changes s := .ok (changes s)
  writeTo := writeTo
  phases := none
  attachment := none
  adopt := adopt

end DnsDomain

end CloudProvider
