import CloudProvider.Network.Address
import CloudProvider.ResourceState

/-!
# Firewall rules

A rule lets traffic in. The API has no change of a rule, so that rules are matched by what they
say, and what does not match is deleted or created.

- `FirewallRule.Content`, `FirewallRule`: what a rule says, and a rule that exists.
- `FirewallRule.Content.check`: the parts of a rule fit each other.
- `FirewallRule.desired`: the rules that a resource describes.
- `FirewallRule.plan`: which rules are deleted and which are created.
-/

namespace CloudProvider
open Json
set_option autoImplicit false

/-- What a rule says. -/
structure FirewallRule.Content where
  protocol : String
  ipType : String
  subnet : String
  subnetSize : UInt8
  port : Option String
  notes : Option String
deriving DecidableEq

/-- A rule that exists. -/
structure FirewallRule where
  id : String
  content : FirewallRule.Content
deriving DecidableEq

namespace FirewallRule

/-! ## As JSON -/

/-- The fields of a rule without its identity, with `may` for those that may be missing. -/
def Content.fieldsWith (may : String → Decoder String → Record (Option String)) :
    Record Content :=
  Content.mk <$> Record.required "protocol" Decode.text
    <*> Record.required "ip_type" Decode.text
    <*> Record.required "subnet" Decode.text
    <*> Record.required "subnet_size" Decode.uint8
    <*> may "port" Decode.text
    <*> may "notes" Decode.text

def Content.fields : Record Content := fieldsWith Record.optional

/-- A rule in the form in which it is sent to the API. -/
def Content.decoder : Decoder Content :=
  Record.decoder "struct CreateFirewallRuleRequest" (fieldsWith Record.nullable)

def decoder : Decoder FirewallRule :=
  Record.decoder "struct FirewallRule" <|
    FirewallRule.mk <$> Record.required "id" Decode.text <*> Content.fields

/-- A rule of a configuration. Its identity does not count. -/
def blockDecoder : Decoder Content :=
  Record.decoder "struct RuleBlock" <|
    (fun _ content => content) <$> Record.optional "id" Decode.text <*> Content.fields

/-- A rule as it is sent to the API. What is missing is left out. -/
def Content.toJson (c : Content) : Json :=
  .object ([("ip_type", .string c.ipType)] ++ member? "notes" .string c.notes ++
    member? "port" .string c.port ++
    [("protocol", .string c.protocol), ("subnet", .string c.subnet),
      ("subnet_size", .uint8 c.subnetSize)])

/-- A rule as it is written in a configuration. What is missing is null. -/
def toBlock (r : FirewallRule) : Json :=
  .object
    [("id", .string r.id), ("ip_type", .string r.content.ipType),
      ("notes", .option .string r.content.notes), ("port", .option .string r.content.port),
      ("protocol", .string r.content.protocol), ("subnet", .string r.content.subnet),
      ("subnet_size", .uint8 r.content.subnetSize)]

def type : AttrType :=
  .object
    [("id", Attribute.computedOnly .string),
      ("ip_type",
        (Attribute.optional .string).withDefault (.string "IPV4")
          |>.validate (.oneOf ["IPV4", "IPV6"])),
      ("notes", (Attribute.optional .string).validate (.stringLength 0 255)),
      ("port",
        (Attribute.optional .string).validate (.pattern "^\\d\x7b1,5\x7d(-\\d\x7b1,5\x7d)?$")
          |>.withDescription "Single port or range such as 8000-8080; TCP and UDP only"),
      ("protocol",
        (Attribute.required .string).validate (.oneOf ["TCP", "UDP", "ICMP", "ALL"])),
      ("subnet", (Attribute.required .string).validate .ipAddress),
      ("subnet_size", (Attribute.required .int).validate (.intBetween 0 128))]

/-! ## Parts that fit each other -/

/-- The kind of address that a rule names. -/
def Content.family? (c : Content) : Option Family :=
  if c.ipType = "IPV4" then some .v4
  else if c.ipType = "IPV6" then some .v6
  else none

def protocolsWithPorts : List String := ["TCP", "UDP"]

/-- A bound of a range of ports. What is no number counts as zero. -/
def portBound (cs : List Char) : Nat :=
  (Text.readBounded? UInt32.size (String.ofList cs)).getD 0

/-- The bounds of a range of ports, which has a hyphen between them. -/
def portRange? (port : String) : Option (Nat × Nat) :=
  match port.toList.dropWhile (· ≠ '-') with
  | [] => none
  | _ :: high => some (portBound (port.toList.takeWhile (· ≠ '-')), portBound high)

/-- The range of ports is written with its lower bound first. -/
def checkPortRange (port : String) : Except ProviderError Unit :=
  match portRange? port with
  | some (low, high) =>
    if high < low then .error (.invalidConfig s!"rule port range {low}-{high} is reversed")
    else .ok ()
  | none => .ok ()

/-- The ports of a rule are in order, and its protocol has ports. -/
def Content.checkPort (c : Content) : Except ProviderError Unit :=
  match c.port with
  | none => .ok ()
  | some port =>
    if protocolsWithPorts.contains c.protocol then checkPortRange port
    else .error (.invalidConfig s!"rule port is not allowed for protocol {c.protocol}")

/-- The parts of a rule fit each other. -/
def Content.check (c : Content) : Except ProviderError Unit :=
  match Address.parse? c.subnet with
  | none =>
    .error (.invalidConfig ("rule subnet " ++ Text.quote c.subnet ++ " is not an IP address"))
  | some address =>
    if c.family? ≠ some address.family then
      .error (.invalidConfig s!"rule subnet {c.subnet} does not match ip_type {c.ipType}")
    else if address.family.bits < c.subnetSize.toNat then
      .error (.invalidConfig
        s!"rule subnet_size {c.subnetSize} exceeds {address.family.bits} for {c.ipType}")
    else c.checkPort

/-- The rule, if its parts fit each other. -/
def Content.checked (c : Content) : Except ProviderError Content := do
  c.check
  return c

/-- The rules that a resource describes. -/
def desired (s : ResourceState) : Except ProviderError (List Content) := do
  ((← s.decode (Decode.list blockDecoder) "rule").getD []).mapM Content.checked

/-! ## Changes of rules -/

/-- The list without the item at a position, whose place the last item takes. -/
def swapRemove {α : Type} (items : List α) (position : Nat) : List α :=
  match items.getLast? with
  | none => []
  | some last => (items.set position last).dropLast

/-- Which rules are deleted, by identity, and which are created. -/
structure Plan where
  delete : List String
  create : List Content
deriving DecidableEq

/-- Matches the rules that exist with the wanted ones, one to one. What is left over on either
side is deleted or created. -/
def plan : List FirewallRule → List Content → Plan
  | [], wanted => ⟨[], wanted⟩
  | r :: rest, wanted =>
    match wanted.idxOf? r.content with
    | some position => plan rest (swapRemove wanted position)
    | none =>
      let later := plan rest wanted
      { later with delete := r.id :: later.delete }

end FirewallRule

end CloudProvider
