import CloudProvider.Resource.Basic
import CloudProvider.Resource.FirewallRule

/-!
# Firewall groups

A group of rules for what comes in. The rules are objects of their own, which are created and
deleted one by one.

- `FirewallGroup`: a group as the API has it.
- `FirewallGroup.writeTo`: a group with its rules written into the state of its resource.
- `FirewallGroup.create`, `FirewallGroup.read`, …: the operations.
- `FirewallGroup.resource`: the type of resource.
-/

namespace CloudProvider
open Json
set_option autoImplicit false

/-- A group as the API has it. -/
structure FirewallGroup where
  id : String
  description : String
  ruleCount : UInt32
deriving DecidableEq

namespace FirewallGroup

def decoder : Decoder FirewallGroup :=
  Record.decoder "struct FirewallGroup" <|
    FirewallGroup.mk <$> Record.required "id" Decode.text
      <*> Record.defaulted "description" Decode.text ""
      <*> Record.defaulted "rule_count" Decode.uint32 0

def listDecoder : Decoder (List FirewallRule) :=
  Record.decoder "struct ItemList" <|
    Record.defaulted "items" (Decode.list FirewallRule.decoder) []

def schema : Schema :=
  (Schema.new 0).withDescription "Firewall group with individually managed allow rules"
    |>.withAttribute "description"
      ((Attribute.optional .string).withDefault (.string "") |>.validate (.stringLength 0 255))
    |>.withAttribute "rule" (Attribute.optional (.set FirewallRule.type))

/-- What is sent to create or to change the group of a resource. -/
def draft (s : ResourceState) : Json :=
  .object [("description", .string ((s.text? "description").getD ""))]

def writeTo (group : FirewallGroup) (rules : List FirewallRule) (s : ResourceState) :
    ResourceState :=
  s.set "description" (.string group.description)
    |>.set "rule" (.array (rules.map FirewallRule.toBlock))

/-! ## The API -/

def groups : List String := ["firewall-groups"]

def rules (group : String) : List String := groups ++ [group, "rules"]

def listRules (conn : Connection) (group : String) : Step (List FirewallRule) :=
  Step.call (conn.client.get listDecoder (rules group))

def deleteRule (conn : Connection) (group rule : String) : Step Unit :=
  Step.call (conn.client.delete (rules group ++ [rule]))

def createRule (conn : Connection) (group : String) (c : FirewallRule.Content) : Step Unit := do
  let _ ← Step.call (conn.client.post FirewallRule.decoder (rules group) c.toJson)

/-! ## The operations -/

/-- Makes the rules of a group the ones that the resource describes. -/
def syncRules (conn : Connection) (group : String) : Step Unit := do
  let wanted ← Step.ofState FirewallRule.desired
  let plan := FirewallRule.plan (← listRules conn group) wanted
  plan.delete.forM (deleteRule conn group)
  plan.create.forM (createRule conn group)

/-- Reads the group and its rules. If the group is missing, so is the identity of the resource
afterwards. -/
def read (conn : Connection) : Step Unit := do
  let id ← Step.ofState (·.requireId)
  match ← Step.call (conn.client.getOptional decoder (groups ++ [id])) with
  | some group =>
    let rules ← listRules conn id
    Step.change (group.writeTo rules)
  | none => Step.change (·.clearId)

/-- Creates the group and its rules. Rules that are refused are refused before the group exists. -/
def create (conn : Connection) : Step Unit := do
  let _ ← Step.ofState FirewallRule.desired
  let body ← Step.ofState fun s => .ok (draft s)
  let group ← Step.call (conn.client.post decoder groups body)
  Step.change (·.setId group.id)
  syncRules conn group.id
  read conn

/-- Changes the description and the rules, as far as they differ. -/
def update (conn : Connection) : Step Unit := do
  let id ← Step.ofState (·.requireId)
  if ← Step.ofState fun s => .ok (s.hasChange "description") then
    let body ← Step.ofState fun s => .ok (draft s)
    let _ ← Step.call (conn.client.patch decoder (groups ++ [id]) body)
  if ← Step.ofState fun s => .ok (s.hasChange "rule") then
    syncRules conn id
  read conn

def delete (conn : Connection) : Step Unit := do
  let id ← Step.ofState (·.requireId)
  Step.call (conn.client.delete (groups ++ [id]))

def resource : Resource where
  schema := schema
  timeouts := .default
  create := create
  read := read
  update := update
  delete := delete
  adopt id s := .ok (s.setId id)

end FirewallGroup

end CloudProvider
