import CloudProvider.Resource.Lifecycle
import CloudProvider.TimeOfDay

/-!
# Kubernetes clusters

A managed control plane. Its version never goes back, and its credentials can be read once it is
active.

- `MaintenanceWindow`: when a cluster may be maintained.
- `KubernetesVersion`: versions and their order.
- `KubernetesCluster`: a cluster as the API has it.
- `KubernetesCluster.Draft`, `KubernetesCluster.Changes`: what is sent to create and to change one.
- `KubernetesCluster.writeTo`: a cluster written into the state of its resource.
- `KubernetesCluster.lifecycle`: the type of resource.
-/

namespace CloudProvider
open Json
set_option autoImplicit false

/-! ## Maintenance windows -/

/-- When a cluster may be maintained: a day of the week and a time of day. -/
structure MaintenanceWindow where
  dayOfWeek : String
  time : String
deriving DecidableEq

namespace MaintenanceWindow

/-- A window in a record of the type named `title`. -/
def decoder (title : String) : Decoder MaintenanceWindow :=
  Record.decoder title <|
    MaintenanceWindow.mk <$> Record.required "day_of_week" Decode.text
      <*> Record.required "time" Decode.text

def toJson (w : MaintenanceWindow) : Json :=
  .object [("day_of_week", .string w.dayOfWeek), ("time", .string w.time)]

def weekdays : List String :=
  ["Monday", "Tuesday", "Wednesday", "Thursday", "Friday", "Saturday", "Sunday"]

/-- The type of windows in a configuration. -/
def type : AttrType :=
  .object
    [("day_of_week", (Attribute.required .string).validate (.oneOf weekdays)),
      ("time",
        (Attribute.required .string).validate (.pattern "^\\d\x7b2\x7d:\\d\x7b2\x7d:\\d\x7b2\x7d$")
          |>.withDescription "Start of the window in UTC, HH:MM:SS")]

/-- The window with its time in the usual spelling. -/
def normalized (w : MaintenanceWindow) : Except ProviderError MaintenanceWindow :=
  match TimeOfDay.parse w.time with
  | .ok time => .ok { w with time := time.text }
  | .error fault =>
    .error (.invalidConfig ("maintenance_window.time " ++ Text.quote w.time ++
      " is not a valid time: " ++ fault.message))

/-- The window that a resource describes. -/
def ofState (s : ResourceState) : Except ProviderError (Option MaintenanceWindow) := do
  match ← s.decode (Decode.list (decoder "struct MaintenanceWindowBlock")) "maintenance_window" with
  | some (w :: _) => some <$> w.normalized
  | _ => return none

end MaintenanceWindow

/-! ## Versions -/

/-- The numbers of a version, the most important first. -/
abbrev KubernetesVersion := List Nat

namespace KubernetesVersion

/-- The version that a text writes: numbers of at most 64 bits with points between them. -/
def parse? (s : String) : Option KubernetesVersion :=
  (s.toList.splitOn '.').mapM fun part => Text.readBounded? UInt64.size (String.ofList part)

/-- Going from one version to the other is a step back. -/
def isDowngrade (current requested : String) : Bool :=
  match parse? current, parse? requested with
  | some current, some requested => decide (requested < current)
  | _, _ => false

end KubernetesVersion

/-! ## Clusters -/

/-- A cluster as the API has it. -/
structure KubernetesCluster where
  id : String
  name : String
  version : String
  region : String
  privateLanId : Option String
  status : String
  endpoint : Option String
  maintenanceWindow : Option MaintenanceWindow
  apiAllowList : List String
deriving DecidableEq

namespace KubernetesCluster

def decoder : Decoder KubernetesCluster :=
  Record.decoder "struct KubernetesCluster" <|
    KubernetesCluster.mk <$> Record.required "id" Decode.text
      <*> Record.required "name" Decode.text
      <*> Record.required "version" Decode.text
      <*> Record.required "region" Decode.text
      <*> Record.optional "private_lan_id" Decode.text
      <*> Record.required "status" Decode.text
      <*> Record.optional "endpoint" Decode.text
      <*> Record.optional "maintenance_window"
        (MaintenanceWindow.decoder "struct MaintenanceWindow")
      <*> Record.defaulted "api_allow_list" (Decode.list Decode.text) []

/-- The pattern of names that may stand in host names. -/
def namePattern : String := "^[a-z0-9]([-a-z0-9]*[a-z0-9])?$"

def schema : Schema :=
  (Schema.new 0).withDescription "Managed Kubernetes control plane"
    |>.withAttribute "name"
      ((Attribute.required .string).validate (.stringLength 1 63)
        |>.validate (.pattern namePattern))
    |>.withAttribute "version"
      ((Attribute.required .string).validate (.pattern "^\\d+\\.\\d+(\\.\\d+)?$")
        |>.withDescription "Kubernetes version; upgrades only")
    |>.withAttribute "region" (Attribute.optional .string).computed.forceNew
    |>.withAttribute "private_lan_id" (Attribute.optional .string).forceNew
    |>.withAttribute "maintenance_window"
      ((Attribute.optional (.list MaintenanceWindow.type)).computed.maxItems 1)
    |>.withAttribute "api_allow_list"
      ((Attribute.optional (.set .string)).validate .cidr
        |>.withDescription "Networks allowed to reach the API server; empty allows all")
    |>.withAttribute "endpoint" (Attribute.computedOnly .string)
    |>.withAttribute "kubeconfig" (Attribute.computedOnly .string).sensitive
    |>.withAttribute "status" (Attribute.computedOnly .string)
    |>.withTimeouts

/-! ## Requests -/

structure Draft where
  name : String
  version : String
  region : String
  privateLanId : Option String
  maintenanceWindow : Option MaintenanceWindow
  apiAllowList : List String
deriving DecidableEq

def Draft.ofState (region : String) (s : ResourceState) : Except ProviderError Draft := do
  return {
    name := ← s.requiredText "name"
    version := ← s.requiredText "version"
    region := region
    privateLanId := s.text? "private_lan_id"
    maintenanceWindow := ← MaintenanceWindow.ofState s
    apiAllowList := s.texts "api_allow_list" }

/-- A draft as it is sent. An empty list of networks is left out. -/
def Draft.toJson (d : Draft) : Json :=
  .object
    ((if d.apiAllowList.isEmpty then [] else [("api_allow_list", .strings d.apiAllowList)]) ++
      member? "maintenance_window" MaintenanceWindow.toJson d.maintenanceWindow ++
      [("name", .string d.name)] ++ member? "private_lan_id" .string d.privateLanId ++
      [("region", .string d.region), ("version", .string d.version)])

structure Changes where
  name : Option String
  version : Option String
  maintenanceWindow : Option MaintenanceWindow
  apiAllowList : Option (List String)
deriving DecidableEq

/-- The new version, which is no step back from the one before. -/
def upgradedVersion (s : ResourceState) : Except ProviderError String := do
  let requested ← s.requiredText "version"
  match s.prior? Decode.text "version" with
  | some current =>
    if KubernetesVersion.isDowngrade current requested then
      throw (.invalidConfig s!"cannot downgrade Kubernetes from {current} to {requested}")
    else return requested
  | none => return requested

/-- The changes that a resource asks for. A window that is taken away is left as it is. -/
def Changes.ofState (s : ResourceState) : Except ProviderError Changes := do
  return {
    name := ← s.ifChanged "name" (s.requiredText "name")
    version := ← s.ifChanged "version" (upgradedVersion s)
    maintenanceWindow :=
      (← s.ifChanged "maintenance_window" (MaintenanceWindow.ofState s)).join
    apiAllowList := ← s.ifChanged "api_allow_list" (.ok (s.texts "api_allow_list")) }

def Changes.toJson (c : Changes) : Json :=
  .object (member? "api_allow_list" .strings c.apiAllowList ++
    member? "maintenance_window" MaintenanceWindow.toJson c.maintenanceWindow ++
    member? "name" .string c.name ++ member? "version" .string c.version)

/-! ## The type of resource -/

def writeTo (cluster : KubernetesCluster) (s : ResourceState) : ResourceState :=
  s.set "name" (.string cluster.name)
    |>.set "version" (.string cluster.version)
    |>.set "region" (.string cluster.region)
    |>.set "private_lan_id" (.option .string cluster.privateLanId)
    |>.set "maintenance_window"
      (.array (cluster.maintenanceWindow.toList.map MaintenanceWindow.toJson))
    |>.set "api_allow_list" (.strings cluster.apiAllowList)
    |>.set "endpoint" (.option .string cluster.endpoint)
    |>.set "status" (.string cluster.status)

def active : String := "ACTIVE"

def phases : Phases KubernetesCluster where
  status := status
  creating := ["DEPLOYING"]
  updating := ["DEPLOYING", "UPDATING"]
  deleting := [active, "DESTROYING"]
  ready := active

/-- The credentials of a cluster, which exist while it is active. -/
def credentials : Attachment KubernetesCluster where
  name := "kubeconfig"
  title := "struct KubeconfigResponse"
  available cluster := Text.sameLetters cluster.status active

def lifecycle : Lifecycle KubernetesCluster where
  kind := "Kubernetes cluster"
  schema := schema
  timeouts := .uniform (.ofMinutes 60)
  place := .top ["kubernetes", "clusters"]
  decoder := decoder
  identity := id
  draft region s := do return (← Draft.ofState (← s.region region) s).toJson
  updatable := ["name", "version", "maintenance_window", "api_allow_list"]
  changes s := do return (← Changes.ofState s).toJson
  writeTo := writeTo
  phases := some phases
  attachment := some credentials
  adopt := adoptVerbatim

end KubernetesCluster

end CloudProvider
