import CloudProvider.Proofs.Duration
import CloudProvider.Proofs.Host.Session
import CloudProvider.Proofs.Host.Stability
import CloudProvider.Proofs.Schema.Bounded
import CloudProvider.Proofs.Schema.Distinct

/-!
# Durations in configurations

What validation accepts as a duration is read when the configuration is used, as long as its numbers are
within their limits.

* `Timeouts.withOverrides_ok`, `Timeouts.withOverrides_error`: a block of deadlines is refused only for a
  text that is not read.
* `ResourceType.prepared_iff_inRange`, `ResourceType.out_of_range_of_refused`: valid configurations of
  resources are prepared if their deadlines are in range, and refused for one that is not.
* `Provider.pollInterval_iff_inRange`, `Server.configure_of_pause`: so is the pause of the provider, and
  configuring reports what is said about it.
* `Duration.in_range_when_accepted`: all three laws, with what configuring reports.
-/

namespace CloudProvider
open Json
set_option autoImplicit false

theorem Json.asString?_eq_some {v : Json} {s : String} : v.asString? = some s ↔ v = .string s := by
  cases v <;> simp [asString?]

/-! ## Blocks of deadlines -/

namespace Timeouts

def operations : List String := ["create", "update", "delete"]

/-- The text that a block gives for an operation. -/
def text? (block : Option Json) (operation : String) : Option String :=
  ((block.bind asObject?).bind (Keyed.get? operation)).bind asString?

theorem override_ok {block : Keyed Json} {operation : String} (current : Duration) :
    (∃ d, override block operation current = .ok d) ↔
      ∀ text, (block.get? operation).bind asString? = some text → ∃ d, Duration.parse text = .ok d := by
  rw [override]
  cases (block.get? operation).bind asString? with
  | none => simp
  | some text => simp

theorem withOverrides_ok (t : Timeouts) (block : Option Json) :
    (∃ t', t.withOverrides block = .ok t') ↔
      ∀ operation ∈ operations, ∀ text, text? block operation = some text →
        ∃ d, Duration.parse text = .ok d := by
  simp only [withOverrides, text?]
  cases block.bind asObject? with
  | none => simp
  | some members =>
    have hall (P : String → Prop) :
        (∀ operation ∈ operations, P operation) ↔ P "create" ∧ P "update" ∧ P "delete" := by
      simp [operations]
    rw [hall]
    simp only [Option.bind_some]
    rw [← override_ok t.create, ← override_ok t.update, ← override_ok t.delete]
    constructor
    · rintro ⟨t', h⟩
      obtain ⟨create, hcreate, h⟩ := bind_ok.mp h
      obtain ⟨update, hupdate, h⟩ := bind_ok.mp h
      obtain ⟨delete, hdelete, -⟩ := bind_ok.mp h
      exact ⟨⟨create, hcreate⟩, ⟨update, hupdate⟩, delete, hdelete⟩
    · rintro ⟨⟨create, hcreate⟩, ⟨update, hupdate⟩, delete, hdelete⟩
      exact ⟨_, bind_ok.mpr ⟨create, hcreate, bind_ok.mpr ⟨update, hupdate,
        bind_ok.mpr ⟨delete, hdelete, rfl⟩⟩⟩⟩

theorem override_error {block : Keyed Json} {operation : String} {current : Duration} {e : ProviderError}
    (h : override block operation current = .error e) :
    ∃ text, (block.get? operation).bind asString? = some text ∧ Duration.parse text = .error e := by
  rw [override] at h
  cases htext : (block.get? operation).bind asString? with
  | none =>
    rw [htext] at h
    cases h
  | some text =>
    rw [htext] at h
    exact ⟨text, rfl, h⟩

theorem withOverrides_error {t : Timeouts} {block : Option Json} {e : ProviderError}
    (h : t.withOverrides block = .error e) :
    ∃ operation ∈ operations, ∃ text, text? block operation = some text ∧
      Duration.parse text = .error e := by
  have hgiven {members : Keyed Json} {operation : String} {current : Duration}
      (hmembers : block.bind asObject? = some members) (hoperation : operation ∈ operations)
      (h : override members operation current = .error e) :
      ∃ operation ∈ operations, ∃ text, text? block operation = some text ∧
        Duration.parse text = .error e := by
    obtain ⟨text, htext, hparse⟩ := override_error h
    exact ⟨operation, hoperation, text, by rw [text?, hmembers]; exact htext, hparse⟩
  rw [withOverrides] at h
  cases hmembers : block.bind asObject? with
  | none =>
    rw [hmembers] at h
    cases h
  | some members =>
    rw [hmembers] at h
    rcases bind_error.mp h with hcreate | ⟨create, -, h⟩
    · exact hgiven hmembers (by decide) hcreate
    · rcases bind_error.mp h with hupdate | ⟨update, -, h⟩
      · exact hgiven hmembers (by decide) hupdate
      · rcases bind_error.mp h with hdelete | ⟨delete, -, h⟩
        · exact hgiven hmembers (by decide) hdelete
        · cases h

/-- The attributes of a block. -/
def attributes : List (String × Attribute) :=
  [("create", Schema.deadline), ("delete", Schema.deadline), ("update", Schema.deadline)]

theorem get?_attributes {operation : String} (h : operation ∈ operations) :
    Keyed.get? operation attributes = some Schema.deadline := by
  simp only [operations, List.mem_cons, List.not_mem_nil, or_false] at h
  rcases h with rfl | rfl | rfl <;> rfl

/-- The deadlines of a block have no defaults, so that filling leaves their texts as they are. -/
theorem text?_fill (v : Json) {operation : String} (h : operation ∈ operations) :
    text? (some (Schema.timeoutsBlock.type.fill v)) operation = text? (some v) operation := by
  cases v with
  | object members =>
    have hfill : Schema.timeoutsBlock.type.fill (.object members) =
        .object (fillAll attributes members) := by
      change (AttrType.object attributes).fill (.object members) = _
      rw [AttrType.fill]
      rfl
    have hget : Keyed.get? operation (fillAll attributes members) = Keyed.get? operation members := by
      rw [get?_fillAll_of_get? (by decide) (get?_attributes h)]
      cases hvalue : (Keyed.get? operation members).filter (!·.isNull) with
      | none => rfl
      | some v => exact (Option.filter_eq_some_iff.mp hvalue).1.symm
    rw [hfill]
    exact congrArg (·.bind asString?) hget
  | _ =>
    change text? (some ((AttrType.object attributes).fill _)) _ = _
    rw [AttrType.fill]
    rfl

theorem text?_get? (values : Keyed Json) (key operation : String) :
    text? (values.get? key) operation = text? (setValue? key values) operation := by
  rw [setValue?]
  cases values.get? key with
  | none => rfl
  | some v => cases v <;> rfl

end Timeouts

theorem check_of_string_errors {t : Traits} {path : String} {v : Json} {rule : Validation}
    (h : AttrType.string.errors t v path = []) (hrule : rule ∈ t.validations) : rule.check v = none := by
  obtain ⟨s, rfl⟩ := eq_string_of_errors h
  exact check_of_ruleErrors (show ruleErrors t path _ = [] from h) hrule

/-! ## Resources -/

namespace ResourceType

/-- The text of a deadline that a configuration gives for an operation. -/
def deadline? (config : Keyed Json) (operation : String) : Option String :=
  Timeouts.text? (setValue? Schema.timeoutsName config) operation

theorem timeouts_attribute (t : ResourceType) :
    Keyed.get? Schema.timeoutsName t.resource.schema.attributes = some Schema.timeoutsBlock ∨
      Schema.timeoutsName ∉ Keyed.keys t.resource.schema.attributes := by
  cases t
  case dnsDomain | dnsRecord | emailIdentity | firewallGroup => exact .inr (by decide)
  all_goals exact .inl rfl

theorem check_deadline {t : ResourceType} {config : Keyed Json}
    (hvalid : t.resource.schema.validate (.object config) = []) {operation text : String}
    (hoperation : operation ∈ Timeouts.operations) (htext : deadline? config operation = some text) :
    Validation.duration.check (.string text) = none := by
  obtain ⟨hknown, herrors⟩ := List.append_eq_nil_iff.mp hvalid
  obtain ⟨v, hv, hstring⟩ := Option.bind_eq_some_iff.mp htext
  obtain ⟨members, hmembers, hget⟩ := Option.bind_eq_some_iff.mp hv
  obtain ⟨block, hblock, hobject⟩ := Option.bind_eq_some_iff.mp hmembers
  obtain rfl := Json.asObject?_eq_some.mp hobject
  rcases t.timeouts_attribute with hattribute | hnot
  · have hset := attribute_of_attributeErrors herrors hattribute
    rw [hblock] at hset
    obtain ⟨-, path, hblockErrors⟩ := hset
    change (AttrType.object Timeouts.attributes).errors _ (.object members) path = [] at hblockErrors
    rw [AttrType.errors] at hblockErrors
    have hdeadline := attribute_of_attributeErrors (List.append_eq_nil_iff.mp hblockErrors).2
      (Timeouts.get?_attributes hoperation)
    obtain rfl := Json.asString?_eq_some.mp hstring
    rw [setValue?, hget] at hdeadline
    obtain ⟨-, path', hstringErrors⟩ := hdeadline
    exact check_of_string_errors hstringErrors (.head _)
  · have hnone := get?_of_unsupported hknown (fun hid => absurd hid.1 (by decide)) hnot
    rw [setValue?, hnone] at hblock
    cases hblock

/-- Filling in defaults leaves the deadlines of a configuration as they are. -/
theorem deadline?_fill (t : ResourceType) (config : Keyed Json) {operation : String}
    (hoperation : operation ∈ Timeouts.operations) :
    Timeouts.text? ((t.resource.schema.fill (config.erase ResourceState.idKey)).get? Schema.timeoutsName)
      operation = deadline? config operation := by
  have hgiven : setValue? Schema.timeoutsName (config.erase ResourceState.idKey) =
      setValue? Schema.timeoutsName config :=
    congrArg (Option.filter _) (Keyed.get?_erase_of_ne _ _ _ (by decide))
  rw [Timeouts.text?_get?, deadline?, ← hgiven, Schema.fill]
  generalize config.erase ResourceState.idKey = values
  -- Filling in defaults reaches the block only where the type has deadlines.
  rcases t.timeouts_attribute with hattribute | hnot
  · rw [setValue?_fillAll t.portrait.plain hattribute]
    cases setValue? Schema.timeoutsName values with
    | none => rfl
    | some v => exact Timeouts.text?_fill v hoperation
  · rw [setValue?, get?_fillAll hnot, setValue?]

/-- A valid configuration of a resource is prepared exactly if its deadlines are in range. -/
theorem prepared_iff_inRange {t : ResourceType} {config : Keyed Json}
    (hvalid : t.resource.schema.validate (.object config) = [])
    (hascii : ∀ operation text, deadline? config operation = some text → Duration.AsciiDigits text) :
    (∃ s, t.resource.prepared (.ofJson (.object config)) = .ok s) ↔
      ∀ operation ∈ Timeouts.operations, ∀ text, deadline? config operation = some text →
        Duration.InRange text := by
  have hprepared : (∃ s, t.resource.prepared (.ofJson (.object config)) = .ok s) ↔
      ∃ timeouts, t.resource.timeouts.withOverrides ((t.resource.schema.fill
        (config.erase ResourceState.idKey)).get? Schema.timeoutsName) = .ok timeouts := by
    constructor
    · rintro ⟨s, hs⟩
      obtain ⟨timeouts, htimeouts, -⟩ := bind_ok.mp hs
      exact ⟨timeouts, htimeouts⟩
    · rintro ⟨timeouts, htimeouts⟩
      exact ⟨_, bind_ok.mpr ⟨timeouts, htimeouts, rfl⟩⟩
  rw [hprepared, Timeouts.withOverrides_ok]
  refine forall_congr' fun operation => forall_congr' fun hoperation => forall_congr' fun text => ?_
  rw [t.deadline?_fill config hoperation]
  refine forall_congr' fun hgiven => ?_
  exact Duration.parse_iff_inRange (check_deadline hvalid hoperation hgiven) (hascii _ _ hgiven)

/-- What is refused is refused for a deadline that is not read, and with what is said about that. -/
theorem prepared_error {t : ResourceType} {config : Keyed Json} {e : ProviderError}
    (h : t.resource.prepared (.ofJson (.object config)) = .error e) :
    ∃ operation ∈ Timeouts.operations, ∃ text, deadline? config operation = some text ∧
      Duration.parse text = .error e := by
  rcases bind_error.mp h with htimeouts | ⟨timeouts, -, h⟩
  · obtain ⟨operation, hoperation, text, htext, hparse⟩ := Timeouts.withOverrides_error htimeouts
    exact ⟨operation, hoperation, text, (t.deadline?_fill config hoperation).symm.trans htext, hparse⟩
  · cases h

/-- A valid configuration that is refused has a deadline that is out of range. -/
theorem out_of_range_of_refused {t : ResourceType} {config : Keyed Json} {e : ProviderError}
    (hvalid : t.resource.schema.validate (.object config) = [])
    (hascii : ∀ operation text, deadline? config operation = some text → Duration.AsciiDigits text)
    (h : t.resource.prepared (.ofJson (.object config)) = .error e) :
    ∃ operation ∈ Timeouts.operations, ∃ text, deadline? config operation = some text ∧
      ¬ Duration.InRange text ∧ Duration.parse text = .error e ∧ ∃ reason, e = .invalidConfig reason := by
  obtain ⟨operation, hoperation, text, hgiven, hparse⟩ := prepared_error h
  have hnot : ¬ Duration.InRange text := by
    intro hrange
    obtain ⟨d, hd⟩ := Duration.parse_of_inRange hrange
    cases hd.symm.trans hparse
  obtain ⟨reason, hreason⟩ :=
    Duration.refused_of_not_inRange (check_deadline hvalid hoperation hgiven) (hascii _ _ hgiven) hnot
  exact ⟨operation, hoperation, text, hgiven, hnot, hparse, reason,
    Except.error.inj (hparse.symm.trans hreason)⟩

end ResourceType

/-! ## The provider -/

namespace Provider

/-- The text of the pause that a configuration gives. -/
def pollInterval? (config : Keyed Json) : Option String :=
  (setValue? "poll_interval" config).bind asString?

def pollAttribute : Attribute :=
  (Attribute.optional .string).withDefault (.string defaultPollInterval)
    |>.validate .duration
    |>.withDescription "Delay between status checks while waiting on the API"

theorem get?_pollAttribute : Keyed.get? "poll_interval" schema.attributes = some pollAttribute := rfl

theorem plain : plainAll schema.attributes = true := by decide +kernel

/-- The provider has no block of deadlines, so that a valid configuration is prepared. -/
theorem prepare_of_valid {config : Keyed Json} (hvalid : schema.validate (.object config) = []) :
    (ResourceState.ofJson (.object config)).prepare schema .default =
      .ok { ResourceState.ofJson (.object config) with
        values := schema.fill (config.erase ResourceState.idKey) } := by
  have hnot : Schema.timeoutsName ∉ Keyed.keys schema.attributes := by decide +kernel
  have hnone : config.get? Schema.timeoutsName = none :=
    get?_of_unsupported (List.append_eq_nil_iff.mp hvalid).1 (fun hid => absurd hid.1 (by decide)) hnot
  have hblock : (schema.fill (config.erase ResourceState.idKey)).get? Schema.timeoutsName = none := by
    rw [Schema.fill, get?_fillAll hnot, Keyed.get?_erase_of_ne _ _ _ (by decide), hnone]
  have htimeouts : Timeouts.default.withOverrides
      ((schema.fill (config.erase ResourceState.idKey)).get? Schema.timeoutsName) = .ok .default := by
    rw [hblock]
    rfl
  exact bind_ok.mpr ⟨.default, htimeouts, rfl⟩

theorem pollInterval_filled {config : Keyed Json} (hvalid : schema.validate (.object config) = []) :
    (setValue? "poll_interval" (schema.fill (config.erase ResourceState.idKey))).bind asString? =
        some ((pollInterval? config).getD defaultPollInterval) ∧
      ∀ text, pollInterval? config = some text → Validation.duration.check (.string text) = none := by
  have hgiven : setValue? "poll_interval" (config.erase ResourceState.idKey) =
      setValue? "poll_interval" config :=
    congrArg (Option.filter _) (Keyed.get?_erase_of_ne _ _ _ (by decide))
  have hset := attribute_of_attributeErrors (List.append_eq_nil_iff.mp hvalid).2 get?_pollAttribute
  rw [Schema.fill, setValue?_fillAll plain get?_pollAttribute, hgiven, pollInterval?]
  cases hvalue : setValue? "poll_interval" config with
  | none => exact ⟨rfl, fun text htext => by cases htext⟩
  | some v =>
    rw [hvalue] at hset
    obtain ⟨-, path, herrors⟩ := hset
    obtain ⟨text, rfl⟩ := eq_string_of_errors herrors
    refine ⟨rfl, fun text' htext => ?_⟩
    obtain rfl := Option.some.inj htext
    exact check_of_string_errors herrors (.head _)

theorem pollInterval_iff_inRange {config : Keyed Json} (hvalid : schema.validate (.object config) = [])
    (hascii : ∀ text, pollInterval? config = some text → Duration.AsciiDigits text) :
    (∃ d, Duration.parse ((pollInterval? config).getD defaultPollInterval) = .ok d) ↔
      ∀ text, pollInterval? config = some text → Duration.InRange text := by
  have hcheck := (pollInterval_filled hvalid).2
  cases hgiven : pollInterval? config with
  | none => simpa using (⟨_, rfl⟩ : ∃ d, Duration.parse defaultPollInterval = .ok d)
  | some text => simpa using Duration.parse_iff_inRange (hcheck text hgiven) (hascii text hgiven)

/-- The settings are looked at first, and then the pause. -/
theorem connection_of_error {env : Environment} {values : ResourceState} {e : ProviderError}
    (hpause : Duration.parse ((values.text? "poll_interval").getD defaultPollInterval) = .error e) :
    connection env values =
      match Settings.resolve env (explicit values) (values.text? "profile") with
      | .ok _ => .error e
      | .error refusal => .error (.invalidConfig refusal.message) := by
  rw [connection, hpause]
  cases Settings.resolve env (explicit values) (values.text? "profile") <;> rfl

end Provider

namespace Server

/-- A valid configuration that no connection can be made from is reported, and the one in force stays. -/
theorem configure_of_error {env : Environment} {config : Json} {values : ResourceState}
    {e : ProviderError} (hvalid : Provider.schema.validate config = [])
    (hprepare : (ResourceState.ofJson config).prepare Provider.schema .default = .ok values)
    (hconnection : Provider.connection env values = .error e) (s : Server) (w : World) :
    configure env config s w = ([configurationFailed e], s, w) := by
  have hclean : ¬ Diagnostics.hasErrors [] = true := by decide
  rcases Provider.configure_cases env values w with ⟨e', he', hrun⟩ | ⟨conn, hconn, -⟩
  · obtain rfl := Except.error.inj (he'.symm.trans hconnection)
    rw [configure, hvalid, if_neg hclean, hprepare]
    simp only [hrun]
    rfl
  · cases hconn.symm.trans hconnection

theorem configure_of_pause {config : Keyed Json} {values : ResourceState} {text : String}
    {e : ProviderError} (hvalid : Provider.schema.validate (.object config) = [])
    (hprepare : (ResourceState.ofJson (.object config)).prepare Provider.schema .default = .ok values)
    (htext : values.text? "poll_interval" = some text) (hparse : Duration.parse text = .error e)
    (env : Environment) (s : Server) (w : World) :
    configure env (.object config) s w =
      match Settings.resolve env (Provider.explicit values) (values.text? "profile") with
      | .ok _ => ([configurationFailed e], s, w)
      | .error refusal => ([configurationFailed (.invalidConfig refusal.message)], s, w) := by
  have hpause : Duration.parse ((values.text? "poll_interval").getD Provider.defaultPollInterval) =
      .error e := by
    rw [htext]
    exact hparse
  have hconnection := @Provider.connection_of_error env _ _ hpause
  split at hconnection <;> exact configure_of_error hvalid hprepare hconnection s w

end Server

/-! ## All durations -/

/-- A duration that validation accepts, with ASCII digits, is read exactly if it is in range, and refused as
a setting that is not valid if not. So a valid configuration of a resource is prepared exactly if its
deadlines are in range, and refused for one that is not. A valid configuration of the provider is always
prepared, and its pause is read exactly if it is in range. If it is not, configuring leaves the connection in
force and reports what is said about the pause, or why there are no settings, which are looked at first. -/
theorem Duration.in_range_when_accepted :
    (∀ text, Validation.duration.check (.string text) = none → AsciiDigits text →
      ((∃ d, parse text = .ok d) ↔ InRange text) ∧
        (¬ InRange text → ∃ reason, parse text = .error (.invalidConfig reason))) ∧
    (∀ (t : ResourceType) (config : Keyed Json), t.resource.schema.validate (.object config) = [] →
      (∀ operation text, ResourceType.deadline? config operation = some text → AsciiDigits text) →
      ((∃ s, t.resource.prepared (.ofJson (.object config)) = .ok s) ↔
        ∀ operation ∈ Timeouts.operations, ∀ text,
          ResourceType.deadline? config operation = some text → InRange text) ∧
      ∀ e, t.resource.prepared (.ofJson (.object config)) = .error e →
        ∃ operation ∈ Timeouts.operations, ∃ text, ResourceType.deadline? config operation = some text ∧
          ¬ InRange text ∧ parse text = .error e ∧ ∃ reason, e = .invalidConfig reason) ∧
    ∀ config : Keyed Json, Provider.schema.validate (.object config) = [] →
      ∃ values, (ResourceState.ofJson (.object config)).prepare Provider.schema .default = .ok values ∧
        ((∀ text, Provider.pollInterval? config = some text → AsciiDigits text) →
          ((∃ d, parse ((values.text? "poll_interval").getD Provider.defaultPollInterval) = .ok d) ↔
            ∀ text, Provider.pollInterval? config = some text → InRange text) ∧
          ∀ text, Provider.pollInterval? config = some text → ¬ InRange text →
            ∃ reason, parse text = .error (.invalidConfig reason) ∧
              ∀ (env : Environment) (s : Server) (w : World),
                Server.configure env (.object config) s w =
                  match Settings.resolve env (Provider.explicit values) (values.text? "profile") with
                  | .ok _ => ([Server.configurationFailed (.invalidConfig reason)], s, w)
                  | .error refusal =>
                    ([Server.configurationFailed (.invalidConfig refusal.message)], s, w)) := by
  refine ⟨fun text hcheck hascii => ⟨parse_iff_inRange hcheck hascii, refused_of_not_inRange hcheck hascii⟩,
    fun t config hvalid hascii => ⟨ResourceType.prepared_iff_inRange hvalid hascii,
      fun e he => ResourceType.out_of_range_of_refused hvalid hascii he⟩,
    fun config hvalid => ?_⟩
  obtain ⟨hfilled, hcheck⟩ := Provider.pollInterval_filled hvalid
  have hprepare := Provider.prepare_of_valid hvalid
  generalize hvalues : ({ ResourceState.ofJson (.object config) with
    values := Provider.schema.fill (config.erase ResourceState.idKey) } : ResourceState) = values
      at hprepare
  have htext : values.text? "poll_interval" =
      some ((Provider.pollInterval? config).getD Provider.defaultPollInterval) := by
    rw [← hvalues]
    exact hfilled
  refine ⟨values, hprepare, fun hascii => ⟨?_, fun text hgiven hnot => ?_⟩⟩
  · rw [htext]
    exact Provider.pollInterval_iff_inRange hvalid hascii
  · obtain ⟨reason, hreason⟩ := refused_of_not_inRange (hcheck text hgiven) (hascii text hgiven) hnot
    rw [hgiven] at htext
    exact ⟨reason, hreason, Server.configure_of_pause hvalid hprepare htext hreason⟩

/-- The texts `1h30m`, `20m` and `5s` are accepted and read, as a deadline and as a pause. -/
theorem Duration.in_range_when_accepted_examples :
    let config : Keyed Json := [("name", .string "prod"), ("timeouts", .object [("create", .string "20m")]),
      ("version", .string "1.30")]
    let provider : Keyed Json := [("poll_interval", .string "5s"), ("token", .string "secret")]
    Validation.duration.check (.string "1h30m") = none ∧ InRange "1h30m" ∧
      ResourceType.kubernetesCluster.resource.schema.validate (.object config) = [] ∧ InRange "20m" ∧
      Provider.schema.validate (.object provider) = [] ∧ InRange "5s" := by
  intro config provider
  obtain ⟨htext, hresource, hprovider⟩ := in_range_when_accepted
  have hascii {text : String}
      (h : text.toList.all (fun c => !Text.isDecimalDigit c || Text.isDigit c) = true) :
      AsciiDigits text := by
    intro c hc hdigit
    simpa [hdigit] using List.all_eq_true.mp h c hc
  have haccepted : Validation.duration.check (.string "1h30m") = none := by decide +kernel
  have hvalid : ResourceType.kubernetesCluster.resource.schema.validate (.object config) = [] := by
    decide +kernel
  have hvalid' : Provider.schema.validate (.object provider) = [] := by decide +kernel
  have hdeadline (operation text : String) (h : ResourceType.deadline? config operation = some text) :
      text = "20m" := by
    change (Keyed.get? operation [("create", Json.string "20m")]).bind asString? = some text at h
    rw [Keyed.get?_cons] at h
    split at h
    · exact (Option.some.inj h).symm
    · cases h
  have hpause (text : String) (h : Provider.pollInterval? provider = some text) : text = "5s" :=
    (Option.some.inj h).symm
  have hok {α : Type} {x : Except ProviderError α} (h : x.isOk = true) : ∃ a, x = .ok a := by
    cases x with
    | ok a => exact ⟨a, rfl⟩
    | error e => cases h
  have hrange := (htext "1h30m" haccepted (hascii (by decide +kernel))).1.mp (hok (by decide +kernel))
  have hcreate := (hresource .kubernetesCluster config hvalid fun operation text h =>
    hdeadline operation text h ▸ hascii (by decide +kernel)).1.mp (hok (by decide +kernel)) "create"
      (.head _) "20m" rfl
  obtain ⟨values, hvalues, hpauses⟩ := hprovider provider hvalid'
  obtain ⟨hiff, -⟩ := hpauses fun text h => hpause text h ▸ hascii (by decide +kernel)
  have hfilled : ((ResourceState.ofJson (.object provider)).prepare Provider.schema .default).toOption.bind
      (·.text? "poll_interval") = some "5s" := by
    decide +kernel
  rw [hvalues] at hfilled
  have hread : ∃ d, parse ((values.text? "poll_interval").getD Provider.defaultPollInterval) = .ok d := by
    rw [show values.text? "poll_interval" = some "5s" from hfilled]
    exact hok (by decide +kernel)
  exact ⟨haccepted, hrange, hvalid, hcreate, hvalid', hiff.mp hread "5s" rfl⟩

/-- A number of hours that validation accepts, for a deadline or a pause, but that is too many milliseconds
to be read. -/
theorem Duration.too_large_when_accepted :
    Validation.duration.check (.string "9999999999999999999h") = none ∧
      Provider.schema.validate (.object [("poll_interval", .string "9999999999999999999h")]) = [] ∧
      ¬ ∃ d, parse "9999999999999999999h" = .ok d := by
  refine ⟨by decide +kernel, by decide +kernel, fun ⟨d, hd⟩ => ?_⟩
  have hrefused : (parse "9999999999999999999h").isOk = false := by decide +kernel
  rw [hd] at hrefused
  cases hrefused

end CloudProvider
