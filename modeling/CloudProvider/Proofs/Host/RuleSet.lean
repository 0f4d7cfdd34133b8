import CloudProvider.Proofs.Host.Sending
import CloudProvider.Proofs.Resource.RulePlan
import CloudProvider.Proofs.Schema.Distinct

/-!
# The rules of a group as a set

The rules of a group are a set, of which validation sees how its elements are written. Two elements that
are written differently may say the same, so that a rule is created twice.

* `FirewallRule.SayTheSame`: two elements agree on every attribute, defaults included.
* `FirewallRule.Says`: what the element of a valid set says is what the rule says.
* `FirewallRule.nodup_of_plan`: distinct rules are created once each.
* `FirewallGroup.desired_nodup_iff`: the rules are distinct exactly if no two elements say the same.
-/

namespace CloudProvider
open Json Json.Record
set_option autoImplicit false

namespace FirewallRule

/-! ## What an element says -/

def said (element : Keyed Json) (name : String) : Option Json :=
  saidOf type.blockAttributes element name

def SayTheSame (a b : Keyed Json) : Prop :=
  ∀ name, said a name = said b name

/-- The element says what the rule says, and nothing else. -/
structure Says (element : Keyed Json) (c : Content) : Prop where
  protocol : said element "protocol" = some (.string c.protocol)
  ipType : said element "ip_type" = some (.string c.ipType)
  subnet : said element "subnet" = some (.string c.subnet)
  subnetSize : said element "subnet_size" = some (.uint8 c.subnetSize)
  port : said element "port" = c.port.map .string
  notes : said element "notes" = c.notes.map .string
  other : ∀ name, name ∉ ["protocol", "ip_type", "subnet", "subnet_size", "port", "notes"] →
    said element name = none

variable {a b element : Keyed Json} {c d : Content}

theorem uint8_injective {m n : UInt8} (h : Json.uint8 m = .uint8 n) : m = n := by
  have hm := Decode.uint8_exact.reads m
  rw [h, Decode.uint8_exact.reads n] at hm
  exact (Except.ok.inj hm).symm

theorem Says.eq_iff (ha : Says a c) (hb : Says b d) : c = d ↔ SayTheSame a b := by
  constructor
  · rintro rfl name
    by_cases hname : name ∈ ["protocol", "ip_type", "subnet", "subnet_size", "port", "notes"]
    · simp only [List.mem_cons, List.not_mem_nil, or_false] at hname
      rcases hname with rfl | rfl | rfl | rfl | rfl | rfl
      · rw [ha.protocol, hb.protocol]
      · rw [ha.ipType, hb.ipType]
      · rw [ha.subnet, hb.subnet]
      · rw [ha.subnetSize, hb.subnetSize]
      · rw [ha.port, hb.port]
      · rw [ha.notes, hb.notes]
    · rw [ha.other name hname, hb.other name hname]
  · intro hsame
    have hstring {s t : String} (h : some (Json.string s) = some (.string t)) : s = t :=
      Json.string.inj (Option.some.inj h)
    have hoption {s t : Option String} (h : s.map Json.string = t.map Json.string) : s = t :=
      Option.map_injective (fun _ _ => Json.string.inj) h
    have hprotocol : c.protocol = d.protocol :=
      hstring (ha.protocol.symm.trans ((hsame _).trans hb.protocol))
    have htype : c.ipType = d.ipType := hstring (ha.ipType.symm.trans ((hsame _).trans hb.ipType))
    have hsubnet : c.subnet = d.subnet := hstring (ha.subnet.symm.trans ((hsame _).trans hb.subnet))
    have hsize : c.subnetSize = d.subnetSize :=
      uint8_injective (Option.some.inj (ha.subnetSize.symm.trans ((hsame _).trans hb.subnetSize)))
    have hport : c.port = d.port := hoption (ha.port.symm.trans ((hsame _).trans hb.port))
    have hnotes : c.notes = d.notes := hoption (ha.notes.symm.trans ((hsame _).trans hb.notes))
    cases c
    cases d
    simp_all

theorem says_of_block {path : String} (hpath : path ≠ "")
    (hknown : unsupported type.blockAttributes path element = [])
    (herrors : attributeErrors type.blockAttributes element path = [])
    (hread : blockDecoder (.object (fillAll type.blockAttributes element)) = .ok c) :
    Says element c := by
  have hbuild := build_of_decoder hread
  simp only [Content.fields, Content.fieldsWith, seq_ok, map_ok,
    required_exact Decode.text_exact, required_exact Decode.uint8_exact,
    optional_exact Decode.text_exact (fun _ => rfl)] at hbuild
  obtain ⟨_, _, ⟨_, -, rfl⟩, ⟨_, notes, ⟨_, port, ⟨_, size, ⟨_, subnet, ⟨_, ipType,
    ⟨protocol, hprotocol, rfl⟩, htype, rfl⟩, hsubnet, rfl⟩, hsize, rfl⟩, hport, rfl⟩, hnotes, rfl⟩,
    rfl⟩ := hbuild
  have hsaid {name : String} {x : Attribute}
      (ha : Keyed.get? name type.blockAttributes = some x) (hflat : x.type.isFlat = true) :
      said element name = setValue? name (fillAll type.blockAttributes element) :=
    (setValue?_fillAll_of_isFlat (by decide) ha hflat element).symm
  have hgiven {name : String} {v : Json} (hv : v.isNull = false)
      (h : Keyed.get? name (fillAll type.blockAttributes element) = some v) :
      setValue? name (fillAll type.blockAttributes element) = some v := by
    rw [setValue?, h, Option.filter_some, hv]
    rfl
  refine ⟨(hsaid rfl rfl).trans (hgiven rfl hprotocol), (hsaid rfl rfl).trans (hgiven rfl htype),
    (hsaid rfl rfl).trans (hgiven rfl hsubnet), (hsaid rfl rfl).trans (hgiven rfl hsize),
    (hsaid rfl rfl).trans hport, (hsaid rfl rfl).trans hnotes, fun name hname => ?_⟩
  by_cases hid : name = "id"
  · -- The identity of a rule is never given, and has no default.
    subst hid
    have hunset : setValue? "id" element = none := by
      have hattribute := attribute_of_attributeErrors herrors
        (show Keyed.get? "id" type.blockAttributes = some (.computedOnly .string) from rfl)
      cases hvalue : setValue? "id" element with
      | none => rfl
      | some v =>
        rw [hvalue] at hattribute
        cases hattribute.1
    rw [said, saidOf, hunset]
    rfl
  · have hkey : name ∉ Keyed.keys type.blockAttributes := by
      have hkeys : Keyed.keys type.blockAttributes =
        ["id", "ip_type", "notes", "port", "protocol", "subnet", "subnet_size"] := rfl
      rw [hkeys]
      simp_all
    have hunset := get?_of_unsupported hknown (fun h => hpath h.2) hkey
    rw [said, saidOf, setValue?, hunset, Keyed.get?_of_not_mem hkey]
    rfl

/-! ## Rules that are created -/

theorem nodup_of_plan (found : List FirewallRule) {wanted : List Content} (h : wanted.Nodup) :
    (plan found wanted).create.Nodup := by
  refine List.nodup_iff_count_le_one.mpr fun c => ?_
  rw [count_create]
  exact Nat.le_trans (Nat.sub_le _ _) (List.nodup_iff_count_le_one.mp h c)

end FirewallRule

namespace FirewallGroup

open FirewallRule

/-- The elements of a valid configuration, and the rules that are read of them. -/
theorem rules_of_valid {config : Keyed Json} {s : ResourceState} {contents : List Content}
    (hsorted : (Json.object config).Sorted) (hvalid : schema.validate (.object config) = [])
    (hprepared : resource.prepared (.ofJson (.object config)) = .ok s)
    (hdesired : desired s = .ok contents) :
    ∃ elements : List (Keyed Json),
      (ResourceState.ofJson (.object config)).items "rule" = elements.map .object ∧
        (∀ element ∈ elements, Keyed.Ordered element) ∧
        elements.Pairwise (fun a b => (Json.object a).same (.object b) = false) ∧
        Decode.items blockDecoder
            (elements.map fun element => .object (fillAll type.blockAttributes element)) =
          .ok contents ∧
        ∀ element ∈ elements, ∀ c,
          blockDecoder (.object (fillAll type.blockAttributes element)) = .ok c → Says element c := by
  have hrule : Keyed.get? "rule" schema.attributes = some (.optional (.set FirewallRule.type)) := rfl
  have hattribute := attribute_of_attributeErrors (List.append_eq_nil_iff.mp hvalid).2 hrule
  have hgiven : setValue? "rule" (ResourceState.ofJson (.object config)).values = setValue? "rule" config :=
    congrArg (Option.filter _) (Keyed.get?_erase_of_ne _ _ _ (by decide))
  have hitems : (ResourceState.ofJson (.object config)).items "rule" =
      ((setValue? "rule" config).bind asArray?).getD [] := by
    rw [← hgiven]
    rfl
  -- What is decoded is the set with its defaults filled in.
  have hvalue : s.value? "rule" = (setValue? "rule" config).map (AttrType.set FirewallRule.type).fill := by
    have hvalues := ResourceType.prepared_values (t := .firewallGroup) hprepared
    rw [← hgiven, show s.value? "rule" = setValue? "rule" s.values from rfl, hvalues]
    refine (setValue?_fillAll portrait.plain hrule _).trans ?_
    cases setValue? "rule" (ResourceState.ofJson (.object config)).values <;> rfl
  obtain ⟨⟨blocks, hblocks, rfl⟩, -⟩ := desired_ok.mp hdesired
  rw [hitems]
  cases hset : setValue? "rule" config with
  | none =>
    rw [hset] at hvalue
    obtain rfl := ResourceState.decode_of_unset hvalue hblocks
    exact ⟨[], rfl, by simp, .nil, rfl, by simp⟩
  | some v =>
    rw [hset] at hattribute hvalue
    obtain ⟨-, path, herrors⟩ := hattribute
    obtain ⟨elements, rfl, hdistinct, hall⟩ := elements_of_errors herrors
    rcases ResourceState.decode_ok.mp hblocks with ⟨hnone, -⟩ | ⟨w, xs, hw, hread, rfl⟩
    · cases hnone.symm.trans hvalue
    have hw' : w = .array (elements.map fun element => .object (fillAll type.blockAttributes element)) :=
      (Option.some.inj (hw.symm.trans hvalue)).trans (fill_elements _ elements)
    rw [hw'] at hread
    have hv : (Json.array (elements.map .object)).Sorted :=
      hsorted.2.of_get? (Option.filter_eq_some_iff.mp hset).1
    refine ⟨elements, rfl, fun element helement => ?_, hdistinct, hread, fun element helement c hc => ?_⟩
    · exact (Json.SortedItems.of_mem hv (List.mem_map_of_mem helement)).1
    obtain ⟨path, hpath, hknown, herrors⟩ := hall element helement
    exact says_of_block hpath hknown herrors hc

/-- The rules of a valid configuration are distinct exactly if no two elements say the same, so in
particular if all of them spell out the defaults and have no null. Distinct rules are created once each;
a group that has no rules yet gets all of them, distinct or not. -/
theorem desired_nodup_iff {config : Keyed Json} {s : ResourceState} {contents : List Content}
    (hsorted : (Json.object config).Sorted) (hvalid : schema.validate (.object config) = [])
    (hprepared : resource.prepared (.ofJson (.object config)) = .ok s)
    (hdesired : desired s = .ok contents) :
    ∃ elements : List (Keyed Json),
      (ResourceState.ofJson (.object config)).items "rule" = elements.map .object ∧
      (contents.Nodup ↔ elements.Pairwise fun a b => ¬ SayTheSame a b) ∧
      ((∀ element ∈ elements, Explicit type.blockAttributes element) → contents.Nodup) ∧
      (plan [] contents).create = contents ∧
      ∀ found, contents.Nodup → (plan found contents).create.Nodup := by
  obtain ⟨elements, hitems, hordered, hdistinct, hread, hspelled⟩ :=
    rules_of_valid hsorted hvalid hprepared hdesired
  have hiff : contents.Nodup ↔ elements.Pairwise fun a b => ¬ SayTheSame a b :=
    nodup_of_items hread fun a ha b hb c d hc hd => (hspelled a ha c hc).eq_iff (hspelled b hb d hd)
  refine ⟨elements, hitems, hiff, fun hexplicit => ?_, rfl, fun found => nodup_of_plan found⟩
  refine hiff.mpr (hdistinct.imp_of_mem fun {a b} ha hb hdiffers hsame => ?_)
  obtain rfl : a = b :=
    eq_of_said (hexplicit a ha) (hexplicit b hb) (hordered a ha) (hordered b hb) hsame
  rw [Json.same_refl] at hdiffers
  cases hdiffers

/-- Two elements of a valid set, of which one spells out a default, are one rule, which is created
twice. -/
theorem desired_nodup_iff_default_spelled_out :
    let element : Keyed Json := [("protocol", .string "TCP"), ("subnet", .string "10.0.0.0"),
      ("subnet_size", .uint8 8)]
    let spelled : Keyed Json := ("ip_type", .string "IPV4") :: element
    let config : Keyed Json := [("rule", .array [.object element, .object spelled])]
    let content : Content := ⟨"TCP", "IPV4", "10.0.0.0", 8, none, none⟩
    (Json.object config).Sorted ∧ schema.validate (.object config) = [] ∧
      ∃ s, resource.prepared (.ofJson (.object config)) = .ok s ∧
        desired s = .ok [content, content] ∧ (plan [] [content, content]).create = [content, content] ∧
        SayTheSame element spelled := by
  intro element spelled config content
  have hsorted : (Json.object config).Sorted := by
    have helement : (Json.object element).Sorted :=
      ⟨show List.Pairwise (· < ·) ["protocol", "subnet", "subnet_size"] by decide,
        trivial, trivial, trivial, trivial⟩
    have hspelled : (Json.object spelled).Sorted :=
      ⟨show List.Pairwise (· < ·) ["ip_type", "protocol", "subnet", "subnet_size"] by decide,
        trivial, trivial, trivial, trivial, trivial⟩
    exact ⟨List.pairwise_singleton _ _, ⟨helement, hspelled, trivial⟩, trivial⟩
  have hvalid : schema.validate (.object config) = [] := by decide +kernel
  obtain ⟨s, hs⟩ : ∃ s, resource.prepared (.ofJson (.object config)) = .ok s := ⟨_, rfl⟩
  have hdesired : desired s = .ok [content, content] := by
    have hsome : ((resource.prepared (.ofJson (.object config))).bind desired).toOption =
        some [content, content] := by
      decide +kernel
    rw [hs, Except.bind] at hsome
    cases hrules : desired s with
    | ok rules =>
      rw [hrules] at hsome
      exact congrArg Except.ok (Option.some.inj hsome)
    | error e =>
      rw [hrules] at hsome
      cases hsome
  obtain ⟨elements, hitems, hiff, -, hplan, -⟩ := desired_nodup_iff hsorted hvalid hs hdesired
  refine ⟨hsorted, hvalid, s, hs, hdesired, hplan, ?_⟩
  have hobjects : [element, spelled].map Json.object = elements.map .object := hitems
  have helements : [element, spelled] = elements :=
    (List.map_inj_right fun _ _ => Json.object.inj).mp hobjects
  subst helements
  refine Classical.byContradiction fun hdiffer => ?_
  have hnodup : [content, content].Nodup := hiff.mpr (by simpa using hdiffer)
  exact absurd hnodup (by simp)

end FirewallGroup

end CloudProvider
