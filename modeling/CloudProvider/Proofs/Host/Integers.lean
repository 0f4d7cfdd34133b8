import CloudProvider.Proofs.Host.Deadlines
import CloudProvider.Proofs.Resource.Expansion
import CloudProvider.Proofs.Schema.Ranges

/-!
# Integers that are used

The integers of a configuration are checked when it is validated, and read again when they are used. Both
leave out those that are no signed words, so that such an integer is accepted, and then taken for unset.

* `Schema.Shipped`: the schemas of the provider.
* `Schema.Shipped.int?_of_valid`, `Schema.Shipped.uint32_of_valid`: what is read of an integer that
  validation accepted.
* `retries_of_valid`, `ttl_of_valid`, `priority_of_valid`: the uses of such integers.
* `integers_in_range`: what is reported and what is used.
-/

namespace CloudProvider
set_option autoImplicit false

/-- The schema of the settings, or of a resource. -/
def Schema.Shipped (s : Schema) : Prop :=
  s = Provider.schema ∨ ∃ t : ResourceType, s = t.resource.schema

namespace Schema

variable {s : Schema} {config : Keyed Json} {deadlines : Timeouts} {state : ResourceState}
  {name : String} {a : Attribute} {least most : Int64} {n : Integer}

theorem Shipped.plain (hs : s.Shipped) : plainAll s.attributes = true := by
  rcases hs with rfl | ⟨t, rfl⟩
  · exact Provider.plain
  · exact t.portrait.plain

theorem Shipped.noIdAttribute (hs : s.Shipped) :
    ResourceState.idKey ∉ s.attributes.map (·.1) := by
  rcases hs with rfl | ⟨t, rfl⟩
  · decide
  · exact t.noIdAttribute

theorem Shipped.value?_of_prepare (hs : s.Shipped)
    (hstate : (ResourceState.ofJson (.object config)).prepare s deadlines = .ok state)
    (ha : Keyed.get? name s.attributes = some a) :
    state.value? name = ((setValue? name config).map a.type.fill <|> a.traits.default) := by
  have hname : name ≠ ResourceState.idKey := by
    rintro rfl
    exact hs.noIdAttribute (List.mem_map_of_mem (mem_of_get? ha))
  have hvalues : state.values = s.fill (config.erase ResourceState.idKey) :=
    ResourceState.values_of_prepare hstate
  have hgiven : setValue? name (config.erase ResourceState.idKey) = setValue? name config :=
    congrArg (Option.filter _) (Keyed.get?_erase_of_ne _ _ _ hname)
  show setValue? name state.values = _
  rw [hvalues, Schema.fill, setValue?_fillAll hs.plain ha, hgiven]

/-- An integer that validation accepted is within its bounds and is read as it is, unless it is no signed
word. Then it is not read at all. -/
theorem Shipped.int?_of_valid (hs : s.Shipped) (hvalid : s.validate (.object config) = [])
    (hstate : (ResourceState.ofJson (.object config)).prepare s deadlines = .ok state)
    (ha : Keyed.get? name s.attributes = some a) (htype : a.type = .int)
    (hrule : .intBetween least most ∈ a.traits.validations)
    (hset : setValue? name config = some (.number (.int n))) :
    if n.IsWord then
      (∃ k, state.int? name = some k ∧ k.toInt = n.val) ∧ least.toInt ≤ n.val ∧ n.val ≤ most.toInt
    else state.int? name = none := by
  have hvalue : state.value? name = some (.number (.int n)) := by
    rw [hs.value?_of_prepare hstate ha, hset, htype]
    rfl
  have hread : state.int? name = n.toInt64? := by
    rw [ResourceState.int?, hvalue]
    rfl
  rw [hread]
  split
  · next hword =>
    obtain ⟨k, hk, hval⟩ := hword.exists_word
    have hattribute := attribute_of_attributeErrors (List.append_eq_nil_iff.mp hvalid).2 ha
    rw [hset] at hattribute
    obtain ⟨-, path, herrors⟩ := hattribute
    rw [htype] at herrors
    obtain ⟨hleast, hmost⟩ := bounds_of_errors herrors hk hrule
    exact ⟨⟨k, hk, hval⟩, hval ▸ hleast, hval ▸ hmost⟩
  · next hword => exact Integer.toInt64?_of_not_isWord hword

theorem Shipped.uint32_of_valid (hs : s.Shipped) (hvalid : s.validate (.object config) = [])
    (hstate : (ResourceState.ofJson (.object config)).prepare s deadlines = .ok state)
    (ha : Keyed.get? name s.attributes = some a) (htype : a.type = .int)
    (hrule : .intBetween least most ∈ a.traits.validations)
    (hset : setValue? name config = some (.number (.int n)))
    (hleast : 0 ≤ least.toInt) (hmost : most.toInt < 4294967296) :
    if n.IsWord then
      ∃ k u, state.int? name = some k ∧ uint32OfInt64? k = some u ∧ u.toNat = n.val.toNat
    else state.int? name = none := by
  have hread := hs.int?_of_valid hvalid hstate ha htype hrule hset
  by_cases hword : n.IsWord
  · rw [if_pos hword] at hread ⊢
    obtain ⟨⟨k, hk, hval⟩, hlow, hhigh⟩ := hread
    have hu : uint32OfInt64? k = some (UInt32.ofNat k.toInt.toNat) := by
      apply if_pos
      rw [UInt32.size]
      omega
    have hnat := uint32OfInt64?_eq_some.mp hu
    exact ⟨k, _, hk, hu, by omega⟩
  · rw [if_neg hword] at hread ⊢
    exact hread

end Schema

/-! ## Uses -/

variable {config : Keyed Json} {deadlines : Timeouts} {state : ResourceState} {n : Integer}

theorem retries_of_valid (hvalid : Provider.schema.validate (.object config) = [])
    (hstate : (ResourceState.ofJson (.object config)).prepare Provider.schema deadlines = .ok state)
    (hset : setValue? "max_retries" config = some (.number (.int n))) :
    (Provider.retryPolicy state).maxAttempts = if n.IsWord then n.val.toNat + 1 else 4 := by
  have ha : Keyed.get? "max_retries" Provider.schema.attributes = some _ := rfl
  have hread := Schema.Shipped.uint32_of_valid (.inl rfl) hvalid hstate ha rfl (.head _) hset
    (by decide) (by decide)
  unfold Provider.retryPolicy
  by_cases hword : n.IsWord
  · rw [if_pos hword] at hread ⊢
    obtain ⟨k, u, hk, hu, hnat⟩ := hread
    simp only [hk, Option.getD_some, hu, hnat]
  · rw [if_neg hword] at hread ⊢
    rw [hread]
    rfl

theorem ttl_of_valid (hvalid : DnsRecord.schema.validate (.object config) = [])
    (hstate : (ResourceState.ofJson (.object config)).prepare DnsRecord.schema deadlines = .ok state)
    (hset : setValue? "ttl" config = some (.number (.int n))) :
    ∃ ttl, DnsRecord.requestedTtl state = .ok ttl ∧
      ttl.toNat = if n.IsWord then n.val.toNat else 3600 := by
  have ha : Keyed.get? "ttl" DnsRecord.schema.attributes = some _ := rfl
  have hread := Schema.Shipped.uint32_of_valid (.inr ⟨.dnsRecord, rfl⟩) hvalid hstate ha rfl (.head _)
    hset (by decide) (by decide)
  unfold DnsRecord.requestedTtl
  by_cases hword : n.IsWord
  · rw [if_pos hword] at hread ⊢
    obtain ⟨k, u, hk, hu, hnat⟩ := hread
    simp only [hk, Option.getD_some, hu]
    exact ⟨u, rfl, hnat⟩
  · rw [if_neg hword] at hread ⊢
    rw [hread]
    exact ⟨3600, rfl, rfl⟩

theorem priority_of_valid (hvalid : DnsRecord.schema.validate (.object config) = [])
    (hstate : (ResourceState.ofJson (.object config)).prepare DnsRecord.schema deadlines = .ok state)
    (hset : setValue? "priority" config = some (.number (.int n))) :
    ∃ priority, DnsRecord.requestedPriority state = .ok priority ∧
      priority.map (·.toNat) = if n.IsWord then some n.val.toNat else none := by
  have ha : Keyed.get? "priority" DnsRecord.schema.attributes = some _ := rfl
  have hread := Schema.Shipped.uint32_of_valid (.inr ⟨.dnsRecord, rfl⟩) hvalid hstate ha rfl (.head _)
    hset (by decide) (by decide)
  unfold DnsRecord.requestedPriority
  by_cases hword : n.IsWord
  · rw [if_pos hword] at hread ⊢
    obtain ⟨k, u, hk, hu, hnat⟩ := hread
    simp only [hk, hu]
    exact ⟨some u, rfl, congrArg some hnat⟩
  · rw [if_neg hword] at hread ⊢
    rw [hread]
    exact ⟨none, rfl, rfl⟩

/-! ## Reports and uses -/

/-- Wherever validation looks at an integer with bounds, it reports the integer exactly if it is beyond
them, provided that it is a signed word; other integers are never reported. An accepted integer of the
settings or of a resource is within its bounds and is used, provided the same; others are dropped, so that
repetitions and the time to live have their default, and a record has no priority. -/
theorem integers_in_range (n : Integer) :
    (∀ (s : Schema) (members : Keyed Json) (t : Traits) (path : String) (least most : Int64),
      (s.site members).Below ⟨.int, t, .number (.int n), path⟩ →
      .intBetween least most ∈ t.validations →
      (.errorAt path (rangeText least most n.val) ∈ s.validate (.object members) ↔
        n.IsWord ∧ ¬ (least.toInt ≤ n.val ∧ n.val ≤ most.toInt))) ∧
    (∀ (s : Schema) (config : Keyed Json) (deadlines : Timeouts) (state : ResourceState) (name : String)
      (a : Attribute) (least most : Int64), s.Shipped → s.validate (.object config) = [] →
      (ResourceState.ofJson (.object config)).prepare s deadlines = .ok state →
      Keyed.get? name s.attributes = some a → a.type = .int →
      .intBetween least most ∈ a.traits.validations →
      setValue? name config = some (.number (.int n)) →
      if n.IsWord then
        (∃ k, state.int? name = some k ∧ k.toInt = n.val) ∧ least.toInt ≤ n.val ∧ n.val ≤ most.toInt
      else state.int? name = none) ∧
    (∀ (config : Keyed Json) (deadlines : Timeouts) (state : ResourceState),
      Provider.schema.validate (.object config) = [] →
      (ResourceState.ofJson (.object config)).prepare Provider.schema deadlines = .ok state →
      setValue? "max_retries" config = some (.number (.int n)) →
      (Provider.retryPolicy state).maxAttempts = if n.IsWord then n.val.toNat + 1 else 4) ∧
    ∀ (config : Keyed Json) (deadlines : Timeouts) (state : ResourceState),
      DnsRecord.schema.validate (.object config) = [] →
      (ResourceState.ofJson (.object config)).prepare DnsRecord.schema deadlines = .ok state →
      (setValue? "ttl" config = some (.number (.int n)) → ∃ ttl, DnsRecord.requestedTtl state = .ok ttl ∧
        ttl.toNat = if n.IsWord then n.val.toNat else 3600) ∧
      (setValue? "priority" config = some (.number (.int n)) →
        ∃ priority, DnsRecord.requestedPriority state = .ok priority ∧
          priority.map (·.toNat) = if n.IsWord then some n.val.toNat else none) := by
  refine ⟨fun s members t path least most => Schema.reports_range_iff, ?_, ?_, ?_⟩
  · intro s config deadlines state name a least most hs hvalid hstate ha htype hrule hset
    exact hs.int?_of_valid hvalid hstate ha htype hrule hset
  · intro config deadlines state hvalid hstate hset
    exact retries_of_valid hvalid hstate hset
  · intro config deadlines state hvalid hstate
    exact ⟨ttl_of_valid hvalid hstate, priority_of_valid hvalid hstate⟩

/-- Settings that say how often requests are repeated. -/
def repeating (n : Integer) : Keyed Json := [("max_retries", .number (.int n))]

/-- The least integer that is no signed word. -/
def unsigned : Integer := ⟨9223372036854775808, by decide, by decide⟩

theorem repeating_site (n : Integer) : ∃ t, .intBetween 0 10 ∈ t.validations ∧
    (Provider.schema.site (repeating n)).Below ⟨.int, t, .number (.int n), "max_retries"⟩ := by
  have ha : Keyed.get? "max_retries" Provider.schema.attributes = some _ := rfl
  exact ⟨_, .head _, .member (mem_of_get? ha) rfl rfl (.here _)⟩

theorem integers_in_range_retries :
    .errorAt "max_retries" (rangeText 0 10 11) ∈
      Provider.schema.validate (.object (repeating (.ofInt64 11))) ∧
    .errorAt "max_retries" (rangeText 0 10 unsigned.val) ∉
      Provider.schema.validate (.object (repeating unsigned)) ∧
    ∃ state, (ResourceState.ofJson (.object (repeating unsigned))).prepare Provider.schema .default =
      .ok state ∧ (Provider.retryPolicy state).maxAttempts = 4 := by
  obtain ⟨hreports, -, -, -⟩ := integers_in_range (.ofInt64 11)
  obtain ⟨hreports', -, hretries', -⟩ := integers_in_range unsigned
  have hvalid : Provider.schema.validate (.object (repeating unsigned)) = [] := by decide +kernel
  have hprepare := Provider.prepare_of_valid hvalid
  refine ⟨?_, ?_, _, hprepare, ?_⟩
  · obtain ⟨t, hrule, hsite⟩ := repeating_site (.ofInt64 11)
    exact (hreports _ _ t _ 0 10 hsite hrule).mpr (by decide)
  · obtain ⟨t, hrule, hsite⟩ := repeating_site unsigned
    exact mt (hreports' _ _ t _ 0 10 hsite hrule).mp (by decide)
  · exact hretries' _ _ _ hvalid hprepare rfl

end CloudProvider
