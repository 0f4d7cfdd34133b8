import CloudProvider.Proofs.Resource.Entries
import CloudProvider.Proofs.Schema.Valid
import CloudProvider.Proofs.TimeOfDay

/-!
# Blocks of configurations

What a block describes is sent to the API, comes back from it and is written as a block again, which
becomes equal to the first one.

* `Target.reads`, `ForwardingRule.reads`, …: the API's way of writing is read as it was written.
* `ForwardingRule.reads_block`, `HealthCheck.reads_block`, …: so is a block.
* `Target.normalize_eq`, `ForwardingRule.normalize_eq`, …: a block and what is written of it.
-/

namespace CloudProvider
open Json Json.Record
set_option autoImplicit false

theorem normalize_blocks {α : Type} {decode : Decoder α} {encode : α → Json}
    {attributes : List (String × Attribute)} {blocks : List (Keyed Json)} {xs : List α}
    (hblocks : ∀ block ∈ blocks, PlannedBlock attributes block)
    (hlist : Decode.list decode (.array (blocks.map .object)) = .ok xs)
    (h : ∀ block x, PlannedBlock attributes block → decode (.object block) = .ok x →
      normalize (.object block) = normalize (encode x)) :
    normalize (.array (blocks.map .object)) = normalize (.array (xs.map encode)) := by
  refine normalize_items hlist fun v hv x hx => ?_
  obtain ⟨block, hblock, rfl⟩ := List.mem_map.mp hv
  exact h block x (hblocks block hblock) hx

theorem normalize_singleton {v w : Json} (h : normalize v = normalize w) :
    normalize (.array [v]) = normalize (.array [w]) := by
  simp only [normalize, normalizeItems, h]

theorem decode_single {α : Type} {s : ResourceState} {key : String} {decode : Decoder α}
    {attributes inner : Keyed Attribute} {a : Attribute} {xs : Option (List α)}
    (hplanned : Planned attributes s.values) (hplain : plainAll attributes = true)
    (ha : Keyed.get? key attributes = some a) (htype : a.type = .list (.object inner))
    (hdefault : a.traits.default = none) (hmost : a.traits.maxItems = some 1)
    (h : s.decode (Decode.list decode) key = .ok xs) :
    (s.values.get? key).bind normalize = none ∧ xs.bind List.head? = none ∨
      ∃ block x, s.values.get? key = some (.array [.object block]) ∧ PlannedBlock inner block ∧
        decode (.object block) = .ok x ∧ xs.bind List.head? = some x := by
  rcases hplanned.blocks hplain ha htype hdefault with ⟨hunset, -, -⟩ | ⟨blocks, hblocks, hcount, hall⟩
  · obtain rfl := ResourceState.decode_of_unset hunset h
    exact .inl ⟨normalize_unset hunset, rfl⟩
  · have hset : s.value? key = some (.array (blocks.map .object)) := by
      rw [ResourceState.value?, hblocks]
      rfl
    rcases ResourceState.decode_ok.mp h with ⟨hnone, -⟩ | ⟨v, ys, hv, hys, rfl⟩
    · cases hset.symm.trans hnone
    obtain rfl := Option.some.inj (hset.symm.trans hv)
    match blocks, hcount 1 hmost with
    | [], _ =>
      obtain rfl := Except.ok.inj hys
      exact .inl ⟨by rw [hblocks]; rfl, rfl⟩
    | [block], _ =>
      obtain ⟨x, hx, hrest⟩ := bind_ok.mp hys
      obtain rfl := Except.ok.inj hrest
      exact .inr ⟨block, x, hblocks, hall block (List.mem_cons_self ..), hx, rfl⟩

/-! ## Targets -/

namespace Target

theorem reads (title : String) : Decode.Reads (decoder title) toJson := by
  intro t
  have hordered : Keyed.Ordered
      [("ip", Json.string t.ip), ("port", .uint16 t.port), ("weight", .uint32 t.weight)] :=
    show List.Pairwise (· < ·) ["ip", "port", "weight"] by decide
  refine Checked.decoder_ok
    ((((checked_field _ _ _).map _).seq (checked_field _ _ _)).seq (checked_field _ _ _)) hordered ?_
  exact seq_ok.mpr ⟨_, _, seq_ok.mpr ⟨_, _,
    map_ok.mpr ⟨_, (required_exact Decode.text_exact).mpr rfl, rfl⟩,
    (required_exact Decode.uint16_exact).mpr rfl, rfl⟩,
    (required_exact Decode.uint32_exact).mpr rfl, rfl⟩

theorem normalize_eq {title : String} (block : Keyed Json) (t : Target)
    (hblock : PlannedBlock type.blockAttributes block)
    (h : decoder title (.object block) = .ok t) :
    normalize (.object block) = normalize t.toJson := by
  have hbuild := build_of_decoder h
  simp only [seq_ok, map_ok, required_exact Decode.text_exact, required_exact Decode.uint16_exact,
    required_exact Decode.uint32_exact] at hbuild
  obtain ⟨_, _, ⟨_, _, ⟨_, hip, rfl⟩, hport, rfl⟩, hweight, rfl⟩ := hbuild
  refine hblock.normalize_eq (show List.Pairwise (· < ·) ["ip", "port", "weight"] by decide)
    (fun key hkey => Keyed.get?_of_not_mem hkey) ?_
  refine List.forall_mem_cons.mpr ⟨?_, List.forall_mem_cons.mpr ⟨?_, List.forall_mem_cons.mpr ⟨?_, ?_⟩⟩⟩
  · rw [hip]
    rfl
  · rw [hport]
    rfl
  · rw [hweight]
    rfl
  · simp

end Target

/-! ## Forwarding rules -/

namespace ForwardingRule

theorem reads : Decode.Reads decoder toJson := by
  intro r
  have hordered : Keyed.Ordered
      [("algorithm", Json.string r.algorithm), ("listener_port", .uint16 r.listenerPort),
        ("name", .string r.name), ("protocol", .string r.protocol),
        ("targets", .array (r.targets.map Target.toJson))] :=
    show List.Pairwise (· < ·) ["algorithm", "listener_port", "name", "protocol", "targets"] by
      decide
  have htargets := (Target.reads "struct Target").list r.targets
  refine Checked.decoder_ok ((((((checked_field _ _ _).map _).seq (checked_field _ _ _)).seq
    (checked_field _ _ _)).seq (checked_field _ _ _)).seq (checked_field _ _ _)) hordered ?_
  exact seq_ok.mpr ⟨_, _, seq_ok.mpr ⟨_, _, seq_ok.mpr ⟨_, _, seq_ok.mpr ⟨_, _,
    map_ok.mpr ⟨_, (required_exact Decode.text_exact).mpr rfl, rfl⟩,
    (required_exact Decode.text_exact).mpr rfl, rfl⟩,
    (required_exact Decode.uint16_exact).mpr rfl, rfl⟩,
    (required_exact Decode.text_exact).mpr rfl, rfl⟩,
    htargets, rfl⟩

theorem reads_block : Decode.Reads blockDecoder toBlock := by
  intro r
  have hordered : Keyed.Ordered
      [("algorithm", Json.string r.algorithm), ("listener_port", .uint16 r.listenerPort),
        ("name", .string r.name), ("protocol", .string r.protocol),
        ("target", .array (r.targets.map Target.toJson))] :=
    show List.Pairwise (· < ·) ["algorithm", "listener_port", "name", "protocol", "target"] by decide
  have htargets := (Target.reads "struct TargetBlock").list r.targets
  refine Checked.decoder_ok ((((((checked_field _ _ _).map _).seq (checked_field _ _ _)).seq
    (checked_field _ _ _)).seq (checked_field _ _ _)).seq (checked_field _ _ _)) hordered ?_
  exact seq_ok.mpr ⟨_, _, seq_ok.mpr ⟨_, _, seq_ok.mpr ⟨_, _, seq_ok.mpr ⟨_, _,
    map_ok.mpr ⟨_, (required_exact Decode.text_exact).mpr rfl, rfl⟩,
    (required_exact Decode.text_exact).mpr rfl, rfl⟩,
    (required_exact Decode.uint16_exact).mpr rfl, rfl⟩,
    (required_exact Decode.text_exact).mpr rfl, rfl⟩,
    required_ok.mpr ⟨_, rfl, htargets⟩, rfl⟩

theorem normalize_eq (block : Keyed Json) (r : ForwardingRule)
    (hblock : PlannedBlock type.blockAttributes block)
    (h : blockDecoder (.object block) = .ok r) :
    normalize (.object block) = normalize r.toBlock := by
  have hbuild := build_of_decoder h
  simp only [seq_ok, map_ok, required_exact Decode.text_exact, required_exact Decode.uint16_exact,
    required_ok] at hbuild
  obtain ⟨_, targets, ⟨_, _, ⟨_, _, ⟨_, _, ⟨_, hname, rfl⟩, hprotocol, rfl⟩, hport, rfl⟩,
    halgorithm, rfl⟩, ⟨v, htarget, htargets⟩, rfl⟩ := hbuild
  have hsame : normalize v = normalize (.array (targets.map Target.toJson)) := by
    rcases hblock.planned.blocks rfl
      (show Keyed.get? "target" type.blockAttributes = some _ from rfl)
      (show _ = AttrType.list (.object Target.type.blockAttributes) from rfl) rfl with
      ⟨-, hrequired, -⟩ | ⟨blocks, hblocks, -, hall⟩
    · cases hrequired
    · obtain rfl := Option.some.inj (htarget.symm.trans hblocks)
      exact normalize_blocks hall htargets Target.normalize_eq
  refine hblock.normalize_eq
    (show List.Pairwise (· < ·) ["algorithm", "listener_port", "name", "protocol", "target"] by
      decide)
    (fun key hkey => Keyed.get?_of_not_mem hkey) ?_
  refine List.forall_mem_cons.mpr ⟨?_, List.forall_mem_cons.mpr ⟨?_, List.forall_mem_cons.mpr ⟨?_,
    List.forall_mem_cons.mpr ⟨?_, List.forall_mem_cons.mpr ⟨?_, ?_⟩⟩⟩⟩⟩
  · rw [halgorithm]
    rfl
  · rw [hport]
    rfl
  · rw [hname]
    rfl
  · rw [hprotocol]
    rfl
  · rw [htarget]
    exact hsame
  · simp

end ForwardingRule

/-! ## Health checks -/

namespace HealthCheck

theorem decoder_of_get? {title : String} {members : Keyed Json} {c : HealthCheck}
    (hordered : Keyed.Ordered members) (hprotocol : members.get? "protocol" = some (.string c.protocol))
    (hport : members.get? "port" = some (.uint16 c.port))
    (hpath : (members.get? "path").filter (!·.isNull) = c.path.map .string)
    (hinterval : members.get? "interval_seconds" = some (.uint32 c.intervalSeconds))
    (hthreshold : members.get? "unhealthy_threshold" = some (.uint32 c.unhealthyThreshold)) :
    decoder title (.object members) = .ok c := by
  refine Checked.decoder_ok ((((((checked_field _ _ _).map _).seq (checked_field _ _ _)).seq
    (checked_field _ _ _)).seq (checked_field _ _ _)).seq (checked_field _ _ _)) hordered ?_
  exact seq_ok.mpr ⟨_, _, seq_ok.mpr ⟨_, _, seq_ok.mpr ⟨_, _, seq_ok.mpr ⟨_, _,
    map_ok.mpr ⟨_, (required_exact Decode.text_exact).mpr hprotocol, rfl⟩,
    (required_exact Decode.uint16_exact).mpr hport, rfl⟩,
    (optional_exact Decode.text_exact fun _ => rfl).mpr hpath, rfl⟩,
    (required_exact Decode.uint32_exact).mpr hinterval, rfl⟩,
    (required_exact Decode.uint32_exact).mpr hthreshold, rfl⟩

theorem reads (title : String) : Decode.Reads (decoder title) toJson := by
  intro c
  obtain ⟨protocol, port, path, interval, threshold⟩ := c
  cases path with
  | none =>
    exact decoder_of_get?
      (show List.Pairwise (· < ·) ["interval_seconds", "port", "protocol", "unhealthy_threshold"] by
        decide) rfl rfl rfl rfl rfl
  | some path =>
    exact decoder_of_get?
      (show List.Pairwise (· < ·)
        ["interval_seconds", "path", "port", "protocol", "unhealthy_threshold"] by decide)
      rfl rfl rfl rfl rfl

theorem reads_block (title : String) : Decode.Reads (decoder title) toBlock := by
  intro c
  obtain ⟨protocol, port, path, interval, threshold⟩ := c
  have hordered : List.Pairwise (· < ·)
      ["interval_seconds", "path", "port", "protocol", "unhealthy_threshold"] := by decide
  cases path <;> exact decoder_of_get? hordered rfl rfl rfl rfl rfl

theorem normalize_eq {title : String} (block : Keyed Json) (c : HealthCheck)
    (hblock : PlannedBlock type.blockAttributes block)
    (h : decoder title (.object block) = .ok c) :
    normalize (.object block) = normalize c.toBlock := by
  have hbuild := build_of_decoder h
  simp only [seq_ok, map_ok, required_exact Decode.text_exact, required_exact Decode.uint16_exact,
    required_exact Decode.uint32_exact,
    optional_exact Decode.text_exact fun _ => (rfl : Json.isNull (.string _) = false)] at hbuild
  obtain ⟨_, _, ⟨_, _, ⟨_, _, ⟨_, _, ⟨_, hprotocol, rfl⟩, hport, rfl⟩, hpath, rfl⟩,
    hinterval, rfl⟩, hthreshold, rfl⟩ := hbuild
  refine hblock.normalize_eq
    (show List.Pairwise (· < ·)
      ["interval_seconds", "path", "port", "protocol", "unhealthy_threshold"] by decide)
    (fun key hkey => Keyed.get?_of_not_mem hkey) ?_
  refine List.forall_mem_cons.mpr ⟨?_, List.forall_mem_cons.mpr ⟨?_, List.forall_mem_cons.mpr ⟨?_,
    List.forall_mem_cons.mpr ⟨?_, List.forall_mem_cons.mpr ⟨?_, ?_⟩⟩⟩⟩⟩
  · rw [hinterval]
    rfl
  · exact normalize_option hpath
  · rw [hport]
    rfl
  · rw [hprotocol]
    rfl
  · rw [hthreshold]
    rfl
  · simp

end HealthCheck

/-! ## Limits of node pools -/

namespace Autoscaling

theorem reads (title : String) : Decode.Reads (decoder title) toJson := by
  intro a
  have hordered : Keyed.Ordered
      [("max_nodes", Json.uint32 a.maxNodes), ("min_nodes", .uint32 a.minNodes)] :=
    show List.Pairwise (· < ·) ["max_nodes", "min_nodes"] by decide
  refine Checked.decoder_ok (((checked_field _ _ _).map _).seq (checked_field _ _ _)) hordered ?_
  exact seq_ok.mpr ⟨_, _, map_ok.mpr ⟨_, (required_exact Decode.uint32_exact).mpr rfl, rfl⟩,
    (required_exact Decode.uint32_exact).mpr rfl, rfl⟩

theorem normalize_eq {title : String} (block : Keyed Json) (a : Autoscaling)
    (hblock : PlannedBlock type.blockAttributes block)
    (h : decoder title (.object block) = .ok a) :
    normalize (.object block) = normalize a.toJson := by
  have hbuild := build_of_decoder h
  simp only [seq_ok, map_ok, required_exact Decode.uint32_exact] at hbuild
  obtain ⟨_, _, ⟨_, hleast, rfl⟩, hmost, rfl⟩ := hbuild
  refine hblock.normalize_eq (show List.Pairwise (· < ·) ["max_nodes", "min_nodes"] by decide)
    (fun key hkey => Keyed.get?_of_not_mem hkey) ?_
  refine List.forall_mem_cons.mpr ⟨?_, List.forall_mem_cons.mpr ⟨?_, ?_⟩⟩
  · rw [hmost]
    rfl
  · rw [hleast]
    rfl
  · simp

end Autoscaling

/-! ## Maintenance windows -/

namespace MaintenanceWindow

theorem reads (title : String) : Decode.Reads (decoder title) toJson := by
  intro w
  have hordered : Keyed.Ordered [("day_of_week", Json.string w.dayOfWeek), ("time", .string w.time)] :=
    show List.Pairwise (· < ·) ["day_of_week", "time"] by decide
  refine Checked.decoder_ok (((checked_field _ _ _).map _).seq (checked_field _ _ _)) hordered ?_
  exact seq_ok.mpr ⟨_, _, map_ok.mpr ⟨_, (required_exact Decode.text_exact).mpr rfl, rfl⟩,
    (required_exact Decode.text_exact).mpr rfl, rfl⟩

theorem checkPattern_of_errors {pattern path text : String}
    (h : AttrType.errors .string ((Attribute.required .string).validate (.pattern pattern)).traits
      (.string text) path = []) : Validation.checkPattern pattern text = none := by
  have hrules : ([Validation.pattern pattern].filterMap (·.check (.string text))).map
      (Diagnostic.errorAt path) = [] := h
  exact List.filterMap_eq_nil_iff.mp (List.map_eq_nil_iff.mp hrules) _ (List.mem_singleton_self _)

/-- The window of a block is normalized to itself, since its time has two digits for each number. -/
theorem normalize_eq {title : String} (block : Keyed Json) (w w' : MaintenanceWindow)
    (hblock : PlannedBlock type.blockAttributes block)
    (h : decoder title (.object block) = .ok w) (hw : w.normalized = .ok w') :
    normalize (.object block) = normalize w'.toJson := by
  have hbuild := build_of_decoder h
  simp only [seq_ok, map_ok, required_exact Decode.text_exact] at hbuild
  obtain ⟨_, time, ⟨day, hday, rfl⟩, htime, rfl⟩ := hbuild
  have hsame : w' = ⟨day, time⟩ := by
    rcases hblock.planned.cases rfl
      (show Keyed.get? "time" type.blockAttributes = some _ from rfl) with
      ⟨-, hrequired, -⟩ | ⟨d, -, hdefault⟩ | ⟨v, path, hv, -, -, herrors⟩
    · cases hrequired
    · cases hdefault
    · obtain ⟨text, rfl⟩ := eq_string_of_errors herrors
      obtain rfl : text = time := by
        cases htime.symm.trans hv
        rfl
      have hfits : CharClass.Fits TimeOfDay.clock text.toList :=
        TimeOfDay.fits_clock (checkPattern_of_errors herrors)
      unfold normalized at hw
      split at hw
      · next t ht =>
        obtain rfl := Except.ok.inj hw
        rw [TimeOfDay.text_of_fits hfits ht]
      · cases hw
  rw [hsame]
  refine hblock.normalize_eq (show List.Pairwise (· < ·) ["day_of_week", "time"] by decide)
    (fun key hkey => Keyed.get?_of_not_mem hkey) ?_
  refine List.forall_mem_cons.mpr ⟨?_, List.forall_mem_cons.mpr ⟨?_, ?_⟩⟩
  · rw [hday]
    rfl
  · rw [htime]
    rfl
  · simp

end MaintenanceWindow

/-! ## Firewall rules -/

theorem FirewallRule.reads_block (r : FirewallRule) : blockDecoder r.toBlock = .ok r.content := by
  obtain ⟨id, protocol, ipType, subnet, size, port, notes⟩ := r
  have hordered : Keyed.Ordered
      [("id", Json.string id), ("ip_type", .string ipType), ("notes", .option .string notes),
        ("port", .option .string port), ("protocol", .string protocol), ("subnet", .string subnet),
        ("subnet_size", .uint8 size)] :=
    show List.Pairwise (· < ·)
      ["id", "ip_type", "notes", "port", "protocol", "subnet", "subnet_size"] by decide
  refine Checked.decoder_ok (((checked_field _ _ _).map _).seq (((((((checked_field _ _ _).map _).seq
    (checked_field _ _ _)).seq (checked_field _ _ _)).seq (checked_field _ _ _)).seq
    (checked_field _ _ _)).seq (checked_field _ _ _))) hordered ?_
  exact seq_ok.mpr ⟨_, _, map_ok.mpr ⟨_, optional_reads Decode.text_exact.reads (fun _ => rfl)
      (show _ = some (Json.option .string (some id)) from rfl), rfl⟩,
    seq_ok.mpr ⟨_, _, seq_ok.mpr ⟨_, _, seq_ok.mpr ⟨_, _, seq_ok.mpr ⟨_, _, seq_ok.mpr ⟨_, _,
      map_ok.mpr ⟨_, (required_exact Decode.text_exact).mpr rfl, rfl⟩,
      (required_exact Decode.text_exact).mpr rfl, rfl⟩,
      (required_exact Decode.text_exact).mpr rfl, rfl⟩,
      (required_exact Decode.uint8_exact).mpr rfl, rfl⟩,
      optional_reads Decode.text_exact.reads (fun _ => rfl) rfl, rfl⟩,
      optional_reads Decode.text_exact.reads (fun _ => rfl) rfl, rfl⟩, rfl⟩

end CloudProvider
