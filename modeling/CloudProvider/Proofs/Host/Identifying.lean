import CloudProvider.Proofs.Host.Forgetting
import CloudProvider.Proofs.Host.Importing
import Mathlib.Data.List.DropRight

/-!
# What an import takes over

An import id stands for the identity of one object, for some types together with that of its parent.
An id that stands for nothing is refused before anything is sent. An import that reports nothing has
found the object, and its state has the identity that the id stands for; an import without a state has
reported why.

* `splitImportId_ok_iff`, `Text.trim_eq_empty_iff`, `rdropWhile_point_eq_iff`: how ids are taken apart.
* `ResourceType.Identifies`: what an import id stands for.
* `ResourceType.adopt_ok_iff`: which ids are accepted, and what the state knows then.
* `ResourceType.imported_ends`: what an import sends and returns.
* `Server.import_identifies`: imports by the server.
-/

namespace CloudProvider
set_option autoImplicit false

/-! ## Taking ids apart -/

theorem splitOn_eq_single {c : Char} {cs a : List Char} :
    cs.splitOn c = [a] ↔ cs = a ∧ c ∉ a := by
  constructor
  · intro h
    have hnot : c ∉ cs := by
      intro hmem
      obtain ⟨before, rest, rfl, hbefore⟩ := List.eq_append_cons_of_mem hmem
      rw [List.splitOn_append_cons_self_of_not_mem hbefore] at h
      exact List.splitOn_ne_nil _ _ (List.cons.inj h).2
    rw [List.splitOn_eq_singleton hnot] at h
    obtain rfl := (List.cons.inj h).1
    exact ⟨rfl, hnot⟩
  · rintro ⟨rfl, hnot⟩
    exact List.splitOn_eq_singleton hnot

theorem splitOn_eq_pair {c : Char} {cs a b : List Char} :
    cs.splitOn c = [a, b] ↔ cs = a ++ c :: b ∧ c ∉ a ∧ c ∉ b := by
  constructor
  · intro h
    have hmem : c ∈ cs := by
      by_contra hnot
      rw [List.splitOn_eq_singleton hnot] at h
      cases h
    obtain ⟨before, rest, rfl, hbefore⟩ := List.eq_append_cons_of_mem hmem
    rw [List.splitOn_append_cons_self_of_not_mem hbefore] at h
    obtain ⟨rfl, hrest⟩ := List.cons.inj h
    obtain ⟨rfl, hnot⟩ := splitOn_eq_single.mp hrest
    exact ⟨rfl, hbefore, hnot⟩
  · rintro ⟨rfl, ha, hb⟩
    rw [List.splitOn_append_cons_self_of_not_mem ha, List.splitOn_eq_singleton hb]

theorem splitImportId_ok_iff {form given parent child : String} :
    splitImportId form given = .ok (parent, child) ↔
      given.toList = parent.toList ++ '/' :: child.toList ∧ '/' ∉ parent.toList ∧ '/' ∉ child.toList ∧
        parent ≠ "" ∧ child ≠ "" := by
  constructor
  · intro h
    unfold splitImportId at h
    split at h
    · next a b hsplit =>
      split at h
      · simp [splitImportId.refuse] at h
      · next hparts =>
        obtain ⟨rfl, rfl⟩ := Prod.mk.inj (Except.ok.inj h)
        obtain ⟨hlist, ha, hb⟩ := splitOn_eq_pair.mp hsplit
        simp only [Bool.or_eq_true, List.isEmpty_iff, not_or] at hparts
        simp only [String.toList_ofList, ne_eq, String.ofList_eq_empty_iff]
        exact ⟨hlist, ha, hb, hparts⟩
    · simp [splitImportId.refuse] at h
  · rintro ⟨hlist, hparent, hchild, hparent', hchild'⟩
    have hsplit := splitOn_eq_pair.mpr ⟨hlist, hparent, hchild⟩
    rw [splitImportId, hsplit]
    simp [hparent', hchild']

theorem Text.trim_eq_empty_iff (s : String) : trim s = "" ↔ isBlankText s = true := by
  rw [trim, String.ofList_eq_empty_iff, isBlankText, List.all_eq_true, trimEnd, trimStart,
    List.reverse_eq_nil_iff, List.dropWhile_eq_nil_iff]
  constructor
  · intro h c hc
    rw [← List.takeWhile_append_dropWhile (p := isBlank) (l := s.toList)] at hc
    rcases List.mem_append.mp hc with hc | hc
    · exact List.mem_takeWhile_imp hc
    · exact h c (List.mem_reverse.mpr hc)
  · intro h c hc
    exact h c (List.dropWhile_subset _ (List.mem_reverse.mp hc))

theorem rdropWhile_point_eq_iff {cs name : List Char} : cs.rdropWhile (· = '.') = name ↔
    ∃ points, cs = name ++ points ∧ (∀ c ∈ points, c = '.') ∧ name.getLast? ≠ some '.' := by
  constructor
  · rintro rfl
    refine ⟨cs.rtakeWhile (· = '.'), List.rdropWhile_append_rtakeWhile.symm, fun c hc => ?_, fun hlast => ?_⟩
    · simpa using List.mem_rtakeWhile_imp hc
    · have hne : cs.rdropWhile (· = '.') ≠ [] := by
        rintro hnil
        simp [hnil] at hlast
      have := List.rdropWhile_last_not _ _ hne
      rw [List.getLast?_eq_some_getLast hne] at hlast
      simp [Option.some.inj hlast] at this
  · rintro ⟨points, rfl, hpoints, hlast⟩
    have hkeep : name.rdropWhile (· = '.') = name := by
      refine List.rdropWhile_eq_self_iff.mpr fun hne hpoint => hlast ?_
      rw [List.getLast?_eq_some_getLast hne]
      simpa using hpoint
    rw [List.rdropWhile] at hkeep ⊢
    rw [List.reverse_append, List.dropWhile_append_of_pos, hkeep]
    intro c hc
    simpa using hpoints c (List.mem_reverse.mp hc)

/-! ## What ids stand for -/

namespace ResourceType

/-- What an import id stands for: the identity of an object, and that of its parent. -/
def Identifies (t : ResourceType) (given id : String) (parent : Option String) : Prop :=
  match t with
  | dnsDomain => parent = none ∧ ∃ name points, given.toList = name ++ points ∧
      (∀ c ∈ points, c = '.') ∧ name.getLast? ≠ some '.' ∧ id = Text.lowercase (String.ofList name)
  | emailIdentity => parent = none ∧ id = Text.trim given ∧ id ≠ ""
  | dnsRecord | nodePool => ∃ p, parent = some p ∧
      given.toList = p.toList ++ '/' :: id.toList ∧ '/' ∉ p.toList ∧ '/' ∉ id.toList ∧ p ≠ "" ∧ id ≠ ""
  | _ => parent = none ∧ id = given

/-- The state that knows the identity of the object and that of its parent. -/
def identified (t : ResourceType) (id : String) (parent : Option String) (s : ResourceState) :
    ResourceState :=
  match t.parentKey?, parent with
  | some key, some p => (s.set key (.string p)).setId id
  | _, _ => s.setId id

variable {t : ResourceType} {s s' : ResourceState} {given : String}

theorem adopt_ok_iff : t.resource.adopt given s = .ok s' ↔
    ∃ id parent, t.Identifies given id parent ∧ t.identified id parent s = s' := by
  cases t with
  | dnsDomain =>
    change Except.ok (s.setId (DnsDomain.importedName given)) = .ok s' ↔ _
    constructor
    · intro h
      obtain ⟨points, hparts⟩ := rdropWhile_point_eq_iff.mp
        (rfl : given.toList.rdropWhile (· = '.') = given.toList.rdropWhile (· = '.'))
      exact ⟨DnsDomain.importedName given, none, ⟨rfl, _, points, hparts.1, hparts.2.1, hparts.2.2, rfl⟩,
        Except.ok.inj h⟩
    · rintro ⟨_, _, ⟨rfl, name, points, hgiven, hpoints, hlast, rfl⟩, rfl⟩
      have hname : given.toList.rdropWhile (· = '.') = name :=
        rdropWhile_point_eq_iff.mpr ⟨points, hgiven, hpoints, hlast⟩
      rw [← hname]
      rfl
  | emailIdentity =>
    change EmailIdentity.adopt given s = .ok s' ↔ _
    rw [EmailIdentity.adopt]
    have hempty := Text.trim_eq_empty_iff given
    split
    · next hblank => simp [Identifies, hempty, hblank]
    · next hblank =>
      rw [Except.ok.injEq]
      constructor
      · rintro rfl
        exact ⟨_, none, ⟨rfl, rfl, fun h => hblank (hempty.mp h)⟩, rfl⟩
      · rintro ⟨_, _, ⟨rfl, rfl, -⟩, rfl⟩
        rfl
  | dnsRecord | nodePool =>
    refine adoptInside_ok_iff.trans ⟨?_, ?_⟩
    · rintro ⟨parent, child, hsplit, rfl⟩
      exact ⟨child, some parent, ⟨parent, rfl, splitImportId_ok_iff.mp hsplit⟩, rfl⟩
    · rintro ⟨child, _, ⟨parent, rfl, hparts⟩, rfl⟩
      exact ⟨parent, child, splitImportId_ok_iff.mpr hparts, rfl⟩
  | _ =>
    change Except.ok (s.setId given) = .ok s' ↔ _
    rw [Except.ok.injEq]
    constructor
    · rintro rfl
      exact ⟨given, none, ⟨rfl, rfl⟩, rfl⟩
    · rintro ⟨_, _, ⟨rfl, rfl⟩, rfl⟩
      rfl

theorem parentKey?_ne_idKey {key : String} (h : t.parentKey? = some key) :
    key ≠ ResourceState.idKey := by
  cases t <;> cases h <;> decide

theorem Identifies.parent {id : String} {parent : Option String} (h : t.Identifies given id parent) :
    t.parentKey? = none ∧ parent = none ∨
      ∃ key p, t.parentKey? = some key ∧ parent = some p := by
  cases t with
  | dnsRecord | nodePool =>
    obtain ⟨p, hparent, -⟩ := h
    exact .inr ⟨_, p, rfl, hparent⟩
  | _ => exact .inl ⟨rfl, h.1⟩

theorem identified_id (t : ResourceType) (id : String) (parent : Option String) (s : ResourceState) :
    (t.identified id parent s).id = some id := by
  unfold identified
  split <;> rfl

theorem Identifies.value? {id : String} {parent : Option String} (h : t.Identifies given id parent)
    (v : t.portrait.View) (ds : Diagnostics) :
    let o : Outcome := ⟨(t.portrait.write v (t.identified id parent s)).toJson?, ds⟩
    o.value? ResourceState.idKey = some (.string id) ∧
      t.parentKey?.bind o.value? = parent.map .string := by
  intro o
  have hid : (t.portrait.write v (t.identified id parent s)).id = some id := by
    rw [t.portrait.frame]
    exact identified_id t id parent s
  refine ⟨Outcome.value?_id hid ds, ?_⟩
  rcases h.parent with ⟨hkey, rfl⟩ | ⟨key, p, hkey, rfl⟩
  · rw [hkey]
    rfl
  · rw [hkey, Option.bind_some, Outcome.value?_of_ne hid (parentKey?_ne_idKey hkey),
      spares_parent hkey]
    simp [identified, hkey, ResourceState.set, ResourceState.setId]

/-! ## Imports -/

theorem id_of_prepared_empty {r : Resource} (h : r.prepared (.ofJson (.object [])) = .ok s) :
    s.id = none := by
  obtain ⟨timeouts, -, hs⟩ := bind_ok.mp h
  obtain rfl := Except.ok.inj hs
  rfl

/-- An import only reads, and sends nothing if its id stands for nothing. It reports why there is no
state. If it reports nothing, its state has the identities that the id stands for. -/
theorem imported_ends (t : ResourceType) (conn : Connection) (given : String) (w : World) :
    ∃ o es w', t.resource.imported conn t.name given w = (.ok o, w') ∧ Traffic w es w' ∧
      (∀ e ∈ es, e.Reads) ∧ (o.newState = none → ∃ d ∈ o.diagnostics, d.severity = .error) ∧
      ((∀ id parent, ¬ t.Identifies given id parent) → es = [] ∧ o.newState = none) ∧
      (o.diagnostics = [] → ∃ id parent, t.Identifies given id parent ∧
        o.value? ResourceState.idKey = some (.string id) ∧
        t.parentKey?.bind o.value? = parent.map .string) := by
  obtain ⟨s, hs, -⟩ := t.prepared_empty
  have hnone := id_of_prepared_empty hs
  simp only [Resource.imported, hs]
  cases hadopt : t.resource.adopt given s with
  | error failure =>
    refine ⟨_, [], w, rfl, .refl w, by simp, fun _ => ?_, fun _ => ⟨rfl, ?_⟩, by simp⟩
    · exact ⟨.ofFailure failure, List.mem_singleton_self _, rfl⟩
    · simp [ResourceState.toJson?, hnone]
  | ok s' =>
    obtain ⟨id, parent, hidentifies, rfl⟩ := adopt_ok_iff.mp hadopt
    obtain ⟨es, htraffic, hreads⟩ := t.portrait.read_sends conn ⟨t.identified id parent s, w⟩
    dsimp only
    rcases hread : t.resource.read conn ⟨t.identified id parent s, w⟩ with ⟨result, work⟩
    rw [hread] at htraffic
    refine ⟨_, es, work.world, rfl, htraffic, hreads, ?_, fun h => absurd hidentifies (h id parent), ?_⟩
    · intro hstate
      dsimp only at hstate ⊢
      rcases Diagnostics.ofResult_cases result with ⟨hnil, -⟩ | ⟨d, hd, herror⟩
      · exact ⟨Resource.notThere t.name given, by simp [hstate, hnil], rfl⟩
      · exact ⟨d, by simp [hd], herror⟩
    · intro hclean
      dsimp only at hclean ⊢
      split at hclean
      · cases hclean
      · next hfound =>
        obtain rfl := Portrait.ofResult_eq_nil hclean
        rcases t.portrait.read_ends conn _ w work hread with hgone | ⟨v, -, hwritten, -⟩
        · simp [ResourceState.toJson?, hgone, Diagnostics.ofResult] at hfound
        · rw [hwritten]
          exact ⟨id, parent, hidentifies, hidentifies.value? v _⟩

end ResourceType

namespace Server

variable {env : Environment} {server : Server} {conn : Connection}

/-- **What an import returns.** It always has an outcome. One without a state reports an error. Only
reads are sent, and none if the id stands for nothing, in which case there is no state. An outcome that
reports nothing has the identity that the id stands for, and under its attribute that of the parent. -/
theorem import_identifies (hconn : server.connection = some conn) (t : ResourceType) (given : String)
    (w : World) :
    ∃ o es w', server.run env (.adopt t given) w = (.ok (Outcome.toJson o), server, w') ∧
      Traffic w es w' ∧ (∀ e ∈ es, e.request.method = .get) ∧
      (o.newState = none → ∃ d ∈ o.diagnostics, d.severity = .error) ∧
      (∀ s, (∃ s', t.resource.adopt given s = .ok s') ↔ ∃ id parent, t.Identifies given id parent) ∧
      ((∀ id parent, ¬ t.Identifies given id parent) → es = [] ∧ o.newState = none) ∧
      (o.diagnostics = [] → ∃ id parent, t.Identifies given id parent ∧
        o.value? ResourceState.idKey = some (.string id) ∧
        t.parentKey?.bind o.value? = parent.map .string) := by
  obtain ⟨o, es, w', himported, htraffic, hreads, hnone, hrefused, hclean⟩ :=
    t.imported_ends conn given w
  rw [run_import hconn, himported]
  refine ⟨o, es, w', rfl, htraffic, hreads, hnone, fun s => ?_, hrefused, hclean⟩
  constructor
  · rintro ⟨s', hadopt⟩
    obtain ⟨id, parent, hidentifies, -⟩ := ResourceType.adopt_ok_iff.mp hadopt
    exact ⟨id, parent, hidentifies⟩
  · rintro ⟨id, parent, hidentifies⟩
    exact ⟨_, ResourceType.adopt_ok_iff.mpr ⟨id, parent, hidentifies, rfl⟩⟩

/-- A pool of a cluster, which the answer does not name. -/
theorem import_identifies_pool :
    let server : Server := ⟨some .usual, false⟩
    let env : Environment := ⟨[], none, fun _ => .missing⟩
    let pool := "\x7b\"id\":\"pool-2\",\"name\":\"workers\",\"node_size\":\"s-4vcpu-8gb\"," ++
      "\"node_count\":3,\"status\":\"ACTIVE\"\x7d"
    let w : World := ⟨⟨true, [(.answer ⟨200, pool, none⟩, 1)]⟩, 0, []⟩
    ∃ members es w', server.run env (.adopt .nodePool "k8s-1/pool-2") w =
        (.ok (Outcome.toJson ⟨some (.object members), []⟩), server, w') ∧
      Traffic w es w' ∧ (∀ e ∈ es, e.request.method = .get) ∧
      Keyed.get? "id" members = some (.string "pool-2") ∧
      Keyed.get? "cluster_id" members = some (.string "k8s-1") := by
  intro server env pool w
  have hserved : ((stateOf? (server.run env (.adopt .nodePool "k8s-1/pool-2") w).1).bind
      Json.asObject?).isSome = true := by decide +kernel
  obtain ⟨members, hstate⟩ := exists_of_stateOf? hserved
  obtain ⟨o, es, w', hrun, htraffic, hreads, -, -, -, hclean⟩ :=
    @import_identifies env server .usual rfl .nodePool "k8s-1/pool-2" w
  have ho := Outcome.eq_of_toJson (S := .object members) (by simp)
    (Except.ok.inj ((congrArg Prod.fst hrun).symm.trans (eq_of_stateOf? hstate)))
  subst ho
  obtain ⟨id, -, ⟨parent, rfl, hparts⟩, hid, hparent⟩ := hclean rfl
  have hsplit : splitImportId "" "k8s-1/pool-2" = .ok (parent, id) := splitImportId_ok_iff.mpr hparts
  obtain ⟨rfl, rfl⟩ : "k8s-1" = parent ∧ "pool-2" = id := by
    have hexpected : splitImportId "" "k8s-1/pool-2" = .ok ("k8s-1", "pool-2") := by rfl
    exact Prod.mk.inj (Except.ok.inj (hexpected.symm.trans hsplit))
  exact ⟨members, es, w', hrun, htraffic, hreads, hid, hparent⟩

end Server

end CloudProvider
