import CloudProvider.Proofs.Host.Reading

/-!
# Firewall groups that are created

Creating a group asks for it, makes its rules the wanted ones, and reads it. Whatever goes wrong with the
rules or with the read, the group is kept, but for one answer: if the read is told that the group is
missing, there is no state and nothing is reported.

* `FirewallGroup.read_identity`: a read keeps the identity or clears it.
* `FirewallGroup.Creation`: what creating a group comes to unless it is refused.
* `Server.create_group_outcome`: every creation of a group.
-/

namespace CloudProvider
set_option autoImplicit false

namespace FirewallGroup

variable {conn : Connection} {s : ResourceState} {w w' : World}

/-! ## The steps of a creation -/

/-- A read keeps the identity, unless it ends without failure because the group is missing. -/
theorem read_identity {result : Except ProviderError Unit} {s' : ResourceState}
    (h : read conn ⟨s, w⟩ = (result, ⟨s', w'⟩)) :
    s'.id = s.id ∨ result = .ok () ∧ s'.id = none := by
  obtain ⟨es, w₁, -, -, hstate, -⟩ := look_run conn s w
  rw [read_eq, run_bind] at h
  revert hstate h
  rcases look conn ⟨s, w⟩ with ⟨e | _ | v, work⟩
  · rintro h (rfl : work = _)
    obtain rfl := (Work.mk.inj (Prod.mk.inj h).2).1
    exact .inl rfl
  · rintro h (rfl : work = _)
    obtain ⟨rfl, hwork⟩ := Prod.mk.inj h
    obtain rfl := (Work.mk.inj hwork).1
    exact .inr ⟨rfl, rfl⟩
  · rintro h (rfl : work = _)
    obtain rfl := (Work.mk.inj (Prod.mk.inj h).2).1
    exact .inl rfl

/-- The exchange is about the rules of a group or about one of them. -/
def AboutRules (client : Client) (group : String) (e : Exchange) : Prop :=
  e.request.url = client.url (rules group) ∨
    ∃ rule, e.request.url = client.url (rules group ++ [rule])

theorem syncRules_about (conn : Connection) (group : String) :
    Step.Keeps (AboutRules conn.client group) (syncRules conn group) := by
  refine (Step.Keeps.ofState _).bind fun wanted => ?_
  refine (Step.Keeps.get fun _ he => .inl (congrArg Request.url he)).bind fun found => ?_
  refine (Step.Keeps.forM fun rule _ =>
    .delete fun _ he => .inr ⟨rule, congrArg Request.url he⟩).bind fun _ => ?_
  exact .forM fun content _ => .bind (.post fun _ he => .inl (congrArg Request.url he)) fun _ => .pure _

theorem finish_outcome (conn : Connection) {id : String} (hid : s.id = some id) (w : World) :
    ∃ result s' w' changes looks rest,
      (syncRules conn id >>= fun _ => read conn) ⟨s, w⟩ = (result, ⟨s', w'⟩) ∧
      Traffic w (changes ++ looks ++ rest) w' ∧ (∀ e ∈ changes, AboutRules conn.client id e) ∧
      (∀ e ∈ looks, e.Gets conn.client (groups ++ [id])) ∧ (∀ e ∈ rest, e.Reads) ∧
      ((∃ e, looks.getLast? = some e ∧ e.Missing) → result = .ok () ∧ s'.id = none) ∧
      ((¬ ∃ e, looks.getLast? = some e ∧ e.Missing) → s'.id = some id) := by
  obtain ⟨changes, w₁, hstate, htraffic, habout⟩ := syncRules_about conn id ⟨s, w⟩
  rw [run_bind]
  rcases hsync : syncRules conn id ⟨s, w⟩ with ⟨failure | _, work⟩ <;> rw [hsync] at hstate
  · obtain rfl : work = ⟨s, w₁⟩ := hstate
    exact ⟨_, s, w₁, changes, [], [], rfl, by simpa using htraffic, habout, by simp, by simp, by simp,
      fun _ => hid⟩
  · obtain rfl : work = ⟨s, w₁⟩ := hstate
    obtain ⟨result, s', w', looks, rest, hread, hlooks⟩ := @read_looks conn s id hid w₁
    refine ⟨result, s', w', changes, looks, rest, hread, ?_, habout, ?_, hlooks.reads,
      hlooks.gone.mp, fun hfound => ?_⟩
    · rw [List.append_assoc]
      exact htraffic.trans hlooks.traffic
    · intro e he
      obtain ⟨segments, hpath, hgets⟩ := hlooks.looked e he
      obtain rfl := Except.ok.inj hpath
      exact hgets
    · rcases read_identity hread with hsame | hgone
      · exact hsame.trans hid
      · exact absurd (hlooks.gone.mpr hgone) hfound

theorem create_run (conn : Connection) (s : ResourceState) (w : World) :
    (∃ failure, FirewallRule.desired s = .error failure ∧
        create conn ⟨s, w⟩ = (.error failure, ⟨s, w⟩)) ∨
      ∃ posts w₁, conn.client.Asked .post groups (some (draft s)) w posts w₁ ∧
        ((∃ failure, create conn ⟨s, w⟩ = (.error failure, ⟨s, w₁⟩) ∧
            ∀ e group, posts.getLast? = some e → ¬ e.Shows decoder group) ∨
          ∃ e group, posts.getLast? = some e ∧ e.Shows decoder group ∧
            create conn ⟨s, w⟩ =
              (syncRules conn group.id >>= fun _ => read conn) ⟨s.setId group.id, w₁⟩) := by
  rw [create, run_bind, Step.ofState_run]
  cases hdesired : FirewallRule.desired s with
  | error failure => exact .inl ⟨failure, rfl, rfl⟩
  | ok wanted =>
    right
    dsimp only
    rw [run_bind, Step.ofState_run]
    dsimp only
    rw [run_bind]
    obtain ⟨posts, hasked, hok⟩ := conn.client.post_asked groups w decoder (draft s)
    refine ⟨posts, _, hasked, ?_⟩
    cases hpost : (conn.client.post decoder groups (draft s) w).1 with
    | error e =>
      rw [Step.call_error ⟨s, w⟩ hpost]
      refine .inl ⟨_, rfl, fun e' group he hshows => ?_⟩
      cases hpost.symm.trans ((hok group).mpr ⟨e', he, hshows⟩)
    | ok group =>
      obtain ⟨e, he, hshows⟩ := (hok group).mp hpost
      rw [Step.call_ok ⟨s, w⟩ hpost]
      exact .inr ⟨e, group, he, hshows, rfl⟩

/-! ## Creating -/

/-- What creating a group comes to unless it is refused: the exchanges that ask for it, those about its
rules, the looks at the group, the look at its rules, and the outcome. -/
structure Creation (conn : Connection) (s : ResourceState) (w w' : World) (o : Outcome)
    (posts changes looks rest : List Exchange) : Prop where
  traffic : Traffic w (posts ++ changes ++ looks ++ rest) w'
  posted : ∀ e ∈ posts, e.request =
    ⟨.post, conn.client.url groups, conn.client.headers (some (draft s)), some (draft s)⟩
  sent : conn.client.Reaches .post groups (some (draft s)) w → posts ≠ []
  reads : ∀ e ∈ rest, e.Reads
  /-- Unless the last answer to the request shows a group, there is no state. -/
  lost : (∀ e group, posts.getLast? = some e → ¬ e.Shows decoder group) →
    changes ++ looks ++ rest = [] ∧ o.newState = none ∧ ∃ d, o.diagnostics = [d] ∧ d.severity = .error
  /-- The group that it shows is kept, unless the last look at it says that it is missing. -/
  kept : ∀ e group, posts.getLast? = some e → e.Shows decoder group →
    (∀ e ∈ changes, AboutRules conn.client group.id e) ∧
      (∀ e ∈ looks, e.Gets conn.client (groups ++ [group.id])) ∧
      ((∃ e, looks.getLast? = some e ∧ ∃ r, e.reply = .answer r ∧ r.status = 404) →
        o.newState = none ∧ o.diagnostics = []) ∧
      ((¬ ∃ e, looks.getLast? = some e ∧ ∃ r, e.reply = .answer r ∧ r.status = 404) →
        o.newState.isSome = true ∧ o.value? ResourceState.idKey = some (.string group.id))

/-- Creating a group is refused before anything is sent, or comes to a creation. -/
theorem created_group (conn : Connection) {planned : Json}
    (hid : (ResourceState.ofJson planned).id = none)
    (hs : resource.prepared (ResourceState.ofJson planned) = .ok s) (w : World) :
    ∃ o w', resource.created conn planned w = (.ok o, w') ∧
      (((∃ failure, FirewallRule.desired s = .error failure) ∧ w' = w ∧ o.newState = none ∧
          ∃ d, o.diagnostics = [d] ∧ d.severity = .error) ∨
        ∃ posts changes looks rest, Creation conn s w w' o posts changes looks rest) := by
  obtain ⟨-, hnone, -, -⟩ := ResourceState.sound_of_prepare portrait.plain portrait.noIdAttribute
    (ResourceState.ofJson_noIdentity planned) hs
  rw [hid] at hnone
  have hgone : s.toJson? = none := by rw [ResourceState.toJson?, hnone, Option.map_none]
  have hcreated : resource.created conn planned w =
      (.ok ⟨(create conn ⟨s, w⟩).2.state.toJson?, .ofResult (create conn ⟨s, w⟩).1⟩,
        (create conn ⟨s, w⟩).2.world) := by
    simp only [Resource.created, hs]
    rfl
  refine ⟨_, _, hcreated, ?_⟩
  rcases create_run conn s w with ⟨failure, hdesired, hrun⟩ | ⟨posts, w₁, hasked, hcases⟩
  · rw [hrun]
    exact .inl ⟨⟨failure, hdesired⟩, rfl, hgone, .ofFailure failure, rfl, rfl⟩
  right
  rcases hcases with ⟨failure, hrun, hnot⟩ | ⟨e, group, he, hshows, hrun⟩
  · rw [hrun]
    refine ⟨posts, [], [], [], by simpa using hasked.traffic, hasked.request, hasked.sent.mpr, by simp,
      fun _ => ⟨rfl, hgone, .ofFailure failure, rfl, rfl⟩, fun e group he hshows => ?_⟩
    exact absurd hshows (hnot e group he)
  · obtain ⟨result, s', w', changes, looks, rest, hfinish, htraffic, habout, hgets, hreads, hmissing,
      hfound⟩ := finish_outcome conn (s := s.setId group.id) rfl w₁
    rw [hrun, hfinish]
    refine ⟨posts, changes, looks, rest, ?_, hasked.request, hasked.sent.mpr, hreads, ?_, ?_⟩
    · simpa [List.append_assoc] using hasked.traffic.trans htraffic
    · intro hnot
      exact absurd hshows (hnot e group he)
    · intro e' group' he' hshows'
      obtain rfl := Option.some.inj (he.symm.trans he')
      obtain rfl := hshows.unique hshows'
      simp only [← Exchange.missing_iff]
      refine ⟨habout, hgets, fun hgone' => ?_, fun hthere => ?_⟩
      · obtain ⟨rfl, hnone'⟩ := hmissing hgone'
        exact ⟨by rw [ResourceState.toJson?, hnone', Option.map_none], rfl⟩
      · have hid' := hfound hthere
        exact ⟨by rw [ResourceState.toJson?, hid']; rfl, Outcome.value?_id hid' _⟩

end FirewallGroup

/-! ## The server -/

namespace Server

variable {env : Environment} {server : Server} {conn : Connection} {planned : Json}

/-- Creating a group is refused, which sends nothing, or the group is asked for. If the answer shows a
group, its identity is in the state afterwards whatever is answered about its rules and to the read, but
for one answer: where the last look at the group says that it is missing, there is no state and nothing
is reported. -/
theorem create_group_outcome (hconn : server.connection = some conn)
    (hid : (ResourceState.ofJson planned).id = none) (w : World) :
    (∃ failure, FirewallGroup.resource.prepared (ResourceState.ofJson planned) = .error failure ∧
        server.run env (.create .firewallGroup planned) w = (.error failure, server, w)) ∨
      ∃ s o w', FirewallGroup.resource.prepared (ResourceState.ofJson planned) = .ok s ∧
        server.run env (.create .firewallGroup planned) w = (.ok (Outcome.toJson o), server, w') ∧
        (((∃ failure, FirewallRule.desired s = .error failure) ∧ w' = w ∧ o.newState = none ∧
            ∃ d, o.diagnostics = [d] ∧ d.severity = .error) ∨
          ∃ posts changes looks rest,
            FirewallGroup.Creation conn s w w' o posts changes looks rest) := by
  have hrun : server.run env (.create .firewallGroup planned) w =
      (Outcome.toJson <$> (FirewallGroup.resource.created conn planned w).1, server,
        (FirewallGroup.resource.created conn planned w).2) := run_create hconn planned w
  rw [hrun]
  cases hs : FirewallGroup.resource.prepared (ResourceState.ofJson planned) with
  | error failure =>
    left
    simp only [Resource.created, hs]
    exact ⟨failure, rfl, rfl⟩
  | ok s =>
    obtain ⟨o, w', hcreated, hcases⟩ := FirewallGroup.created_group conn hid hs w
    rw [hcreated]
    exact .inr ⟨s, o, w', rfl, rfl, hcases⟩

/-- A group is created, and the read after that is told that it is missing: it is lost, and nothing is
reported. -/
theorem create_group_outcome_lost :
    let server : Server := ⟨some .usual, false⟩
    let env : Environment := ⟨[], none, fun _ => .missing⟩
    let w : World :=
      ⟨⟨true, [(.answer ⟨201, "\x7b\"id\":\"g\"\x7d", none⟩, 1),
        (.answer ⟨200, "\x7b\"items\":[]\x7d", none⟩, 1)]⟩, 0, []⟩
    ∃ s o w' posts changes looks rest e group,
      server.run env (.create .firewallGroup (.object [])) w =
        (.ok (Outcome.toJson o), server, w') ∧
      FirewallGroup.Creation .usual s w w' o posts changes looks rest ∧
      posts.getLast? = some e ∧ e.Shows FirewallGroup.decoder group ∧
      o.newState = none ∧ o.diagnostics = [] := by
  intro server env w
  have hserved : (stateOf? (server.run env (.create .firewallGroup (.object [])) w).1).any Json.isNull =
      true := by decide +kernel
  obtain ⟨S, hS, hnull⟩ := (Option.any_eq_true ..).mp hserved
  obtain rfl : S = .null := by
    cases S with
    | null => rfl
    | _ => cases hnull
  have hanswer := eq_of_stateOf? hS
  rcases @create_group_outcome env server .usual (.object []) rfl rfl w with
    ⟨failure, -, hrun⟩ |
      ⟨s, o, w', -, hrun, ⟨-, -, -, d, hd, -⟩ | ⟨posts, changes, looks, rest, hcreation⟩⟩
  · cases (congrArg Prod.fst hrun).symm.trans hanswer
  · have hquiet := Outcome.quiet_of_toJson (Except.ok.inj ((congrArg Prod.fst hrun).symm.trans hanswer))
    cases hd.symm.trans hquiet.1
  · obtain ⟨hquiet, hstate⟩ :=
      Outcome.quiet_of_toJson (Except.ok.inj ((congrArg Prod.fst hrun).symm.trans hanswer))
    by_cases hshown : ∃ e group, posts.getLast? = some e ∧ e.Shows FirewallGroup.decoder group
    · obtain ⟨e, group, he, hshows⟩ := hshown
      obtain ⟨-, -, hmissing, hthere⟩ := hcreation.kept e group he hshows
      refine ⟨s, o, w', posts, changes, looks, rest, e, group, hrun, hcreation, he, hshows, ?_, hquiet⟩
      by_cases hgone : ∃ e, looks.getLast? = some e ∧ ∃ r, e.reply = .answer r ∧ r.status = 404
      · exact (hmissing hgone).1
      · -- A group that is kept has a state with its identity.
        obtain ⟨hsome, hid⟩ := hthere hgone
        obtain ⟨S, hS⟩ := Option.isSome_iff_exists.mp hsome
        obtain rfl : S = .null := by rwa [hS] at hstate
        simp [Outcome.value?, hS, Json.asObject?] at hid
    · obtain ⟨-, -, d, hd, -⟩ := hcreation.lost fun e group he hshows => hshown ⟨e, group, he, hshows⟩
      cases hd.symm.trans hquiet

end Server

end CloudProvider
