import CloudProvider.Host.Server
import CloudProvider.Proofs.Resource.Entries

/-!
# Objects that are created are kept

Creating a resource asks for an object once. If the answer shows the object, its identity is in the
state afterwards, whatever goes wrong later, and if not, there is no state.

* `Outcome.value?`: a value in the state afterwards.
* `Lifecycle.settle_outcome`: recording an object keeps its identity, on every exit.
* `Lifecycle.Creation`: what creating comes to unless it is refused.
* `Server.create_keeps_object`: every create is one or the other.
-/

namespace CloudProvider
set_option autoImplicit false

/-! ## Values in the state afterwards -/

/-- A value in the state afterwards. -/
def Outcome.value? (o : Outcome) (key : String) : Option Json :=
  (o.newState.bind Json.asObject?).bind (Keyed.get? key)

theorem Outcome.value?_id {s : ResourceState} {id : String} (hid : s.id = some id)
    (ds : Diagnostics) :
    (Outcome.mk s.toJson? ds).value? ResourceState.idKey = some (.string id) := by
  simp [value?, ResourceState.toJson?, hid, Json.asObject?]

theorem Outcome.value?_of_ne {s : ResourceState} {id key : String} (hid : s.id = some id)
    (hne : key ≠ ResourceState.idKey) (ds : Diagnostics) :
    (Outcome.mk s.toJson? ds).value? key = s.values.get? key := by
  simp [value?, ResourceState.toJson?, hid, Json.asObject?, Keyed.get?_insert_of_ne _ _ _ _ hne]

theorem Diagnostics.ofResult_cases (result : Except ProviderError Unit) :
    ofResult result = [] ∧ result = .ok () ∨
      ∃ d, ofResult result = [d] ∧ d.severity = .error := by
  cases result with
  | ok => exact .inl ⟨rfl, rfl⟩
  | error e => exact .inr ⟨.ofFailure e, rfl, rfl⟩

/-! ## Recording what was created -/

namespace Lifecycle

variable {α : Type} {l : Lifecycle α} (conn : Connection) (c : Collection)

theorem record_outcome (h : l.Writing) (x : α) (s : ResourceState) (w : World) :
    ∃ result s' w' es, l.record conn c x ⟨s, w⟩ = (result, ⟨s', w'⟩) ∧ s'.id = s.id ∧
      Traffic w es w' ∧ l.GetsBeside conn c x es ∧
      ∀ p, l.phases = some p → s'.values.get? "status" = some (.string (p.status x)) := by
  obtain ⟨es, htraffic, hgets, -⟩ := l.beside_run conn c x w
  rw [record_run]
  rcases hrun : l.beside conn c x w with ⟨e | text, w'⟩ <;> rw [hrun] at htraffic
  · refine ⟨_, l.writeTo x s, w', es, rfl, ?_, htraffic, hgets, ?_⟩
    · rw [h.writeTo_frame]
    · intro p hp
      rw [h.writeTo_eq]
      exact (ResourceState.holds_setAll (h.nodup x s) s _ (h.status p hp x s)).get?
  · refine ⟨_, l.write (x, text) s, w', es, rfl, ?_, htraffic, hgets, ?_⟩
    · rw [h.write_frame]
    · intro p hp
      exact (h.holds_write (x, text) s _ (h.status p hp x s)).get?

/-- Waiting for an object and recording it keeps its identity, on every exit. Without failure the
last look at the object has shown that it is ready. -/
theorem settle_outcome (h : l.Writing) (id : String) (pending : Phases α → List String)
    (timeout : Timeouts → Duration) (x : α) (s : ResourceState) (w : World) :
    ∃ result s' w' polls rest, l.settle conn c id pending timeout x ⟨s, w⟩ = (result, ⟨s', w'⟩) ∧
      s'.id = s.id ∧ Traffic w (polls ++ rest) w' ∧
      (∀ e ∈ polls, e.Gets conn.client (c.object id)) ∧ (∃ y, l.GetsBeside conn c y rest) ∧
      (result = .ok () → ∀ p, l.phases = some p → ∃ e y, polls.getLast? = some e ∧
        e.Shows l.decoder y ∧ Text.sameLetters p.ready (p.status y) = true ∧
        s'.values.get? "status" = some (.string (p.status y))) := by
  obtain ⟨polls, w₁, htraffic, hgets, hcases⟩ := l.settle_run conn c id pending timeout x s w
  rcases hcases with ⟨failure, hrun⟩ | ⟨y, hrun, -, hready⟩
  · refine ⟨_, s, w₁, polls, [], hrun, rfl, ?_, hgets, ⟨x, by simp [GetsBeside]⟩, by simp⟩
    simpa using htraffic
  · obtain ⟨result, s', w', rest, hrecord, hid, htraffic', hbeside, hstatus⟩ :=
      record_outcome conn c h y s w₁
    refine ⟨result, s', w', polls, rest, hrun.trans hrecord, hid, htraffic.trans htraffic', hgets,
      ⟨y, hbeside⟩, ?_⟩
    intro _ p hp
    obtain ⟨hletters, e, he, hshows⟩ := hready p hp
    exact ⟨e, y, he, hshows, hletters, hstatus p hp⟩

/-! ## Creating -/

/-- What creating an object comes to unless it is refused: the exchanges that ask for it, the looks
at it, the looks at the text beside it, and the outcome. -/
structure Creation (l : Lifecycle α) (conn : Connection) (c : Collection) (body : Json) (w w' : World)
    (o : Outcome) (posts polls rest : List Exchange) : Prop where
  traffic : Traffic w (posts ++ polls ++ rest) w'
  posted : ∀ e ∈ posts, e.request =
    ⟨.post, conn.client.url c.path, conn.client.headers (some body), some body⟩
  sent : conn.client.Reaches .post c.path (some body) w → posts ≠ []
  first : posts = [] → polls ++ rest = []
  reads : ∀ e ∈ polls ++ rest, e.Reads
  /-- There is a state if and only if the last answer to the request shows the object. -/
  kept : o.newState.isSome = true ↔ ∃ e x, posts.getLast? = some e ∧ e.Shows l.decoder x
  /-- The state has the identity of that object, and the looks are at that object. -/
  identity : ∀ e x, posts.getLast? = some e → e.Shows l.decoder x →
    o.value? ResourceState.idKey = some (.string (l.identity x)) ∧
      (∀ e ∈ polls, e.Gets conn.client (c.object (l.identity x))) ∧ ∃ y, l.GetsBeside conn c y rest
  reported : o.diagnostics = [] ∨ ∃ d, o.diagnostics = [d] ∧ d.severity = .error
  /-- Nothing is reported only if there is a state and the last look has shown that it is ready. -/
  ready : o.diagnostics = [] → o.newState.isSome = true ∧ ∀ p, l.phases = some p →
    ∃ e y, polls.getLast? = some e ∧ e.Shows l.decoder y ∧
      Text.sameLetters p.ready (p.status y) = true ∧
      o.value? "status" = some (.string (p.status y))

/-- Creating a resource is refused before anything is sent, or comes to a creation. -/
theorem created_outcome (h : l.Writing) {planned : Json} {s : ResourceState}
    (hid : (ResourceState.ofJson planned).id = none)
    (hs : l.resource.prepared (ResourceState.ofJson planned) = .ok s) (w : World) :
    ∃ o w', l.resource.created conn planned w = (.ok o, w') ∧
      (((∃ failure, l.place.collection s = .error failure ∨
            l.draft conn.region s = .error failure) ∧
          w' = w ∧ o.newState = none ∧ ∃ d, o.diagnostics = [d] ∧ d.severity = .error) ∨
        ∃ c body posts polls rest, l.place.collection s = .ok c ∧
          l.draft conn.region s = .ok body ∧ l.Creation conn c body w w' o posts polls rest) := by
  obtain ⟨-, hnone, -, -⟩ := ResourceState.sound_of_prepare h.plain h.noIdAttribute
    (ResourceState.ofJson_noIdentity planned) hs
  rw [hid] at hnone
  have hcreated : l.resource.created conn planned w =
      (.ok ⟨(l.create conn ⟨s, w⟩).2.state.toJson?, .ofResult (l.create conn ⟨s, w⟩).1⟩,
        (l.create conn ⟨s, w⟩).2.world) := by
    simp only [Resource.created, hs]
    rfl
  have hgone : s.toJson? = none := by rw [ResourceState.toJson?, hnone, Option.map_none]
  refine ⟨_, _, hcreated, ?_⟩
  rcases l.create_run conn s w with ⟨failure, hrun, hrefused⟩ |
    ⟨c, body, posts, w₁, hcollection, hdraft, hasked, hcases⟩
  · rw [hrun]
    exact .inl ⟨⟨failure, hrefused⟩, rfl, hgone, .ofFailure failure, rfl, rfl⟩
  right
  rcases hcases with ⟨failure, hrun, hnot⟩ | ⟨e, x, he, hshows, hrun⟩
  · -- The object was not created, so that there is no identity.
    rw [hrun]
    refine ⟨c, body, posts, [], [], hcollection, hdraft, ?_, hasked.request, hasked.sent.mpr, fun _ => rfl,
      by simp, ?_, ?_, .inr ⟨.ofFailure failure, rfl, rfl⟩, fun hnil => by cases hnil⟩
    · simpa using hasked.traffic
    · simp only [hgone, Option.isSome_none, Bool.false_eq_true, false_iff]
      rintro ⟨e, x, he, hshows⟩
      exact hnot e he x hshows
    · intro e x he hshows
      exact absurd hshows (hnot e he x)
  · obtain ⟨result, s', w', polls, rest, hsettle, hsame, htraffic, hgets, hbeside, hready⟩ :=
      settle_outcome conn c h (l.identity x) (·.creating) (·.create) x
        (s.setId (l.identity x)) w₁
    have hid' : s'.id = some (l.identity x) := hsame
    have hsome : s'.toJson?.isSome = true := by
      rw [ResourceState.toJson?, hid', Option.map_some, Option.isSome_some]
    rw [hrun, hsettle]
    refine ⟨c, body, posts, polls, rest, hcollection, hdraft, ?_, hasked.request, hasked.sent.mpr, ?_, ?_,
      ?_, ?_, ?_, ?_⟩
    · rw [List.append_assoc]
      exact hasked.traffic.trans htraffic
    · rintro rfl
      cases he
    · intro e' he'
      rcases List.mem_append.mp he' with hpoll | hrest
      · exact congrArg Request.method (hgets e' hpoll)
      · obtain ⟨y, hy⟩ := hbeside
        obtain ⟨a, -, hget⟩ := hy e' hrest
        exact congrArg Request.method hget
    · exact ⟨fun _ => ⟨e, x, he, hshows⟩, fun _ => hsome⟩
    · intro e' x' he' hshows'
      obtain rfl := Option.some.inj (he.symm.trans he')
      obtain rfl := hshows.unique hshows'
      exact ⟨Outcome.value?_id hid' _, hgets, hbeside⟩
    · rcases Diagnostics.ofResult_cases result with ⟨hnil, -⟩ | hone
      · exact .inl hnil
      · exact .inr hone
    · intro hnil
      refine ⟨hsome, fun p hp => ?_⟩
      rcases Diagnostics.ofResult_cases result with ⟨-, hok⟩ | ⟨d, hd, -⟩
      · obtain ⟨e', y, he', hshows', hletters, hstatus⟩ := hready hok p hp
        refine ⟨e', y, he', hshows', hletters, ?_⟩
        exact (Outcome.value?_of_ne hid' (by decide) _).trans hstatus
      · cases hd.symm.trans hnil

end Lifecycle

/-! ## The server -/

namespace Server

variable {env : Environment} {server : Server} {conn : Connection} {t : ResourceType}
  {l : Lifecycle t.Object} {planned : Json} {s : ResourceState}

/-- A create never invents an object and never loses one. If it is refused, nothing is sent, there is
no state and one error is reported. Otherwise there is a state if and only if the last answer to the
request shows the object, and it has the identity of that object. -/
theorem create_keeps_object (hconn : server.connection = some conn) (hlife : t.lifecycle? = some l)
    (hid : (ResourceState.ofJson planned).id = none)
    (hs : t.resource.prepared (ResourceState.ofJson planned) = .ok s) (w : World) :
    ∃ o w', server.run env (.create t planned) w = (.ok (Outcome.toJson o), server, w') ∧
      (((∃ failure, l.place.collection s = .error failure ∨
            l.draft conn.region s = .error failure) ∧
          w' = w ∧ o.newState = none ∧ ∃ d, o.diagnostics = [d] ∧ d.severity = .error) ∨
        ∃ c body posts polls rest, l.place.collection s = .ok c ∧
          l.draft conn.region s = .ok body ∧ l.Creation conn c body w w' o posts polls rest) := by
  obtain ⟨hwriting⟩ := ResourceType.writing hlife
  rw [ResourceType.resource_of_lifecycle? hlife] at hs
  obtain ⟨o, w', hrun, hcases⟩ := Lifecycle.created_outcome conn hwriting hid hs w
  refine ⟨o, w', ?_, hcases⟩
  rw [← ResourceType.resource_of_lifecycle? hlife] at hrun
  unfold run connected
  rw [hconn]
  dsimp only
  rw [hrun]
  rfl

/-- A network whose deadlines are not given can be created, or is refused, in this way. -/
theorem create_keeps_object_private_lan :
    let client : Client :=
      ⟨⟨"https", some ⟨[], "api.fleetform.cloud".toList, none⟩, .segments [['v', '1']], none, none⟩,
        "secret", none, .default⟩
    let conn : Connection := ⟨client, none, .ofSeconds 10⟩
    let server : Server := ⟨some conn, false⟩
    let env : Environment := ⟨[], none, fun _ => .missing⟩
    let w : World := ⟨⟨true, []⟩, 0, []⟩
    let planned := Json.object
      [("ip_range", .string "10.0.0.0/24"), ("name", .string "backend"), ("region", .string "eu")]
    let l := PrivateLan.lifecycle
    ∃ s o w', ResourceType.privateLan.resource.prepared (.ofJson planned) = .ok s ∧
      server.run env (.create .privateLan planned) w = (.ok (Outcome.toJson o), server, w') ∧
      (((∃ failure, l.place.collection s = .error failure ∨
            l.draft conn.region s = .error failure) ∧
          w' = w ∧ o.newState = none ∧ ∃ d, o.diagnostics = [d] ∧ d.severity = .error) ∨
        ∃ c body posts polls rest, l.place.collection s = .ok c ∧
          l.draft conn.region s = .ok body ∧ l.Creation conn c body w w' o posts polls rest) := by
  intro client conn server env w planned l
  have hprepared : (ResourceType.privateLan.resource.prepared (.ofJson planned) matches .ok _) =
      true := by
    decide +kernel
  cases hs : ResourceType.privateLan.resource.prepared (.ofJson planned) with
  | error failure =>
    rw [hs] at hprepared
    cases hprepared
  | ok s =>
    obtain ⟨o, w', h⟩ :=
      @create_keeps_object env server conn .privateLan l planned s rfl rfl rfl hs w
    exact ⟨s, o, w', rfl, h⟩

end Server

end CloudProvider
