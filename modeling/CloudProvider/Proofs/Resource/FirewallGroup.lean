import CloudProvider.Proofs.Resource.Portrait

/-!
# What a firewall group shows and what is written of it

A group is read together with its rules, at the end of every operation on it.

* `FirewallGroup.look`: the requests of a read.
* `FirewallGroup.syncRules_keeps`: rules are created and deleted beside the state.
* `FirewallGroup.portrait`: the laws of the operations.
-/

namespace CloudProvider
set_option autoImplicit false

namespace FirewallGroup

def entries (group : FirewallGroup) (rules : List FirewallRule) : List (String × Json) :=
  [("description", .string group.description), ("rule", .array (rules.map FirewallRule.toBlock))]

theorem entries_fit (group : FirewallGroup) (rules : List FirewallRule) :
    ∀ entry ∈ group.entries rules, FitsAt schema.attributes entry.1 entry.2 := by
  have hrules := fill_items FirewallRule.fill_toBlock (fun _ => ⟨_, rfl⟩) rules
  simp only [entries, List.forall_mem_cons]
  exact ⟨fitsAt_of_isScalar _ _ rfl, fitsAt_items rfl hrules, by simp⟩

/-- Looks for a group and its rules. -/
def look (conn : Connection) : Step (Option (FirewallGroup × List FirewallRule)) := do
  let id ← Step.ofState (·.requireId)
  match ← Step.call (conn.client.getOptional decoder (groups ++ [id])) with
  | some group => return some (group, ← listRules conn id)
  | none => return none

/-- The answers show the group and its rules. -/
def ShownIn (v : FirewallGroup × List FirewallRule) (es : List Exchange) : Prop :=
  (∃ e ∈ es, e.Shows decoder v.1) ∧ ∃ e ∈ es, e.Shows listDecoder v.2

theorem ShownIn.after {v : FirewallGroup × List FirewallRule} {es : List Exchange}
    (h : ShownIn v es) (before : List Exchange) : ShownIn v (before ++ es) := by
  obtain ⟨⟨e, he, hshows⟩, e', he', hshows'⟩ := h
  exact ⟨⟨e, List.mem_append_right _ he, hshows⟩, e', List.mem_append_right _ he', hshows'⟩

variable {conn : Connection} {s : ResourceState} {w w' : World} {work : Work}

theorem listRules_run (conn : Connection) (group : String) (s : ResourceState) (w : World) :
    ∃ es w', Traffic w es w' ∧ (∀ e ∈ es, e.Reads) ∧
      (listRules conn group ⟨s, w⟩).2 = ⟨s, w'⟩ ∧
      ∀ rules, (listRules conn group ⟨s, w⟩).1 = .ok rules →
        ∃ e ∈ es, e.Shows listDecoder rules := by
  obtain ⟨es, hasked, hok, -⟩ := conn.client.get_asked (rules group) w listDecoder
  refine ⟨es, _, hasked.traffic, ?_, rfl, ?_⟩
  · intro e he
    exact congrArg Request.method (hasked.request e he)
  · intro rules hrules
    rw [listRules, Step.call_run] at hrules
    cases hget : (conn.client.get listDecoder (FirewallGroup.rules group) w).1 with
    | error e =>
      rw [hget] at hrules
      cases hrules
    | ok found =>
      rw [hget] at hrules
      obtain rfl := Except.ok.inj hrules
      obtain ⟨e, he, hshows⟩ := (hok found).mp hget
      exact ⟨e, List.mem_of_getLast? he, hshows⟩

theorem read_eq (conn : Connection) (work : Work) :
    read conn work = (do
      match ← look conn with
      | some v => Step.change (v.1.writeTo v.2)
      | none => Step.change (·.clearId) : Step Unit) work := by
  simp only [read, look, run_bind]
  rcases Step.ofState (·.requireId) work with ⟨e | id, work₁⟩
  · rfl
  · dsimp only
    rcases Step.call (conn.client.getOptional decoder (groups ++ [id])) work₁ with
      ⟨e | found, work₂⟩
    · rfl
    · cases found with
      | none => rfl
      | some group =>
        simp only [run_bind]
        rcases listRules conn id work₂ with ⟨e | rules, work₃⟩ <;> rfl

theorem look_run (conn : Connection) (s : ResourceState) (w : World) :
    ∃ es w', Traffic w es w' ∧ (∀ e ∈ es, e.Reads) ∧ (look conn ⟨s, w⟩).2 = ⟨s, w'⟩ ∧
      ∀ v, (look conn ⟨s, w⟩).1 = .ok (some v) → ShownIn v es := by
  simp only [look, run_bind, Step.ofState_run]
  cases s.requireId with
  | error failure => exact ⟨[], w, .refl w, by simp, rfl, by simp⟩
  | ok id =>
    dsimp only
    obtain ⟨es, hasked, hok, -⟩ := conn.client.getOptional_asked (groups ++ [id]) w decoder
    have hreads : ∀ e ∈ es, e.Reads := fun e he => congrArg Request.method (hasked.request e he)
    cases hget : (conn.client.getOptional decoder (groups ++ [id]) w).1 with
    | error e =>
      rw [Step.call_error ⟨s, w⟩ hget]
      exact ⟨es, _, hasked.traffic, hreads, rfl, by simp⟩
    | ok found =>
      rw [Step.call_ok ⟨s, w⟩ hget]
      generalize (conn.client.getOptional decoder (groups ++ [id]) w).2 = w₁ at hasked ⊢
      cases found with
      | none => exact ⟨es, _, hasked.traffic, hreads, rfl, by simp [run_pure]⟩
      | some group =>
        obtain ⟨e, he, hshows⟩ := (hok group).mp hget
        obtain ⟨es', w', htraffic, hreads', hstate, hrules⟩ := listRules_run conn id s w₁
        refine ⟨es ++ es', w', hasked.traffic.trans htraffic, ?_, ?_, ?_⟩
        · intro e he
          exact (List.mem_append.mp he).elim (hreads e) (hreads' e)
        · simp only [run_bind]
          rcases hrun : listRules conn id ⟨s, w₁⟩ with ⟨e | rules, work⟩ <;>
            rw [hrun] at hstate <;> exact hstate
        · intro v hv
          simp only [run_bind] at hv
          rcases hrun : listRules conn id ⟨s, w₁⟩ with ⟨e' | rules, work⟩
          · rw [hrun] at hv
            cases hv
          · rw [hrun] at hv hrules
            obtain rfl := Option.some.inj (Except.ok.inj hv)
            obtain ⟨e', he', hshows'⟩ := hrules rules rfl
            exact ⟨⟨e, List.mem_append_left _ (List.mem_of_getLast? he), hshows⟩,
              e', List.mem_append_right _ he', hshows'⟩

/-! ## The operations -/

theorem read_of_look {v : FirewallGroup × List FirewallRule}
    (h : look conn ⟨s, w⟩ = (.ok (some v), ⟨s, w'⟩)) :
    read conn ⟨s, w⟩ = (.ok (), ⟨v.1.writeTo v.2 s, w'⟩) := by
  rw [read_eq, run_bind, h]
  rfl

theorem read_ends (h : read conn ⟨s, w⟩ = (.ok (), work)) :
    work.state.id = none ∨
      ∃ v es, work.state = v.1.writeTo v.2 s ∧ Traffic w es work.world ∧ ShownIn v es := by
  obtain ⟨es, w', htraffic, -, hstate, hshown⟩ := look_run conn s w
  rw [read_eq] at h
  obtain ⟨found, work₁, hlook, h⟩ := run_bind_ok h
  rw [hlook] at hstate hshown
  obtain rfl : work₁ = ⟨s, w'⟩ := hstate
  cases found with
  | none =>
    obtain rfl := (Prod.mk.inj h).2
    exact .inl rfl
  | some v =>
    obtain rfl := (Prod.mk.inj h).2
    exact .inr ⟨v, es, rfl, htraffic, hshown v rfl⟩

variable (conn) in
theorem read_sends : Step.Sends Exchange.Reads (read conn) := by
  rintro ⟨s, w⟩
  obtain ⟨es, w', htraffic, hreads, hstate, -⟩ := look_run conn s w
  refine ⟨es, ?_, hreads⟩
  rw [read_eq, run_bind]
  rcases hlook : look conn ⟨s, w⟩ with ⟨e | found, work⟩ <;> rw [hlook] at hstate
  · obtain rfl : work = ⟨s, w'⟩ := hstate
    exact htraffic
  · obtain rfl : work = ⟨s, w'⟩ := hstate
    cases found <;> exact htraffic

theorem syncRules_keeps (group : String) : Step.Keeps (fun _ => True) (syncRules conn group) := by
  refine (Step.Keeps.ofState _).bind fun wanted => ?_
  refine (Step.Keeps.get fun _ _ => trivial).bind fun found => ?_
  refine (Step.Keeps.forM fun id _ => .delete fun _ _ => trivial).bind fun _ => ?_
  exact .forM fun content _ => .bind (.post fun _ _ => trivial) fun _ => .pure _

/-- What ends with a read after steps that keep the state shows what was read. -/
theorem ends_with_read {α : Type} {m : Step α} (hm : Step.Keeps (fun _ => True) m)
    (h : (m >>= fun _ => read conn) ⟨s, w⟩ = (.ok (), work)) :
    work.state.id = none ∨
      ∃ v es, work.state = v.1.writeTo v.2 s ∧ Traffic w es work.world ∧ ShownIn v es := by
  obtain ⟨a, work₁, hrun, h⟩ := run_bind_ok h
  obtain ⟨es, w₁, hstate, htraffic, -⟩ := hm ⟨s, w⟩
  rw [hrun] at hstate
  obtain rfl : work₁ = ⟨s, w₁⟩ := hstate
  rcases read_ends h with hgone | ⟨v, es', hwritten, htraffic', hshown⟩
  · exact .inl hgone
  · exact .inr ⟨v, es ++ es', hwritten, htraffic.trans htraffic', hshown.after es⟩

theorem create_ends (h : create conn ⟨s, w⟩ = (.ok (), work)) :
    work.state.id = none ∨
      ∃ v id es, work.state = v.1.writeTo v.2 (s.setId id) ∧ Traffic w es work.world ∧
        ShownIn v es := by
  obtain ⟨wanted, work₁, hwanted, h⟩ := run_bind_ok h
  obtain ⟨-, rfl⟩ := Prod.mk.inj hwanted
  obtain ⟨body, work₂, hbody, h⟩ := run_bind_ok h
  obtain ⟨-, rfl⟩ := Prod.mk.inj hbody
  obtain ⟨group, work₃, hpost, h⟩ := run_bind_ok h
  rw [Step.call_run] at hpost
  obtain ⟨-, rfl⟩ := Prod.mk.inj hpost
  obtain ⟨_, work₄, hset, h⟩ := run_bind_ok h
  obtain ⟨-, rfl⟩ := Prod.mk.inj hset
  obtain ⟨es, hasked, -⟩ := conn.client.post_asked groups w decoder body
  rcases ends_with_read (syncRules_keeps group.id) h with
    hgone | ⟨v, es', hwritten, htraffic, hshown⟩
  · exact .inl hgone
  · exact .inr ⟨v, group.id, es ++ es', hwritten, hasked.traffic.trans htraffic,
      hshown.after es⟩

/-- The part of an update that comes after the description. -/
theorem rules_end {id : String}
    (h : (do
      if ← Step.ofState fun s => .ok (s.hasChange "rule") then
        syncRules conn id
      read conn : Step Unit) ⟨s, w⟩ = (.ok (), work)) :
    work.state.id = none ∨
      ∃ v es, work.state = v.1.writeTo v.2 s ∧ Traffic w es work.world ∧ ShownIn v es := by
  obtain ⟨changed, work₁, hchanged, h⟩ := run_bind_ok h
  obtain ⟨-, rfl⟩ := Prod.mk.inj hchanged
  cases changed with
  | false => exact read_ends h
  | true => exact ends_with_read (syncRules_keeps id) h

theorem update_ends (h : update conn ⟨s, w⟩ = (.ok (), work)) :
    work.state.id = none ∨
      ∃ v es, work.state = v.1.writeTo v.2 s ∧ Traffic w es work.world ∧ ShownIn v es := by
  obtain ⟨id, work₁, hid, h⟩ := run_bind_ok h
  obtain ⟨-, rfl⟩ := Prod.mk.inj hid
  obtain ⟨described, work₂, hdescribed, h⟩ := run_bind_ok h
  obtain ⟨-, rfl⟩ := Prod.mk.inj hdescribed
  cases described with
  | false => exact rules_end h
  | true =>
    obtain ⟨body, work₃, hbody, h⟩ := run_bind_ok h
    obtain ⟨-, rfl⟩ := Prod.mk.inj hbody
    obtain ⟨group, work₄, hpatch, h⟩ := run_bind_ok h
    rw [Step.call_run] at hpatch
    obtain ⟨-, rfl⟩ := Prod.mk.inj hpatch
    obtain ⟨es, hasked, -⟩ := conn.client.patch_asked (groups ++ [id]) w decoder body
    rcases rules_end h with hgone | ⟨v, es', hwritten, htraffic, hshown⟩
    · exact .inl hgone
    · exact .inr ⟨v, es ++ es', hwritten, hasked.traffic.trans htraffic, hshown.after es⟩

theorem update_same (hsame : s.values = s.prior) :
    update conn ⟨s, w⟩ = read conn ⟨s, w⟩ := by
  have hnone (key : String) : s.hasChange key = false :=
    ResourceState.hasChange_of_eq (congrArg (Keyed.get? key) hsame)
  simp only [update, run_bind, Step.ofState_run]
  cases hid : s.requireId with
  | error failure => simp only [read, run_bind, Step.ofState_run, hid]
  | ok id => simp only [hnone, Bool.false_eq_true, if_false, run_bind, Step.ofState_run]

/-- The resource of firewall groups. -/
def portrait : Portrait resource where
  View := FirewallGroup × List FirewallRule
  look := look
  write v s := v.1.writeTo v.2 s
  ShownIn := ShownIn
  plain := by rfl
  noIdAttribute := by decide
  frame v s := ResourceState.setAll_frame s (v.1.entries v.2)
  sound v s hs := by
    change (s.setAll (v.1.entries v.2)).Sound _ _
    refine hs.setAll (by rfl) fun entry hentry => ?_
    have hkeys : ∀ entry ∈ v.1.entries v.2,
        entry.1 ≠ ResourceState.idKey ∧ entry.1 ≠ Schema.timeoutsName := by
      simp [entries, ResourceState.idKey, Schema.timeoutsName]
    exact ⟨(hkeys entry hentry).1, (hkeys entry hentry).2, entries_fit v.1 v.2 entry hentry⟩
  again v s s' hs' := by
    have hholds : s'.Holds (v.1.entries v.2) := by
      intro entry hentry
      rw [hs']
      exact ResourceState.holds_setAll (by simp [entries]) s entry hentry
    exact hholds.setAll_eq
  adopt_sound id s s' hadopt hs := by
    obtain rfl := Except.ok.inj hadopt
    exact hs.setId id
  read_of_look _ _ _ _ _ hlook := read_of_look hlook
  read_sends := read_sends
  read_ends _ _ _ _ hrun := read_ends hrun
  create_ends _ _ _ _ hrun := create_ends hrun
  update_ends _ _ _ _ hrun := update_ends hrun
  update_same _ _ _ hsame := update_same hsame

end FirewallGroup

end CloudProvider
