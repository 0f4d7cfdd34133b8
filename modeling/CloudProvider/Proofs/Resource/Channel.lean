import CloudProvider.Proofs.Resource.Stored
import CloudProvider.Proofs.Schema.Valid

/-!
# Attributes on their way to the API and back

An attribute that changes is sent under the name of a member, stored by the API, and written into the
state again. It arrives if the planned value is then no change any more.

* `Route`, `Channel`: the way of one attribute, and when its planned value is stuck.
* `Channel.exact`: after a change the planned value is told apart from the recorded one exactly if it
  is stuck.
* `TooLarge`, `Dropped`: values that never arrive.
* `Convergence`: the channels of all attributes that can be changed.
* `Convergence.hasChanges_iff`: an update makes the next one an update again exactly if a value is stuck.
-/

namespace CloudProvider
open Json
set_option autoImplicit false

/-! ## Fields that depend on one member -/

/-- The field is read from one member alone. -/
def Json.Record.Local {β : Type} (member : String) (r : Record β) : Prop :=
  ∀ {m m' : Keyed Json}, m.get? member = m'.get? member →
    r.build (Record.ofMembers m) = r.build (Record.ofMembers m')

theorem Json.Record.local_required {β : Type} (name : String) (decode : Decoder β) :
    (Record.required name decode).Local name := by
  intro m m' h
  rw [required_build, required_build, h]

theorem Json.Record.local_defaulted {β : Type} (name : String) (decode : Decoder β) (default : β) :
    (Record.defaulted name decode default).Local name := by
  intro m m' h
  rw [defaulted_build, defaulted_build, h]

/-! ## Members that may be left out -/

theorem get?_member? {β : Type} (key name : String) (encode : β → Json) (o : Option β)
    (rest : Keyed Json) :
    Keyed.get? key (member? name encode o ++ rest) =
      if name = key then (o.map encode <|> rest.get? key) else rest.get? key := by
  cases o with
  | none => simp [member?]
  | some a =>
    simp only [member?, List.cons_append, List.nil_append, Keyed.get?_cons]
    split <;> simp

theorem get?_member?_last {β : Type} (key name : String) (encode : β → Json) (o : Option β) :
    Keyed.get? key (member? name encode o) = if name = key then o.map encode else none := by
  simpa using get?_member? key name encode o []

/-! ## Single attributes -/

/-- An update with the planned values of the state sends the changes. -/
structure Lifecycle.Sends {α : Type} (l : Lifecycle α) (s : ResourceState) (body : Keyed Json) :
    Prop where
  planned : Planned l.schema.attributes s.values
  changes : l.changes s = .ok (.object body)
  changed : s.hasChanges l.updatable = true

/-- The way of an attribute to the API and back. -/
structure Route {α : Type} {l : Lifecycle α} (h : l.Writing) where
  Value : Type
  key : String
  member : String
  /-- Reads the value in an answer. -/
  field : Record Value
  value : α → Value
  /-- The value as it is recorded. -/
  encode : Value → Json
  ne_status : member ≠ "status"
  recorded : ∀ x s, (key, encode (value x)) ∈ h.entries x s
  reads : ∀ {m : Keyed Json} {x : α}, l.decoder (.object m) = .ok x →
    field.build (Record.ofMembers m) = .ok (value x)
  isLocal : field.Local member

/-- A route, and when a planned value is stuck on it: it never becomes equal to what is recorded. -/
structure Channel {α : Type} {l : Lifecycle α} (h : l.Writing) extends Route h where
  /-- The planned value never arrives, given the one before. -/
  Stuck : Option Json → Option Json → Prop
  unsent : ∀ {s : ResourceState} {body : Keyed Json}, l.Sends s body → s.hasChange key = false →
    body.get? member = none
  /-- A value that changes is sent, and when it is read again it is the planned one. -/
  arrives : ∀ {s : ResourceState} {body : Keyed Json}, l.Sends s body → s.hasChange key = true →
    ¬ Stuck (s.values.get? key) (s.prior.get? key) →
    ∃ v a, body.get? member = some v ∧
      (∀ m : Keyed Json, m.get? member = some v → field.build (Record.ofMembers m) = .ok a) ∧
      (s.values.get? key).bind normalize = normalize (encode a)
  stuck_differs : ∀ {v : Option Json} {a : Value}, Stuck v (some (encode a)) →
    differs v (some (encode a)) = true
  /-- A stuck value is not sent, or it is stuck whatever is recorded. -/
  stays : ∀ {s : ResourceState} {body : Keyed Json}, l.Sends s body →
    Stuck (s.values.get? key) (s.prior.get? key) →
    body.get? member = none ∨ ∀ w, Stuck (s.values.get? key) w

namespace Channel

variable {α : Type} {l : Lifecycle α} {h : l.Writing} (ch : Channel h)

/-- What is recorded of an object. -/
def entry (x : α) : Json := ch.encode (ch.value x)

theorem entry_eq {m m' : Keyed Json} {x x' : α} (hx : l.decoder (.object m) = .ok x)
    (hx' : l.decoder (.object m') = .ok x') (hsame : m.get? ch.member = m'.get? ch.member) :
    ch.entry x = ch.entry x' := by
  have hvalue := (ch.reads hx).symm.trans ((ch.isLocal hsame).trans (ch.reads hx'))
  exact congrArg ch.encode (Except.ok.inj hvalue)

variable {ch} {s : ResourceState} {doc body m₀ m : Keyed Json} {x₀ x : α}

theorem not_stuck (hprior : s.prior.get? ch.key = some (ch.entry x₀))
    (hsame : s.hasChange ch.key = false) : ¬ ch.Stuck (s.values.get? ch.key) (s.prior.get? ch.key) := by
  intro hstuck
  rw [hprior] at hstuck
  rw [ResourceState.hasChange_eq, hprior] at hsame
  cases hsame.symm.trans (ch.stuck_differs hstuck)

/-- Once the changes are stored, the planned value is told apart from the recorded one exactly if it is
stuck. -/
theorem exact (hsends : l.Sends s body) (hprior : s.prior.get? ch.key = some (ch.entry x₀))
    (hx₀ : l.decoder (.object m₀) = .ok x₀) (hm₀ : AgreesWith doc m₀)
    (hx : l.decoder (.object m) = .ok x) (hm : AgreesWith (Keyed.onto body doc) m) :
    differs (s.values.get? ch.key) (some (ch.entry x)) = true ↔
      ch.Stuck (s.values.get? ch.key) (s.prior.get? ch.key) := by
  have hmember : m.get? ch.member = (body.get? ch.member <|> doc.get? ch.member) := by
    rw [hm ch.member ch.ne_status, Keyed.get?_onto]
  -- What is not sent is recorded as it was before.
  have hkept (hnone : body.get? ch.member = none) : ch.entry x = ch.entry x₀ := by
    refine ch.entry_eq hx hx₀ ?_
    rw [hmember, hnone, hm₀ ch.member ch.ne_status]
    rfl
  by_cases hstuck : ch.Stuck (s.values.get? ch.key) (s.prior.get? ch.key)
  · refine ⟨fun _ => hstuck, fun _ => ?_⟩
    rcases ch.stays hsends hstuck with hnone | hall
    · rw [hprior] at hstuck
      rw [hkept hnone]
      exact ch.stuck_differs hstuck
    · exact ch.stuck_differs (hall _)
  · refine ⟨fun hdiffers => ?_, fun hstuck' => absurd hstuck' hstuck⟩
    cases hchange : s.hasChange ch.key with
    | false =>
      rw [hkept (ch.unsent hsends hchange), ← hprior, ← ResourceState.hasChange_eq, hchange]
        at hdiffers
      cases hdiffers
    | true =>
      obtain ⟨v, a, hv, hread, hsame⟩ := ch.arrives hsends hchange hstuck
      have hsent : m.get? ch.member = some v := by
        rw [hmember, hv]
        rfl
      obtain rfl := Except.ok.inj ((hread m hsent).symm.trans (ch.reads hx))
      rw [@differs_of_eq _ (some (ch.entry x)) hsame] at hdiffers
      cases hdiffers

end Channel

/-! ## Values that are sent as they are planned -/

theorem ResourceState.ifChanged_ok {s : ResourceState} {key : String} {β : Type}
    {value : Except ProviderError β} {o : Option β} :
    s.ifChanged key value = .ok o ↔
      s.hasChange key = false ∧ o = none ∨ s.hasChange key = true ∧ ∃ a, value = .ok a ∧ o = some a := by
  rw [ifChanged]
  cases s.hasChange key with
  | false => simp [eq_comm]
  | true => cases value <;> simp [Functor.map, Except.map, eq_comm]

theorem ResourceState.ifChanged_map {s : ResourceState} {key : String} {β γ : Type} (f : β → γ)
    {value : Except ProviderError β} {o : Option β} (h : s.ifChanged key value = .ok o) :
    s.ifChanged key (f <$> value) = .ok (o.map f) := by
  rw [ifChanged_ok] at h ⊢
  rcases h with ⟨hsame, rfl⟩ | ⟨hchange, a, rfl, rfl⟩
  · exact .inl ⟨hsame, rfl⟩
  · exact .inr ⟨hchange, f a, rfl, rfl⟩

theorem ResourceState.ifChanged_of_ok {key : String} {β : Type} {value : Except ProviderError β} {b : β}
    (h : value = .ok b) (s : ResourceState) : ∃ o, s.ifChanged key value = .ok o := by
  rw [h, ifChanged]
  split
  · exact ⟨some b, rfl⟩
  · exact ⟨none, rfl⟩

/-- The value of an attribute is sent if it changes. -/
def SentIfChanged {β : Type} (s : ResourceState) (body : Keyed Json) (key member : String)
    (value : Except ProviderError β) (encode : β → Json) : Prop :=
  ∃ o, s.ifChanged key value = .ok o ∧ body.get? member = o.map encode

/-- A route on which a value is sent if it changes, so that only the planned value itself can be what is
stuck. -/
structure DirectRoute {α : Type} {l : Lifecycle α} (h : l.Writing) extends Route h where
  requested : ResourceState → Except ProviderError Value
  /-- The value as it is sent. -/
  sendAs : Value → Json
  Stuck : Option Json → Prop
  sends : ∀ {s : ResourceState} {body : Keyed Json}, l.Sends s body →
    SentIfChanged s body key member (requested s) sendAs
  rereads : ∀ {m : Keyed Json} {a : Value}, m.get? member = some (sendAs a) →
    field.build (Record.ofMembers m) = .ok a
  same : ∀ {s : ResourceState} {a : Value}, Planned l.schema.attributes s.values →
    requested s = .ok a → ¬ Stuck (s.values.get? key) →
    (s.values.get? key).bind normalize = normalize (encode a)
  stuck_differs : ∀ {v : Option Json} {a : Value}, Stuck v → differs v (some (encode a)) = true

def DirectRoute.channel {α : Type} {l : Lifecycle α} {h : l.Writing} (r : DirectRoute h) : Channel h where
  toRoute := r.toRoute
  Stuck v _ := r.Stuck v
  unsent hsends hsame := by
    obtain ⟨o, ho, hmember⟩ := r.sends hsends
    rcases ResourceState.ifChanged_ok.mp ho with ⟨-, rfl⟩ | ⟨hchange, -⟩
    · exact hmember
    · cases hsame.symm.trans hchange
  arrives hsends hchange hstuck := by
    obtain ⟨o, ho, hmember⟩ := r.sends hsends
    rcases ResourceState.ifChanged_ok.mp ho with ⟨hsame, -⟩ | ⟨-, a, ha, rfl⟩
    · cases hsame.symm.trans hchange
    · exact ⟨_, a, hmember, fun m hm => r.rereads hm, r.same hsends.planned ha hstuck⟩
  stuck_differs := r.stuck_differs
  stays _ hstuck := .inr fun _ => hstuck

/-- A route of scalars that have to be given, written everywhere in the same way. -/
structure ScalarRoute {α : Type} {l : Lifecycle α} (h : l.Writing) where
  Value : Type
  key : String
  decode : Decoder Value
  encode : Value → Json
  exact : Decode.Exact decode encode
  value : α → Value
  ne_status : key ≠ "status"
  recorded : ∀ x s, (key, encode (value x)) ∈ h.entries x s
  reads : ∀ {m : Keyed Json} {x : α}, l.decoder (.object m) = .ok x →
    (Record.required key decode).build (Record.ofMembers m) = .ok (value x)
  requested : ResourceState → Except ProviderError Value
  sends : ∀ {s : ResourceState} {body : Keyed Json}, l.Sends s body →
    SentIfChanged s body key key (requested s) encode
  given : ∀ {s : ResourceState} {a : Value}, requested s = .ok a →
    s.values.get? key = some (encode a)

def ScalarRoute.channel {α : Type} {l : Lifecycle α} {h : l.Writing} (r : ScalarRoute h) : Channel h :=
  DirectRoute.channel {
    Value := r.Value
    key := r.key
    member := r.key
    field := Record.required r.key r.decode
    value := r.value
    encode := r.encode
    ne_status := r.ne_status
    recorded := r.recorded
    reads := r.reads
    isLocal := Record.local_required _ _
    requested := r.requested
    sendAs := r.encode
    Stuck := fun _ => False
    sends := r.sends
    rereads := fun hm => Record.required_reads r.exact.reads hm
    same := fun _ ha _ => by
      rw [r.given ha]
      rfl
    stuck_differs := False.elim }

/-- A route of texts that have to be given. -/
def ScalarRoute.text {α : Type} {l : Lifecycle α} {h : l.Writing} (key : String) (value : α → String)
    (ne_status : key ≠ "status") (recorded : ∀ x s, (key, .string (value x)) ∈ h.entries x s)
    (reads : ∀ {m : Keyed Json} {x : α}, l.decoder (.object m) = .ok x →
      (Record.required key Decode.text).build (Record.ofMembers m) = .ok (value x))
    (sends : ∀ {s : ResourceState} {body : Keyed Json}, l.Sends s body →
      SentIfChanged s body key key (s.requiredText key) .string) : ScalarRoute h where
  Value := String
  key := key
  decode := Decode.text
  encode := .string
  exact := Decode.text_exact
  value := value
  ne_status := ne_status
  recorded := recorded
  reads := reads
  requested s := s.requiredText key
  sends := sends
  given := ResourceState.requiredText_ok.mp

theorem name_ne_status : "name" ≠ "status" := by
  decide

/-! ## Values that never arrive -/

/-- An integer that is larger than every signed one of 64 bits. -/
def TooLarge (v : Option Json) : Prop :=
  ∃ n : Integer, v = some (.number (.int n)) ∧ n.toInt64? = none

/-- A value that is taken away. -/
def Dropped (v w : Option Json) : Prop :=
  v.bind normalize = none ∧ w.bind normalize ≠ none

theorem Dropped.differs {v w : Option Json} (h : Dropped v w) : differs v w = true := by
  obtain ⟨hv, hw⟩ := h
  rw [CloudProvider.differs, hv]
  cases hnormal : w.bind normalize with
  | none => exact absurd hnormal hw
  | some u => rfl

theorem TooLarge.differs {v : Option Json} (h : TooLarge v) (p : UInt32) :
    differs v (some (.uint32 p)) = true := by
  obtain ⟨n, rfl, hn⟩ := h
  refine Bool.not_eq_false _ |>.mp fun hsame => ?_
  have hn' : n = .ofUInt64 p.toUInt64 := by
    simpa [CloudProvider.differs, normalize, uint32, uint64, sameOption, same, sameNumber] using hsame
  have hval : n.val = p.toNat := by
    rw [hn']
    exact congrArg Int.ofNat p.toNat_toUInt64
  rw [Integer.toInt64?, hval] at hn
  have hlt := p.toNat_lt
  split at hn
  · cases hn
  · omega

/-! ## All attributes of a type -/

/-- The channels of all attributes that can be changed. -/
structure Convergence {α : Type} {l : Lifecycle α} (h : l.Writing) where
  channels : List (Channel h)
  updatable : channels.map (·.key) = l.updatable
  /-- A change is sent as an object. -/
  object : ∀ (s : ResourceState) (v : Json), l.changes s = .ok v → ∃ body, v = .object body
  /-- While a value is stuck, an update that differs from the one before only in this can be sent. -/
  again : ∀ (s s' : ResourceState) (v : Json), l.changes s = .ok v → s'.values = s.values →
    (∃ ch ∈ channels, ch.Stuck (s.values.get? ch.key) (s.prior.get? ch.key)) →
    (∀ ch ∈ channels, s'.hasChange ch.key = true →
      ch.Stuck (s.values.get? ch.key) (s.prior.get? ch.key)) →
    ∃ v', l.changes s' = .ok v'

namespace Convergence

variable {α : Type} {l : Lifecycle α} {h : l.Writing} (c : Convergence h)

/-- A planned value is stuck. -/
def Stuck (values prior : Keyed Json) : Prop :=
  ∃ ch ∈ c.channels, ch.Stuck (values.get? ch.key) (prior.get? ch.key)

theorem not_stuck {c : Convergence h} (hnever : ∀ ch ∈ c.channels, ∀ v w, ¬ ch.Stuck v w)
    (values prior : Keyed Json) : ¬ c.Stuck values prior := by
  rintro ⟨ch, hch, hstuck⟩
  exact hnever ch hch _ _ hstuck

/-- An object with this document is recorded in the values. -/
def RecordedIn (doc values : Keyed Json) : Prop :=
  ∃ members x, l.decoder (.object members) = .ok x ∧ AgreesWith doc members ∧
    ∀ ch ∈ c.channels, values.get? ch.key = some (ch.entry x)

variable {c} {s s' s₁ : ResourceState} {doc : Keyed Json}

theorem recordedIn_of_recorded (hrecorded : l.Recorded doc s s₁) : c.RecordedIn doc s₁.values := by
  obtain ⟨members, x, text, hx, hagrees, rfl⟩ := hrecorded
  refine ⟨members, x, hx, hagrees, fun ch _ => ?_⟩
  exact (h.holds_write (x, text) s _ (ch.recorded x s)).get?

theorem hasChanges_eq_true : s.hasChanges l.updatable = true ↔
    ∃ ch ∈ c.channels, s.hasChange ch.key = true := by
  rw [ResourceState.hasChanges, ← c.updatable, List.any_map, List.any_eq_true]
  rfl

/-- After an update exactly the stuck values are changes again. -/
theorem hasChange_iff (hprior : c.RecordedIn doc s.prior)
    (hupdate : s.hasChanges l.updatable = false ∧ l.Recorded doc s s₁ ∨
      ∃ body, l.Sends s body ∧ l.Recorded (Keyed.onto body doc) s s₁)
    (hvalues : s'.values = s.values)
    (hprior' : ∀ ch ∈ c.channels, s'.prior.get? ch.key = s₁.values.get? ch.key) :
    ∀ ch ∈ c.channels, s'.hasChange ch.key = true ↔
      ch.Stuck (s.values.get? ch.key) (s.prior.get? ch.key) := by
  intro ch hch
  obtain ⟨m₀, x₀, hx₀, hm₀, hentries₀⟩ := hprior
  rw [ResourceState.hasChange_eq, hvalues, hprior' ch hch]
  rcases hupdate with ⟨hsame, hrecorded⟩ | ⟨body, hsends, hrecorded⟩
  · obtain ⟨m, x, hx, hm, hentries⟩ := recordedIn_of_recorded (c := c) hrecorded
    have hnot : s.hasChange ch.key = false := by
      refine Bool.eq_false_iff.mpr fun hchange => ?_
      rw [hasChanges_eq_true.mpr ⟨ch, hch, hchange⟩] at hsame
      cases hsame
    have hentry : ch.entry x = ch.entry x₀ := by
      refine ch.entry_eq hx hx₀ ?_
      rw [hm _ ch.ne_status, hm₀ _ ch.ne_status]
    rw [hentries ch hch, hentry, ← hentries₀ ch hch, ← ResourceState.hasChange_eq, hnot]
    exact iff_of_false (by simp) (Channel.not_stuck (hentries₀ ch hch) hnot)
  · obtain ⟨m, x, hx, hm, hentries⟩ := recordedIn_of_recorded (c := c) hrecorded
    rw [hentries ch hch]
    exact Channel.exact hsends (hentries₀ ch hch) hx₀ hm₀ hx hm

end Convergence

end CloudProvider
