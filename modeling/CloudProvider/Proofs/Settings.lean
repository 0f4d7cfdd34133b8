import CloudProvider.Settings

/-!
# Where settings come from

Each setting is the one of the first source that has it: the configuration, a variable that is not
empty, the selected profile of the credentials file. No setting depends on another.

* `CredentialsFile.At`, `CredentialsFile.Broken`: what there is at the path of the file.
* `CredentialsFile.at_or_broken`: it is the one or the other.
* `Setting`, `Settings.sources`: each setting on its own, and who has a say in it.
* `Settings.resolve_eq`: the settings, once a profile is selected.
* `Settings.Decided`, `Settings.resolve_precedence`: what resolving comes to.
-/

namespace CloudProvider
set_option autoImplicit false

/-! ## The credentials file -/

namespace CredentialsFile

/-- There is no file at the path, or one with these profiles. -/
inductive At (env : Environment) (path : String) : Option CredentialsFile → Prop where
  | missing (h : env.file path = .missing) : At env path none
  | profiles {bytes : List Nat} {complaint : String} {text : List Char} {file : CredentialsFile}
      (h : env.file path = .content bytes complaint) (htext : Text.decodeUtf8? bytes = some text)
      (hfile : parse? (String.ofList text) = some file) : At env path (some file)

/-- There is a file at the path, but no profiles can be had from it. -/
inductive Broken (env : Environment) (path : String) : SettingsError → Prop where
  | unreadable {reason : String} (h : env.file path = .unreadable reason) :
      Broken env path (.unreadable reason)
  | noText {bytes : List Nat} {complaint : String} (h : env.file path = .content bytes complaint)
      (htext : Text.decodeUtf8? bytes = none) :
      Broken env path (.unreadable "stream did not contain valid UTF-8")
  | malformed {bytes : List Nat} {complaint : String} {text : List Char}
      (h : env.file path = .content bytes complaint) (htext : Text.decodeUtf8? bytes = some text)
      (hfile : parse? (String.ofList text) = none) : Broken env path (.badFile path complaint)

variable {env : Environment} {path : String}

theorem At.load {found : Option CredentialsFile} (h : At env path found) :
    load env path = .ok found := by
  cases h with
  | missing h => simp only [CredentialsFile.load, h]
  | profiles h htext hfile => simp only [CredentialsFile.load, h, htext, hfile]

theorem Broken.load {e : SettingsError} (h : Broken env path e) : load env path = .error e := by
  cases h with
  | unreadable h => simp only [CredentialsFile.load, h]
  | noText h htext => simp only [CredentialsFile.load, h, htext]
  | malformed h htext hfile => simp only [CredentialsFile.load, h, htext, hfile]

theorem at_or_broken (env : Environment) (path : String) :
    (∃ found, At env path found) ∨ ∃ e, Broken env path e := by
  cases h : env.file path with
  | missing => exact .inl ⟨none, .missing h⟩
  | unreadable reason => exact .inr ⟨_, .unreadable h⟩
  | content bytes complaint =>
    cases htext : Text.decodeUtf8? bytes with
    | none => exact .inr ⟨_, .noText h htext⟩
    | some text =>
      cases hfile : parse? (String.ofList text) with
      | none => exact .inr ⟨_, .malformed h htext hfile⟩
      | some file => exact .inl ⟨_, .profiles h htext hfile⟩

end CredentialsFile

/-! ## Settings one by one -/

/-- What has to be known to reach the API. -/
inductive Setting where
  | token
  | apiUrl
  | projectId
  | region
deriving DecidableEq

namespace Setting

/-- The variable for a setting. -/
def variableName : Setting → String
  | token => "FLEETFORM_TOKEN"
  | apiUrl => "FLEETFORM_API_URL"
  | projectId => "FLEETFORM_PROJECT_ID"
  | region => "FLEETFORM_REGION"

def ofProfile : Setting → Profile → Option String
  | token, p => p.token
  | apiUrl, p => p.apiUrl
  | projectId, p => p.projectId
  | region, p => p.region

def ofSettings : Setting → Settings → Option String
  | token, s => some s.token
  | apiUrl, s => s.apiUrl
  | projectId, s => s.projectId
  | region, s => s.region

@[simp] theorem ofProfile_empty (x : Setting) : x.ofProfile .empty = none := by
  cases x <;> rfl

@[simp] theorem ofProfile_orElse (x : Setting) (p q : Profile) :
    x.ofProfile (p.orElse q) = (x.ofProfile p <|> x.ofProfile q) := by
  cases x <;> rfl

@[simp] theorem ofProfile_fromVariables (x : Setting) (env : Environment) :
    x.ofProfile (Settings.fromVariables env) = env.value? x.variableName := by
  cases x <;> rfl

end Setting

namespace Settings

/-- What the sources say about a setting, the one that counts most first. An empty variable says
nothing, and neither does a profile that is not there. -/
def sources (env : Environment) (explicit : Profile) (selected : Option Profile) (x : Setting) :
    List (Option String) :=
  [x.ofProfile explicit, (env.values.get? x.variableName).filter (· ≠ ""), selected.bind x.ofProfile]

/-- The first source that says anything decides. -/
def decided (env : Environment) (explicit : Profile) (selected : Option Profile) (x : Setting) :
    Option String :=
  (sources env explicit selected x).findSome? id

variable {env : Environment} {path : String} {explicit : Profile} {profile : Option String}

theorem ofProfile_merged (env : Environment) (explicit : Profile) (selected : Option Profile)
    (x : Setting) :
    x.ofProfile ((explicit.orElse (fromVariables env)).orElse (selected.getD .empty)) =
      decided env explicit selected x := by
  have hselected : x.ofProfile (selected.getD .empty) = selected.bind x.ofProfile := by
    cases selected with
    | none => exact x.ofProfile_empty
    | some p => rfl
  rw [Setting.ofProfile_orElse, Setting.ofProfile_orElse, Setting.ofProfile_fromVariables, hselected,
    decided, sources, ← Environment.value?]
  cases x.ofProfile explicit <;> cases env.value? x.variableName <;>
    cases selected.bind x.ofProfile <;> rfl

/-! ## Resolving -/

/-- The name of the profile that is selected: the one of the configuration, or else the one in a
variable that is not empty, or else `default`. -/
def selectedName (env : Environment) (profile : Option String) : String :=
  (profile.or ((env.values.get? "FLEETFORM_PROFILE").filter (· ≠ ""))).getD "default"

/-- The configuration or a variable asks for a profile. -/
def Asked (env : Environment) (profile : Option String) : Prop :=
  profile.isSome ∨ ∃ name, env.values.get? "FLEETFORM_PROFILE" = some name ∧ name ≠ ""

/-- The profile with the selected name. -/
def selected? (env : Environment) (profile : Option String) (found : Option CredentialsFile) :
    Option Profile :=
  found.bind (Keyed.get? (selectedName env profile))

theorem requestedProfile?_eq (env : Environment) (profile : Option String) :
    requestedProfile? env profile =
      profile.or ((env.values.get? "FLEETFORM_PROFILE").filter (· ≠ "")) := by
  cases profile <;> rfl

theorem asked_iff : Asked env profile ↔ (requestedProfile? env profile).isSome := by
  rw [requestedProfile?_eq, Asked]
  cases profile with
  | some name => simp
  | none => simp [Option.isSome_filter, Option.any_eq_true]

theorem requested_of_asked (h : Asked env profile) :
    requestedProfile? env profile = some (selectedName env profile) := by
  obtain ⟨name, hname⟩ := Option.isSome_iff_exists.mp (asked_iff.mp h)
  rw [selectedName, ← requestedProfile?_eq, hname]
  rfl

theorem requested_of_not_asked (h : ¬ Asked env profile) : requestedProfile? env profile = none := by
  simpa [asked_iff] using h

variable {found : Option CredentialsFile}

theorem fromFile_eq (hpath : env.credentialsPath? = some path) (h : CredentialsFile.At env path found)
    (profile : Option String) :
    fromFile env (requestedProfile? env profile) =
      match selected? env profile found, requestedProfile? env profile with
      | some p, _ => .ok p
      | none, some name => .error (.profileNotFound name path)
      | none, none => .ok .empty := by
  have hname : selectedName env profile = (requestedProfile? env profile).getD defaultProfile := by
    rw [selectedName, ← requestedProfile?_eq]
    rfl
  simp only [fromFile, hpath, h.load, bind, Except.bind, selected?, hname]
  split <;> rename_i hselected
  · rw [hselected]
    rfl
  · rw [hselected]
    split <;> rename_i hrequested <;> simp only [hrequested] <;> rfl

theorem resolve_of_absent (hpath : env.credentialsPath? = some path)
    (h : CredentialsFile.At env path found) (hasked : Asked env profile)
    (habsent : selected? env profile found = none) :
    resolve env explicit profile = .error (.profileNotFound (selectedName env profile) path) := by
  have hfile := fromFile_eq hpath h profile
  rw [habsent, requested_of_asked hasked] at hfile
  simp only [resolve, requested_of_asked hasked, hfile, bind, Except.bind]

/-- Otherwise the sources of the token decide, and then those of each other setting. -/
theorem resolve_of_present (hpath : env.credentialsPath? = some path)
    (h : CredentialsFile.At env path found)
    (hpresent : Asked env profile → (selected? env profile found).isSome) :
    resolve env explicit profile =
      match (decided env explicit (selected? env profile found) .token).filter
        (!Text.isBlankText ·) with
      | some token =>
        .ok ⟨token, decided env explicit (selected? env profile found) .apiUrl,
          decided env explicit (selected? env profile found) .projectId,
          decided env explicit (selected? env profile found) .region, selectedName env profile⟩
      | none => .error .missingToken := by
  have hfile : fromFile env (requestedProfile? env profile) =
      .ok ((selected? env profile found).getD .empty) := by
    rw [fromFile_eq hpath h profile]
    cases hselected : selected? env profile found with
    | some p => rfl
    | none =>
      have hnot : ¬ Asked env profile := by
        intro hasked
        simpa [hselected] using hpresent hasked
      rw [requested_of_not_asked hnot]
      rfl
  have hmerged := ofProfile_merged env explicit (selected? env profile found)
  simp only [resolve, hfile, bind, Except.bind]
  simp only [← hmerged, Setting.ofProfile]
  rw [selectedName, ← requestedProfile?_eq]
  rfl

/-- What resolving comes to, with these profiles at the path of the credentials file. -/
structure Decided (env : Environment) (path : String) (explicit : Profile) (profile : Option String)
    (found : Option CredentialsFile) (result : Except SettingsError Settings) : Prop where
  /-- A profile that is asked for has to be there, whatever else is said. -/
  absent : Asked env profile → selected? env profile found = none →
    result = .error (.profileNotFound (selectedName env profile) path)
  /-- Otherwise a token that is not blank is all that is needed. -/
  resolved : (Asked env profile → (selected? env profile found).isSome) → ∀ token,
    decided env explicit (selected? env profile found) .token = some token →
    Text.isBlankText token = false →
      ∃ s, result = .ok s ∧ s.profile = selectedName env profile ∧
        ∀ x : Setting, x.ofSettings s = decided env explicit (selected? env profile found) x
  missingToken : (Asked env profile → (selected? env profile found).isSome) →
    (∀ token, decided env explicit (selected? env profile found) .token = some token →
      Text.isBlankText token = true) → result = .error .missingToken

theorem resolve_decided (hpath : env.credentialsPath? = some path)
    (h : CredentialsFile.At env path found) :
    Decided env path explicit profile found (resolve env explicit profile) where
  absent := resolve_of_absent hpath h
  resolved hpresent token htoken hblank := by
    rw [resolve_of_present hpath h hpresent, htoken, Option.filter_some_pos (by simp [hblank])]
    refine ⟨_, rfl, rfl, fun x => ?_⟩
    cases x with
    | token => exact htoken.symm
    | _ => rfl
  missingToken hpresent hblank := by
    rw [resolve_of_present hpath h hpresent]
    cases htoken : decided env explicit (selected? env profile found) .token with
    | none => rfl
    | some token => rw [Option.filter_some_neg (by simp [hblank token htoken])]

theorem resolve_of_broken (hpath : env.credentialsPath? = some path) {e : SettingsError}
    (h : CredentialsFile.Broken env path e) : resolve env explicit profile = .error e := by
  simp only [resolve, fromFile, hpath, h.load, bind, Except.bind]

/-- Nothing but the selected profile matters of a file. -/
theorem resolve_congr (hpath : env.credentialsPath? = some path) {file : String → File}
    {found' : Option CredentialsFile} (h : CredentialsFile.At env path found)
    (h' : CredentialsFile.At { env with file := file } path found')
    (hsame : selected? env profile found = selected? env profile found') :
    resolve env explicit profile = resolve { env with file := file } explicit profile := by
  have hsame' : selected? { env with file := file } profile found' = selected? env profile found :=
    hsame.symm
  by_cases hpresent : Asked env profile → (selected? env profile found).isSome
  · rw [resolve_of_present hpath h hpresent,
      @resolve_of_present { env with file := file } path explicit profile found' hpath h'
        (hsame ▸ hpresent), hsame']
    rfl
  · obtain ⟨hasked, habsent⟩ := Classical.not_imp.mp hpresent
    have hnone : selected? env profile found = none := by simpa using habsent
    rw [resolve_of_absent hpath h hasked hnone,
      @resolve_of_absent { env with file := file } path explicit profile found' hpath h' hasked
        (hsame'.trans hnone)]
    rfl

/-- A file at the path that no profiles can be had from is an error. With any other file, or none, the
configuration, then the environment and then the selected profile decide about each setting, after a
profile that is asked for was found. What other profiles there are does not matter. -/
theorem resolve_precedence (hpath : env.credentialsPath? = some path) (explicit : Profile)
    (profile : Option String) :
    ((∃ e, CredentialsFile.Broken env path e ∧ resolve env explicit profile = .error e) ∨
      ∃ found, CredentialsFile.At env path found ∧
        Decided env path explicit profile found (resolve env explicit profile)) ∧
    ∀ (file : String → File) (found found' : Option CredentialsFile),
      CredentialsFile.At env path found → CredentialsFile.At { env with file := file } path found' →
      selected? env profile found = selected? env profile found' →
        resolve env explicit profile = resolve { env with file := file } explicit profile := by
  refine ⟨?_, fun file found found' h h' hsame => resolve_congr hpath h h' hsame⟩
  rcases CredentialsFile.at_or_broken env path with ⟨found, h⟩ | ⟨e, h⟩
  · exact .inr ⟨found, h, resolve_decided hpath h⟩
  · exact .inl ⟨e, h, resolve_of_broken hpath h⟩

/-- The token is in a variable, the region is said three times, and the profile that the configuration
asks for has the rest. The profile that a variable asks for does not matter. -/
theorem resolve_precedence_staging :
    let staging := "  staging:\n    region: de\n    project_id: p\n"
    let env : Environment :=
      ⟨[("FLEETFORM_API_URL", ""), ("FLEETFORM_CONFIG_PATH", "f.yaml"), ("FLEETFORM_PROFILE", "test"),
        ("FLEETFORM_REGION", "nl"), ("FLEETFORM_TOKEN", "t")], none,
        fun _ => .content
          (Text.utf8OfText ("profiles:\n  test:\n    token: a\n" ++ staging).toList) ""⟩
    let other : String → File :=
      fun _ => .content (Text.utf8OfText ("profiles:\n" ++ staging).toList) ""
    let explicit : Profile := ⟨none, none, none, some "fr"⟩
    (∃ s, resolve env explicit (some "staging") = .ok s ∧ s.token = "t" ∧ s.apiUrl = none ∧
        s.projectId = some "p" ∧ s.region = some "fr" ∧ s.profile = "staging") ∧
      resolve env explicit (some "staging") =
        resolve { env with file := other } explicit (some "staging") := by
  intro staging env other explicit
  have h : CredentialsFile.At env "f.yaml"
      (some [("staging", ⟨none, none, some "p", some "de"⟩), ("test", ⟨some "a", none, none, none⟩)]) :=
    @CredentialsFile.At.profiles _ _ _ _ ("profiles:\n  test:\n    token: a\n" ++ staging).toList _ rfl
      (by decide +kernel) (by decide +kernel)
  have h' : CredentialsFile.At { env with file := other } "f.yaml"
      (some [("staging", ⟨none, none, some "p", some "de"⟩)]) :=
    @CredentialsFile.At.profiles _ _ _ _ ("profiles:\n" ++ staging).toList _ rfl
      (by decide +kernel) (by decide +kernel)
  obtain ⟨hcases, hcongr⟩ :=
    @resolve_precedence env "f.yaml" rfl explicit (some "staging")
  refine ⟨?_, hcongr other _ _ h h' rfl⟩
  rcases hcases with ⟨e, he, -⟩ | ⟨found, hfound, hdecided⟩
  · cases h.load.symm.trans he.load
  · obtain rfl := Except.ok.inj (h.load.symm.trans hfound.load)
    obtain ⟨s, hs, hprofile, hfields⟩ := hdecided.resolved (fun _ => rfl) "t" rfl (by decide)
    exact ⟨s, hs, Option.some.inj (hfields .token), hfields .apiUrl, hfields .projectId, hfields .region,
      hprofile⟩

end Settings

end CloudProvider
