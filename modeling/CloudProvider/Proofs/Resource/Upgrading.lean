import CloudProvider.Proofs.Json.Decode
import CloudProvider.Proofs.State
import CloudProvider.Resource.KubernetesCluster

/-!
# Versions that a cluster can go to

A version is two or three numbers, of which the third counts as zero where it is not written. A change is
refused if it goes back to an older version. It is refused as well if the new version is the present
one with its zero left out, and it is not refused if a number has more than 64 bits.

* `KubernetesVersion.Older`: the order of versions.
* `KubernetesVersion.lt_iff`: the order of lists, in which a shorter list may come first.
* `KubernetesVersion.Writes`, `KubernetesVersion.parse?_of_writes`: versions as texts.
* `KubernetesVersion.isDowngrade_iff`: what counts as a step back.
* `KubernetesCluster.changes_downgrade`: changes that are refused for their version.
-/

namespace CloudProvider
set_option autoImplicit false

namespace KubernetesVersion

/-! ## The order of versions -/

/-- The first number that differs is smaller. A number that is not there counts as zero. -/
def Older (v w : KubernetesVersion) : Prop :=
  ∃ i, v.getD i 0 < w.getD i 0 ∧ ∀ j < i, v.getD j 0 = w.getD j 0

variable {v w : KubernetesVersion}

theorem not_older_nil (v : KubernetesVersion) : ¬ Older v [] := by
  rintro ⟨i, hlt, -⟩
  simp at hlt

theorem older_cons (v : KubernetesVersion) (n : Nat) (w : KubernetesVersion) :
    Older v (n :: w) ↔ v.getD 0 0 < n ∨ v.getD 0 0 = n ∧ Older v.tail w := by
  have hlater (i : Nat) : v.tail.getD i 0 = v.getD (i + 1) 0 := by
    cases v <;> rfl
  simp only [Older, hlater]
  constructor
  · rintro ⟨i, hlt, hsame⟩
    cases i with
    | zero => exact .inl hlt
    | succ i =>
      refine .inr ⟨hsame 0 (Nat.succ_pos i), i, hlt, fun j hj => ?_⟩
      exact hsame (j + 1) (Nat.succ_lt_succ hj)
  · rintro (hlt | ⟨hfirst, i, hlt, hsame⟩)
    · exact ⟨0, hlt, fun j hj => absurd hj (Nat.not_lt_zero j)⟩
    · refine ⟨i + 1, hlt, fun j hj => ?_⟩
      cases j with
      | zero => exact hfirst
      | succ j => exact hsame j (Nat.lt_of_succ_lt_succ hj)

/-- In the order of lists a version comes before another also where the other has only zeros more. -/
theorem lt_iff : v < w ↔ Older v w ∨ ∃ k, w = v ++ List.replicate (k + 1) 0 := by
  induction w generalizing v with
  | nil => simp [not_older_nil]
  | cons n w ih =>
    rw [older_cons]
    cases v with
    | nil =>
      refine iff_of_true (List.nil_lt_cons n w) ?_
      rcases Nat.eq_zero_or_pos n with rfl | hn
      · cases w with
        | nil => exact .inr ⟨0, rfl⟩
        | cons m w =>
          rcases (@ih []).mp (List.nil_lt_cons m w) with hrest | ⟨k, hzeros⟩
          · exact .inl (.inr ⟨rfl, hrest⟩)
          · exact .inr ⟨k + 1, congrArg (0 :: ·) hzeros⟩
      · exact .inl (.inl hn)
    | cons m v =>
      rw [List.cons_lt_cons_iff, ih]
      simp only [List.getD_cons_zero, List.tail_cons, List.cons_append, List.cons.injEq,
        exists_and_left]
      rw [eq_comm (a := n), and_or_left, or_assoc]

/-! ## Versions as texts -/

/-- The text has two or three runs of digits with points between them, which write these numbers. -/
def Writes (text : String) (v : KubernetesVersion) : Prop :=
  ∃ runs : List (List Char), (runs.length = 2 ∨ runs.length = 3) ∧
    (∀ run ∈ runs, run ≠ [] ∧ ∀ c ∈ run, Text.isDigit c = true) ∧
    text.toList = ['.'].intercalate runs ∧ v = runs.map (Text.natOfDigits 0)

theorem Writes.length {text : String} (h : Writes text v) : v.length = 2 ∨ v.length = 3 := by
  obtain ⟨runs, hlength, -, -, rfl⟩ := h
  simpa using hlength

theorem Writes.splitOn {text : String} (h : Writes text v) :
    (∀ run ∈ text.toList.splitOn '.', run ≠ [] ∧ ∀ c ∈ run, Text.isDigit c = true) ∧
      v = (text.toList.splitOn '.').map (Text.natOfDigits 0) := by
  obtain ⟨runs, hlength, hdigits, htext, rfl⟩ := h
  have hne : runs ≠ [] := by
    rintro rfl
    simp at hlength
  have hsplit : text.toList.splitOn '.' = runs := by
    rw [htext]
    refine List.splitOn_intercalate '.' (fun run hrun hpoint => ?_) hne
    cases (hdigits run hrun).2 '.' hpoint
  rw [hsplit]
  exact ⟨hdigits, rfl⟩

theorem readBounded?_of_digits {run : List Char} (hne : run ≠ [])
    (hdigits : ∀ c ∈ run, Text.isDigit c = true) :
    Text.readBounded? UInt64.size (String.ofList run) =
      (some (Text.natOfDigits 0 run)).filter (· < UInt64.size) := by
  obtain ⟨c, rest, rfl⟩ := List.exists_cons_of_ne_nil hne
  have hplus : c ≠ '+' := by
    rintro rfl
    cases hdigits '+' List.mem_cons_self
  have hread : Text.readNat? (c :: rest) = some (Text.natOfDigits 0 (c :: rest)) := by
    rw [Text.readNat?, if_pos]
    simpa using hdigits
  rw [← hread, Text.readBounded?, String.toList_ofList]
  split
  · next heq => exact absurd (List.cons.inj heq).1 hplus
  · rfl

theorem parse?_of_writes {text : String} (h : Writes text v) :
    parse? text = if ∀ n ∈ v, n < UInt64.size then some v else none := by
  obtain ⟨hdigits, rfl⟩ := h.splitOn
  rw [parse?]
  generalize text.toList.splitOn '.' = runs at hdigits
  induction runs with
  | nil => rfl
  | cons run runs ih =>
    obtain ⟨⟨hrun, hchars⟩, hruns⟩ := List.forall_mem_cons.mp hdigits
    rw [List.mapM_cons, readBounded?_of_digits hrun hchars, ih hruns, List.map_cons]
    simp only [List.forall_mem_cons]
    by_cases hfirst : Text.natOfDigits 0 run < UInt64.size
    · rw [Option.filter_some_pos (by simpa using hfirst)]
      by_cases hrest : ∀ n ∈ runs.map (Text.natOfDigits 0), n < UInt64.size
      · rw [if_pos hrest, if_pos ⟨hfirst, hrest⟩]
        rfl
      · rw [if_neg hrest, if_neg fun h => hrest h.2]
        rfl
    · rw [Option.filter_some_neg (by simpa using hfirst)]
      exact (if_neg fun h => hfirst h.1).symm

/-- Going to a version is a step back if it is older, or if the present one is the same with a zero more,
unless a number has more than 64 bits. -/
theorem isDowngrade_iff {current requested : String} (hv : Writes current v)
    (hw : Writes requested w) :
    isDowngrade current requested = true ↔
      (∀ n ∈ v ++ w, n < UInt64.size) ∧ (Older w v ∨ v = w ++ [0]) := by
  have hzeros : (∃ k, v = w ++ List.replicate (k + 1) 0) ↔ v = w ++ [0] := by
    refine ⟨?_, fun h => ⟨0, h⟩⟩
    rintro ⟨k, h⟩
    have hlength := congrArg List.length h
    rw [List.length_append, List.length_replicate] at hlength
    have hk : k = 0 := by
      rcases hv.length with hlv | hlv <;> rcases hw.length with hlw | hlw <;> omega
    rw [h, hk]
    rfl
  rw [isDowngrade, parse?_of_writes hv, parse?_of_writes hw, List.forall_mem_append]
  by_cases hbits : ∀ n ∈ v, n < UInt64.size
  · by_cases hbits' : ∀ n ∈ w, n < UInt64.size
    · rw [if_pos hbits, if_pos hbits', decide_eq_true_iff, lt_iff, hzeros]
      exact (and_iff_right ⟨hbits, hbits'⟩).symm
    · rw [if_pos hbits, if_neg hbits']
      exact iff_of_false Bool.false_ne_true fun h => hbits' h.1.2
  · rw [if_neg hbits]
    exact iff_of_false (by simp) fun h => hbits h.1.1

theorem isDowngrade_self (text : String) : isDowngrade text text = false := by
  unfold isDowngrade
  split
  · next v w hv hw =>
    obtain rfl := Option.some.inj (hv.symm.trans hw)
    exact decide_eq_false (List.lt_irrefl v)
  · rfl

end KubernetesVersion

/-! ## Changes of a cluster -/

namespace KubernetesCluster

/-- The error that refuses a version. -/
def downgrade (current requested : String) : ProviderError :=
  .invalidConfig s!"cannot downgrade Kubernetes from {current} to {requested}"

variable {s : ResourceState} {current requested : String}

theorem downgrade_ne {front rest : String} {c : Char} (hfront : front.toList.head? = some c)
    (hc : c ≠ 'c') : .invalidConfig (front ++ rest) ≠ downgrade current requested := by
  intro heq
  have htext := congrArg (·.toList.head?) (ProviderError.invalidConfig.inj heq)
  simp only [String.toList_append, List.append_assoc, List.head?_append, hfront] at htext
  exact hc (Option.some.inj htext)

theorem window_ne_downgrade :
    MaintenanceWindow.ofState s ≠ .error (downgrade current requested) := by
  intro h
  simp only [MaintenanceWindow.ofState, bind, Except.bind] at h
  split at h
  · next e hdecode =>
    rw [Except.error.inj h, ResourceState.decode] at hdecode
    split at hdecode
    · cases hdecode
    · split at hdecode
      · cases hdecode
      · exact downgrade_ne (c := 'm') rfl (by decide) (Except.error.inj hdecode)
  · next windows hdecode =>
    split at h
    · next w rest =>
      rw [MaintenanceWindow.normalized] at h
      split at h
      · cases h
      · have hrefused := Except.error.inj h
        rw [String.append_assoc, String.append_assoc] at hrefused
        exact downgrade_ne (c := 'm') rfl (by decide) hrefused
    · cases h

theorem ifChanged_window_ne :
    s.ifChanged "maintenance_window" (MaintenanceWindow.ofState s) ≠
      .error (downgrade current requested) := by
  rw [ResourceState.ifChanged]
  split
  · cases hwindow : MaintenanceWindow.ofState s with
    | error e => exact fun h => window_ne_downgrade (hwindow.trans (congrArg _ (Except.error.inj h)))
    | ok window => exact nofun
  · exact nofun

theorem upgradedVersion_eq (hcurrent : s.prior.get? "version" = some (.string current))
    (hrequested : s.values.get? "version" = some (.string requested)) :
    upgradedVersion s =
      if KubernetesVersion.isDowngrade current requested then .error (downgrade current requested)
      else .ok requested := by
  have hprior : s.prior? Json.Decode.text "version" = some current := by
    rw [ResourceState.prior?, hcurrent]
    rfl
  have hplanned := ResourceState.requiredText_ok.mpr hrequested
  simp only [upgradedVersion, hplanned, hprior, bind, Except.bind]
  rfl

theorem hasChange_version (hcurrent : s.prior.get? "version" = some (.string current))
    (hrequested : s.values.get? "version" = some (.string requested)) :
    s.hasChange "version" = true ↔ requested ≠ current := by
  simp [ResourceState.hasChange, hcurrent, hrequested, normalize, Json.sameOption, Json.same]

theorem ifChanged_name (s : ResourceState) :
    (s.hasChange "name" = true → (s.text? "name").isSome) ∧
        (∃ name, s.ifChanged "name" (s.requiredText "name") = .ok name) ∨
      ¬ (s.hasChange "name" = true → (s.text? "name").isSome) ∧
        s.ifChanged "name" (s.requiredText "name") = .error (.invalidConfig ("name" ++ " is required")) := by
  rw [ResourceState.ifChanged, ResourceState.requiredText]
  cases s.hasChange "name" with
  | false => exact .inl ⟨by simp, none, rfl⟩
  | true =>
    cases s.text? "name" with
    | none => exact .inr ⟨by simp, rfl⟩
    | some name => exact .inl ⟨by simp, some name, rfl⟩

/-- Changes are refused for the version if the name is not refused before. -/
theorem changes_eq_downgrade_iff :
    Changes.ofState s = .error (downgrade current requested) ↔
      (s.hasChange "name" = true → (s.text? "name").isSome) ∧
        s.ifChanged "version" (upgradedVersion s) = .error (downgrade current requested) := by
  simp only [Changes.ofState, bind, Except.bind]
  rcases ifChanged_name s with ⟨hgiven, name, hname⟩ | ⟨hmissing, hname⟩
  · simp only [hname]
    cases s.ifChanged "version" (upgradedVersion s) with
    | error e =>
      refine ⟨fun h => ⟨hgiven, ?_⟩, fun h => ?_⟩
      · exact congrArg Except.error (Except.error.inj h)
      · exact congrArg Except.error (Except.error.inj h.2)
    | ok version =>
      refine iff_of_false (fun h => ?_) fun h => by cases h.2
      dsimp only at h
      split at h
      · next e hwindow => exact ifChanged_window_ne (hwindow.trans (congrArg _ (Except.error.inj h)))
      · cases hnetworks : s.hasChange "api_allow_list" <;>
          rw [ResourceState.ifChanged, hnetworks] at h <;> cases h
  · simp only [hname]
    refine iff_of_false (fun h => ?_) fun h => hmissing h.1
    exact downgrade_ne (c := 'n') rfl (by decide) (Except.error.inj h)

theorem ifChanged_version (hcurrent : s.prior.get? "version" = some (.string current))
    (hrequested : s.values.get? "version" = some (.string requested)) :
    s.ifChanged "version" (upgradedVersion s) =
      if KubernetesVersion.isDowngrade current requested then .error (downgrade current requested)
      else .ok (if requested = current then none else some requested) := by
  have hchange := hasChange_version hcurrent hrequested
  rw [ResourceState.ifChanged, upgradedVersion_eq hcurrent hrequested]
  by_cases hsame : requested = current
  · rw [if_neg fun h => hchange.mp h hsame, hsame, KubernetesVersion.isDowngrade_self,
      if_neg Bool.false_ne_true, if_pos rfl]
  · rw [if_pos (hchange.mpr hsame), if_neg hsame]
    split <;> rfl

theorem version_of_changes (hcurrent : s.prior.get? "version" = some (.string current))
    (hrequested : s.values.get? "version" = some (.string requested)) {c : Changes}
    (h : Changes.ofState s = .ok c) :
    c.version = if requested = current then none else some requested := by
  obtain ⟨name, -, h⟩ := bind_ok.mp h
  obtain ⟨version, hversion, h⟩ := bind_ok.mp h
  obtain ⟨window, -, h⟩ := bind_ok.mp h
  obtain ⟨networks, -, h⟩ := bind_ok.mp h
  rw [ifChanged_version hcurrent hrequested] at hversion
  obtain rfl := Except.ok.inj h
  split at hversion
  · cases hversion
  · exact (Except.ok.inj hversion).symm

/-- A change of the version is refused exactly if it goes back to an older version, or to the present one
with its zero left out, and all numbers have at most 64 bits. Otherwise the changes that are sent have the
new version. -/
theorem changes_downgrade {v w : KubernetesVersion}
    (hcurrent : s.prior.get? "version" = some (.string current))
    (hrequested : s.values.get? "version" = some (.string requested))
    (hv : KubernetesVersion.Writes current v) (hw : KubernetesVersion.Writes requested w) :
    (Changes.ofState s = .error (downgrade current requested) ↔
      (s.hasChange "name" = true → (s.text? "name").isSome) ∧ (∀ n ∈ v ++ w, n < UInt64.size) ∧
        (KubernetesVersion.Older w v ∨ v = w ++ [0])) ∧
      ∀ c, Changes.ofState s = .ok c →
        c.version = if requested = current then none else some requested := by
  refine ⟨?_, fun c hc => version_of_changes hcurrent hrequested hc⟩
  rw [changes_eq_downgrade_iff, ← KubernetesVersion.isDowngrade_iff hv hw]
  refine and_congr_right fun _ => ?_
  rw [ifChanged_version hcurrent hrequested]
  split
  · next h => exact iff_of_true rfl h
  · next h => exact iff_of_false nofun h

/-- The version that runs, with its zero left out, is refused. -/
theorem changes_downgrade_short :
    let s : ResourceState :=
      ⟨some "c", [("name", .string "prod"), ("version", .string "1.30")],
        [("name", .string "prod"), ("version", .string "1.30.0")], .default⟩
    KubernetesVersion.Writes "1.30.0" [1, 30, 0] ∧ KubernetesVersion.Writes "1.30" [1, 30] ∧
      ¬ KubernetesVersion.Older [1, 30] [1, 30, 0] ∧
      Changes.ofState s = .error (downgrade "1.30.0" "1.30") := by
  intro s
  have hv : KubernetesVersion.Writes "1.30.0" [1, 30, 0] :=
    ⟨[['1'], ['3', '0'], ['0']], .inr rfl, by simp [Text.isDigit], rfl, rfl⟩
  have hw : KubernetesVersion.Writes "1.30" [1, 30] :=
    ⟨[['1'], ['3', '0']], .inl rfl, by simp [Text.isDigit], rfl, rfl⟩
  refine ⟨hv, hw, ?_, ?_⟩
  · simp [KubernetesVersion.older_cons, KubernetesVersion.not_older_nil]
  · exact (changes_downgrade rfl rfl hv hw).1.mpr ⟨fun _ => rfl, by decide, .inr rfl⟩

end KubernetesCluster

end CloudProvider
