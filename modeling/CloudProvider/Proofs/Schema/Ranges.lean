import CloudProvider.Proofs.Json.Reading
import CloudProvider.Proofs.Schema.Bounded
import CloudProvider.Proofs.Schema.Complaints

/-!
# Integers out of range

An integer attribute may have bounds. Validation complains about a value beyond them wherever the
attribute stands in a document, unless the value is no signed word: such values are not looked at.

* `Integer.IsWord`: the integers that are looked at.
* `rangeText_injective`: the complaint names the bounds and the value.
* `check_eq_rangeText`: only a range complains in this way.
* `Site`, `Site.Below`: a value that validation looks at, and those inside it.
* `Site.errors_subset`: what is wrong inside a value is wrong with the value.
* `Schema.reports_range_iff`: when a value is reported.
-/

namespace CloudProvider
set_option autoImplicit false

/-! ## Signed words -/

/-- A signed word of 64 bits. -/
def Integer.IsWord (n : Integer) : Prop :=
  n.val < 9223372036854775808

instance (n : Integer) : Decidable n.IsWord :=
  inferInstanceAs (Decidable (_ < _))

theorem Integer.IsWord.exists_word {n : Integer} (h : n.IsWord) :
    ∃ k, n.toInt64? = some k ∧ k.toInt = n.val := by
  have hk : n.toInt64? = some (Int64.ofInt n.val) := if_pos h
  exact ⟨_, hk, (toInt64?_eq_some.mp hk).symm⟩

theorem Integer.toInt64?_of_not_isWord {n : Integer} (h : ¬ n.IsWord) : n.toInt64? = none :=
  if_neg h

/-! ## Numbers as texts -/

/-- A number ends here: no digit follows. -/
def NumberEnds (rest : List Char) : Prop :=
  ∀ c, rest.head? = some c → Text.isDigit c = false

theorem toDigits_split {m n : Nat} {rest rest' : List Char} (hrest : NumberEnds rest)
    (hrest' : NumberEnds rest') (h : Nat.toDigits 10 m ++ rest = Nat.toDigits 10 n ++ rest') :
    m = n ∧ rest = rest' := by
  have htake {k : Nat} {tail : List Char} (htail : NumberEnds tail) :
      (Nat.toDigits 10 k ++ tail).takeWhile Text.isDigit = Nat.toDigits 10 k := by
    rw [List.takeWhile_append_of_pos fun d hd => Json.isDigit_of_mem_toDigits hd]
    cases tail with
    | nil => simp
    | cons d ds => simp [htail d rfl]
  have hdigits : Nat.toDigits 10 m = Nat.toDigits 10 n := by
    rw [← htake hrest, h, htake hrest']
  have hvalue := congrArg (Text.natOfDigits 0) hdigits
  rw [Json.natOfDigits_toDigits, Json.natOfDigits_toDigits] at hvalue
  rw [hdigits] at h
  exact ⟨hvalue, List.append_cancel_left h⟩

theorem toDigits_ne_minus {n : Nat} {rest rest' : List Char} :
    Nat.toDigits 10 n ++ rest ≠ '-' :: rest' := by
  intro h
  obtain ⟨c, cs, hcs, -⟩ := Json.toDigits_eq_cons n
  rw [hcs] at h
  have hc : Text.isDigit c = true := Json.isDigit_of_mem_toDigits (hcs ▸ List.mem_cons_self ..)
  rw [(List.cons.inj h).1] at hc
  cases hc

theorem integerChars_split {m n : Int} {rest rest' : List Char} (hrest : NumberEnds rest)
    (hrest' : NumberEnds rest') (h : Json.integerChars m ++ rest = Json.integerChars n ++ rest') :
    m = n ∧ rest = rest' := by
  unfold Json.integerChars at h
  by_cases hm : m < 0 <;> by_cases hn : n < 0
  · rw [if_pos hm, if_pos hn] at h
    obtain ⟨habs, hrests⟩ := toDigits_split hrest hrest' (List.cons.inj h).2
    exact ⟨by omega, hrests⟩
  · rw [if_pos hm, if_neg hn] at h
    exact absurd h.symm toDigits_ne_minus
  · rw [if_neg hm, if_pos hn] at h
    exact absurd h toDigits_ne_minus
  · rw [if_neg hm, if_neg hn] at h
    obtain ⟨habs, hrests⟩ := toDigits_split hrest hrest' h
    exact ⟨by omega, hrests⟩

theorem toList_toString (n : Int) : (toString n).toList = Json.integerChars n := by
  rw [Int.toString_eq_repr, Int.repr_eq_if, Json.integerChars]
  by_cases hn : n < 0
  · have hneg : (-n).toNat = n.natAbs := by omega
    rw [if_pos hn, if_neg (by omega), String.toList_append, Nat.toList_repr, hneg]
    rfl
  · have hpos : n.toNat = n.natAbs := by omega
    rw [if_neg hn, if_pos (by omega), Nat.toList_repr, hpos]

theorem toString_int64 (k : Int64) : toString k = toString k.toInt := rfl

/-! ## The complaint -/

theorem toList_rangeText (least most : Int64) (n : Int) : (rangeText least most n).toList =
    "must be between ".toList ++ (Json.integerChars least.toInt ++ (" and ".toList ++
      (Json.integerChars most.toInt ++ (", got ".toList ++ Json.integerChars n)))) := by
  have htoString (u : String) : toString u = u := rfl
  unfold rangeText
  simp only [htoString, toString_int64, String.toList_append, toList_toString, List.append_assoc]

theorem rangeText_injective {least most least' most' : Int64} {n n' : Int}
    (h : rangeText least most n = rangeText least' most' n') :
    least = least' ∧ most = most' ∧ n = n' := by
  have hand (cs : List Char) : NumberEnds (" and ".toList ++ cs) := by
    rintro c ⟨⟩
    rfl
  have hgot (cs : List Char) : NumberEnds (", got ".toList ++ cs) := by
    rintro c ⟨⟩
    rfl
  have hend : NumberEnds [] := by
    rintro c ⟨⟩
  have hchars := congrArg String.toList h
  rw [toList_rangeText, toList_rangeText] at hchars
  obtain ⟨hleast, hchars⟩ := integerChars_split (hand _) (hand _) (List.append_cancel_left hchars)
  obtain ⟨hmost, hchars⟩ := integerChars_split (hgot _) (hgot _) (List.append_cancel_left hchars)
  have hlast : Json.integerChars n ++ [] = Json.integerChars n' ++ [] := by
    simpa using List.append_cancel_left hchars
  obtain ⟨hn, -⟩ := integerChars_split hend hend hlast
  exact ⟨Int64.toInt_inj.mp hleast, Int64.toInt_inj.mp hmost, hn⟩

/-! ## Who complains -/

/-- The first letter of a text. -/
def Opens (c : Char) (text : String) : Prop :=
  text.toList.head? = some c

theorem Opens.append {c : Char} {a : String} (h : Opens c a) (b : String) : Opens c (a ++ b) := by
  unfold Opens at h ⊢
  rw [String.toList_append, List.head?_append, h]
  rfl

theorem opens_rangeText (least most : Int64) (n : Int) : Opens 'm' (rangeText least most n) := by
  unfold Opens
  rw [toList_rangeText]
  rfl

theorem Complaint.opens {text : String} (h : Complaint text) : ∃ c, c ≠ 'm' ∧ Opens c text := by
  cases h with
  | unsupported => exact ⟨'u', by decide, rfl⟩
  | conflict other => exact ⟨'c', by decide, Opens.append (by rfl) _⟩
  | missing => exact ⟨'r', by decide, rfl⟩
  | computed => exact ⟨'a', by decide, rfl⟩
  | kind type => exact ⟨'e', by decide, Opens.append (by rfl) _⟩
  | tooFew least => exact ⟨'a', by decide, (Opens.append (by rfl) _).append _⟩
  | tooMany most => exact ⟨'a', by decide, (Opens.append (by rfl) _).append _⟩
  | repeated => exact ⟨'d', by decide, rfl⟩
  | noObject => exact ⟨'c', by decide, rfl⟩

theorem opens_quote (s : String) : Opens '"' (Text.quote s) := by
  unfold Opens Text.quote
  rw [String.toList_ofList]
  rfl

theorem opens_of_check {rule : Validation} {v : Json} {text : String} (h : rule.check v = some text)
    (hrule : ∀ least most, rule ≠ .intBetween least most) : ∃ c, c ≠ 'm' ∧ Opens c text := by
  have hquote (s more : String) : ∃ c, c ≠ 'm' ∧ Opens c (Text.quote s ++ more) :=
    ⟨'"', by decide, (opens_quote s).append more⟩
  cases rule with
  | intBetween least most => exact absurd rfl (hrule least most)
  | oneOf values =>
    cases v with
    | string s =>
      rw [check_oneOf_eq] at h
      split at h
      · cases h
      · obtain rfl := Option.some.inj h
        exact ⟨'e', by decide, (((Opens.append (by rfl) _).append _).append _)⟩
    | _ => cases h
  | stringLength least most =>
    cases v with
    | string s =>
      rw [check_stringLength_eq] at h
      split at h
      · cases h
      · obtain rfl := Option.some.inj h
        exact ⟨'l', by decide, ((((Opens.append (by rfl) _).append _).append _).append _).append _⟩
    | _ => cases h
  | cidr =>
    cases v with
    | string s =>
      rw [check_cidr_eq, Validation.checkBlock] at h
      split at h
      · split at h
        · cases h
        · obtain rfl := Option.some.inj h
          exact ⟨'"', by decide, (((opens_quote s).append _).append _).append _⟩
      · obtain rfl := Option.some.inj h
        exact hquote s _
    | _ => cases h
  | ipAddress =>
    cases v with
    | string s =>
      rw [check_ipAddress_eq] at h
      split at h
      · cases h
      · obtain rfl := Option.some.inj h
        exact hquote s _
    | _ => cases h
  | pattern text =>
    cases v with
    | string s =>
      rw [check_pattern_eq, Validation.checkPattern] at h
      split at h
      · split at h
        · cases h
        · obtain rfl := Option.some.inj h
          exact ⟨'"', by decide, ((opens_quote s).append _).append _⟩
      · obtain rfl := Option.some.inj h
        exact ⟨'i', by decide, ((Opens.append (by rfl) _).append _).append _⟩
    | _ => cases h

/-- Only a range complains about a number in this way, and only if the number is a signed word beyond
its bounds. -/
theorem check_eq_rangeText {rule : Validation} {v : Json} {least most : Int64} {n : Int}
    (h : rule.check v = some (rangeText least most n)) :
    ∃ k : Int64, v.asInt64? = some k ∧ k.toInt = n ∧ ¬ (least.toInt ≤ n ∧ n ≤ most.toInt) := by
  by_cases hrule : ∃ least most, rule = .intBetween least most
  · obtain ⟨least', most', rfl⟩ := hrule
    rw [check_intBetween_eq, Option.bind_eq_some_iff] at h
    obtain ⟨k, hk, h⟩ := h
    split at h
    · cases h
    · next hbounds =>
      obtain ⟨rfl, rfl, rfl⟩ := rangeText_injective (Option.some.inj h)
      exact ⟨k, hk, rfl, hbounds⟩
  · obtain ⟨c, hc, hopens⟩ := opens_of_check h fun least most hrange => hrule ⟨least, most, hrange⟩
    exact absurd (Option.some.inj (hopens.symm.trans (opens_rangeText least most n))) hc

/-! ## Values that validation looks at -/

/-- A value, the attribute that it belongs to, and where it stands. -/
structure Site where
  type : AttrType
  traits : Traits
  value : Json
  path : String

namespace Site

def errors (site : Site) : Diagnostics :=
  site.type.errors site.traits site.value site.path

/-- The values that validation looks at inside a value. Attributes that may not be set are no such
values. -/
inductive Below : Site → Site → Prop where
  | here (site : Site) : Below site site
  | item {element : AttrType} {t : Traits} {items : List Json} {path : String} {i : Nat} {v : Json}
      {site : Site} (hv : items[i]? = some v)
      (h : Below ⟨element, t.ofElement, v, itemPath path i⟩ site) :
      Below ⟨.list element, t, .array items, path⟩ site
  | setItem {element : AttrType} {t : Traits} {items : List Json} {path : String} {i : Nat} {v : Json}
      {site : Site} (hv : items[i]? = some v)
      (h : Below ⟨element, t.ofElement, v, itemPath path i⟩ site) :
      Below ⟨.set element, t, .array items, path⟩ site
  | entry {element : AttrType} {t : Traits} {members : Keyed Json} {path key : String} {v : Json}
      {site : Site} (hv : (key, v) ∈ members)
      (h : Below ⟨element, t.ofElement, v, path ++ "." ++ key⟩ site) :
      Below ⟨.map element, t, .object members, path⟩ site
  | member {attributes : List (String × Attribute)} {t : Traits} {members : Keyed Json}
      {path name : String} {a : Attribute} {v : Json} {site : Site} (ha : (name, a) ∈ attributes)
      (hsettable : a.traits.settable = true) (hv : setValue? name members = some v)
      (h : Below ⟨a.type, a.traits, v, joinPath path name⟩ site) :
      Below ⟨.object attributes, t, .object members, path⟩ site

theorem mem_atItems {check : Json → String → Diagnostics} {path : String} {items : List Json} {i : Nat}
    {v : Json} {d : Diagnostic} (hv : items[i]? = some v) (hd : d ∈ check v (itemPath path i)) :
    d ∈ atItems check path items :=
  List.mem_flatMap.mpr ⟨(v, i), List.mem_zipIdx_iff_getElem?.mpr hv, hd⟩

theorem mem_attributeErrors {attributes : List (String × Attribute)} {members : Keyed Json}
    {path name : String} {a : Attribute} {v : Json} {d : Diagnostic} (ha : (name, a) ∈ attributes)
    (hsettable : a.traits.settable = true) (hv : setValue? name members = some v)
    (hd : d ∈ a.type.errors a.traits v (joinPath path name)) :
    d ∈ attributeErrors attributes members path := by
  induction attributes with
  | nil => cases ha
  | cons entry rest ih =>
    obtain ⟨other, type, traits⟩ := entry
    rw [attributeErrors, List.mem_append]
    rcases List.mem_cons.mp ha with heq | ha
    · obtain ⟨rfl, rfl⟩ := Prod.mk.inj heq
      left
      rw [hv]
      simp only [if_pos hsettable, List.mem_append]
      exact .inr hd
    · exact .inr (ih ha)

theorem errors_subset {site inner : Site} (h : Below site inner) {d : Diagnostic}
    (hd : d ∈ inner.errors) : d ∈ site.errors := by
  induction h with
  | here site => exact hd
  | item hv _ ih =>
    unfold errors
    rw [AttrType.errors, List.mem_append]
    exact .inr (mem_atItems hv (ih hd))
  | setItem hv _ ih =>
    unfold errors
    rw [AttrType.errors, List.mem_append]
    exact .inr (mem_atItems hv (ih hd))
  | entry hv _ ih =>
    unfold errors
    rw [AttrType.errors, List.mem_flatMap]
    exact ⟨_, hv, ih hd⟩
  | member ha hsettable hv _ ih =>
    unfold errors
    rw [AttrType.errors, List.mem_append]
    exact .inr (mem_attributeErrors ha hsettable hv (ih hd))

end Site

/-! ## Reports -/

/-- A document, as a value that validation looks at. -/
def Schema.site (s : Schema) (members : Keyed Json) : Site :=
  ⟨.object s.attributes, .none, .object members, ""⟩

theorem Schema.errors_site (s : Schema) (members : Keyed Json) :
    (s.site members).errors = s.validate (.object members) := by
  unfold site Site.errors
  rw [AttrType.errors, validate]

/-- An integer with bounds is reported exactly if it is a signed word beyond them. -/
theorem Schema.reports_range_iff {s : Schema} {members : Keyed Json} {t : Traits} {n : Integer}
    {path : String} {least most : Int64}
    (hsite : (s.site members).Below ⟨.int, t, .number (.int n), path⟩)
    (hrule : .intBetween least most ∈ t.validations) :
    .errorAt path (rangeText least most n.val) ∈ s.validate (.object members) ↔
      n.IsWord ∧ ¬ (least.toInt ≤ n.val ∧ n.val ≤ most.toInt) := by
  constructor
  · intro hd
    generalize hdiagnostic : Diagnostic.errorAt path (rangeText least most n.val) = d at hd
    cases s.validate_licensed _ d hd with
    | @own summary path' hcomplaint =>
      obtain rfl : rangeText least most n.val = summary := congrArg Diagnostic.summary hdiagnostic
      obtain ⟨c, hc, hopens⟩ := hcomplaint.opens
      exact absurd (Option.some.inj (hopens.symm.trans (opens_rangeText least most n.val))) hc
    | @rule _ _ message path' hcheck =>
      obtain rfl : rangeText least most n.val = message := congrArg Diagnostic.summary hdiagnostic
      obtain ⟨k, -, hk, hbounds⟩ := check_eq_rangeText hcheck
      have hlt := k.toInt_lt
      rw [hk] at hlt
      exact ⟨hlt, hbounds⟩
  · rintro ⟨hword, hbounds⟩
    obtain ⟨k, hk, hval⟩ := hword.exists_word
    have hcheck : (Validation.intBetween least most).check (.number (.int n)) =
        some (rangeText least most n.val) := by
      rw [check_intBetween_eq, show (Json.number (.int n)).asInt64? = some k from hk, Option.bind_some,
        hval, if_neg hbounds]
    rw [← s.errors_site]
    apply Site.errors_subset hsite
    show _ ∈ ruleErrors t path _
    exact List.mem_map.mpr ⟨_, List.mem_filterMap.mpr ⟨_, hrule, hcheck⟩, rfl⟩

end CloudProvider
