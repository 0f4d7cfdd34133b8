import CloudProvider.Proofs.Schema.Checks

/-!
# Documents that conform to a schema

What a schema demands of a document, said without a path and without a message, and that validation
finds nothing wrong with a document exactly if it obeys.

* `AttrType.Conforms`, `Attribute.Conforms`: what values and members obey.
* `AttrType.errors_eq_nil_iff`, `attributeErrors_eq_nil_iff`: nothing is wrong below a path.
* `Schema.validate_object_eq_nil_iff`, `Schema.validate_eq_nil_iff`: nothing is wrong with a document.
-/

namespace CloudProvider
set_option autoImplicit false

mutual

/-- The value is one of the type, and all scalars in it that belong to the attribute obey its rules. -/
inductive AttrType.Conforms : List Validation → AttrType → Json → Prop where
  | string {rules s} (obeys : ∀ rule ∈ rules, rule.check (.string s) = none) :
    AttrType.Conforms rules .string (.string s)
  | int {rules n} (obeys : ∀ rule ∈ rules, rule.check (.number (.int n)) = none) :
    AttrType.Conforms rules .int (.number (.int n))
  | float {rules n} (obeys : ∀ rule ∈ rules, rule.check (.number n) = none) :
    AttrType.Conforms rules .float (.number n)
  | bool {rules b} (obeys : ∀ rule ∈ rules, rule.check (.bool b) = none) :
    AttrType.Conforms rules .bool (.bool b)
  | list {rules element items} (each : ∀ item ∈ items, AttrType.Conforms rules element item) :
    AttrType.Conforms rules (.list element) (.array items)
  | set {rules element items} (each : ∀ item ∈ items, AttrType.Conforms rules element item)
      (distinct : items.Pairwise fun v w => v.same w = false) :
    AttrType.Conforms rules (.set element) (.array items)
  | map {rules element members} (each : ∀ entry ∈ members, AttrType.Conforms rules element entry.2) :
    AttrType.Conforms rules (.map element) (.object members)
  | object {rules attributes members}
      (known : ∀ key ∈ Keyed.keys members, key ∈ Keyed.keys attributes)
      (each : ∀ entry ∈ attributes, Attribute.Conforms entry.1 entry.2 members) :
    AttrType.Conforms rules (.object attributes) (.object members)

/-- The members give the attribute a value that conforms to it, or leave it out where they may. -/
inductive Attribute.Conforms : String → Attribute → Keyed Json → Prop where
  | unset {name a members} (unset : IsUnset name members) (free : a.traits.required = false) :
    Attribute.Conforms name a members
  | set {name a members v} (given : members.get? name = some v) (nonnull : v ≠ .null)
      (settable : a.traits.required = true ∨ a.traits.optional = true)
      (alone : ∀ other ∈ a.traits.conflictsWith, IsUnset other members)
      (count : ∀ items, v = .array items → a.traits.Allows items.length)
      (value : AttrType.Conforms a.traits.validations a.type v) :
    Attribute.Conforms name a members

end

/-- The members give nothing beside the attributes but an identity, and conform to each attribute. -/
structure Schema.Conforms (s : Schema) (members : Keyed Json) : Prop where
  known : ∀ key ∈ Keyed.keys members, key = "id" ∨ key ∈ Keyed.keys s.attributes
  each : ∀ entry ∈ s.attributes, Attribute.Conforms entry.1 entry.2 members

/-! ## Members -/

section Members

variable {name : String} {a : Attribute} {members : Keyed Json} {v : Json}

theorem Attribute.conforms_iff_of_unset (h : setValue? name members = none) :
    a.Conforms name members ↔ a.traits.required = false := by
  have hunset := setValue?_eq_none_iff.mp h
  constructor
  · rintro (⟨-, hfree⟩ | ⟨hgiven, hnonnull, -⟩)
    · exact hfree
    · exact absurd (hunset _ hgiven) hnonnull
  · exact .unset hunset

theorem Attribute.conforms_iff_of_set (h : setValue? name members = some v) :
    a.Conforms name members ↔ a.traits.settable = true ∧
      (∀ other ∈ a.traits.conflictsWith, IsUnset other members) ∧
      a.type.Conforms a.traits.validations v ∧
      ∀ items, v = .array items → a.traits.Allows items.length := by
  obtain ⟨hget, hnonnull⟩ := setValue?_eq_some_iff.mp h
  rw [Traits.settable, Bool.or_eq_true]
  constructor
  · rintro (⟨hunset, -⟩ | ⟨hgiven, -, hsettable, halone, hcount, hvalue⟩)
    · exact absurd (hunset v hget) hnonnull
    · obtain rfl := Option.some.inj (hget.symm.trans hgiven)
      exact ⟨hsettable, halone, hvalue, hcount⟩
  · rintro ⟨hsettable, halone, hvalue, hcount⟩
    exact .set hget hnonnull hsettable halone hcount hvalue

end Members

/-! ## Values of a type -/

/-- The values of the type have no parts. -/
def AttrType.isScalar : AttrType → Bool
  | .string | .int | .float | .bool => true
  | .list _ | .set _ | .map _ | .object _ => false

section Values

variable {type element : AttrType} {t : Traits} {rules : List Validation} {v : Json} {path : String}

theorem AttrType.conforms_iff_of_isScalar (h : type.isScalar = true) :
    type.Conforms rules v ↔ type.admits v = true ∧ ∀ rule ∈ rules, rule.check v = none := by
  constructor
  · intro hconforms
    cases hconforms with
    | string obeys | int obeys | float obeys | bool obeys => exact ⟨rfl, obeys⟩
    | list | set | map | object => cases h
  · rintro ⟨hadmits, hobeys⟩
    cases type with
    | string =>
      cases v with
      | string s => exact .string hobeys
      | _ => cases hadmits
    | int =>
      cases v with
      | number n =>
        cases n with
        | int n => exact .int hobeys
        | float x => cases hadmits
      | _ => cases hadmits
    | float =>
      cases v with
      | number n => exact .float hobeys
      | _ => cases hadmits
    | bool =>
      cases v with
      | bool b => exact .bool hobeys
      | _ => cases hadmits
    | _ => cases h

theorem AttrType.Conforms.admits (h : type.Conforms rules v) : type.admits v = true := by
  cases h <;> rfl

theorem AttrType.errors_ne_nil (h : type.admits v = false) : type.errors t v path ≠ [] := by
  cases type <;> cases v <;> simp_all [AttrType.errors, AttrType.admits]

theorem AttrType.errors_eq_nil_iff_of_not_admits (h : type.admits v = false) :
    type.errors t v path = [] ↔ type.Conforms t.validations v ∧
      ∀ items, v = .array items → t.Allows items.length := by
  refine iff_of_false (errors_ne_nil h) fun hconforms => ?_
  cases h.symm.trans hconforms.1.admits

theorem AttrType.errors_eq_nil_iff_of_isScalar (h : type.isScalar = true) :
    type.errors t v path = [] ↔ type.Conforms t.validations v ∧
      ∀ items, v = .array items → t.Allows items.length := by
  have herrors : type.errors t v path =
      if type.admits v then ruleErrors t path v
      else [.errorAt path ("expected " ++ type.describe)] := by
    cases type with
    | string | int | float | bool => simp only [AttrType.errors]
    | _ => cases h
  rw [herrors, conforms_iff_of_isScalar h]
  cases hadmits : type.admits v with
  | false => simp
  | true =>
    have hitems (items : List Json) : v ≠ .array items := by
      rintro rfl
      cases type <;> simp_all [isScalar, admits]
    simp [ruleErrors_eq_nil_iff, hitems]

theorem AttrType.errors_ofElement_eq_nil_iff
    (h : element.errors t.ofElement v path = [] ↔ element.Conforms t.ofElement.validations v ∧
      ∀ items, v = .array items → t.ofElement.Allows items.length) :
    element.errors t.ofElement v path = [] ↔ element.Conforms t.validations v :=
  h.trans (and_iff_left fun items _ => t.allows_ofElement items.length)

theorem AttrType.conforms_list_iff {items : List Json} :
    (AttrType.list element).Conforms rules (.array items) ↔
      ∀ item ∈ items, element.Conforms rules item :=
  ⟨fun | .list each => each, .list⟩

theorem AttrType.conforms_set_iff {items : List Json} :
    (AttrType.set element).Conforms rules (.array items) ↔
      (∀ item ∈ items, element.Conforms rules item) ∧
        items.Pairwise fun v w => v.same w = false :=
  ⟨fun | .set each distinct => ⟨each, distinct⟩, fun ⟨each, distinct⟩ => .set each distinct⟩

theorem AttrType.conforms_map_iff {members : Keyed Json} :
    (AttrType.map element).Conforms rules (.object members) ↔
      ∀ entry ∈ members, element.Conforms rules entry.2 :=
  ⟨fun | .map each => each, .map⟩

theorem AttrType.conforms_object_iff {attributes : List (String × Attribute)} {members : Keyed Json} :
    (AttrType.object attributes).Conforms rules (.object members) ↔
      (∀ key ∈ Keyed.keys members, key ∈ Keyed.keys attributes) ∧
        ∀ entry ∈ attributes, Attribute.Conforms entry.1 entry.2 members :=
  ⟨fun | .object known each => ⟨known, each⟩, fun ⟨known, each⟩ => .object known each⟩

end Values

/-! ## Nothing wrong -/

mutual

-- By induction on the type, in an object on its attributes. Below a path no key is exempt, so that
-- what is wrong with an element does not depend on where it stands.

/-- Nothing is wrong with a value below a path exactly if it conforms to the type and has as many items
as the attribute may have. -/
theorem AttrType.errors_eq_nil_iff : ∀ (type : AttrType) (t : Traits) (v : Json) (path : String),
    path ≠ "" → (type.errors t v path = [] ↔ type.Conforms t.validations v ∧
      ∀ items, v = .array items → t.Allows items.length)
  | .string, t, v, path, _ | .int, t, v, path, _ | .float, t, v, path, _ | .bool, t, v, path, _ =>
    AttrType.errors_eq_nil_iff_of_isScalar rfl
  | .list element, t, v, path, hpath => by
    cases v with
    | array items =>
      have hitem (item : Json) (i : Nat) := AttrType.errors_ofElement_eq_nil_iff
        (AttrType.errors_eq_nil_iff element t.ofElement item _ (itemPath_ne path i))
      rw [AttrType.errors, List.append_eq_nil_iff, itemCount_eq_nil_iff,
        atItems_eq_nil_iff fun item _ => hitem item, AttrType.conforms_list_iff, and_comm]
      simp
    | _ => exact AttrType.errors_eq_nil_iff_of_not_admits rfl
  | .set element, t, v, path, hpath => by
    cases v with
    | array items =>
      have hitem (item : Json) (i : Nat) := AttrType.errors_ofElement_eq_nil_iff
        (AttrType.errors_eq_nil_iff element t.ofElement item _ (itemPath_ne path i))
      rw [AttrType.errors, List.append_eq_nil_iff, List.append_eq_nil_iff, itemCount_eq_nil_iff,
        repeatedItems_eq_nil_iff, atItems_eq_nil_iff fun item _ => hitem item,
        AttrType.conforms_set_iff]
      simp [and_comm, and_assoc]
    | _ => exact AttrType.errors_eq_nil_iff_of_not_admits rfl
  | .map element, t, v, path, hpath => by
    cases v with
    | object members =>
      have hentry (entry : String × Json) := AttrType.errors_ofElement_eq_nil_iff
        (AttrType.errors_eq_nil_iff element t.ofElement entry.2 _ (dotted_ne path entry.1))
      rw [AttrType.errors, List.flatMap_eq_nil_iff, AttrType.conforms_map_iff]
      simp [hentry]
    | _ => exact AttrType.errors_eq_nil_iff_of_not_admits rfl
  | .object attributes, t, v, path, hpath => by
    cases v with
    | object members =>
      rw [AttrType.errors, List.append_eq_nil_iff, unsupported_eq_nil_iff,
        attributeErrors_eq_nil_iff attributes members path fun name _ => joinPath_ne hpath name,
        AttrType.conforms_object_iff]
      simp [hpath]
    | _ => exact AttrType.errors_eq_nil_iff_of_not_admits rfl

theorem attributeErrors_eq_nil_iff : ∀ (attributes : List (String × Attribute))
    (members : Keyed Json) (path : String),
    (∀ name ∈ Keyed.keys attributes, joinPath path name ≠ "") →
      (attributeErrors attributes members path = [] ↔
        ∀ entry ∈ attributes, Attribute.Conforms entry.1 entry.2 members)
  | [], members, path, _ => by simp [attributeErrors]
  | (name, ⟨type, traits⟩) :: rest, members, path, hpath => by
    obtain ⟨hname, hrest⟩ := List.forall_mem_cons.mp hpath
    rw [attributeErrors, List.append_eq_nil_iff, attributeErrors_eq_nil_iff rest members path hrest,
      List.forall_mem_cons]
    refine and_congr_left fun _ => ?_
    cases hvalue : setValue? name members with
    | none =>
      rw [Attribute.conforms_iff_of_unset hvalue]
      simp
    | some v =>
      rw [Attribute.conforms_iff_of_set hvalue]
      dsimp only
      split
      · next hsettable =>
        rw [List.append_eq_nil_iff, conflicts_eq_nil_iff,
          AttrType.errors_eq_nil_iff type traits v _ hname]
        simp [hsettable]
      · next hsettable => simp [hsettable]

end

/-! ## Documents -/

theorem Schema.validate_object_eq_nil_iff (s : Schema) (members : Keyed Json)
    (hnames : "" ∉ Keyed.keys s.attributes) :
    s.validate (.object members) = [] ↔ s.Conforms members := by
  have hpath : ∀ name ∈ Keyed.keys s.attributes, joinPath "" name ≠ "" := by
    intro name hmem
    rw [joinPath, if_pos rfl]
    rintro rfl
    exact hnames hmem
  rw [Schema.validate, List.append_eq_nil_iff, unsupported_eq_nil_iff,
    attributeErrors_eq_nil_iff _ _ _ hpath]
  constructor
  · rintro ⟨hknown, heach⟩
    exact ⟨fun key hkey => (hknown key hkey).imp_left And.left, heach⟩
  · rintro ⟨hknown, heach⟩
    exact ⟨fun key hkey => (hknown key hkey).imp_left fun hid => ⟨hid, rfl⟩, heach⟩

/-- Nothing is wrong with a document exactly if it is an object that conforms to the schema. -/
theorem Schema.validate_eq_nil_iff (s : Schema) (config : Json)
    (hnames : "" ∉ Keyed.keys s.attributes) :
    s.validate config = [] ↔ ∃ members, config = .object members ∧ s.Conforms members := by
  cases config with
  | object members => simp [validate_object_eq_nil_iff s members hnames]
  | _ => simp [Schema.validate]

/-- One or two blocks of addresses, and deadlines. -/
def Schema.allowing : Schema :=
  (Schema.new 0).withAttribute "allow"
      ((Attribute.required (.set .string)).validate .cidr |>.minItems 1 |>.maxItems 2)
    |>.withTimeouts

theorem Schema.validate_eq_nil_iff_allowing :
    "" ∉ Keyed.keys allowing.attributes ∧
    allowing.Conforms [("allow", .strings ["10.0.0.0/8", "192.168.0.0/16"]), ("id", .string "7"),
      ("timeouts", .object [("create", .null), ("delete", .string "1h30m")])] ∧
    ¬ allowing.Conforms [("allow", .strings ["10.0.0.0/8", "10.0.0.0/8"])] := by
  have hnames : "" ∉ Keyed.keys allowing.attributes := by decide
  have hiff (members : Keyed Json) :
      allowing.validate (.object members) = [] ↔ allowing.Conforms members := by
    simpa using Schema.validate_eq_nil_iff allowing (.object members) hnames
  exact ⟨hnames, (hiff _).mp (by decide +kernel), mt (hiff _).mpr (by decide +kernel)⟩

end CloudProvider
