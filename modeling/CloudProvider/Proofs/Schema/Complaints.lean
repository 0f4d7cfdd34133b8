import CloudProvider.Schema.Validate

/-!
# What validation complains about

Every problem that validation finds is an error, and says either one of a few things of its own or what a
rule says about a value.

* `Complaint`: the texts of validation itself.
* `Diagnostic.Licensed`: an error with such a text, or with the message of a rule.
* `AttrType.errors_licensed`, `attributeErrors_licensed`: the problems of values and of attributes.
* `Schema.validate_licensed`: the problems of a configuration.
* `Schema.validate_hasErrors`: a configuration has errors if and only if it has problems.
-/

namespace CloudProvider
set_option autoImplicit false

/-- The texts of validation itself. -/
inductive Complaint : String → Prop where
  | unsupported : Complaint "unsupported attribute"
  | conflict (other : String) : Complaint ("conflicts with " ++ other)
  | missing : Complaint "required attribute is missing"
  | computed : Complaint "attribute is computed and cannot be set"
  | kind (type : AttrType) : Complaint ("expected " ++ type.describe)
  | tooFew (least : UInt64) : Complaint s!"at least {least} item(s) required"
  | tooMany (most : UInt64) : Complaint s!"at most {most} item(s) allowed"
  | repeated : Complaint "duplicate set element"
  | noObject : Complaint "configuration must be an object"

/-- An error of validation itself, or of a rule that a value breaks. -/
inductive Diagnostic.Licensed : Diagnostic → Prop where
  | own {summary : String} (path : String) (h : Complaint summary) : Licensed (.errorAt path summary)
  | rule {rule : Validation} {v : Json} {message : String} (path : String)
      (h : rule.check v = some message) : Licensed (.errorAt path message)

theorem Diagnostic.Licensed.isError {d : Diagnostic} (h : d.Licensed) : d.isError = true := by
  cases h <;> rfl

namespace Diagnostics

def AllLicensed (ds : Diagnostics) : Prop :=
  ∀ d ∈ ds, d.Licensed

namespace AllLicensed

theorem nil : AllLicensed [] := by
  intro d hd
  cases hd

theorem own {summary : String} (path : String) (h : Complaint summary) :
    AllLicensed [.errorAt path summary] := by
  intro d hd
  obtain rfl := List.mem_singleton.mp hd
  exact .own path h

theorem append {ds ds' : Diagnostics} (h : AllLicensed ds) (h' : AllLicensed ds') :
    AllLicensed (ds ++ ds') := by
  intro d hd
  exact (List.mem_append.mp hd).elim (h d) (h' d)

theorem map {α : Type} (as : List α) {path summary : α → String} (h : ∀ a, Complaint (summary a)) :
    AllLicensed (as.map fun a => .errorAt (path a) (summary a)) := by
  intro d hd
  obtain ⟨a, -, rfl⟩ := List.mem_map.mp hd
  exact .own _ (h a)

theorem flatMap {α : Type} {as : List α} {f : α → Diagnostics} (h : ∀ a, AllLicensed (f a)) :
    AllLicensed (as.flatMap f) := by
  intro d hd
  obtain ⟨a, -, hd⟩ := List.mem_flatMap.mp hd
  exact h a d hd

theorem choose {c : Prop} [Decidable c] {ds ds' : Diagnostics} (h : AllLicensed ds)
    (h' : AllLicensed ds') : AllLicensed (if c then ds else ds') := by
  split
  · exact h
  · exact h'

end AllLicensed

end Diagnostics

open Diagnostics.AllLicensed

/-! ## Single checks -/

theorem itemCount_licensed (t : Traits) (path : String) (count : Nat) :
    (itemCount t path count).AllLicensed := by
  unfold itemCount
  apply append
  · cases t.minItems with
    | none => exact nil
    | some least => exact choose (own _ (.tooFew least)) nil
  · cases t.maxItems with
    | none => exact nil
    | some most => exact choose (own _ (.tooMany most)) nil

theorem repeatedItems_licensed (path : String) (before : List Json) (i : Nat) (items : List Json) :
    (repeatedItems path before i items).AllLicensed := by
  induction items generalizing before i with
  | nil => exact nil
  | cons item rest ih => exact append (choose (own _ .repeated) nil) (ih _ _)

theorem ruleErrors_licensed (t : Traits) (path : String) (v : Json) :
    (ruleErrors t path v).AllLicensed := by
  intro d hd
  obtain ⟨message, hmessage, rfl⟩ := List.mem_map.mp hd
  obtain ⟨rule, -, hrule⟩ := List.mem_filterMap.mp hmessage
  exact .rule path hrule

theorem atItems_licensed {check : Json → String → Diagnostics}
    (h : ∀ v path, (check v path).AllLicensed) (path : String) (items : List Json) :
    (atItems check path items).AllLicensed :=
  flatMap fun _ => h _ _

theorem kind_licensed (type : AttrType) (t : Traits) (v : Json) (path : String) :
    (if type.admits v then ruleErrors t path v
      else [.errorAt path ("expected " ++ type.describe)]).AllLicensed :=
  choose (ruleErrors_licensed t path v) (own _ (.kind type))

/-! ## Values and attributes -/

mutual

theorem AttrType.errors_licensed : ∀ (type : AttrType) (t : Traits) (v : Json) (path : String),
    (type.errors t v path).AllLicensed
  | .list element, t, v, path => by
    cases v with
    | array items =>
      simp only [AttrType.errors]
      exact append (itemCount_licensed _ _ _) (atItems_licensed (element.errors_licensed _) _ _)
    | _ =>
      simp only [AttrType.errors]
      exact kind_licensed _ _ _ _
  | .set element, t, v, path => by
    cases v with
    | array items =>
      simp only [AttrType.errors]
      exact append (append (itemCount_licensed _ _ _) (repeatedItems_licensed _ _ _ _))
        (atItems_licensed (element.errors_licensed _) _ _)
    | _ =>
      simp only [AttrType.errors]
      exact kind_licensed _ _ _ _
  | .map element, t, v, path => by
    cases v with
    | object members =>
      simp only [AttrType.errors]
      exact flatMap fun _ => element.errors_licensed _ _ _
    | _ =>
      simp only [AttrType.errors]
      exact kind_licensed _ _ _ _
  | .object attributes, t, v, path => by
    cases v with
    | object members =>
      simp only [AttrType.errors]
      exact append (map _ fun _ => .unsupported) (attributeErrors_licensed attributes members path)
    | _ =>
      simp only [AttrType.errors]
      exact kind_licensed _ _ _ _
  | .string, t, v, path | .int, t, v, path | .float, t, v, path | .bool, t, v, path => by
    simp only [AttrType.errors]
    exact kind_licensed _ _ _ _

theorem attributeErrors_licensed : ∀ (attributes : List (String × Attribute))
    (members : Keyed Json) (path : String), (attributeErrors attributes members path).AllLicensed
  | [], _, _ => by
    simp only [attributeErrors]
    exact nil
  | (name, ⟨type, traits⟩) :: rest, members, path => by
    simp only [attributeErrors]
    apply append _ (attributeErrors_licensed rest members path)
    cases setValue? name members with
    | none => exact choose (own _ .missing) nil
    | some v =>
      exact choose (append (map _ fun _ => .conflict _) (type.errors_licensed _ _ _))
        (own _ .computed)

end

/-! ## Configurations -/

theorem Schema.validate_licensed (s : Schema) (config : Json) : (s.validate config).AllLicensed := by
  unfold validate
  split
  · exact append (map _ fun _ => .unsupported) (attributeErrors_licensed _ _ _)
  · exact own _ .noObject

/-- A configuration is refused if and only if anything is found. -/
theorem Schema.validate_hasErrors (s : Schema) (config : Json) :
    (s.validate config).hasErrors = true ↔ s.validate config ≠ [] := by
  have hall := s.validate_licensed config
  rw [Diagnostics.hasErrors, List.any_eq_true]
  constructor
  · rintro ⟨d, hd, -⟩ hnone
    rw [hnone] at hd
    cases hd
  · intro hsome
    obtain ⟨d, hd⟩ := List.exists_mem_of_ne_nil _ hsome
    exact ⟨d, hd, (hall d hd).isError⟩

end CloudProvider
