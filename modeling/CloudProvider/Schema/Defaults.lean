import CloudProvider.Schema.Basic

/-!
# Default values

- `Schema.fill`: the values with a default wherever an attribute that has one is unset.
-/

namespace CloudProvider
set_option autoImplicit false

/-- Changes an object, or the objects among the items of a list. -/
def Json.mapObjects (f : Keyed Json → Keyed Json) : Json → Json
  | .object members => .object (f members)
  | .array items => .array (items.map fun
    | .object members => .object (f members)
    | v => v)
  | v => v

mutual

/-- Fills the objects inside a value that is set: the value itself or, for a list or a set of
objects, its elements. -/
def AttrType.fill : AttrType → Json → Json
  | .object attributes, v => v.mapObjects (fillAll attributes)
  | .list (.object attributes), v => v.mapObjects (fillAll attributes)
  | .set (.object attributes), v => v.mapObjects (fillAll attributes)
  | _, v => v

/-- Fills each attribute in turn. Null counts as unset. -/
def fillAll : List (String × Attribute) → Keyed Json → Keyed Json
  | [], values => values
  | (name, ⟨type, traits⟩) :: rest, values =>
    fillAll rest
      (match (values.get? name).filter (!·.isNull), traits.default with
        | some v, _ => values.insert name (type.fill v)
        | none, some v => values.insert name v
        | none, none => values)

end

/-- The values with a default wherever an attribute that has one is unset. -/
def Schema.fill (s : Schema) (values : Keyed Json) : Keyed Json :=
  fillAll s.attributes values

end CloudProvider
