import CloudProvider.Json.Decode
import CloudProvider.Network.Block
import CloudProvider.Pattern.Parser

/-!
# Rules for values

- `Validation`: a rule that a single value has to obey.
- `Validation.check`: what is wrong with a value. Values of another kind than the rule is about are
  left alone.
- `Validation.toJson`, `Validation.decoder`: rules as they are sent to the host.
-/

namespace CloudProvider
open Json
set_option autoImplicit false

/-- A rule that a single value has to obey. -/
inductive Validation where
  | oneOf (values : List String)
  | intBetween (least most : Int64)
  | stringLength (least most : UInt64)
  | cidr
  | ipAddress
  | pattern (text : String)
deriving DecidableEq

namespace Validation

/-- The pattern of durations, such as `1h30m`. -/
def durationPattern : String := "^(\\d+(h|ms|m|s))+$"

def duration : Validation := pattern durationPattern

/-! ## Checking -/

/-- What is wrong with a block of addresses. -/
def checkBlock (s : String) : Option String :=
  match Block.parse? s with
  | some b =>
    if b.isTruncated then none
    else some (Text.quote s ++ " has host bits set; did you mean " ++ b.truncate.text ++ "?")
  | none => some (Text.quote s ++ " is not a valid CIDR block")

/-- What is wrong with a text that has to fit a pattern. -/
def checkPattern (pattern s : String) : Option String :=
  match Pattern.parse pattern with
  | .ok p =>
    if p.occursIn s then none else some (Text.quote s ++ " does not match " ++ pattern)
  | .error fault => some ("invalid pattern " ++ pattern ++ ": " ++ fault.message pattern)

/-- What is wrong with a value. -/
def check : Validation → Json → Option String
  | oneOf values, .string s =>
    if values.contains s then none
    else
      let listed := String.intercalate ", " values
      some ("expected one of [" ++ listed ++ "], got " ++ Text.quote s)
  | intBetween least most, v => do
    let n ← v.asInt64?
    if least ≤ n && n ≤ most then none
    else some s!"must be between {least} and {most}, got {n}"
  | stringLength least most, .string s =>
    if least.toNat ≤ s.length && s.length ≤ most.toNat then none
    else some s!"length must be between {least} and {most}, got {s.length}"
  | cidr, .string s => checkBlock s
  | ipAddress, .string s =>
    if (Address.parse? s).isSome then none
    else some (Text.quote s ++ " is not a valid IP address")
  | pattern text, .string s => checkPattern text s
  | _, _ => none

/-! ## As JSON -/

def name : Validation → String
  | oneOf _ => "one_of"
  | intBetween .. => "int_between"
  | stringLength .. => "string_length"
  | cidr => "cidr"
  | ipAddress => "ip_address"
  | pattern _ => "pattern"

def toJson : Validation → Json
  | oneOf values => .object [("rule", .string "one_of"), ("values", .strings values)]
  | intBetween least most =>
    .object [("max", .int64 most), ("min", .int64 least), ("rule", .string "int_between")]
  | stringLength least most =>
    .object [("max", .uint64 most), ("min", .uint64 least), ("rule", .string "string_length")]
  | cidr => .object [("rule", .string "cidr")]
  | ipAddress => .object [("rule", .string "ip_address")]
  | pattern text => .object [("pattern", .string text), ("rule", .string "pattern")]

def names : List String :=
  ["one_of", "int_between", "string_length", "cidr", "ip_address", "pattern"]

/-- The fields of the rule with this name. -/
def fields? : String → Option (String × Record Validation)
  | "one_of" =>
    some ("struct variant Validation::OneOf",
      oneOf <$> Record.required "values" (Decode.list Decode.text))
  | "int_between" =>
    some ("struct variant Validation::IntBetween",
      intBetween <$> Record.required "min" Decode.int64 <*> Record.required "max" Decode.int64)
  | "string_length" =>
    some ("struct variant Validation::StringLength",
      stringLength <$> Record.required "min" Decode.size <*> Record.required "max" Decode.size)
  | "cidr" => some ("unit variant Validation::Cidr", ⟨[], fun _ => .ok cidr⟩)
  | "ip_address" => some ("unit variant Validation::IpAddress", ⟨[], fun _ => .ok ipAddress⟩)
  | "pattern" =>
    some ("struct variant Validation::Pattern",
      pattern <$> Record.required "pattern" Decode.text)
  | _ => none

/-- The name of a rule. Inside a nested type its number does as well. -/
def nameDecoder (nested : Bool) : Decoder String
  | .string s =>
    if names.contains s then .ok s else .error (.unknownVariant s names)
  | v =>
    match nested, v with
    | true, .number (.int n) =>
      if n.val < 0 then Decode.wrongType v "variant identifier"
      else
        match names[n.val.toNat]? with
        | some s => .ok s
        | none => .error (.invalidValue (.integer n.val) "variant index 0 <= i < 6")
    | _, _ => Decode.wrongType v "variant identifier"

/-- The rest of a rule with this name. -/
def ofFields (name : String) (v : Json) : Except Mismatch Validation :=
  match fields? name with
  | some (title, r) => r.nestedDecoder title v
  | none => .error (.unknownVariant name names)

/-- A rule as it is sent to the host. -/
def decoder (nested : Bool) : Decoder Validation
  | .object members => do
    match Keyed.get? "rule" members with
    | some v => ofFields (← nameDecoder nested v) (.object (Keyed.erase "rule" members))
    | none => .error (.missingField "rule")
  | .array (v :: rest) => do ofFields (← nameDecoder nested v) (.array rest)
  | .array [] => .error (.missingField "rule")
  | v => Decode.wrongType v "internally tagged enum Validation"

end Validation

end CloudProvider
