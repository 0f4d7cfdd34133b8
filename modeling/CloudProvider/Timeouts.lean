import CloudProvider.Duration
import CloudProvider.Json.Basic

/-!
# Deadlines

- `Timeouts`: how long creation, update and deletion may take.
- `Timeouts.withOverrides`: the deadlines that the user's `timeouts` block leaves or replaces.
-/

namespace CloudProvider
set_option autoImplicit false

/-- How long creation, update and deletion may take. -/
structure Timeouts where
  create : Duration
  update : Duration
  delete : Duration
deriving DecidableEq

namespace Timeouts

/-- One deadline for all operations. -/
def uniform (d : Duration) : Timeouts := ⟨d, d, d⟩

/-- Twenty minutes for every operation. -/
def default : Timeouts := uniform (.ofMinutes 20)

/-- The deadline that a block gives for an operation, or else `current`. -/
def override (block : Keyed Json) (operation : String) (current : Duration) :
    Except ProviderError Duration :=
  match (block.get? operation).bind Json.asString? with
  | some text => Duration.parse text
  | none => .ok current

/-- These deadlines under a `timeouts` block. -/
def withOverrides (t : Timeouts) (block : Option Json) : Except ProviderError Timeouts :=
  match block.bind Json.asObject? with
  | none => .ok t
  | some block => do
    return ⟨← override block "create" t.create, ← override block "update" t.update,
      ← override block "delete" t.delete⟩

end Timeouts

end CloudProvider
