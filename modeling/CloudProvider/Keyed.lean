/-!
# Entries by key

Entries in increasing order of their keys, each key once. `insert` keeps both.

- `Keyed.get?`, `Keyed.contains`: look-up.
- `Keyed.insert`, `Keyed.erase`, `Keyed.ofList`: change.
- `Keyed.Ordered`: the keys increase.
-/

namespace CloudProvider
set_option autoImplicit false

abbrev Keyed (α : Type) := List (String × α)

namespace Keyed

variable {α β : Type}

def get? (key : String) : Keyed α → Option α
  | [] => none
  | (k, v) :: rest => if k = key then some v else get? key rest

def contains (key : String) (entries : Keyed α) : Bool :=
  (get? key entries).isSome

def keys (entries : Keyed α) : List String :=
  entries.map (·.1)

/-- The entries with `value` under `key`, in place of what stood there. -/
def insert (key : String) (value : α) : Keyed α → Keyed α
  | [] => [(key, value)]
  | (k, v) :: rest =>
    if k = key then (key, value) :: rest
    else if k < key then (k, v) :: insert key value rest
    else (key, value) :: (k, v) :: rest

def erase (key : String) (entries : Keyed α) : Keyed α :=
  entries.filter fun entry => entry.1 ≠ key

/-- Entries in any order; of two with one key the later stays. -/
def ofList (entries : List (String × α)) : Keyed α :=
  entries.foldl (fun sorted entry => insert entry.1 entry.2 sorted) []

/-- The entries with each value changed. -/
def mapValues (f : α → β) (entries : Keyed α) : Keyed β :=
  entries.map fun entry => (entry.1, f entry.2)

/-- The keys increase. -/
def Ordered (entries : Keyed α) : Prop :=
  (keys entries).Pairwise (· < ·)

/-! ## Look-up after a change -/

@[simp] theorem get?_nil (key : String) : get? key ([] : Keyed α) = none := rfl

theorem get?_cons (key k : String) (v : α) (rest : Keyed α) :
    get? key ((k, v) :: rest) = if k = key then some v else get? key rest := rfl

@[simp] theorem get?_insert_self (key : String) (value : α) (entries : Keyed α) :
    get? key (insert key value entries) = some value := by
  induction entries with
  | nil => simp [insert, get?]
  | cons entry rest ih =>
    obtain ⟨k, v⟩ := entry
    simp only [insert]
    split
    · simp [get?]
    · split <;> simp [get?, *]

theorem get?_insert_of_ne (key other : String) (value : α) (entries : Keyed α) (h : other ≠ key) :
    get? other (insert key value entries) = get? other entries := by
  induction entries with
  | nil => simp [insert, get?, Ne.symm h]
  | cons entry rest ih =>
    obtain ⟨k, v⟩ := entry
    simp only [insert]
    split
    · next hk => simp [get?, Ne.symm h, hk]
    · split
      · simp [get?, ih]
      · simp [get?, Ne.symm h]

theorem get?_erase_self (key : String) (entries : Keyed α) :
    get? key (erase key entries) = none := by
  induction entries with
  | nil => rfl
  | cons entry rest ih =>
    obtain ⟨k, v⟩ := entry
    by_cases h : k = key
    · simpa [erase, h] using ih
    · simpa [erase, h, get?] using ih

theorem get?_erase_of_ne (key other : String) (entries : Keyed α) (h : other ≠ key) :
    get? other (erase key entries) = get? other entries := by
  induction entries with
  | nil => rfl
  | cons entry rest ih =>
    obtain ⟨k, v⟩ := entry
    by_cases hk : k = key
    · have hko : k ≠ other := fun e => h (e.symm.trans hk)
      simpa [erase, hk, get?, Ne.symm h] using ih
    · by_cases ho : k = other
      · simp [erase, get?, ho, h]
      · simpa [erase, hk, get?, ho] using ih

end Keyed

end CloudProvider
