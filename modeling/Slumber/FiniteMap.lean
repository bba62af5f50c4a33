/-!
# Finite maps in the order of their keys

A `FiniteMap κ α` is a list of keys with their values. `insert` puts a new key before the first
greater one, so a map that grew by insertions lists its keys in ascending order; that order is what
documents, listings and exported metrics show. Looking up and changing a key is independent of the
order: the lookup laws below hold for every list, sorted or not.
-/

namespace Slumber

/-- Keys with their values; of several entries of one key the first counts. -/
abbrev FiniteMap (κ α : Type) := List (κ × α)

namespace FiniteMap

variable {κ α : Type} [DecidableEq κ]

/-- The value of a key. -/
def find? : FiniteMap κ α → κ → Option α
  | [], _ => none
  | (k, v) :: m, x => if k = x then some v else find? m x

/-- Whether the map has the key. -/
def contains (m : FiniteMap κ α) (x : κ) : Bool :=
  (m.find? x).isSome

/-- Sets the value of a key: in its place if the map has it, else before the first greater key. -/
def insert [LT κ] [DecidableLT κ] : FiniteMap κ α → κ → α → FiniteMap κ α
  | [], x, v => [(x, v)]
  | (k, w) :: m, x, v =>
    if k = x then (x, v) :: m
    else if x < k then (x, v) :: (k, w) :: m
    else (k, w) :: insert m x v

/-- Removes a key. -/
def erase (m : FiniteMap κ α) (x : κ) : FiniteMap κ α :=
  m.filter fun p => p.1 ≠ x

/-- The map of a list of entries, where a later entry replaces an earlier one of the same key. -/
def ofList [LT κ] [DecidableLT κ] (entries : List (κ × α)) : FiniteMap κ α :=
  entries.foldl (fun m p => m.insert p.1 p.2) []

/-- The keys in their order. -/
def keys (m : FiniteMap κ α) : List κ :=
  m.map (·.1)

/-- The values in the order of their keys. -/
def values (m : FiniteMap κ α) : List α :=
  m.map (·.2)

/-! ### Lookup laws -/

@[simp] theorem find?_nil (x : κ) : find? ([] : FiniteMap κ α) x = none := rfl

@[simp] theorem find?_insert_self [LT κ] [DecidableLT κ] (m : FiniteMap κ α) (x : κ) (v : α) :
    (m.insert x v).find? x = some v := by
  induction m with
  | nil => simp [insert, find?]
  | cons p m ih =>
      obtain ⟨k, w⟩ := p
      by_cases hk : k = x
      · simp [insert, find?, hk]
      · by_cases hx : x < k <;> simp [insert, find?, hk, hx, ih]

theorem find?_insert_of_ne [LT κ] [DecidableLT κ] (m : FiniteMap κ α) {x y : κ} (v : α)
    (h : x ≠ y) : (m.insert x v).find? y = m.find? y := by
  induction m with
  | nil => simp [insert, find?, h]
  | cons p m ih =>
      obtain ⟨k, w⟩ := p
      by_cases hk : k = x
      · subst hk; simp [insert, find?, h]
      · simp only [insert, if_neg hk]
        split <;> simp [find?, h, ih]

@[simp] theorem find?_erase_self (m : FiniteMap κ α) (x : κ) : (m.erase x).find? x = none := by
  induction m with
  | nil => rfl
  | cons p m ih =>
      obtain ⟨k, w⟩ := p
      by_cases hk : k = x <;> simp_all [erase, find?]

theorem find?_erase_of_ne (m : FiniteMap κ α) {x y : κ} (h : x ≠ y) :
    (m.erase x).find? y = m.find? y := by
  induction m with
  | nil => rfl
  | cons p m ih =>
      obtain ⟨k, w⟩ := p
      by_cases hk : k = x
      · subst hk; simpa [erase, find?, h] using ih
      · by_cases hy : k = y <;> simp_all [erase, find?]

end FiniteMap

end Slumber
