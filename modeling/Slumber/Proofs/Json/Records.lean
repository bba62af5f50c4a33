import Slumber.Json.Record

/-!
# Reading back a record that was written

A record is written as an object from the list of its fields, some of which are left out when they
have nothing to say. What is found under a name in the object is the last field of that name in the
list. So a part comes back if its value does when it was written, and if it was left out only for
the value that stands for a missing part.

* `FiniteMap.find?_ofList` — what is found in the object of a list of fields;
* `Json.list?_map`, `Json.map?_map` — lists and maps come back if their values do;
* `Record.elim_unless_blank`, `Record.elim_unless_isEmpty`, `Record.elim_ifSome` — parts that may be
  left out.
-/

namespace Slumber

open Json

namespace FiniteMap

variable {κ α : Type} [DecidableEq κ]

@[simp] theorem find?_cons (k : κ) (v : α) (m : FiniteMap κ α) (x : κ) :
    FiniteMap.find? ((k, v) :: m) x = if k = x then some v else m.find? x := rfl

@[simp] theorem find?_append (a b : FiniteMap κ α) (x : κ) :
    FiniteMap.find? (a ++ b) x = (a.find? x).or (b.find? x) := by
  induction a with
  | nil => rfl
  | cons p a ih =>
      obtain ⟨k, v⟩ := p
      by_cases hk : k = x <;> simp [hk, ih]

/-- The map of a list of entries has the last entry of each key. -/
@[simp] theorem find?_ofList [LT κ] [DecidableLT κ] (entries : List (κ × α)) (x : κ) :
    (ofList entries).find? x = FiniteMap.find? entries.reverse x := by
  -- The entries behind those that are read already come first, whatever map was built so far.
  have hfold : ∀ m : FiniteMap κ α, (entries.foldl (fun m p => m.insert p.1 p.2) m).find? x
      = (FiniteMap.find? entries.reverse x).or (m.find? x) := by
    induction entries with
    | nil => exact fun m => rfl
    | cons p entries ih =>
        intro m
        obtain ⟨k, v⟩ := p
        rw [List.foldl_cons, ih, List.reverse_cons, find?_append, Option.or_assoc]
        congr 1
        by_cases hk : k = x
        · rw [← hk, find?_insert_self]
          simp
        · rw [find?_insert_of_ne _ _ hk]
          simp [hk]
  rw [ofList, hfold, find?_nil, Option.or_none]

end FiniteMap

namespace Json

variable {α : Type} {read : Json → Option α} {write : α → Json}

@[simp] theorem record?_object (names : List String) (fields : List (String × Json)) :
    (Json.object fields).record? names = some (FiniteMap.ofList fields) := rfl

/-! ### Single values -/

@[simp] theorem text?_str (s : String) : text? (.str s) = some s := rfl

@[simp] theorem bool?_bool (b : Bool) : bool? (.bool b) = some b := rfl

@[simp] theorem word32?_ofWord32 (n : Int32) : word32? (ofWord32 n) = some n := by
  have hlow := n.le_toInt
  have hhigh := n.toInt_lt
  simp only [ofWord32, word32?]
  rw [if_pos (by omega), Int32.ofInt_toInt]

@[simp] theorem word64?_ofWord64 (n : Int64) : word64? (ofWord64 n) = some n := by
  have hlow := n.le_toInt
  have hhigh := n.toInt_lt
  simp only [ofWord64, word64?, int64?]
  rw [if_pos (by omega), Option.map_some, Int64.ofInt_toInt]

/-! ### Lists and maps -/

theorem list?_map {vs : List α} (h : ∀ v ∈ vs, read (write v) = some v) :
    list? read (.arr (vs.map write)) = some vs := by
  show (vs.map write).mapM read = some vs
  induction vs with
  | nil => rfl
  | cons v vs ih =>
      obtain ⟨hv, hvs⟩ := List.forall_mem_cons.1 h
      rw [List.map_cons, List.mapM_cons, hv, ih hvs]
      rfl

@[simp] theorem list?_texts (ss : List String) : list? text? (texts ss) = some ss :=
  list?_map fun _ _ => rfl

theorem map?_map {m : FiniteMap String α} (h : ∀ p ∈ m, read (write p.2) = some p.2) :
    map? read (.obj (m.map fun p => (p.1, write p.2))) = some m := by
  show (m.map fun p => (p.1, write p.2)).mapM (fun p => (read p.2).map (p.1, ·)) = some m
  induction m with
  | nil => rfl
  | cons p m ih =>
      obtain ⟨hp, hm⟩ := List.forall_mem_cons.1 h
      rw [List.map_cons, List.mapM_cons, ih hm]
      simp [hp]

/-! ### Fields that may be left out -/

@[simp] theorem reverse_fieldUnless (empty : Bool) (name : String) (j : Json) :
    (fieldUnless empty name j).reverse = fieldUnless empty name j := by
  cases empty <;> rfl

@[simp] theorem reverse_fieldIfSome (name : String) (o : Option α) :
    (fieldIfSome name write o).reverse = fieldIfSome name write o := by
  cases o <;> rfl

@[simp] theorem find?_fieldUnless (empty : Bool) (name : String) (j : Json) (x : String) :
    FiniteMap.find? (fieldUnless empty name j) x
      = if name = x then bif empty then none else some j else none := by
  cases empty <;> simp [fieldUnless]

@[simp] theorem find?_fieldIfSome (name : String) (o : Option α) (x : String) :
    FiniteMap.find? (fieldIfSome name write o) x
      = if name = x then o.map write else none := by
  cases o <;> simp [fieldIfSome]

end Json

namespace Record

variable {α : Type} {read : Json → Option α} {write : α → Json}

theorem part?_eq (r : Record) (name : String) (read : Json → Option α) :
    r.part? name read = (r.find? name).bind read := rfl

theorem partOr_eq (r : Record) (name : String) (default : α) (read : Json → Option α) :
    r.partOr name default read = (r.find? name).elim (some default) read := by
  unfold partOr
  cases r.find? name <;> rfl

/-- A text comes back that is left out only when it is empty, if a missing one is empty. -/
@[simp] theorem elim_unless_blank (s : String) :
    (bif s = "" then none else some (.str s)).elim (some "") text? = some s := by
  by_cases hs : s = "" <;> simp [hs]

/-- A list comes back that is left out only when it is empty, if a missing one is empty. -/
@[simp] theorem elim_unless_isEmpty {vs : List α} {read : Json → Option (List α)} {j : Json}
    (h : read j = some vs) :
    (bif vs.isEmpty then none else some j).elim (some []) read = some vs := by
  cases vs with
  | nil => rfl
  | cons v vs => exact h

/-- A part comes back that is written only when there is a value, if values are not written as
`null`. -/
theorem elim_ifSome {o : Option α} (h : ∀ v, read (write v) = some v)
    (hnull : ∀ v, write v ≠ .null) :
    o.elim (some none) (nullable? read ∘ write) = some o := by
  cases o with
  | none => rfl
  | some v =>
      show nullable? read (write v) = _
      unfold nullable?
      split
      · rename_i hw
        exact absurd hw (hnull v)
      · rw [h]
        rfl

end Record

end Slumber
