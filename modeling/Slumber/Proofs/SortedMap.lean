import Mathlib.Data.List.Nodup
import Mathlib.Data.List.Perm.Basic
import Mathlib.Order.Defs.Unbundled
import Slumber.FiniteMap

/-!
# Maps whose keys ascend

A map that lists its keys in ascending order has one entry for each key. Erasing a key keeps that
order, and so does setting the value of a key, if any two keys can be compared.

* `FiniteMap.Sorted` — the keys ascend;
* `FiniteMap.mem_iff_find?` — the entries are the values that are found;
* `FiniteMap.ofList_perm` — entries with distinct keys are those of their map;
* `FiniteMap.Sorted.insert`, `FiniteMap.Sorted.erase` — what keeps the order;
* `FiniteMap.Sorted.ext`, `FiniteMap.Sorted.keys_eq` — such a map is given by its entries, and its
  list of keys by which keys there are.
-/

namespace Slumber.FiniteMap

variable {κ α : Type} [DecidableEq κ]

/-- The keys ascend. -/
def Sorted [LT κ] (m : FiniteMap κ α) : Prop :=
  m.Pairwise fun a b => a.1 < b.1

/-! ### Entries and lookups -/

theorem mem_of_find? {m : FiniteMap κ α} {x : κ} {v : α} (h : m.find? x = some v) :
    (x, v) ∈ m := by
  induction m with
  | nil => cases h
  | cons p m ih =>
      obtain ⟨k, w⟩ := p
      simp only [find?] at h
      split at h
      · rename_i hk
        subst hk
        cases h
        exact List.mem_cons_self
      · exact List.mem_cons_of_mem _ (ih h)

theorem find?_eq_none {m : FiniteMap κ α} {x : κ} (h : x ∉ m.keys) : m.find? x = none :=
  Option.eq_none_iff_forall_ne_some.2 fun _ hv => h (List.mem_map_of_mem (mem_of_find? hv))

/-- In a map with one entry for each key an entry is what is found under its key. -/
theorem mem_iff_find?_of_nodup {m : FiniteMap κ α} (hm : (m.map (·.1)).Nodup) {x : κ} {v : α} :
    (x, v) ∈ m ↔ m.find? x = some v := by
  refine ⟨fun h => ?_, mem_of_find?⟩
  induction m with
  | nil => cases h
  | cons p m ih =>
      obtain ⟨k, w⟩ := p
      rw [List.map_cons, List.nodup_cons] at hm
      obtain ⟨hfresh, hrest⟩ := hm
      simp only [find?]
      rcases List.mem_cons.1 h with heq | hmem
      · obtain ⟨rfl, rfl⟩ := Prod.mk.inj heq
        rw [if_pos rfl]
      · have hne : k ≠ x := by
          rintro rfl
          exact hfresh (List.mem_map.2 ⟨_, hmem, rfl⟩)
        rw [if_neg hne]
        exact ih hrest hmem

theorem contains_iff_exists_mem {m : FiniteMap κ α} {x : κ} :
    m.contains x = true ↔ ∃ v, (x, v) ∈ m := by
  constructor
  · intro h
    obtain ⟨v, hv⟩ := Option.isSome_iff_exists.1 h
    exact ⟨v, mem_of_find? hv⟩
  · rintro ⟨v, hv⟩
    unfold contains
    induction m with
    | nil => cases hv
    | cons p m ih =>
        obtain ⟨k, w⟩ := p
        simp only [find?]
        split
        · rfl
        · rename_i hk
          rcases List.mem_cons.1 hv with heq | hv
          · exact absurd (Prod.mk.inj heq).1.symm hk
          · exact ih hv

/-- What an insertion leaves behind: the new entry, and others that were there before. -/
theorem mem_of_mem_insert [LT κ] [DecidableLT κ] {m : FiniteMap κ α} {x y : κ} {v w : α}
    (h : (y, w) ∈ m.insert x v) : (y, w) = (x, v) ∨ (y, w) ∈ m := by
  induction m with
  | nil => exact .inl (List.mem_singleton.1 h)
  | cons p m ih =>
      obtain ⟨k, u⟩ := p
      simp only [insert] at h
      split at h
      · rcases List.mem_cons.1 h with h | h
        · exact .inl h
        · exact .inr (List.mem_cons_of_mem _ h)
      · split at h
        · rcases List.mem_cons.1 h with h | h
          · exact .inl h
          · exact .inr h
        · rcases List.mem_cons.1 h with h | h
          · exact .inr (by simp [h])
          · rcases ih h with h | h
            · exact .inl h
            · exact .inr (List.mem_cons_of_mem _ h)

theorem contains_insert [LT κ] [DecidableLT κ] (m : FiniteMap κ α) (x y : κ) (v : α) :
    (m.insert x v).contains y = (decide (x = y) || m.contains y) := by
  unfold contains
  by_cases h : x = y
  · subst h
    simp
  · simp [find?_insert_of_ne m v h, h]

/-! ### Maps of entries -/

section

variable [LT κ] [DecidableLT κ]

/-- A new key only adds an entry. -/
theorem insert_perm {m : FiniteMap κ α} {x : κ} (v : α) (hfresh : x ∉ m.map (·.1)) :
    (m.insert x v).Perm ((x, v) :: m) := by
  induction m with
  | nil => exact .refl _
  | cons p m ih =>
      obtain ⟨k, w⟩ := p
      rw [List.map_cons, List.mem_cons, not_or] at hfresh
      rw [insert, if_neg (Ne.symm hfresh.1)]
      split
      · exact .refl _
      · exact ((ih hfresh.2).cons _).trans (.swap _ _ _)

/-- Entries with distinct keys are those of their map. -/
theorem ofList_perm {entries : List (κ × α)} (hnodup : (entries.map (·.1)).Nodup) :
    (ofList entries).Perm entries := by
  have hfold : ∀ m : FiniteMap κ α, ((entries ++ m).map (·.1)).Nodup →
      (entries.foldl (fun m p => m.insert p.1 p.2) m).Perm (entries ++ m) := by
    clear hnodup
    induction entries with
    | nil => exact fun m _ => .refl m
    | cons p entries ih =>
        intro m hm
        rw [List.cons_append, List.map_cons, List.nodup_cons] at hm
        obtain ⟨hfresh, hrest⟩ := hm
        rw [List.map_append, List.mem_append, not_or] at hfresh
        have hinsert := insert_perm p.2 hfresh.2
        have hmiddle : (entries ++ m.insert p.1 p.2).Perm (p :: (entries ++ m)) :=
          (hinsert.append_left entries).trans List.perm_middle
        refine (ih _ ?_).trans hmiddle
        rw [(hmiddle.map _).nodup_iff, List.map_cons, List.nodup_cons, List.map_append,
          List.mem_append, not_or, ← List.map_append]
        exact ⟨hfresh, hrest⟩
  have hall := hfold [] (by rwa [List.append_nil])
  rwa [List.append_nil] at hall

end

/-! ### Ascending keys -/

section

variable [LT κ] [Std.Asymm (fun a b : κ => a < b)]

omit [DecidableEq κ] in
theorem not_lt_self (x : κ) : ¬ x < x :=
  fun h => Std.Asymm.asymm (r := fun a b : κ => a < b) x x h h

omit [DecidableEq κ] in
theorem Sorted.nodup_keys {m : FiniteMap κ α} (hm : m.Sorted) : (m.map (·.1)).Nodup := by
  refine List.pairwise_map.2 (hm.imp fun {p q} hlt => ?_)
  rintro (heq : p.1 = q.1)
  exact not_lt_self q.1 (heq ▸ hlt)

/-- In a map whose keys ascend an entry is what is found under its key. -/
theorem mem_iff_find? {m : FiniteMap κ α} (hm : m.Sorted) {x : κ} {v : α} :
    (x, v) ∈ m ↔ m.find? x = some v :=
  mem_iff_find?_of_nodup hm.nodup_keys

omit [DecidableEq κ] [Std.Asymm (fun a b : κ => a < b)] in
theorem sorted_iff_keys {m : FiniteMap κ α} :
    m.Sorted ↔ (m.map (·.1)).Pairwise (fun a b => a < b) := by
  unfold Sorted
  rw [List.pairwise_map]

omit [Std.Asymm (fun a b : κ => a < b)] in
/-- Setting the value of a key, new or not, keeps the order if any two keys can be compared. -/
theorem Sorted.insert [DecidableLT κ] [Std.Trichotomous (fun a b : κ => a < b)]
    [IsTrans κ (fun a b => a < b)] {m : FiniteMap κ α} (hm : m.Sorted) (x : κ) (v : α) :
    (m.insert x v).Sorted := by
  induction m with
  | nil => exact List.pairwise_singleton _ _
  | cons p m ih =>
      obtain ⟨k, w⟩ := p
      obtain ⟨hhead, htail⟩ := List.pairwise_cons.1 hm
      simp only [FiniteMap.insert]
      by_cases hk : k = x
      · rw [if_pos hk]
        exact List.pairwise_cons.2 ⟨fun q hq => hk ▸ hhead q hq, htail⟩
      rw [if_neg hk]
      by_cases hx : x < k
      · rw [if_pos hx]
        refine List.pairwise_cons.2 ⟨fun q hq => ?_, hm⟩
        rcases List.mem_cons.1 hq with rfl | hq
        · exact hx
        · exact trans_of (fun a b : κ => a < b) hx (hhead q hq)
      · rw [if_neg hx]
        have hlt : k < x := by
          by_contra hnot
          exact hk (Std.Trichotomous.trichotomous (r := fun a b : κ => a < b) k x hnot hx)
        refine List.pairwise_cons.2 ⟨fun q hq => ?_, ih htail⟩
        rcases mem_of_mem_insert hq with heq | hq
        · obtain ⟨rfl, -⟩ := Prod.mk.inj heq
          exact hlt
        · exact hhead q hq

omit [DecidableEq κ] in
/-- A map whose keys ascend is given by its entries. -/
theorem Sorted.ext {m m' : FiniteMap κ α} (hm : m.Sorted) (hm' : m'.Sorted)
    (h : ∀ p, p ∈ m ↔ p ∈ m') : m = m' := by
  have hnodup : ∀ {l : FiniteMap κ α}, l.Sorted → l.Nodup :=
    fun hl => List.Nodup.of_map _ hl.nodup_keys
  refine List.Perm.eq_of_pairwise (fun a b _ _ hab hba => ?_) hm hm'
    ((List.perm_ext_iff_of_nodup (hnodup hm) (hnodup hm')).2 h)
  exact absurd hba (Std.Asymm.asymm (r := fun a b : κ => a < b) _ _ hab)

/-- The list of keys is given by which keys there are. -/
theorem Sorted.keys_eq {β : Type} {m : FiniteMap κ α} {m' : FiniteMap κ β} (hm : m.Sorted)
    (hm' : m'.Sorted) (h : ∀ x, m.contains x = true ↔ m'.contains x = true) : m.keys = m'.keys := by
  have hmem : ∀ {γ : Type} (l : FiniteMap κ γ) (x : κ), x ∈ l.keys ↔ l.contains x = true := by
    intro γ l x
    simp [keys, contains_iff_exists_mem]
  refine List.Perm.eq_of_pairwise (fun a b _ _ hab hba => ?_) (sorted_iff_keys.1 hm)
    (sorted_iff_keys.1 hm')
    ((List.perm_ext_iff_of_nodup hm.nodup_keys hm'.nodup_keys).2 fun x => ?_)
  · exact absurd hba (Std.Asymm.asymm (r := fun a b : κ => a < b) _ _ hab)
  · exact (hmem m x).trans ((h x).trans (hmem m' x).symm)

omit [Std.Asymm (fun a b : κ => a < b)] in
theorem Sorted.erase {m : FiniteMap κ α} (hm : m.Sorted) (x : κ) : (m.erase x).Sorted :=
  List.Pairwise.filter _ hm

end

end Slumber.FiniteMap
