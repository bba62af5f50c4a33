import Slumber.Json.Merge
import Slumber.Proofs.Json.Records
import Slumber.Proofs.SortedMap

/-!
# What a strategic merge leaves

A strategic merge works through the fields of its patch one after the other. If they have different
keys and none of them is `null`, the order does not matter: under each of the keys stands what was
there with the patch's value laid over it, and the other fields are as before. Into a list of items
that have different names the patch's items are merged by name. If they were made from some of the
items of that very list, each changes the one that it was made from, in its place.

* `Json.IsPlain` — the patches whose fields can be merged in any order;
* `Json.field?_strategicMerge` — the fields after a merge;
* `Json.strategicMergeItems_filterMap` — the items after a merge of changes made from them.
-/

namespace Slumber.Json

/-! ### Fields -/

/-- The fields have different keys, and none of them is `null`. -/
structure IsPlain (patch : List (String × Json)) : Prop where
  nodup : (patch.map (·.1)).Nodup
  ne_null : ∀ p ∈ patch, p.2 ≠ .null

/-- The object of a list of fields is plain unless one of them is `null`. -/
theorem isPlain_ofList {fields : List (String × Json)} (h : ∀ p ∈ fields, p.2 ≠ .null) :
    IsPlain (FiniteMap.ofList fields) := by
  -- The invariant of the insertions: the keys ascend and no value is `null`.
  have hfold : ∀ m : FiniteMap String Json, m.Sorted → (∀ p ∈ m, p.2 ≠ .null) →
      FiniteMap.Sorted (fields.foldl (fun m p => m.insert p.1 p.2) m) ∧
        ∀ p ∈ fields.foldl (fun m p => m.insert p.1 p.2) m, p.2 ≠ .null := by
    induction fields with
    | nil => exact fun m hm hne => ⟨hm, hne⟩
    | cons p fields ih =>
        obtain ⟨hp, hfields⟩ := List.forall_mem_cons.1 h
        intro m hm hne
        refine ih hfields _ (hm.insert p.1 p.2) fun q hq => ?_
        rcases FiniteMap.mem_of_mem_insert hq with heq | hq
        · exact (Prod.mk.inj heq).2 ▸ hp
        · exact hne q hq
  obtain ⟨hsorted, hne⟩ := hfold [] List.Pairwise.nil (by simp)
  exact ⟨hsorted.nodup_keys, hne⟩

/-- What is merged into nothing stands there as it is. -/
@[simp] theorem strategicMerge_null (v : Json) : Json.null.strategicMerge v = v := by
  cases v <;> simp only [strategicMerge]

@[simp] theorem strategicMerge_str (j : Json) (s : String) :
    j.strategicMerge (.str s) = .str s := by
  cases j <;> simp only [strategicMerge]

theorem strategicMergeFields_cons {k : String} {v : Json} (hv : v ≠ .null)
    (target patch : List (String × Json)) :
    strategicMergeFields target ((k, v) :: patch)
      = strategicMergeFields (FiniteMap.insert target k
          (((FiniteMap.find? target k).getD .null).strategicMerge v)) patch := by
  cases v with
  | null => exact absurd rfl hv
  | _ => simp only [strategicMergeFields]

/-- The fields after a merge: under a key of the patch what was there with the patch's value laid
over it, and any other as before. -/
theorem find?_strategicMergeFields {patch : List (String × Json)} (hpatch : IsPlain patch)
    (target : List (String × Json)) (k : String) :
    FiniteMap.find? (strategicMergeFields target patch) k
      = ((FiniteMap.find? patch k).map fun v =>
          ((FiniteMap.find? target k).getD .null).strategicMerge v).or
        (FiniteMap.find? target k) := by
  obtain ⟨hnodup, hnull⟩ := hpatch
  induction patch generalizing target with
  | nil => simp [strategicMergeFields]
  | cons p patch ih =>
      obtain ⟨l, v⟩ := p
      obtain ⟨hfresh, hnodup⟩ := List.nodup_cons.1 hnodup
      obtain ⟨hv, hnull⟩ := List.forall_mem_cons.1 hnull
      rw [strategicMergeFields_cons hv, ih _ hnodup hnull, FiniteMap.find?_cons]
      by_cases hl : l = k
      · subst hl
        -- The key does not come again, so the rest of the patch leaves it alone.
        have hrest : FiniteMap.find? patch l = none := FiniteMap.find?_eq_none hfresh
        simp [hrest]
      · simp [FiniteMap.find?_insert_of_ne _ _ hl, hl]

/-- The fields of any document after a plain patch was merged into it. -/
theorem field?_strategicMerge {patch : List (String × Json)} (hpatch : IsPlain patch) (j : Json)
    (k : String) :
    (j.strategicMerge (.obj patch)).field? k
      = ((FiniteMap.find? patch k).map fun v => ((j.field? k).getD .null).strategicMerge v).or
        (j.field? k) := by
  cases j with
  | obj fields =>
      simp only [strategicMerge, field?]
      exact find?_strategicMergeFields hpatch fields k
  | _ =>
      simp only [strategicMerge, field?, Option.getD_none, strategicMerge_null, Option.map_id',
        Option.or_none]

/-! ### Items with names -/

/-- The name of an item, if it is a text. -/
def nameOf? (j : Json) : Option String :=
  (j.field? "name").bind text?

/-- Whether an item's name is a given text. -/
theorem sameName_eq_true_iff {a b : Json} {n : String} (hb : b.field? "name" = some (.str n)) :
    sameName a b = true ↔ nameOf? a = some n := by
  unfold sameName nameOf?
  rw [hb]
  cases a.field? "name" with
  | none => simp
  | some x => cases x <;> simp [sameValue, text?]

theorem changeFirst_append {test : Json → Bool} (f : Json → Json) (new : Json) {before : List Json}
    (hbefore : ∀ y ∈ before, test y = false) {x : Json} (hx : test x = true) (after : List Json) :
    changeFirst test f new (before ++ x :: after) = before ++ f x :: after := by
  induction before with
  | nil => simp [changeFirst, hx]
  | cons y before ih =>
      obtain ⟨hy, hbefore⟩ := List.forall_mem_cons.1 hbefore
      simp [changeFirst, hy, ih hbefore]

/-- **Changes find their items.**  Changes that were made from some of the items of a list, whose
names differ, change just these items when they are merged back, each in its place. -/
theorem strategicMergeItems_filterMap {change : Json → Option Json}
    (hchange : ∀ x item, change x = some item → ∃ n, nameOf? x = some n ∧
      item.field? "name" = some (.str n) ∧ nameOf? (x.strategicMerge item) = some n)
    {items : List Json} (hnames : (items.filterMap nameOf?).Nodup) :
    strategicMergeItems items (items.filterMap change)
      = items.map fun x => (change x).elim x x.strategicMerge := by
  -- The items that are handled already stand in front; they have their names still.
  suffices h : ∀ done rest : List Json, ((done ++ rest).filterMap nameOf?).Nodup →
      strategicMergeItems (done ++ rest) (rest.filterMap change)
        = done ++ rest.map fun x => (change x).elim x x.strategicMerge from h [] items hnames
  clear hnames
  intro done rest hnames
  induction rest generalizing done with
  | nil => simp [strategicMergeItems]
  | cons x rest ih =>
      cases hx : change x with
      | none =>
          have hstep := ih (done ++ [x]) (by simpa using hnames)
          simpa [List.filterMap_cons_none hx, hx] using hstep
      | some item =>
          obtain ⟨n, hn, hitem, hmerged⟩ := hchange x item hx
          have hbefore : ∀ y ∈ done, sameName y item = false := by
            intro y hy
            refine Bool.eq_false_iff.2 fun hsame => ?_
            rw [sameName_eq_true_iff hitem] at hsame
            rw [List.filterMap_append, List.filterMap_cons_some hn] at hnames
            have hdisjoint := (List.nodup_append.1 hnames).2.2
            exact hdisjoint n (List.mem_filterMap.2 ⟨y, hy, hsame⟩) n List.mem_cons_self rfl
          have hstep := ih (done ++ [x.strategicMerge item])
            (by simpa [List.filterMap_append, List.filterMap_cons_some hn,
              List.filterMap_cons_some hmerged] using hnames)
          rw [List.filterMap_cons_some hx, strategicMergeItems,
            changeFirst_append _ _ hbefore ((sameName_eq_true_iff hitem).2 hn)]
          simpa [hx] using hstep

end Slumber.Json
