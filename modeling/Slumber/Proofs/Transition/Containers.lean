import Slumber.Json.Merge
import Slumber.Proofs.Transition.Counts
import Slumber.Transition.Resources

/-!
# What the patch for containers changes

The patch that gives containers their resources is a strategic merge that names one place only, so
that merging it into a manifest with containers is an edit at that place.

* `Json.strategicMerge_field` — merging a patch of one field;
* `Manifest.agreeOff_of_resourcesPatch` — the patch for containers changes nothing but them.
-/

namespace Slumber

namespace Json

/-- A strategic merge that names one field of an object changes that field only. -/
theorem strategicMerge_field {fields : List (String × Json)} {s : String} {x v : Json}
    (hx : FiniteMap.find? fields s = some x) (hv : v ≠ .null) :
    (Json.obj fields).strategicMerge (.obj [(s, v)])
      = .obj (FiniteMap.insert fields s (x.strategicMerge v)) := by
  simp only [strategicMerge]
  cases v with
  | null => exact absurd rfl hv
  | _ => simp only [strategicMergeFields, hx, Option.getD_some]

/-- A strategic merge that names one field of one field is an edit there. -/
theorem strategicMerge_nested {j x : Json} {s t : String} (items : List Json)
    (hs : Pointer.index? s = none) (ht : Pointer.index? t = none) (hx : j.at? [s, t] = some x) :
    modifyAt (fun y => .ok (y.strategicMerge (.arr items))) [s, t] j
      = .ok (j.strategicMerge (.obj [(s, .obj [(t, .arr items)])])) := by
  obtain ⟨fields, rfl⟩ := isObject_of_at? hs hx
  simp only [at?] at hx
  cases hinner : FiniteMap.find? fields s with
  | none => simp [hinner] at hx
  | some inner =>
      simp only [hinner] at hx
      obtain ⟨fields', rfl⟩ := isObject_of_at? ht hx
      rw [at?_obj_singleton] at hx
      rw [strategicMerge_field hinner (by simp), strategicMerge_field hx (by simp)]
      simp only [modifyAt, hinner, hx, Except.map]

end Json

namespace Manifest

open Json

/-- A manifest with containers has an array of them. -/
theorem exists_arr_of_containers {m : Manifest} (h : m.containers ≠ []) :
    ∃ containers, m.document.at? containersPath = some (.arr containers)
      ∧ m.containers = containers := by
  have hdef : m.containers = ((m.document.at? containersPath).bind elements?).getD [] := rfl
  cases hat : m.document.at? containersPath with
  | none => exact absurd (by rw [hdef, hat]; rfl) h
  | some x =>
      cases x with
      | arr containers => exact ⟨containers, rfl, by rw [hdef, hat]; rfl⟩
      | _ => exact absurd (by rw [hdef, hat]; rfl) h

/-- **Frame.**  The patch that is made for the containers of a manifest changes nothing but the
containers of any manifest with the same ones. -/
theorem agreeOff_of_resourcesPatch {m m' : Manifest}
    {targets : FiniteMap String ContainerResources} {patch : Json}
    (h : resourcesPatch? m targets = some patch) (hm' : m'.containers = m.containers) :
    AgreeOff [containersPath] m'.document (m'.document.strategicMerge patch) := by
  unfold resourcesPatch? at h
  cases hchanged : m.containers.filterMap (containerChange? targets) with
  | nil => simp [hchanged] at h
  | cons change rest =>
      simp only [hchanged, Option.some.injEq] at h
      have hsome : m'.containers ≠ [] := by
        rw [hm']
        intro hnil
        rw [hnil] at hchanged
        cases hchanged
      obtain ⟨_, hx, -⟩ := exists_arr_of_containers hsome
      have hedit := strategicMerge_nested (change :: rest) (by decide) (by decide) hx
      rw [← h]
      exact modifyAt_agreeOff (by decide : Pointer.IsNamed ["spec", "containers"]) hedit

/-- In particular nothing but what transitions change. -/
theorem sameOffScaling_of_resourcesPatch {m m' : Manifest}
    {targets : FiniteMap String ContainerResources} {patch : Json}
    (h : resourcesPatch? m targets = some patch) (hm' : m'.containers = m.containers) :
    SameOffScaling m' ⟨m'.document.strategicMerge patch⟩ :=
  (agreeOff_of_resourcesPatch h hm').mono fun q hq =>
    ⟨q, by rw [List.mem_singleton.1 hq]; decide, List.prefix_rfl⟩

end Manifest

end Slumber
