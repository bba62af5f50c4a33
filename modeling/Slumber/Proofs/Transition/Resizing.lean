import Slumber.Proofs.Json.StrategicMerge
import Slumber.Proofs.Transition.Containers

/-!
# Giving containers their resources

A container that lacks a wanted quantity is given all that are wanted, under its name, and nothing
else is said of it; one that has them, or that has no target, is not mentioned. So merging the patch
into the manifest that it was made for sets the wanted quantities and keeps all others, and then
nothing is left to do, unless a wanted quantity is not even accepted in its own place.

* `ContainerResources.MetBy` — a container has what is wanted for it;
* `resourcesPatch?_eq_none_iff` — there is a patch exactly if some container lacks something;
* `Resized`, `Settles` — what becomes of one container;
* `settles_of_resourcesPatch` — what becomes of all of them when the patch is merged;
* `Settles.metBy` — afterwards a container has what is wanted;
* `resizing_converges` — all of this for a manifest.
-/

namespace Slumber

open Json Manifest
open Slumber.Expression (Quantity.same)

/-! ### What is wanted -/

namespace ContainerResources

/-- What is wanted in a part of the resources. -/
def inPart (w : ContainerResources) (part : String) : FiniteMap String String :=
  if part = "requests" then w.requests else if part = "limits" then w.limits else []

/-- A container has a quantity for each that is wanted, and it is accepted for it. -/
def MetBy (w : ContainerResources) (container : Json) : Prop :=
  ∀ part, ∀ p ∈ w.inPart part,
    ∃ current, quantityOf? container part p.1 = some current ∧ Quantity.same current p.2 = true

/-- Each resource is wanted once in each part. -/
def IsMap (w : ContainerResources) : Prop :=
  w.requests.keys.Nodup ∧ w.limits.keys.Nodup

instance (w : ContainerResources) : Decidable w.IsMap :=
  inferInstanceAs (Decidable (_ ∧ _))

/-- Each wanted quantity is accepted in its own place. -/
def AcceptsItself (w : ContainerResources) : Prop :=
  ∀ p ∈ w.requests ++ w.limits, Quantity.same p.2 p.2 = true

instance (w : ContainerResources) : Decidable w.AcceptsItself :=
  inferInstanceAs (Decidable (∀ p ∈ w.requests ++ w.limits, _))

variable {w : ContainerResources}

theorem mem_inPart {part : String} {p : String × String} (h : p ∈ w.inPart part) :
    p ∈ w.requests ++ w.limits := by
  unfold inPart at h
  split at h
  · exact List.mem_append_left _ h
  · split at h
    · exact List.mem_append_right _ h
    · cases h

theorem IsMap.nodup_inPart (h : w.IsMap) (part : String) : (w.inPart part).keys.Nodup := by
  unfold inPart
  split
  · exact h.1
  · split
    · exact h.2
    · exact List.nodup_nil

end ContainerResources

open ContainerResources (IsMap MetBy AcceptsItself)

variable {m : Manifest} {targets : FiniteMap String ContainerResources} {w : ContainerResources}
  {container before after patch : Json}

theorem partDiffers_eq_false_iff {part : String} {wanted : FiniteMap String String} :
    partDiffers container part wanted = false ↔ ∀ p ∈ wanted,
      ∃ current, quantityOf? container part p.1 = some current
        ∧ Quantity.same current p.2 = true := by
  unfold partDiffers
  rw [List.any_eq_false]
  refine forall₂_congr fun p _ => ?_
  cases h : quantityOf? container part p.1 with
  | none => simp [h]
  | some current => simp [h]

/-- What is compared is whether the container has what is wanted. -/
theorem resourcesDiffer_eq_false_iff : resourcesDiffer container w = false ↔ w.MetBy container := by
  unfold resourcesDiffer
  rw [Bool.or_eq_false_iff, partDiffers_eq_false_iff, partDiffers_eq_false_iff]
  constructor
  · rintro ⟨hrequests, hlimits⟩ part p hp
    unfold ContainerResources.inPart at hp
    split at hp
    · rename_i hpart
      exact hpart ▸ hrequests p hp
    · split at hp
      · rename_i hpart
        exact hpart ▸ hlimits p hp
      · cases hp
  · exact fun h => ⟨h "requests", h "limits"⟩

/-- The target of a container, by its name. -/
def targetOf? (targets : FiniteMap String ContainerResources) (container : Json) :
    Option ContainerResources :=
  (nameOf? container).bind targets.find?

/-! ### Which containers are mentioned -/

/-- The change that gives the container of a name what is wanted. -/
def changeTo (name : String) (w : ContainerResources) : Json :=
  .object [("name", .str name), ("resources", w.toJson)]

theorem containerChange?_eq (targets : FiniteMap String ContainerResources) (container : Json) :
    containerChange? targets container
      = (nameOf? container).bind fun name => (targets.find? name).bind fun w =>
          if resourcesDiffer container w then some (changeTo name w) else none := rfl

theorem containerChange?_eq_none_iff :
    containerChange? targets container = none
      ↔ ∀ w, targetOf? targets container = some w → w.MetBy container := by
  rw [containerChange?_eq, targetOf?]
  cases nameOf? container with
  | none => simp
  | some name =>
      cases h : targets.find? name with
      | none => simp [h]
      | some w => simp [h, ← resourcesDiffer_eq_false_iff]

/-- The change of a container that lacks something of its target. -/
theorem containerChange?_eq_some (h : containerChange? targets before = some container) :
    ∃ name w, nameOf? before = some name ∧ targetOf? targets before = some w
      ∧ container = changeTo name w := by
  rw [containerChange?_eq] at h
  obtain ⟨name, hname, h⟩ := Option.bind_eq_some_iff.1 h
  obtain ⟨w, hw, h⟩ := Option.bind_eq_some_iff.1 h
  split at h
  · cases h
    exact ⟨name, w, hname, by rw [targetOf?, hname]; exact hw, rfl⟩
  · cases h

theorem resourcesPatch?_eq_none_iff_filterMap :
    resourcesPatch? m targets = none
      ↔ m.containers.filterMap (containerChange? targets) = [] := by
  unfold resourcesPatch?
  split
  · rename_i hnil
    simp [hnil]
  · rename_i hne
    simpa using hne

/-- **When there is a patch.**  No patch is made exactly if every container with a target has what
is wanted for it. -/
theorem resourcesPatch?_eq_none_iff :
    resourcesPatch? m targets = none
      ↔ ∀ c ∈ m.containers, ∀ w, targetOf? targets c = some w → w.MetBy c := by
  rw [resourcesPatch?_eq_none_iff_filterMap, List.filterMap_eq_nil_iff]
  exact forall₂_congr fun _ _ => containerChange?_eq_none_iff

/-! ### One container -/

/-- What stands under a resource in a part of the resources of a container. -/
def entryOf? (container : Json) (part resource : String) : Option Json :=
  ((container.field? "resources").bind (·.field? part)).bind (·.field? resource)

theorem quantityOf?_eq (container : Json) (part resource : String) :
    quantityOf? container part resource = (entryOf? container part resource).bind text? := rfl

/-- What a container is after it was given the resources it lacked: it has the wanted ones as they
are written in its target, and everything else is as before. -/
structure Resized (w : ContainerResources) (before after : Json) : Prop where
  fields : ∀ k, k ≠ "resources" → after.field? k = before.field? k
  parts : ∀ part, w.inPart part = [] →
    (after.field? "resources").bind (·.field? part)
      = (before.field? "resources").bind (·.field? part)
  wanted : ∀ part resource quantity, (resource, quantity) ∈ w.inPart part →
    entryOf? after part resource = some (.str quantity)
  others : ∀ part resource, resource ∉ (w.inPart part).keys →
    entryOf? after part resource = entryOf? before part resource

/-- What becomes of a container: it is given what is wanted if it lacks some of it, and is left as
it is if it lacks nothing or has no target. -/
structure Settles (targets : FiniteMap String ContainerResources) (before after : Json) :
    Prop where
  resized : ∀ w, targetOf? targets before = some w → ¬ w.MetBy before → Resized w before after
  kept : (∀ w, targetOf? targets before = some w → w.MetBy before) → after = before

theorem getD_null_field? (o : Option Json) (k : String) :
    (o.getD .null).field? k = o.bind (·.field? k) := by
  cases o <;> rfl

theorem isPlain_quantities {wanted : FiniteMap String String} (h : wanted.keys.Nodup) :
    IsPlain (wanted.map fun p => (p.1, Json.str p.2)) := by
  refine ⟨?_, fun p hp => ?_⟩
  · rw [List.map_map]
    exact h
  · obtain ⟨q, -, rfl⟩ := List.mem_map.1 hp
    exact fun hnull => nomatch hnull

theorem find?_map_str (wanted : FiniteMap String String) (resource : String) :
    FiniteMap.find? (wanted.map fun p => (p.1, Json.str p.2)) resource
      = (wanted.find? resource).map Json.str := by
  induction wanted with
  | nil => rfl
  | cons p wanted ih =>
      obtain ⟨k, v⟩ := p
      by_cases hk : k = resource <;> simp [hk, ih]

/-- Wanted quantities, merged into what there is of a part. -/
theorem field?_merge_quantities {wanted : FiniteMap String String} (h : wanted.keys.Nodup)
    (j : Json) (resource : String) :
    (j.strategicMerge (ContainerResources.quantitiesJson wanted)).field? resource
      = ((wanted.find? resource).map Json.str).or (j.field? resource) := by
  unfold ContainerResources.quantitiesJson
  rw [field?_strategicMerge (isPlain_quantities h), find?_map_str, Option.map_map]
  simp only [Function.comp_def, strategicMerge_str]

theorem eq_of_mem_fieldUnless {empty : Bool} {name : String} {j : Json} {p : String × Json}
    (h : p ∈ fieldUnless empty name j) : p = (name, j) := by
  unfold fieldUnless at h
  split at h
  · cases h
  · exact List.mem_singleton.1 h

/-- Wanted resources, merged into what there is of resources. -/
theorem field?_merge_resources (w : ContainerResources) (j : Json) (part : String) :
    (j.strategicMerge w.toJson).field? part
      = if (w.inPart part).isEmpty then j.field? part
        else some (((j.field? part).getD .null).strategicMerge
          (ContainerResources.quantitiesJson (w.inPart part))) := by
  have hplain : ∀ p ∈ fieldUnless w.requests.isEmpty "requests"
        (ContainerResources.quantitiesJson w.requests)
      ++ fieldUnless w.limits.isEmpty "limits" (ContainerResources.quantitiesJson w.limits),
      p.2 ≠ .null := by
    intro p hp
    rcases List.mem_append.1 hp with hp | hp
    · rw [eq_of_mem_fieldUnless hp]
      simp [ContainerResources.quantitiesJson]
    · rw [eq_of_mem_fieldUnless hp]
      simp [ContainerResources.quantitiesJson]
  unfold ContainerResources.toJson Json.object
  rw [field?_strategicMerge (isPlain_ofList hplain), FiniteMap.find?_ofList]
  unfold ContainerResources.inPart
  by_cases hrequests : part = "requests"
  · subst hrequests
    cases h : w.requests.isEmpty <;> simp [h]
  by_cases hlimits : part = "limits"
  · subst hlimits
    cases h : w.limits.isEmpty <;> simp [h]
  · simp [hrequests, hlimits, Ne.symm hrequests, Ne.symm hlimits]

theorem field?_name_changeTo (name : String) (w : ContainerResources) :
    (changeTo name w).field? "name" = some (.str name) := by
  simp [changeTo, Json.object, field?]

section

variable {name : String}

/-- The change of a container, merged into it. -/
theorem field?_merge_change (hname : nameOf? before = some name) (w : ContainerResources)
    (k : String) :
    (before.strategicMerge (changeTo name w)).field? k
      = if k = "resources" then
          some (((before.field? "resources").getD .null).strategicMerge w.toJson)
        else before.field? k := by
  have hplain : ∀ p ∈ [("name", Json.str name), ("resources", w.toJson)], p.2 ≠ .null := by
    simp [ContainerResources.toJson, Json.object]
  unfold changeTo Json.object
  rw [field?_strategicMerge (isPlain_ofList hplain), FiniteMap.find?_ofList]
  by_cases hk : k = "resources"
  · subst hk
    simp
  by_cases hk' : k = "name"
  · -- The name is written over by itself.
    subst hk'
    obtain ⟨x, hx, htext⟩ := Option.bind_eq_some_iff.1 hname
    cases x <;> simp_all [text?]
  · simp [hk, Ne.symm hk, Ne.symm hk']

theorem nameOf?_merge_change (hname : nameOf? before = some name) (w : ContainerResources) :
    nameOf? (before.strategicMerge (changeTo name w)) = some name := by
  rwa [nameOf?, field?_merge_change hname, if_neg (by decide)]

/-- A part of which nothing is wanted stays as it is. -/
theorem part_merge_change (hname : nameOf? before = some name) {part : String}
    (hpart : w.inPart part = []) :
    ((before.strategicMerge (changeTo name w)).field? "resources").bind (·.field? part)
      = (before.field? "resources").bind (·.field? part) := by
  rw [field?_merge_change hname, if_pos rfl, Option.bind_some, field?_merge_resources, hpart,
    List.isEmpty_nil, if_pos rfl, getD_null_field?]

/-- What is wanted takes the place of what was there, and the rest of a part stays as it is. -/
theorem entryOf?_merge_change (hname : nameOf? before = some name) (hw : w.IsMap)
    (part resource : String) :
    entryOf? (before.strategicMerge (changeTo name w)) part resource
      = (((w.inPart part).find? resource).map Json.str).or (entryOf? before part resource) := by
  unfold entryOf?
  by_cases hempty : w.inPart part = []
  · rw [part_merge_change hname hempty, hempty]
    rfl
  · rw [field?_merge_change hname, if_pos rfl, Option.bind_some, field?_merge_resources,
      if_neg (by simpa using hempty), Option.bind_some,
      field?_merge_quantities (hw.nodup_inPart part), getD_null_field?, getD_null_field?]

/-- A container that is given the resources of its target has them, and keeps all else. -/
theorem resized_merge (hname : nameOf? before = some name) (hw : w.IsMap) :
    Resized w before (before.strategicMerge (changeTo name w)) where
  fields k hk := by rw [field?_merge_change hname, if_neg hk]
  parts _ hpart := part_merge_change hname hpart
  wanted part resource quantity hmem := by
    rw [entryOf?_merge_change hname hw,
      (FiniteMap.mem_iff_find?_of_nodup (hw.nodup_inPart part)).1 hmem]
    rfl
  others part resource hnot := by
    rw [entryOf?_merge_change hname hw, FiniteMap.find?_eq_none hnot]
    rfl

end

/-- What becomes of one container when its change, if it has one, is merged into it. -/
theorem settles_merge (htargets : ∀ name w, targets.find? name = some w → w.IsMap) (c : Json) :
    Settles targets c ((containerChange? targets c).elim c c.strategicMerge) := by
  cases hchange : containerChange? targets c with
  | none =>
      have hmet := containerChange?_eq_none_iff.1 hchange
      exact ⟨fun w hw hlacks => absurd (hmet w hw) hlacks, fun _ => rfl⟩
  | some change =>
      obtain ⟨name, w, hname, hw, rfl⟩ := containerChange?_eq_some hchange
      have hfound : targets.find? name = some w := by
        rwa [targetOf?, hname] at hw
      refine ⟨fun w' hw' _ => ?_, fun hmet => ?_⟩
      · cases hw.symm.trans hw'
        exact resized_merge hname (htargets name w hfound)
      · rw [containerChange?_eq_none_iff.2 hmet] at hchange
        cases hchange

theorem Settles.field?_name (h : Settles targets before after) :
    after.field? "name" = before.field? "name" := by
  by_cases hmet : ∀ w, targetOf? targets before = some w → w.MetBy before
  · rw [h.kept hmet]
  · push Not at hmet
    obtain ⟨w, hw, hlacks⟩ := hmet
    exact (h.resized w hw hlacks).fields "name" (by decide)

theorem Settles.targetOf?_eq (h : Settles targets before after) :
    targetOf? targets after = targetOf? targets before := by
  unfold targetOf? nameOf?
  rw [h.field?_name]

/-- Afterwards a container has what is wanted, if that is accepted in its own place. -/
theorem Settles.metBy (h : Settles targets before after) (hw : targetOf? targets after = some w)
    (haccepts : w.AcceptsItself) : w.MetBy after := by
  rw [h.targetOf?_eq] at hw
  by_cases hmet : w.MetBy before
  · have hkept : after = before := h.kept fun w' hw' => by
      cases hw.symm.trans hw'
      exact hmet
    rwa [hkept]
  · intro part p hp
    have hentry := (h.resized w hw hmet).wanted part p.1 p.2 hp
    exact ⟨p.2, by rw [quantityOf?_eq, hentry]; rfl,
      haccepts p (ContainerResources.mem_inPart hp)⟩

/-! ### All containers -/

/-- The changes of containers are items with a name. -/
theorem all_hasName_changes (containers : List Json) :
    (containers.filterMap (containerChange? targets)).all hasName = true := by
  refine List.all_eq_true.2 fun item hitem => ?_
  obtain ⟨c, -, hc⟩ := List.mem_filterMap.1 hitem
  obtain ⟨name, w, -, -, rfl⟩ := containerChange?_eq_some hc
  rw [hasName, field?_name_changeTo]
  rfl

/-- **The containers after the merge.**  Every container is in its place, with its own change, if it
has one, laid over it. -/
theorem containers_of_resourcesPatch (hnames : (m.containers.filterMap nameOf?).Nodup)
    (h : resourcesPatch? m targets = some patch) :
    Manifest.containers ⟨m.document.strategicMerge patch⟩
      = m.containers.map fun c => (containerChange? targets c).elim c c.strategicMerge := by
  unfold resourcesPatch? at h
  cases hchanges : m.containers.filterMap (containerChange? targets) with
  | nil => simp [hchanges] at h
  | cons change changes =>
      simp only [hchanges, Option.some.injEq] at h
      have hsome : m.containers ≠ [] := fun hnil => by
        rw [hnil] at hchanges
        cases hchanges
      obtain ⟨old, hold, hcontainers⟩ := exists_arr_of_containers hsome
      obtain ⟨x, y, hx, hy, hat⟩ := modifyAt_ok
        (strategicMerge_nested (change :: changes) (by decide) (by decide) hold)
      cases hold.symm.trans hx
      cases hy
      have hall : (change :: changes).all hasName = true := hchanges ▸ all_hasName_changes _
      simp only [strategicMerge, hall, if_pos] at hat
      have hmerged : Manifest.containers ⟨m.document.strategicMerge patch⟩
          = strategicMergeItems m.containers (change :: changes) := by
        rw [← h, hcontainers]
        exact congrArg (fun o : Option Json => (o.bind elements?).getD []) hat
      rw [hmerged, ← hchanges, strategicMergeItems_filterMap (fun c item hitem => ?_) hnames]
      obtain ⟨name, w, hname, -, rfl⟩ := containerChange?_eq_some hitem
      exact ⟨name, hname, field?_name_changeTo name w, nameOf?_merge_change hname w⟩

theorem settles_of_resourcesPatch (hnames : (m.containers.filterMap nameOf?).Nodup)
    (htargets : ∀ name w, targets.find? name = some w → w.IsMap)
    (h : resourcesPatch? m targets = some patch) :
    List.Forall₂ (Settles targets) m.containers
      (Manifest.containers ⟨m.document.strategicMerge patch⟩) := by
  rw [containers_of_resourcesPatch hnames h, List.forall₂_map_right_iff]
  exact List.forall₂_same.2 fun c _ => settles_merge htargets c

/-! ### A manifest -/

/-- **Resizing converges.**  For every manifest whose containers have different names and for every
map of targets: no patch is made exactly if every container that has a target has what is wanted for
it. If there is a patch, merging it changes nothing but the containers; these keep their number and
their order, every one that lacked something is given what is wanted and keeps all else, and every
other is as it was. If the wanted quantities are accepted in their own places, then no patch is made
for the manifest that is left. -/
theorem resizing_converges (m : Manifest) (targets : FiniteMap String ContainerResources)
    (hnames : (m.containers.filterMap nameOf?).Nodup)
    (htargets : ∀ name w, targets.find? name = some w → w.IsMap) :
    (resourcesPatch? m targets = none
        ↔ ∀ c ∈ m.containers, ∀ w, targetOf? targets c = some w → w.MetBy c)
    ∧ ∀ patch, resourcesPatch? m targets = some patch →
      AgreeOff [containersPath] m.document (m.document.strategicMerge patch)
      ∧ List.Forall₂ (Settles targets) m.containers
          (Manifest.containers ⟨m.document.strategicMerge patch⟩)
      ∧ ((∀ c ∈ m.containers, ∀ w, targetOf? targets c = some w → w.AcceptsItself) →
          resourcesPatch? ⟨m.document.strategicMerge patch⟩ targets = none) := by
  refine ⟨resourcesPatch?_eq_none_iff, fun patch hpatch => ?_⟩
  have hsettles := settles_of_resourcesPatch hnames htargets hpatch
  refine ⟨agreeOff_of_resourcesPatch hpatch rfl, hsettles, fun haccepts => ?_⟩
  refine resourcesPatch?_eq_none_iff.2 fun after hafter w hw => ?_
  rw [containers_of_resourcesPatch hnames hpatch] at hafter
  obtain ⟨before, hbefore, rfl⟩ := List.mem_map.1 hafter
  have hsettled := settles_merge htargets before
  exact hsettled.metBy hw (haccepts before hbefore w (hsettled.targetOf?_eq ▸ hw))

/-- A pod with three containers: one has a limit on memory, one asks for all of the processor, and
one says nothing. -/
def crowdedPod : Manifest :=
  ⟨.obj [("apiVersion", .str "v1"), ("kind", .str "Pod"),
    ("metadata", .obj [("name", .str "web-0"), ("namespace", .str "prod")]),
    ("spec", .obj [("containers", .arr [
        .obj [("name", .str "web"),
          ("resources", .obj [("limits", .obj [("memory", .str "64Mi")])])],
        .obj [("name", .str "log"),
          ("resources", .obj [("requests", .obj [("cpu", .str "unlimited")])])],
        .obj [("name", .str "side")]]),
      ("nodeName", .str "node-1")])]⟩

/-- Targets for two of the containers, of which one is met. They are words instead of numbers, which
are compared as they are written. -/
def crowdedTargets : FiniteMap String ContainerResources :=
  [("log", { requests := [("cpu", "unlimited")] }), ("web", { limits := [("cpu", "unlimited")] })]

/-- The container that lacks a limit is given it and keeps the other, and then there is nothing left
to do. -/
theorem resizing_converges_crowdedPod :
    (crowdedPod.containers.filterMap nameOf?).Nodup
    ∧ ∃ patch, resourcesPatch? crowdedPod crowdedTargets = some patch
      ∧ (crowdedPod.document.strategicMerge patch).at? containersPath = some (.arr [
        .obj [("name", .str "web"), ("resources", .obj [("limits",
          .obj [("cpu", .str "unlimited"), ("memory", .str "64Mi")])])],
        .obj [("name", .str "log"),
          ("resources", .obj [("requests", .obj [("cpu", .str "unlimited")])])],
        .obj [("name", .str "side")]])
      ∧ resourcesPatch? ⟨crowdedPod.document.strategicMerge patch⟩ crowdedTargets = none := by
  have hnames : (crowdedPod.containers.filterMap nameOf?).Nodup := by decide +kernel
  have htargets : ∀ name w, crowdedTargets.find? name = some w → w.IsMap := fun name w hw =>
    (by decide : ∀ p ∈ crowdedTargets, p.2.IsMap) _ (FiniteMap.mem_of_find? hw)
  have haccepts : ∀ c ∈ crowdedPod.containers, ∀ w, targetOf? crowdedTargets c = some w →
      w.AcceptsItself := by
    intro c _ w hw
    obtain ⟨name, -, hfound⟩ := Option.bind_eq_some_iff.1 hw
    exact (by decide +kernel : ∀ p ∈ crowdedTargets, p.2.AcceptsItself) _
      (FiniteMap.mem_of_find? hfound)
  have hpatch : resourcesPatch? crowdedPod crowdedTargets = some (.obj [("spec",
      .obj [("containers", .arr [.obj [("name", .str "web"),
        ("resources", .obj [("limits", .obj [("cpu", .str "unlimited")])])]])])]) := by
    decide +kernel
  exact ⟨hnames, _, hpatch, by decide +kernel,
    ((resizing_converges crowdedPod crowdedTargets hnames htargets).2 _ hpatch).2.2 haccepts⟩

end Slumber
