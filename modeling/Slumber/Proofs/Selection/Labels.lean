import Slumber.Proofs.Selection
import Slumber.Proofs.Text.Names
import Slumber.Proofs.Transition.Exclusions

/-!
# Labels of selected objects

The entries for labels are joined to one label selector, whose terms are those of all entries. A
selector that lists no names asks the cluster for the objects that meet them. One that lists names
fetches these objects, and does not read its entries for labels.

* `Selection.MeetsLabels` — labels meet all terms of some entries;
* `labelSelector?_all` — the joined label selector asks for that, and for no more;
* `select_meetsLabels` — when the objects of a selection meet the labels;
* `fetched_without_labels` — an object that is selected by its name and does not.
-/

namespace Slumber

open Cluster Selection Expression Text

/-! ### Joined terms -/

namespace LabelSelector

theorem terms_trim (selector : String) : terms (trim selector) = terms selector := by
  unfold terms
  rw [names_trim]

theorem terms_eq_nil_of_blank {selector : String} (h : trim selector = "") :
    terms selector = [] := by
  unfold terms
  rw [names_eq_nil_of_blank h]
  rfl

/-- The terms of joined selectors are those of each. -/
theorem terms_intercalate (selectors : List String) :
    terms (",".intercalate selectors) = selectors.flatMap terms := by
  unfold terms
  rw [names_intercalate, List.map_flatMap]

end LabelSelector

namespace Selection

/-- The labels meet all terms of all entries. -/
def MeetsLabels (entries : List String) (labels : FiniteMap String String) : Prop :=
  ∀ entry ∈ entries, ∀ t ∈ LabelSelector.terms entry, t.holds labels = true

instance (entries : List String) (labels : FiniteMap String String) :
    Decidable (MeetsLabels entries labels) :=
  inferInstanceAs (Decidable (∀ entry ∈ entries, ∀ t ∈ LabelSelector.terms entry, _))

/-- Blank entries ask for nothing. -/
theorem meetsLabels_filter {entries : List String} {labels : FiniteMap String String} :
    MeetsLabels ((entries.map trim).filter (· ≠ "")) labels ↔ MeetsLabels entries labels := by
  constructor
  · intro h entry hentry t ht
    by_cases hblank : trim entry = ""
    · rw [LabelSelector.terms_eq_nil_of_blank hblank] at ht
      cases ht
    · refine h (trim entry) (List.mem_filter.2 ⟨List.mem_map_of_mem hentry, by simpa⟩) t ?_
      rw [LabelSelector.terms_trim]
      exact ht
  · intro h entry hentry t ht
    obtain ⟨entry, hmem, rfl⟩ := List.mem_map.1 (List.mem_filter.1 hentry).1
    rw [LabelSelector.terms_trim] at ht
    exact h entry hmem t ht

/-- The joined label selector asks for the terms of all entries. -/
theorem labelSelector?_all (entries : List String) (labels : FiniteMap String String) :
    (labelSelector? entries).all (LabelSelector.selects · labels) = true
      ↔ MeetsLabels entries labels := by
  rw [← meetsLabels_filter, labelSelector?]
  cases (entries.map trim).filter (· ≠ "") with
  | nil => simp [MeetsLabels]
  | cons entry entries =>
    simp only [Option.all_some, LabelSelector.selects, LabelSelector.terms_intercalate,
      List.all_eq_true, List.mem_flatMap, MeetsLabels]
    exact ⟨fun h entry hentry t ht => h t ⟨entry, hentry, ht⟩,
      fun h t ⟨entry, hentry, ht⟩ => h entry hentry t ht⟩

variable {c c' : Cluster} {now : Instant} {m : Manifest}

/-- What is listed meets the labels. -/
theorem meetsLabels_of_mem_list {ns : Option String} {type : ResourceType} {entries : List String}
    (h : m ∈ (c.list ns type (labelSelector? entries)).toOption.getD []) :
    MeetsLabels entries m.labels := by
  obtain ⟨-, hmem⟩ := mem_list_iff.1 h
  rw [select_eq, List.mem_map] at hmem
  obtain ⟨⟨k, n⟩, hentry, rfl⟩ := hmem
  have hlisted := (List.mem_filter.1 hentry).2
  simp only [isListed, Bool.and_eq_true] at hlisted
  exact (labelSelector?_all entries n.labels).1 hlisted.2

/-! ### Selectors with names do not read labels -/

theorem objectsIn_labels (s : ObjectSelector) (hnames : names s.name ≠ []) (labels : List String)
    (ns : Option String) (type : ResourceType) :
    objectsIn (σ := Cluster) now ns type { s with labels } = objectsIn now ns type s := by
  unfold objectsIn
  simp only [if_neg hnames]

theorem objectsInAll_labels (s : ObjectSelector) (hnames : names s.name ≠ [])
    (labels : List String) (type : ResourceType) (namespaces : List String) :
    objectsInAll (σ := Cluster) now type { s with labels } namespaces
      = objectsInAll now type s namespaces := by
  induction namespaces with
  | nil => rfl
  | cons ns namespaces ih => simp only [objectsInAll, objectsIn_labels s hnames, ih]

theorem selectTypes_labels (s : Selector) (hnames : names s.objects.name ≠ [])
    (labels types : List String) (known : Option (List String)) (selected : Selected) :
    selectTypes (σ := Cluster) now { s with objects := { s.objects with labels } } types known
        selected
      = selectTypes now s types known selected := by
  induction types generalizing known selected with
  | nil => rfl
  | cons name types ih =>
      simp only [selectTypes, objectsIn_labels s.objects hnames,
        objectsInAll_labels s.objects hnames, ih]

/-! ### Selections -/

/-- **Labels are kept where objects are listed.**  If a selector lists no names, the objects that it
finds meet all terms of its labels. If it lists names, its labels make no difference. -/
theorem select_meetsLabels (c : Cluster) (now : Instant) (s : Selector) :
    (names s.objects.name = [] → ∀ found c', select now s c = .ok (found, c') →
      ∀ p ∈ found, MeetsLabels s.objects.labels p.2.labels)
    ∧ (names s.objects.name ≠ [] → ∀ labels,
      select now { s with objects := { s.objects with labels } } c = select now s c) := by
  constructor
  · intro hnone found c' hrun p hp
    obtain ⟨-, -, hgathers⟩ := (select_settles c now s).of_ok hrun
    obtain ⟨⟨name, -, ⟨type, ns, -, -, hcandidate⟩, -⟩, -⟩ := hgathers.sound p hp
    rw [candidatesIn, if_pos hnone] at hcandidate
    exact meetsLabels_of_mem_list hcandidate
  · intro hnames labels
    exact congrFun (selectTypes_labels s hnames labels (names s.objects.type) none []) c

/-- What a computed selection gives. -/
theorem exists_select_eq {s : Selector} {found : Selected}
    (h : (select now s c).toOption.map (·.1) = some found) :
    ∃ c', select now s c = .ok (found, c') := by
  cases hrun : select now s c with
  | error stop => simp [hrun, Except.toOption] at h
  | ok p =>
      simp only [hrun, Except.toOption, Option.map_some, Option.some.injEq] at h
      exact ⟨p.2, by rw [← h]⟩

/-- By its label the workload is listed. By its name it is fetched, with any labels. -/
theorem select_meetsLabels_sample :
    (∃ found c', select ⟨0, 0⟩ (inProd "deployment" "" ["keep=yes"]) (clusterOf [keptWorkload])
        = .ok (found, c')
      ∧ FiniteMap.contains found keptWorkload.key = true
      ∧ ∀ p ∈ found, MeetsLabels ["keep=yes"] p.2.labels)
    ∧ select ⟨0, 0⟩ (inProd "deployment" "web" ["keep=yes"]) (clusterOf [keptWorkload])
        = select ⟨0, 0⟩ (inProd "deployment" "web") (clusterOf [keptWorkload]) := by
  obtain ⟨c', hfound⟩ := exists_select_eq
    (by decide +kernel : (select ⟨0, 0⟩ (inProd "deployment" "" ["keep=yes"])
      (clusterOf [keptWorkload])).toOption.map (·.1) = some [(keptWorkload.key, keptWorkload)])
  refine ⟨⟨_, c', hfound, by decide +kernel, ?_⟩, ?_⟩
  · exact (select_meetsLabels _ _ (inProd "deployment" "" ["keep=yes"])).1 (by decide +kernel) _ _
      hfound
  · exact (select_meetsLabels _ _ (inProd "deployment" "web")).2 (by decide +kernel) ["keep=yes"]

/-- A workload that is fetched by its name and has another label than is asked for. -/
theorem fetched_without_labels :
    ∃ c', select ⟨0, 0⟩ (inProd "deployment" "web" ["keep=no"]) (clusterOf [keptWorkload])
        = .ok ([(keptWorkload.key, keptWorkload)], c')
      ∧ ¬ MeetsLabels ["keep=no"] keptWorkload.labels := by
  obtain ⟨c', hfound⟩ := exists_select_eq
    (by decide +kernel : (select ⟨0, 0⟩ (inProd "deployment" "web" ["keep=no"])
      (clusterOf [keptWorkload])).toOption.map (·.1) = some [(keptWorkload.key, keptWorkload)])
  exact ⟨c', hfound, by decide +kernel⟩

end Selection

end Slumber
