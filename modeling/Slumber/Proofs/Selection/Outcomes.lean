import Slumber.Proofs.Cluster.Activities
import Slumber.Proofs.Cluster.Keyed

/-!
# How a selection ends

A selection reads the cluster and leaves it as it is. It goes through types, namespaces and names,
and every object on its way is tested by the expressions of the selector. It ends by an overflow if
the test of some object does, and otherwise with the objects that pass. This holds of every cluster,
whatever its objects are held under.

* `Run.Settles` — an activity that only reads: when an overflow ends it, and what its result is
  like;
* `Cluster.candidatesIn`, `Cluster.Considers` — the objects that a selector tests;
* `Selection.Gathers` — a selection holds the objects that have a property, under their keys;
* `select_settles` — a selection gathers the objects that it considers and that pass.
-/

namespace Slumber

open Cluster Selection Expression Text

/-! ### Activities that only read -/

/-- The activity leaves the state as it is. If `stops` holds an overflow ends it, and otherwise it
has a result with the property. -/
structure Run.Settles {σ α : Type} (x : Run σ α) (s : σ) (stops : Prop) (P : α → Prop) : Prop where
  error : stops → x s = .error .tooLarge
  ok : ¬ stops → ∃ a, x s = .ok (a, s) ∧ P a

namespace Run.Settles

variable {σ α β : Type} {s : σ} {stops stops' : Prop} {P : α → Prop} {Q : β → Prop}

theorem of_pure {a : α} (h : P a) : Run.Settles (pure a : Run σ α) s False P :=
  ⟨False.elim, fun _ => ⟨a, rfl, h⟩⟩

/-- A part that nothing stops, with its result. -/
theorem bind_lift {x : StateM σ α} {f : α → Run σ β} {a : α} (hx : x s = (a, s))
    (hf : Run.Settles (f a) s stops Q) : Run.Settles (Run.lift x >>= f) s stops Q := by
  have hrun : (Run.lift x >>= f) s = f a s := by rw [Run.bind_lift, hx]
  exact ⟨fun h => hrun ▸ hf.error h, fun h => hrun ▸ hf.ok h⟩

theorem bind {x : Run σ α} {f : α → Run σ β} (hx : Run.Settles x s stops P)
    (hf : ∀ a, P a → Run.Settles (f a) s stops' Q) :
    Run.Settles (x >>= f) s (stops ∨ stops') Q := by
  by_cases hstops : stops
  · have hrun : (x >>= f) s = .error .tooLarge := by
      show (x s).bind (fun p => f p.1 p.2) = _
      rw [hx.error hstops]
      rfl
    exact ⟨fun _ => hrun, fun hnot => absurd (.inl hstops) hnot⟩
  · obtain ⟨a, ha, hp⟩ := hx.ok hstops
    refine ⟨fun h => ?_, fun h => ?_⟩
    · rw [Run.bind_of_ok ha]
      exact (hf a hp).error (h.resolve_left hstops)
    · rw [Run.bind_of_ok ha]
      exact (hf a hp).ok fun h' => h (.inr h')

theorem mono {P' : α → Prop} {x : Run σ α} (hx : Run.Settles x s stops P)
    (h : ∀ a, P a → P' a) : Run.Settles x s stops P' :=
  ⟨hx.error, fun hnot => (hx.ok hnot).imp fun a ha => ⟨ha.1, h a ha.2⟩⟩

theorem congr {x : Run σ α} (hx : Run.Settles x s stops P) (h : stops ↔ stops') :
    Run.Settles x s stops' P :=
  ⟨fun hs => hx.error (h.2 hs), fun hs => hx.ok fun hs' => hs (h.1 hs')⟩

/-- The result of an activity says that no overflow ended it. -/
theorem goingOn {x : Run σ α} (hx : Run.Settles x s stops P) :
    Run.Settles x s stops fun a => ¬ stops ∧ P a :=
  ⟨hx.error, fun hnot => (hx.ok hnot).imp fun _ ha => ⟨ha.1, hnot, ha.2⟩⟩

/-- What a result says. -/
theorem of_ok {x : Run σ α} (hx : Run.Settles x s stops P) {a : α} {s' : σ}
    (h : x s = .ok (a, s')) : s' = s ∧ ¬ stops ∧ P a := by
  have hnot : ¬ stops := fun hs => by
    rw [hx.error hs] at h
    cases h
  obtain ⟨b, hb, hp⟩ := hx.ok hnot
  rw [h, Except.ok.injEq, Prod.mk.injEq] at hb
  obtain ⟨rfl, rfl⟩ := hb
  exact ⟨rfl, hnot, hp⟩

end Run.Settles

namespace Selection

variable {now : Instant} {m : Manifest} {selected : Selected}

/-! ### Testing objects -/

/-- An overflow ends the test of an object by some expressions. -/
def Overflows (now : Instant) (expressions : List String) (m : Manifest) : Prop :=
  satisfies now m.document expressions = .error .tooLarge

/-- The object passes the test by some expressions. -/
def Meets (now : Instant) (expressions : List String) (m : Manifest) : Prop :=
  satisfies now m.document expressions = .ok true

/-- Objects are tested one after the other, and those that pass are kept. -/
theorem matching_cases (now : Instant) (expressions : List String) (ms : List Manifest) :
    ((∃ m ∈ ms, Overflows now expressions m) ∧ matching now expressions ms = .error .tooLarge)
    ∨ (¬ ∃ m ∈ ms, Overflows now expressions m) ∧ ∃ found, matching now expressions ms = .ok found
        ∧ ∀ m, m ∈ found ↔ m ∈ ms ∧ Meets now expressions m := by
  induction ms with
  | nil => exact .inr ⟨by simp, [], rfl, by simp⟩
  | cons n ms ih =>
      simp only [matching, List.mem_cons, exists_eq_or_imp]
      cases hn : satisfies now n.document expressions with
      | error stop =>
          cases stop
          exact .inl ⟨.inl hn, rfl⟩
      | ok isMeant =>
          have hgoes : ¬ Overflows now expressions n := by
            unfold Overflows
            rw [hn]
            simp
          rcases ih with ⟨hstops, herror⟩ | ⟨hstops, found, hfound, hmem⟩
          · rw [herror]
            exact .inl ⟨.inr hstops, rfl⟩
          · rw [hfound]
            refine .inr ⟨not_or.2 ⟨hgoes, hstops⟩, _, rfl, fun m => ?_⟩
            have hpass : Meets now expressions n ↔ isMeant = true := by
              unfold Meets
              rw [hn, Except.ok.injEq]
            cases isMeant with
            | true =>
                rw [if_pos rfl, List.mem_cons, hmem]
                constructor
                · rintro (rfl | ⟨hm, hp⟩)
                  · exact ⟨.inl rfl, hpass.2 rfl⟩
                  · exact ⟨.inr hm, hp⟩
                · rintro ⟨rfl | hm, hp⟩
                  · exact .inl rfl
                  · exact .inr ⟨hm, hp⟩
            | false =>
                rw [if_neg Bool.false_ne_true, hmem]
                refine ⟨fun ⟨hm, hp⟩ => ⟨.inr hm, hp⟩, ?_⟩
                rintro ⟨rfl | hm, hp⟩
                · cases hpass.1 hp
                · exact ⟨hm, hp⟩

theorem matching_settles {σ : Type} (now : Instant) (expressions : List String)
    (ms : List Manifest) (s : σ) :
    Run.Settles (liftM (matching now expressions ms) : Run σ (List Manifest)) s
      (∃ m ∈ ms, Overflows now expressions m)
      fun found => ∀ m, m ∈ found ↔ m ∈ ms ∧ Meets now expressions m := by
  rcases matching_cases now expressions ms with ⟨hstops, herror⟩ | ⟨hstops, found, hfound, hmem⟩
  · rw [herror]
    exact ⟨fun _ => rfl, fun hnot => absurd hstops hnot⟩
  · rw [hfound]
    exact ⟨fun h => absurd h hstops, fun _ => ⟨found, rfl, hmem⟩⟩

end Selection

/-! ### The objects that are tested -/

namespace Cluster

/-- The objects of a type in a namespace, or without one, that a selector tests: those of its names
that are there, or without names all that are listed. -/
def candidatesIn (c : Cluster) (ns : Option String) (type : ResourceType) (s : ObjectSelector) :
    List Manifest :=
  if names s.name = [] then (c.list ns type (labelSelector? s.labels)).toOption.getD []
  else (names s.name).filterMap fun name => c.object? (c.keyOf (ns.getD "") type.kind name)

/-- The objects that a selector of namespaces tests when it does not name namespaces. -/
def namespaceCandidates (c : Cluster) (s : NamespaceSelector) : List Manifest :=
  match c.findType? "namespaces" with
  | none => []
  | some type => (c.list none type (labelSelector? s.labels)).toOption.getD []

/-- The selector gives namespaces by their names. -/
def NamesNamespaces (s : NamespaceSelector) : Prop :=
  names s.name ≠ [] ∧ allNamespaces ∉ names s.name

instance (s : NamespaceSelector) : Decidable (NamesNamespaces s) :=
  inferInstanceAs (Decidable (_ ∧ _))

/-- The selector takes a namespace. -/
def TakesNamespace (c : Cluster) (now : Instant) (s : NamespaceSelector) (ns : String) : Prop :=
  if NamesNamespaces s then ns ∈ names s.name
  else ∃ m ∈ c.namespaceCandidates s, Meets now s.fields m ∧ m.name = ns

/-- An overflow ends the search for namespaces. -/
def NamespacesOverflow (c : Cluster) (now : Instant) (s : NamespaceSelector) : Prop :=
  ¬ NamesNamespaces s ∧ ∃ m ∈ c.namespaceCandidates s, Overflows now s.fields m

/-- Objects of the type are looked for in this namespace, or without one. -/
def IsSearched (c : Cluster) (now : Instant) (s : NamespaceSelector) (type : ResourceType) :
    Option String → Prop
  | none => type.namespaced = false
  | some ns => type.namespaced = true ∧ c.TakesNamespace now s ns

/-- The selector tests the object for one of the type names that it lists. -/
def Considers (c : Cluster) (now : Instant) (s : Selector) (name : String) (m : Manifest) : Prop :=
  ∃ type ns, c.findType? name = some type ∧ c.IsSearched now s.namespaces type ns
    ∧ m ∈ c.candidatesIn ns type s.objects

/-- An overflow ends the search for objects of one of the type names. -/
def StopsAt (c : Cluster) (now : Instant) (s : Selector) (name : String) : Prop :=
  (∃ type, c.findType? name = some type ∧ type.namespaced = true
      ∧ c.NamespacesOverflow now s.namespaces)
    ∨ ∃ m, c.Considers now s name m ∧ Overflows now s.objects.fields m

end Cluster

namespace Selection

variable {c : Cluster} {now : Instant} {m : Manifest} {selected : Selected}

theorem namespacesOf_settles (c : Cluster) (now : Instant) (s : NamespaceSelector) :
    Run.Settles (namespacesOf now s) c (c.NamespacesOverflow now s)
      fun found => ∀ ns, ns ∈ found ↔ c.TakesNamespace now s ns := by
  unfold namespacesOf
  dsimp only
  by_cases hnamed : NamesNamespaces s
  · rw [if_pos (show names s.name ≠ [] ∧ allNamespaces ∉ names s.name from hnamed)]
    refine (Run.Settles.of_pure fun ns => ?_).congr ⟨False.elim, fun h => h.1 hnamed⟩
    rw [TakesNamespace, if_pos hnamed]
  · rw [if_neg (show ¬ (names s.name ≠ [] ∧ allNamespaces ∉ names s.name) from hnamed)]
    -- Whatever the reply to the listing, its objects are the candidates.
    have hempty : c.namespaceCandidates s = [] →
        Run.Settles (pure [] : Run Cluster (List String)) c (c.NamespacesOverflow now s)
          fun found => ∀ ns, ns ∈ found ↔ c.TakesNamespace now s ns := by
      intro hnone
      refine (Run.Settles.of_pure fun ns => ?_).congr ⟨False.elim, fun h => ?_⟩
      · rw [TakesNamespace, if_neg hnamed, hnone]
        simp
      · obtain ⟨m, hm, -⟩ := h.2
        rw [hnone] at hm
        cases hm
    refine .bind_lift (client_resolveType_apply _ c) ?_
    unfold typeReply
    cases htype : c.findType? "namespaces" with
    | none => exact hempty (by rw [namespaceCandidates, htype])
    | some type =>
        refine .bind_lift (client_list_apply c _ type _) ?_
        cases hlist : c.list none type (labelSelector? s.labels) with
        | error e => exact hempty (by simp only [namespaceCandidates, htype, hlist]; rfl)
        | ok listed =>
            have hlisted : c.namespaceCandidates s = listed := by
              simp only [namespaceCandidates, htype, hlist]
              rfl
            refine ((matching_settles now s.fields listed c).bind fun found hfound =>
              .of_pure fun ns => ?_).congr ?_
            · rw [TakesNamespace, if_neg hnamed, hlisted, List.mem_map]
              simp only [hfound, and_assoc]
            · rw [NamespacesOverflow, hlisted]
              simp [hnamed]

theorem getAll_apply (ns : String) (kind : ObjectKind) (wanted : List String) (c : Cluster) :
    getAll ns kind wanted c
      = (wanted.filterMap fun name => c.object? (c.keyOf ns kind name), c) := by
  induction wanted with
  | nil => rfl
  | cons name wanted ih =>
      simp only [getAll, bind_apply, client_get_apply, ih, toOption_getReply, pure_apply,
        List.filterMap_cons]
      cases c.object? (c.keyOf ns kind name) <;> rfl

theorem objectsIn_settles (c : Cluster) (now : Instant) (ns : Option String) (type : ResourceType)
    (s : ObjectSelector) :
    Run.Settles (objectsIn now ns type s) c
      (∃ m ∈ c.candidatesIn ns type s, Overflows now s.fields m)
      fun found => ∀ m, m ∈ found ↔ m ∈ c.candidatesIn ns type s ∧ Meets now s.fields m := by
  unfold objectsIn candidatesIn
  dsimp only
  split
  · exact .bind_lift (client_list_apply c _ type _) (matching_settles now s.fields _ c)
  · exact .bind_lift (getAll_apply _ _ _ c) (matching_settles now s.fields _ c)

theorem objectsInAll_settles (c : Cluster) (now : Instant) (type : ResourceType)
    (s : ObjectSelector) (namespaces : List String) :
    Run.Settles (objectsInAll now type s namespaces) c
      (∃ ns ∈ namespaces, ∃ m ∈ c.candidatesIn (some ns) type s, Overflows now s.fields m)
      fun found => ∀ m, m ∈ found
        ↔ ∃ ns ∈ namespaces, m ∈ c.candidatesIn (some ns) type s ∧ Meets now s.fields m := by
  induction namespaces with
  | nil => exact (Run.Settles.of_pure fun m => by simp).congr (by simp)
  | cons ns namespaces ih =>
      unfold objectsInAll
      refine ((objectsIn_settles c now (some ns) type s).bind fun found hfound =>
        ih.bind fun others hothers => .of_pure fun m => ?_).congr ?_
      · rw [List.mem_append, hfound, hothers]
        simp only [List.mem_cons, exists_eq_or_imp]
      · simp only [List.mem_cons, exists_eq_or_imp, or_false]

/-! ### What is gathered -/

theorem Selected.including_cons (selected : Selected) (m : Manifest) (objects : List Manifest) :
    selected.including (m :: objects)
      = Selected.including (FiniteMap.insert selected m.key m) objects := rfl

theorem Selected.contains_including (selected : Selected) (objects : List Manifest)
    (k : ObjectKey) :
    FiniteMap.contains (selected.including objects) k = true
      ↔ FiniteMap.contains selected k = true ∨ ∃ m ∈ objects, m.key = k := by
  induction objects generalizing selected with
  | nil => simp [Selected.including]
  | cons m objects ih =>
      rw [Selected.including_cons, ih, FiniteMap.contains_insert, Bool.or_eq_true,
        decide_eq_true_eq]
      constructor
      · rintro ((hk | hk) | ⟨n, hn, hk⟩)
        · exact .inr ⟨m, List.mem_cons_self, hk⟩
        · exact .inl hk
        · exact .inr ⟨n, List.mem_cons_of_mem _ hn, hk⟩
      · rintro (hk | ⟨n, hn, hk⟩)
        · exact .inl (.inr hk)
        · rcases List.mem_cons.1 hn with rfl | hn
          · exact .inl (.inl hk)
          · exact .inr ⟨n, hn, hk⟩

theorem Selected.mem_including {selected : Selected} {objects : List Manifest}
    {p : ObjectKey × Manifest} (hp : p ∈ selected.including objects) :
    p ∈ selected ∨ p.2 ∈ objects ∧ p.1 = p.2.key := by
  induction objects generalizing selected with
  | nil => exact .inl hp
  | cons m objects ih =>
      rw [including_cons] at hp
      rcases ih hp with hp | ⟨hmem, hkey⟩
      · rcases FiniteMap.mem_of_mem_insert hp with heq | hp
        · obtain ⟨hk, hm⟩ := Prod.mk.inj heq
          exact .inr ⟨hm ▸ List.mem_cons_self, hk.trans (congrArg Manifest.key hm.symm)⟩
        · exact .inl hp
      · exact .inr ⟨List.mem_cons_of_mem _ hmem, hkey⟩

theorem Selected.sorted_including {selected : Selected} (hsorted : FiniteMap.Sorted selected)
    (objects : List Manifest) : FiniteMap.Sorted (selected.including objects) := by
  induction objects generalizing selected with
  | nil => exact hsorted
  | cons m objects ih => exact ih (hsorted.insert m.key m)

/-- The selection holds objects with the property, each under its key, and for every such object
one with the same key. -/
structure Gathers (selected : Selected) (P : Manifest → Prop) : Prop where
  sorted : FiniteMap.Sorted selected
  sound : ∀ p ∈ selected, P p.2 ∧ p.1 = p.2.key
  complete : ∀ m, P m → FiniteMap.contains selected m.key = true

namespace Gathers

variable {P P' : Manifest → Prop}

theorem nil : Gathers [] fun _ => False :=
  ⟨.nil, fun _ h => (nomatch h), fun _ h => h.elim⟩

theorem mono (h : Gathers selected P) (hiff : ∀ m, P m ↔ P' m) : Gathers selected P' :=
  ⟨h.sorted, fun p hp => (h.sound p hp).imp_left (hiff _).1,
    fun m hm => h.complete m ((hiff m).2 hm)⟩

theorem including (h : Gathers selected P) {found : List Manifest}
    (hfound : ∀ m, m ∈ found ↔ P' m) : Gathers (selected.including found) fun m => P m ∨ P' m where
  sorted := Selected.sorted_including h.sorted found
  sound := by
    intro p hp
    rcases Selected.mem_including hp with hp | ⟨hmem, hkey⟩
    · exact (h.sound p hp).imp_left .inl
    · exact ⟨.inr ((hfound _).1 hmem), hkey⟩
  complete := by
    rintro m (hm | hm)
    · exact (Selected.contains_including _ _ _).2 (.inl (h.complete m hm))
    · exact (Selected.contains_including _ _ _).2 (.inr ⟨m, (hfound m).2 hm, rfl⟩)

/-- Which keys there are. -/
theorem contains_iff (h : Gathers selected P) (k : ObjectKey) :
    FiniteMap.contains selected k = true ↔ ∃ m, P m ∧ m.key = k := by
  constructor
  · intro hk
    obtain ⟨m, hm⟩ := FiniteMap.contains_iff_exists_mem.1 hk
    obtain ⟨hp, hkey⟩ := h.sound _ hm
    exact ⟨m, hp, hkey.symm⟩
  · rintro ⟨m, hp, rfl⟩
    exact h.complete m hp

end Gathers

/-- The search for the objects of one type, in the namespaces that are taken. -/
theorem objectsOf_settles {s : Selector} {name : String} {type : ResourceType}
    (htype : c.findType? name = some type) (hnamespaced : type.namespaced = true)
    (hnot : ¬ c.NamespacesOverflow now s.namespaces) {namespaces : List String}
    (hnamespaces : ∀ ns, ns ∈ namespaces ↔ c.TakesNamespace now s.namespaces ns) :
    Run.Settles (objectsInAll now type s.objects namespaces) c (c.StopsAt now s name)
      fun found => ∀ m, m ∈ found ↔ c.Considers now s name m ∧ Meets now s.objects.fields m := by
  have hconsiders : ∀ m, c.Considers now s name m
      ↔ ∃ ns ∈ namespaces, m ∈ c.candidatesIn (some ns) type s.objects := by
    intro m
    constructor
    · rintro ⟨type', ns, htype', hsearched, hm⟩
      cases htype.symm.trans htype'
      cases ns with
      | none => exact absurd (hnamespaced.symm.trans hsearched) (by simp)
      | some ns => exact ⟨ns, (hnamespaces ns).2 hsearched.2, hm⟩
    · rintro ⟨ns, hns, hm⟩
      exact ⟨type, some ns, htype, ⟨hnamespaced, (hnamespaces ns).1 hns⟩, hm⟩
  refine ((objectsInAll_settles c now type s.objects namespaces).mono
    fun found hfound m => ?_).congr ?_
  · rw [hfound, hconsiders]
    exact ⟨fun ⟨ns, hns, hm, hp⟩ => ⟨⟨ns, hns, hm⟩, hp⟩,
      fun ⟨⟨ns, hns, hm⟩, hp⟩ => ⟨ns, hns, hm, hp⟩⟩
  · constructor
    · rintro ⟨ns, hns, m, hm, hstop⟩
      exact .inr ⟨m, (hconsiders m).2 ⟨ns, hns, hm⟩, hstop⟩
    · rintro (⟨-, -, -, hstop⟩ | ⟨m, hm, hstop⟩)
      · exact absurd hstop hnot
      · obtain ⟨ns, hns, hm⟩ := (hconsiders m).1 hm
        exact ⟨ns, hns, m, hm, hstop⟩

/-- The search for the objects of a type that needs no namespace. -/
theorem objectsOfAll_settles {s : Selector} {name : String} {type : ResourceType}
    (htype : c.findType? name = some type) (hwide : type.namespaced = false) :
    Run.Settles (objectsIn now none type s.objects) c (c.StopsAt now s name)
      fun found => ∀ m, m ∈ found ↔ c.Considers now s name m ∧ Meets now s.objects.fields m := by
  have hconsiders : ∀ m, c.Considers now s name m ↔ m ∈ c.candidatesIn none type s.objects := by
    intro m
    constructor
    · rintro ⟨type', ns, htype', hsearched, hm⟩
      cases htype.symm.trans htype'
      cases ns with
      | none => exact hm
      | some ns => exact absurd (hwide.symm.trans hsearched.1) (by simp)
    · exact fun hm => ⟨type, none, htype, hwide, hm⟩
  refine ((objectsIn_settles c now none type s.objects).mono fun found hfound m => ?_).congr ?_
  · rw [hfound, hconsiders]
  · constructor
    · rintro ⟨m, hm, hstop⟩
      exact .inr ⟨m, (hconsiders m).2 hm, hstop⟩
    · rintro (⟨type', htype', hnamespaced, -⟩ | ⟨m, hm, hstop⟩)
      · cases htype.symm.trans htype'
        exact absurd (hwide.symm.trans hnamespaced) (by simp)
      · exact ⟨m, (hconsiders m).1 hm, hstop⟩

/-- Adding the objects of further types. The namespaces, once they are known, are those that are
taken. -/
theorem selectTypes_settles (c : Cluster) (now : Instant) (s : Selector) (wanted : List String)
    {known : Option (List String)}
    (hknown : ∀ found, known = some found → ¬ c.NamespacesOverflow now s.namespaces
      ∧ ∀ ns, ns ∈ found ↔ c.TakesNamespace now s.namespaces ns)
    {P : Manifest → Prop} (hselected : Gathers selected P) :
    Run.Settles (selectTypes now s wanted known selected) c (∃ name ∈ wanted, c.StopsAt now s name)
      fun all => Gathers all fun m =>
        P m ∨ ∃ name ∈ wanted, c.Considers now s name m ∧ Meets now s.objects.fields m := by
  induction wanted generalizing known selected P with
  | nil =>
      refine ⟨fun ⟨_, h, _⟩ => (nomatch h), fun _ => ⟨selected, rfl, ?_⟩⟩
      exact hselected.mono fun m => by simp
  | cons name wanted ih =>
      unfold selectTypes
      refine .bind_lift (client_resolveType_apply _ c) ?_
      unfold typeReply
      cases htype : c.findType? name with
      | none =>
          have hnone : ∀ m, ¬ c.Considers now s name m := fun m ⟨_, _, h, _⟩ => by
            rw [htype] at h
            cases h
          have hgoes : ¬ c.StopsAt now s name := by
            rintro (⟨_, h, -⟩ | ⟨m, h, -⟩)
            · rw [htype] at h
              cases h
            · exact hnone m h
          refine ((ih hknown hselected).mono fun all hall => hall.mono fun m => ?_).congr ?_
          · simp only [List.mem_cons, exists_eq_or_imp, hnone, false_and, false_or]
          · simp only [List.mem_cons, exists_eq_or_imp, hgoes, false_or]
      | some type =>
          dsimp only
          -- The rest, once the objects of the type are found.
          have hrest : ∀ (known' : Option (List String)) (found : List Manifest),
              (∀ nss, known' = some nss → ¬ c.NamespacesOverflow now s.namespaces
                ∧ ∀ ns, ns ∈ nss ↔ c.TakesNamespace now s.namespaces ns) →
              (∀ m, m ∈ found ↔ c.Considers now s name m ∧ Meets now s.objects.fields m) →
              Run.Settles (selectTypes now s wanted known' (selected.including found)) c
                (∃ n ∈ wanted, c.StopsAt now s n) fun all => Gathers all fun m =>
                  P m ∨ ∃ n ∈ name :: wanted,
                    c.Considers now s n m ∧ Meets now s.objects.fields m := by
            intro known' found hknown' hfound
            refine (ih hknown' (hselected.including hfound)).mono fun all hall => ?_
            refine hall.mono fun m => ?_
            simp only [List.mem_cons, exists_eq_or_imp]
            exact or_assoc
          have hstops : (∃ n ∈ name :: wanted, c.StopsAt now s n)
              ↔ c.StopsAt now s name ∨ ∃ n ∈ wanted, c.StopsAt now s n := by
            simp only [List.mem_cons, exists_eq_or_imp]
          refine Run.Settles.congr ?_ hstops.symm
          cases hnamespaced : type.namespaced with
          | false =>
              exact (objectsOfAll_settles htype hnamespaced).bind fun found hfound =>
                hrest _ found hknown hfound
          | true =>
              cases known with
              | some nss =>
                  obtain ⟨hnot, hnss⟩ := hknown nss rfl
                  refine ((Run.Settles.of_pure (P := (· = nss)) rfl).bind
                    fun nss' hsame => ?_).congr (iff_of_eq (false_or _))
                  subst hsame
                  exact (objectsOf_settles htype hnamespaced hnot hnss).bind fun found hfound =>
                    hrest _ found (fun _ h => Option.some.inj h ▸ ⟨hnot, hnss⟩) hfound
              | none =>
                  refine ((namespacesOf_settles c now s.namespaces).goingOn.bind
                    fun nss ⟨hnot, hnss⟩ =>
                      (objectsOf_settles htype hnamespaced hnot hnss).bind fun found hfound =>
                        hrest _ found (fun _ h => Option.some.inj h ▸ ⟨hnot, hnss⟩) hfound).congr ?_
                  have hfirst : c.NamespacesOverflow now s.namespaces → c.StopsAt now s name :=
                    fun h => .inl ⟨type, htype, hnamespaced, h⟩
                  exact or_iff_right_of_imp fun h => .inl (hfirst h)

/-- **Selection.**  A selection ends by an overflow if the search for one of its types does, and
otherwise gathers the objects that the selector considers and that pass its expressions. -/
theorem select_settles (c : Cluster) (now : Instant) (s : Selector) :
    Run.Settles (select now s) c (∃ name ∈ names s.objects.type, c.StopsAt now s name)
      fun found => Gathers found fun m => ∃ name ∈ names s.objects.type,
        c.Considers now s name m ∧ Meets now s.objects.fields m := by
  have hnone : ∀ found : List String, none = some found → ¬ c.NamespacesOverflow now s.namespaces
      ∧ ∀ ns, ns ∈ found ↔ c.TakesNamespace now s.namespaces ns := by simp
  refine (selectTypes_settles c now s _ hnone .nil).mono fun found hfound => ?_
  exact hfound.mono fun m => false_or _ ▸ Iff.rfl

end Selection

end Slumber
