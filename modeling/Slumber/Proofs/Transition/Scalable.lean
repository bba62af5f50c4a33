import Slumber.Proofs.Transition.Groups

/-!
# Which objects can be scaled

Rules without expressions select by what transitions never change: by types, namespaces, names and
labels. So in alike clusters they select the same objects, at any instant, and the same objects
stand in for those.

* `Cluster.CanScale` — the objects that some transition of the rules would scale;
* `Alike.isTarget_iff` — the rules act upon the same objects in alike clusters;
* `Alike.canScale` — and would scale the same ones.
-/

namespace Slumber

open Cluster Selection Manifest

namespace Cluster

/-- An object that a transition of the rules would scale: what stands in for one of the objects that
they act upon. -/
def CanScale (c : Cluster) (rules : List Rule) (m : Manifest) : Prop :=
  ∃ now all, selectGroup now rules {} c = .ok (all, c)
    ∧ ∃ target ∈ all.targets, m = c.standIn target

/-! ### Selection in alike clusters -/

namespace Alike

variable {c c' : Cluster} {now now' : Instant} {m m' : Manifest} {s : Selector} {r : Rule}
  {rules : List Rule}

theorem lists (h : Alike c c') {ns : Option String} {type : ResourceType} (hc : c.Lists ns type) :
    c'.Lists ns type := by
  unfold Lists
  rw [h.refusedLists_eq]
  exact hc

theorem meansNamespace (h : Alike c c') {s : NamespaceSelector} (hs : s.fields = []) {ns : String}
    (hc : c.MeansNamespace now s ns) : c'.MeansNamespace now' s ns := by
  unfold MeansNamespace at hc ⊢
  split at hc
  · rename_i hnamed
    rw [if_pos hnamed]
    exact hc
  · rename_i hnamed
    rw [if_neg hnamed]
    obtain ⟨type, htype, hfree, n, hn, hlisted, -, hname⟩ := hc
    obtain ⟨n', hn', hsame⟩ := h.object? hn
    refine ⟨type, by rw [h.findType?_eq, htype], h.lists hfree, n', ?_, ?_, ?_, ?_⟩
    · rw [hsame.key_eq, hn']
    · rw [hsame.key_eq, isListed_eq_of_sameOffScaling hsame, hlisted]
    · rw [hs]
      rfl
    · rw [hsame.name_eq, hname]

theorem meansIn (h : Alike c c') {ns : Option String} {type : ResourceType} {s : ObjectSelector}
    (hs : s.fields = []) (hm : SameOffScaling m m') (hc : c.MeansIn now ns type s m) :
    c'.MeansIn now' ns type s m' := by
  obtain ⟨-, hc⟩ := hc
  refine ⟨by rw [hs]; rfl, ?_⟩
  split at hc
  · rename_i hnone
    rw [if_pos hnone, hm.key_eq, isListed_eq_of_sameOffScaling hm]
    exact ⟨h.lists hc.1, hc.2⟩
  · rename_i hnamed
    rw [if_neg hnamed, hm.key_eq]
    obtain ⟨name, hname, hkey⟩ := hc
    exact ⟨name, hname, by rw [h.keyOf_eq, hkey]⟩

theorem means (h : Alike c c') (hs : s.IsPlain) (hm : SameOffScaling m m')
    (hc : c.Means now s m) : c'.Means now' s m' := by
  obtain ⟨name, hname, type, htype, hc⟩ := hc
  refine ⟨name, hname, type, by rw [h.findType?_eq, htype], ?_⟩
  split at hc
  · rename_i hnamespaced
    rw [if_pos hnamespaced]
    obtain ⟨ns, hns, hin⟩ := hc
    exact ⟨ns, h.meansNamespace hs.2 hns, h.meansIn hs.1 hm hin⟩
  · rename_i hwide
    rw [if_neg hwide]
    exact h.meansIn hs.1 hm hc

theorem meansAny {selectors : List Selector} (h : Alike c c') (hs : ∀ s ∈ selectors, s.IsPlain)
    (hm : SameOffScaling m m') : c.MeansAny now selectors m ↔ c'.MeansAny now' selectors m' :=
  ⟨fun ⟨s, hmem, hmeans⟩ => ⟨s, hmem, h.means (hs s hmem) hm hmeans⟩,
    fun ⟨s, hmem, hmeans⟩ => ⟨s, hmem, h.symm.means (hs s hmem) hm.symm hmeans⟩⟩

/-- Rules without expressions set the same objects of alike clusters apart, at any instant. -/
theorem isSetApart_iff (h : Alike c c') (hrules : ∀ r ∈ rules, r.IsPlain)
    (hm : SameOffScaling m m') : c.IsSetApart now rules m ↔ c'.IsSetApart now' rules m' := by
  refine exists_congr fun r => and_congr_right fun hr => and_congr ?_ ?_
  · exact h.meansAny (hrules r hr).1 hm
  · exact h.meansAny (hrules r hr).2 hm

/-- And they act upon the same ones. -/
theorem isTarget_iff (h : Alike c c') (hrules : ∀ r ∈ rules, r.IsPlain) (hm : SameOffScaling m m') :
    c.IsTarget now rules m ↔ c'.IsTarget now' rules m' := by
  refine and_congr ?_ (not_congr (h.isSetApart_iff hrules hm))
  refine exists_congr fun r => and_congr_right fun hr => and_congr ?_ (not_congr ?_)
  · exact h.meansAny (hrules r hr).1 hm
  · exact h.meansAny (hrules r hr).2 hm

end Alike

/-! ### What can be scaled -/

variable {c c' : Cluster} {now : Instant} {m : Manifest} {rules : List Rule}

/-- What can be scaled does not depend on the instant. -/
theorem canScale_iff (hc : c.Keyed) (hrules : ∀ r ∈ rules, r.IsPlain) (now : Instant) :
    c.CanScale rules m ↔ ∃ target, c.object? target.key = some target
      ∧ c.IsTarget now rules target ∧ m = c.standIn target := by
  constructor
  · rintro ⟨now', all, hall, target, htarget, rfl⟩
    have hselects :=
      ((selectGroup_start_reads (T := False) hc (fun h => h.elim) now').of_ok all c hall).2
    obtain ⟨hstored, histarget⟩ := (mem_targets_iff hc hselects).1 htarget
    exact ⟨target, hstored,
      ((Alike.refl c).isTarget_iff hrules (.refl target)).1 histarget, rfl⟩
  · rintro ⟨target, hstored, histarget, rfl⟩
    have hreads := selectGroup_start_reads (T := True) hc (fun _ => hrules) now
    obtain ⟨all, hall⟩ := hreads.exists_ok trivial
    have hselects := (hreads.of_ok all c hall).2
    exact ⟨now, all, hall, target, (mem_targets_iff hc hselects).2 ⟨hstored, histarget⟩, rfl⟩

/-- What can be scaled is held. -/
theorem CanScale.object? (hc : c.Keyed) (hrules : ∀ r ∈ rules, r.IsPlain)
    (hm : c.CanScale rules m) : c.object? m.key = some m := by
  obtain ⟨target, hstored, -, rfl⟩ := (canScale_iff hc hrules ⟨0, 0⟩).1 hm
  exact object?_standIn hc hstored

/-- In alike clusters the same objects can be scaled. -/
theorem Alike.canScale (h : Alike c c') (hc : c.Keyed) (hrules : ∀ r ∈ rules, r.IsPlain)
    (hm : c.CanScale rules m) : ∃ m', c'.CanScale rules m' ∧ SameOffScaling m m' := by
  obtain ⟨target, hstored, histarget, rfl⟩ := (canScale_iff hc hrules ⟨0, 0⟩).1 hm
  obtain ⟨target', hstored', hsame⟩ := h.object? hstored
  refine ⟨c'.standIn target', ?_, h.standIn hsame⟩
  exact (canScale_iff (h.keyed hc) hrules ⟨0, 0⟩).2
    ⟨target', by rw [hsame.key_eq, hstored'], (h.isTarget_iff hrules hsame).1 histarget, rfl⟩

end Cluster

end Slumber
