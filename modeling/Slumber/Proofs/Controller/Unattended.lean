import Slumber.Proofs.Controller.Waking
import Slumber.Proofs.Transition.Refusals

/-!
# Unattended looks

A resource is looked at again and again while nobody else writes, and while listings of autoscalers
may be refused now and then. Whichever objects a look acts upon for want of a listing, no object
loses its count, and an object is awake as soon as a look acts upon it that wakes objects up.

* `Turn.Wakes`, `Turn.Sleeps`, `Turn.Reaches` — what a look did, and upon which objects it acts;
* `Followed` — every look of one sort is followed by one of another sort;
* `Unattended`, `Watched` — looks without other writers, at a new resource;
* `CountKept` — the invariant between two looks;
* `CountKept.turn`, `CountKept.run` — one look, and any number of looks.
-/

namespace Slumber

open Cluster Manifest

/-! ### Looks -/

namespace Turn

/-- The look woke objects up, and did nothing else. -/
def Wakes (x : Turn) : Prop :=
  x.tick.reports ≠ [] ∧ ∀ r ∈ x.tick.reports, r.action = .unhibernate

instance (x : Turn) : Decidable x.Wakes :=
  inferInstanceAs (Decidable (_ ∧ _))

/-- The look put objects to sleep, or scaled them. -/
def Sleeps (x : Turn) : Prop :=
  ∃ r ∈ x.tick.reports, r.action ≠ .unhibernate

/-- The look acts upon the object of a key, if it acts. -/
def Reaches (x : Turn) (k : ObjectKey) : Prop :=
  ∃ g ∈ ruleGroups x.spec, x.before.Reaches g.2 k

/-- The look acts upon the object of a key, or upon what stands in for it, if it acts. -/
def Selects (x : Turn) (k : ObjectKey) : Prop :=
  ∃ g ∈ ruleGroups x.spec, x.before.Selects g.2 k

/-- A rule of the look sets the object of a key apart. -/
def SetsApart (x : Turn) (k : ObjectKey) : Prop :=
  ∃ g ∈ ruleGroups x.spec, x.before.SetsApart g.2 k

theorem Wakes.not_sleeps {x : Turn} (h : x.Wakes) : ¬ x.Sleeps :=
  fun ⟨r, hr, hne⟩ => hne (h.2 r hr)

end Turn

/-- Every look of one sort is followed by one of another sort. -/
def Followed (P Q : Turn → Prop) (turns : List Turn) : Prop :=
  ∀ x later, x :: later <:+ turns → P x → ∃ y ∈ later, Q y

namespace Followed

variable {P Q P' Q' : Turn → Prop} {x last : Turn} {turns : List Turn}

theorem nil : Followed P Q [] := by
  intro x later hsuffix
  cases List.suffix_nil.1 hsuffix

theorem cons (hx : P x → ∃ y ∈ turns, Q y) (h : Followed P Q turns) :
    Followed P Q (x :: turns) := by
  intro y later hsuffix hy
  rcases List.suffix_cons_iff.1 hsuffix with heq | hsuffix
  · cases heq
    exact hx hy
  · exact h y later hsuffix hy

theorem head (h : Followed P Q (x :: turns)) (hx : P x) : ∃ y ∈ turns, Q y :=
  h x turns List.suffix_rfl hx

theorem tail (h : Followed P Q (x :: turns)) : Followed P Q turns :=
  fun y later hsuffix => h y later (hsuffix.trans (List.suffix_cons x turns))

theorem mono (h : Followed P Q turns) (hP : ∀ x ∈ turns, P' x → P x)
    (hQ : ∀ x ∈ turns, Q x → Q' x) : Followed P' Q' turns := by
  intro x later hsuffix hx
  have hsub := hsuffix.subset
  obtain ⟨y, hy, hyQ⟩ := h x later hsuffix (hP x (hsub List.mem_cons_self) hx)
  exact ⟨y, hy, hQ y (hsub (List.mem_cons_of_mem x hy)) hyQ⟩

/-- A further look need not be followed by any if it is not of the first sort. -/
theorem concat (h : Followed P Q turns) (hlast : ¬ P last) : Followed P Q (turns ++ [last]) := by
  intro x later hsuffix hx
  rcases List.suffix_concat_iff.1 hsuffix with hnil | ⟨earlier, hsplit, hsuffix'⟩
  · cases hnil
  · rcases List.cons_eq_append_iff.1 hsplit with ⟨-, hxs⟩ | ⟨later', rfl, rfl⟩
    · cases hxs
      exact absurd hx hlast
    · obtain ⟨y, hy, hyQ⟩ := h x later' hsuffix' hx
      exact ⟨y, List.mem_append_left _ hy, hyQ⟩

/-- A last look of the second sort follows all others. -/
theorem of_last (hlast : Q last) (hnot : ¬ P last) : Followed P Q (turns ++ [last]) := by
  intro x later hsuffix hx
  rcases List.suffix_concat_iff.1 hsuffix with hnil | ⟨earlier, hsplit, -⟩
  · cases hnil
  · rcases List.cons_eq_append_iff.1 hsplit with ⟨-, hxs⟩ | ⟨later', -, rfl⟩
    · cases hxs
      exact absurd hx hnot
    · exact ⟨last, List.mem_append_right _ (List.mem_singleton_self last), hlast⟩

end Followed

/-- Nobody else writes to the cluster: each look finds it as the look before left it, apart from the
listings of autoscalers that are refused. -/
inductive Unattended : Cluster → List Turn → Prop
  | nil (c : Cluster) : Unattended c []
  | cons {c : Cluster} {x : Turn} {rest : List Turn}
      (found : x.before = c.refusing x.before.refusedLists)
      (hides : x.before.OnlyHidesAutoscalers)
      (next : Unattended x.after rest) : Unattended c (x :: rest)

/-- The spec deletes nothing, and its rules have no expressions. -/
structure Spec.IsGentle (s : Spec) : Prop where
  action : s.action ≠ .delete
  actions : ∀ r ∈ s.rules, r.action ≠ some .delete
  plain : ∀ r ∈ s.rules, r.IsPlain

theorem Spec.IsGentle.groups {s : Spec} (hs : s.IsGentle) :
    ∀ g ∈ ruleGroups s, g.1 ≠ .delete ∧ ∀ r ∈ g.2, r.IsPlain := by
  intro g hg
  obtain ⟨⟨r, hr, haction⟩, hsub⟩ := mem_ruleGroups hg
  refine ⟨?_, fun r' hr' => hs.plain r' (hsub r' hr')⟩
  rw [haction]
  cases hown : r.action with
  | none => exact hs.action
  | some a => exact fun ha => hs.actions r hr (hown.trans (congrArg some ha))

/-- Looks at a new resource, on a keyed cluster that is `c` in the beginning and refuses no patches:
their statuses are all stored, the rules and the action stay the same, and nobody else writes. -/
structure Watched [ZoneDatabase] (floor : Duration) (c : Cluster) (h : Hibernator)
    (turns : List Turn) : Prop where
  keyed : c.Keyed
  accepts : c.refusedPatches = []
  fresh : h.status = none
  taken : Turns floor h turns
  same : ∀ x ∈ turns, x.spec.rules = h.spec.rules ∧ x.spec.action = h.spec.action
  alone : Unattended c turns

/-- Such looks find keyed clusters. -/
theorem Unattended.keyed [ZoneDatabase] {floor : Duration} {h : Hibernator} {c : Cluster}
    {turns : List Turn} (halone : Unattended c turns) (hturns : Turns floor h turns)
    (hc : c.Keyed) :
    ∀ x ∈ turns, x.before.Keyed := by
  induction halone generalizing h with
  | nil => exact fun x hx => (nomatch hx)
  | @cons c x rest hfound _ _ ih =>
      cases hturns with
      | cons hlook hnext =>
      have hbefore : x.before.Keyed := hfound ▸ hc.refusing _
      have hafter : x.after.Keyed := by
        rcases tick_cases hlook with hrests | ⟨gap, hacts⟩
        · rw [hrests.cluster_eq]
          exact hbefore
        · exact (executeGroups_ok hbefore hacts.executed).1
      intro y hy
      rcases List.mem_cons.1 hy with rfl | hy
      · exact hbefore
      · exact ih hnext hafter y hy

/-! ### The invariant -/

section

variable {floor : Duration} {h : Hibernator} {c₀ c : Cluster} {k : ObjectKey} {n : Int32}
  {x : Turn} {turns : List Turn}

/-- Between two looks, with a cluster that was `c₀` in the beginning: only what transitions change
was changed, no patches are refused, and the object of a key keeps its count, of which the resource
records nothing wrong. -/
structure CountKept (c₀ : Cluster) (k : ObjectKey) (n : Int32) (h : Hibernator) (c : Cluster) :
    Prop where
  alike : Alike (c₀.refusing c.refusedLists) c
  accepts : c.refusedPatches = []
  kept : c.KeepsAt k n
  recorded : Records h.history (ImpactedObject.Gives k n)

/-- What a look finds. -/
theorem CountKept.found (hinv : CountKept c₀ k n h c)
    (hfound : x.before = c.refusing x.before.refusedLists) : CountKept c₀ k n h x.before := by
  have halike := hinv.alike.refusing x.before.refusedLists
  rw [← hfound] at halike
  refine ⟨halike, ?_, ?_, hinv.recorded⟩
  · rw [hfound]
    exact hinv.accepts
  · rw [hfound]
    exact hinv.kept

/-- What is stored of a look is what the reports say, or was there before. -/
theorem Records.resource [ZoneDatabase] {good : ImpactedObject → Prop} (hh : Records h.history good)
    (hlook : Slumber.tick (x.found h) floor x.now x.before = .ok (x.tick, x.after))
    (hright : ∀ r ∈ x.tick.reports, ∀ o ∈ r.impacted, good o) :
    Records (x.resource h).history good := by
  rcases Turn.history_resource hlook with hsame | ⟨resync, hentered⟩
  · rw [hsame]
    exact hh
  · rw [hentered]
    exact (hh.ofEntries _).foldl_entering hright x.now resync

/-- **One look.**  It keeps the invariant. An awake object stays awake, unless the look acts upon it
and does something else than waking up. An object upon which a look acts that wakes objects up is
awake. -/
theorem CountKept.turn [ZoneDatabase] (hinv : CountKept c₀ k n h x.before) (hc₀ : c₀.Keyed)
    (hlook : Slumber.tick (x.found h) floor x.now x.before = .ok (x.tick, x.after))
    (hspec : x.spec.IsGentle) (hn : 0 < n.toInt) :
    CountKept c₀ k n (x.resource h) x.after
      ∧ (x.before.AwakeAt k n → x.after.AwakeAt k n ∨ x.Sleeps ∧ x.Reaches k)
      ∧ (x.Wakes → x.Reaches k → x.after.AwakeAt k n) := by
  rcases tick_cases hlook with hrests | ⟨gap, hacts⟩
  · have hnothing : ∀ r ∈ x.tick.reports, ∀ o ∈ r.impacted, ImpactedObject.Gives k n o := by
      rw [hrests.reports_eq]
      exact fun r hr => (nomatch hr)
    have hrecorded := hinv.recorded.resource hlook hnothing
    rw [hrests.cluster_eq]
    exact ⟨⟨hinv.alike, hinv.accepts, hinv.kept, hrecorded⟩, .inl,
      fun hwakes => absurd hrests.reports_eq hwakes.1⟩
  · have hc : x.before.Keyed := hinv.alike.keyed (hc₀.refusing _)
    have htreats := executeGroups_treats hc hspec.groups hacts.executed hn
      (hinv.recorded.ofEntries _) hinv.kept
    have haccepts : x.before.Accepts k := by
      unfold Accepts
      rw [hinv.accepts]
      rfl
    refine ⟨⟨?_, ?_, htreats.kept, hinv.recorded.resource hlook htreats.right⟩, fun hawake => ?_,
      fun hwakes hreached => htreats.woken hwakes.2 haccepts (.inl hreached)⟩
    · rw [htreats.alike.refusedLists_eq]
      exact hinv.alike.trans htreats.alike
    · rw [htreats.refusedPatches_eq, hinv.accepts]
    · by_cases hreached : x.Reaches k
      · by_cases hsleeps : x.Sleeps
        · exact .inr ⟨hsleeps, hreached⟩
        · have hwaking : ∀ r ∈ x.tick.reports, r.action = .unhibernate :=
            fun r hr => by_contra fun hne => hsleeps ⟨r, hr, hne⟩
          exact .inl (htreats.woken hwaking haccepts (.inr hawake))
      · obtain ⟨m, hm, hm'⟩ := hawake
        exact .inl ⟨m, (htreats.spared hreached).trans hm, hm'⟩

/-- The cluster that some looks leave. -/
def leftBy (c : Cluster) (turns : List Turn) : Cluster :=
  turns.foldl (fun _ x => x.after) c

/-- **Any number of looks.**  Each of them finds the objects of the beginning. If the object is
awake first, or some look wakes it up, and if every look that puts it to sleep is followed by one
that wakes it up, then it is awake in the end. -/
theorem CountKept.run [ZoneDatabase] (hinv : CountKept c₀ k n h c) (hc₀ : c₀.Keyed)
    (hturns : Turns floor h turns) (halone : Unattended c turns)
    (hspec : ∀ x ∈ turns, x.spec.IsGentle) (hn : 0 < n.toInt) :
    (∀ x ∈ turns, Alike (c₀.refusing x.before.refusedLists) x.before
        ∧ x.before.OnlyHidesAutoscalers)
      ∧ (c.AwakeAt k n ∨ (∃ y ∈ turns, y.Wakes ∧ y.Reaches k) →
          Followed (fun x => x.Sleeps ∧ x.Reaches k) (fun y => y.Wakes ∧ y.Reaches k) turns →
            (leftBy c turns).AwakeAt k n) := by
  induction turns generalizing h c with
  | nil =>
      refine ⟨fun x hx => (nomatch hx), fun hawake _ => ?_⟩
      rcases hawake with hawake | ⟨y, hy, -⟩
      · exact hawake
      · cases hy
  | cons x rest ih =>
      cases hturns with
      | cons hlook hnext =>
      cases halone with
      | cons hfound hhides halone' =>
      have hbefore := hinv.found hfound
      obtain ⟨hafter, hstays, hwoken⟩ :=
        hbefore.turn hc₀ hlook (hspec x List.mem_cons_self) hn
      obtain ⟨hfinds, hends⟩ :=
        ih hafter hnext halone' fun y hy => hspec y (List.mem_cons_of_mem x hy)
      refine ⟨fun y hy => ?_, fun hawake hfollowed => hends ?_ hfollowed.tail⟩
      · rcases List.mem_cons.1 hy with rfl | hy
        · exact ⟨hbefore.alike, hhides⟩
        · exact hfinds y hy
      · rcases hawake with ⟨m, hm, hm'⟩ | ⟨y, hy, hwakes, hreached⟩
        · have hawake : x.before.AwakeAt k n := by
            refine ⟨m, ?_, hm'⟩
            rw [hfound]
            exact hm
          rcases hstays hawake with hawake' | hasleep
          · exact .inl hawake'
          · exact .inr (hfollowed.head hasleep)
        · rcases List.mem_cons.1 hy with rfl | hy
          · exact .inl (hwoken hwakes hreached)
          · exact .inr ⟨y, hy, hwakes, hreached⟩

end

end Slumber
