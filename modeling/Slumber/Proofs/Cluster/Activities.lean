import Slumber.Cluster.Store
import Slumber.Selection

/-!
# Activities on a cluster in memory

An activity is a function of the state. These equations run it step by step: what a sequence of
activities does, and what each operation of a client does to a cluster in memory. Finding types,
listing and getting leave the cluster as it is.

* `bind_apply`, `Run.bind_apply`, … — sequences;
* `client_resolveType_apply`, `client_list_apply`, … — operations.
-/

namespace Slumber

section

variable {σ α β : Type}

theorem bind_apply (x : StateM σ α) (f : α → StateM σ β) (s : σ) :
    (x >>= f) s = f (x s).1 (x s).2 := rfl

theorem pure_apply (a : α) (s : σ) : (pure a : StateM σ α) s = (a, s) := rfl

theorem map_apply (f : α → β) (x : StateM σ α) (s : σ) :
    (f <$> x) s = (f (x s).1, (x s).2) := rfl

namespace Run

theorem pure_apply (a : α) (s : σ) : (pure a : Run σ α) s = .ok (a, s) := rfl

/-- A sequence goes through when both of its parts do. -/
theorem bind_ok {x : Run σ α} {f : α → Run σ β} {s s' : σ} {b : β} :
    (x >>= f) s = .ok (b, s') ↔ ∃ a s₁, x s = .ok (a, s₁) ∧ f a s₁ = .ok (b, s') := by
  show (x s).bind (fun p => f p.1 p.2) = _ ↔ _
  cases x s with
  | error e => simp [Except.bind]
  | ok p =>
      simp only [Except.bind, Except.ok.injEq]
      exact ⟨fun h => ⟨p.1, p.2, rfl, h⟩, fun ⟨a, s₁, hp, h⟩ => by rw [hp]; exact h⟩

/-- A sequence whose first part goes through. -/
theorem bind_of_ok {x : Run σ α} {f : α → Run σ β} {s s₁ : σ} {a : α} (h : x s = .ok (a, s₁)) :
    (x >>= f) s = f a s₁ := by
  show (x s).bind (fun p => f p.1 p.2) = _
  rw [h]
  rfl

/-- A part that nothing stops goes through. -/
theorem bind_lift (x : StateM σ α) (f : α → Run σ β) (s : σ) :
    (lift x >>= f) s = f (x s).1 (x s).2 := rfl

end Run

end

/-! ### Operations on a cluster in memory -/

namespace Cluster

variable (c : Cluster) (ns : String) (kind : ObjectKind) (name : String)

/-- The reply to the question for a type. -/
def typeReply : Reply ResourceType :=
  match c.findType? name with
  | some t => .ok t
  | none => .error (.unknownType name)

theorem toOption_typeReply : (c.typeReply name).toOption = c.findType? name := by
  unfold typeReply
  cases c.findType? name <;> rfl

/-- The reply to the question for an object. -/
def getReply : Reply Manifest :=
  match c.object? (c.keyOf ns kind name) with
  | some m => .ok m
  | none => .error (.notFound (c.keyOf ns kind name).text)

theorem toOption_getReply :
    (c.getReply ns kind name).toOption = c.object? (c.keyOf ns kind name) := by
  unfold getReply
  cases c.object? (c.keyOf ns kind name) <;> rfl

end Cluster

section

variable (ns : String) (kind : ObjectKind) (name : String) (c : Cluster)

theorem client_resolveType_apply :
    ResourceClient.resolveType name c = (c.typeReply name, c) := by
  show (match c.findType? name with
    | some t => ((.ok t : Reply ResourceType), c)
    | none => (.error (.unknownType name), c)) = _
  unfold Cluster.typeReply
  cases c.findType? name <;> rfl

theorem client_list_apply (namespaceName : Option String) (type : ResourceType)
    (labels : Option String) :
    ResourceClient.list namespaceName type labels c = (c.list namespaceName type labels, c) := rfl

theorem client_get_apply : ResourceClient.get ns kind name c = (c.getReply ns kind name, c) := by
  show (match c.object? (c.keyOf ns kind name) with
    | some m => ((.ok m : Reply Manifest), c)
    | none => (.error (.notFound (c.keyOf ns kind name).text), c)) = _
  unfold Cluster.getReply
  cases c.object? (c.keyOf ns kind name) <;> rfl

theorem client_patch_apply (patch : Json) (flavour : PatchKind) :
    ResourceClient.patch ns kind name patch flavour c
      = c.patch (c.keyOf ns kind name) patch flavour := rfl

theorem client_delete_apply (force : Bool) :
    ResourceClient.delete ns kind name force c = c.delete (c.keyOf ns kind name) := rfl

end

end Slumber
