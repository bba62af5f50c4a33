import Mathlib.Data.List.Infix
import Slumber.Json.Patch

/-!
# What an edit of a document changes

An edit at a pointer leaves every part of the document alone that lies neither above nor below that
pointer. The pointers of edits are *named*: none of their steps is the index of an array, so that an
edit only ever goes through objects.

* `Pointer.Apart` — two pointers neither of which leads through the other;
* `Json.AgreeOff` — two documents with the same parts apart from some pointers;
* `Json.EditedAt` — a document and what an edit at a pointer makes of it;
* `Json.replaceAt_ok`, `Json.addAt_ok`, `Json.removeAt_ok` — what is at the pointer after an edit
  that went through, and that all else is as before.
-/

namespace Slumber

namespace Pointer

/-- Neither pointer leads through the other. -/
def Apart (p q : Pointer) : Prop :=
  ¬ p <+: q ∧ ¬ q <+: p

instance (p q : Pointer) : Decidable (Apart p q) :=
  inferInstanceAs (Decidable (_ ∧ _))

/-- No step of the pointer is the index of an array. -/
def IsNamed (p : Pointer) : Prop :=
  ∀ s ∈ p, index? s = none

instance (p : Pointer) : Decidable p.IsNamed :=
  inferInstanceAs (Decidable (∀ s ∈ p, index? s = none))

theorem Apart.symm {p q : Pointer} (h : p.Apart q) : q.Apart p :=
  ⟨h.2, h.1⟩

theorem not_apart_nil (q : Pointer) : ¬ Apart [] q :=
  fun h => h.1 List.nil_prefix

theorem apart_cons_iff {s t : String} {p q : Pointer} :
    Apart (s :: p) (t :: q) ↔ s ≠ t ∨ Apart p q := by
  unfold Apart
  rw [List.cons_prefix_cons, List.cons_prefix_cons]
  by_cases h : s = t
  · simp [h]
  · simp [h, Ne.symm h]

/-- What is apart from a pointer is apart from everything below it. -/
theorem Apart.below {p q : Pointer} (h : p.Apart q) (r : Pointer) : (p ++ r).Apart q := by
  refine ⟨fun hp => h.1 ((List.prefix_append p r).trans hp), fun hq => ?_⟩
  rcases List.prefix_or_prefix_of_prefix hq (List.prefix_append p r) with hqp | hpq
  · exact h.2 hqp
  · exact h.1 hpq

end Pointer

namespace Json

open Pointer

/-! ### Following pointers -/

theorem at?_append (j : Json) (p q : Pointer) : j.at? (p ++ q) = (j.at? p).bind (·.at? q) := by
  induction p generalizing j with
  | nil => simp
  | cons s p ih =>
      cases j with
      | obj fields =>
          simp only [List.cons_append, at?]
          cases FiniteMap.find? fields s with
          | none => rfl
          | some x => exact ih x
      | arr xs =>
          simp only [List.cons_append, at?]
          cases index? s with
          | none => rfl
          | some i =>
              cases h : xs[i]? with
              | none => simp [h]
              | some x => simpa [h] using ih x
      | _ => rfl

theorem at?_obj_singleton (fields : List (String × Json)) (s : String) :
    (Json.obj fields).at? [s] = FiniteMap.find? fields s := by
  simp only [at?]
  cases FiniteMap.find? fields s <;> simp

/-- Behind a step that is no index there is something only in an object. -/
theorem isObject_of_at? {j x : Json} {s : String} {p : Pointer} (hs : index? s = none)
    (h : j.at? (s :: p) = some x) : ∃ fields, j = .obj fields := by
  cases j with
  | obj fields => exact ⟨fields, rfl⟩
  | arr xs => simp [at?, hs] at h
  | _ => simp [at?] at h

/-! ### Documents that agree -/

/-- The documents have the same parts apart from the given pointers. -/
def AgreeOff (changed : List Pointer) (a b : Json) : Prop :=
  ∀ p, (∀ q ∈ changed, q.Apart p) → a.at? p = b.at? p

theorem AgreeOff.refl (changed : List Pointer) (a : Json) : AgreeOff changed a a :=
  fun _ _ => rfl

theorem AgreeOff.symm {changed : List Pointer} {a b : Json} (h : AgreeOff changed a b) :
    AgreeOff changed b a :=
  fun p hp => (h p hp).symm

theorem AgreeOff.trans {changed : List Pointer} {a b c : Json} (h : AgreeOff changed a b)
    (h' : AgreeOff changed b c) : AgreeOff changed a c :=
  fun p hp => (h p hp).trans (h' p hp)

/-- Documents that agree off some pointers agree off others, if each of the first lies below one of
the others. -/
theorem AgreeOff.mono {changed changed' : List Pointer} {a b : Json} (h : AgreeOff changed a b)
    (hsub : ∀ q ∈ changed, ∃ q' ∈ changed', q' <+: q) : AgreeOff changed' a b := by
  intro p hp
  refine h p fun q hq => ?_
  obtain ⟨q', hq', r, rfl⟩ := hsub q hq
  exact (hp q' hq').below r

/-! ### Changing a part -/

theorem modifyAt_ok {f : Json → Except PatchFault Json} {p : Pointer} {j j' : Json}
    (h : modifyAt f p j = .ok j') :
    ∃ x y, j.at? p = some x ∧ f x = .ok y ∧ j'.at? p = some y := by
  induction p generalizing j j' with
  | nil =>
      refine ⟨j, j', at?_nil j, ?_, at?_nil j'⟩
      cases j <;> exact h
  | cons s p ih =>
      cases j with
      | obj fields =>
          simp only [modifyAt] at h
          cases hs : FiniteMap.find? fields s with
          | none => simp [hs] at h
          | some x =>
              simp only [hs] at h
              cases hm : modifyAt f p x with
              | error e => simp [hm, Except.map] at h
              | ok y =>
                  simp only [hm, Except.map, Except.ok.injEq] at h
                  subst h
                  simpa [at?, hs] using ih hm
      | arr xs =>
          simp only [modifyAt] at h
          cases hi : index? s with
          | none => simp [hi] at h
          | some i =>
              simp only [hi] at h
              cases hx : xs[i]? with
              | none => simp [hx] at h
              | some x =>
                  simp only [hx] at h
                  cases hm : modifyAt f p x with
                  | error e => simp [hm, Except.map] at h
                  | ok y =>
                      simp only [hm, Except.map, Except.ok.injEq] at h
                      subst h
                      obtain ⟨hlt, -⟩ := List.getElem?_eq_some_iff.1 hx
                      have hset : (xs.set i y)[i]? = some y := by simp [hlt]
                      simp only [at?, hi, hx, hset]
                      exact ih hm
      | _ => simp [modifyAt] at h

/-- A part that is there can be changed. -/
theorem modifyAt_of_at? {f : Json → Except PatchFault Json} {p : Pointer} {j x y : Json}
    (hx : j.at? p = some x) (hf : f x = .ok y) : ∃ j', modifyAt f p j = .ok j' := by
  induction p generalizing j with
  | nil =>
      rw [at?_nil, Option.some.injEq] at hx
      subst hx
      refine ⟨y, ?_⟩
      cases j <;> exact hf
  | cons s p ih =>
      cases j with
      | obj fields =>
          simp only [at?] at hx
          cases hs : FiniteMap.find? fields s with
          | none => simp [hs] at hx
          | some z =>
              simp only [hs] at hx
              obtain ⟨z', hz⟩ := ih hx
              exact ⟨_, by simp only [modifyAt, hs, hz, Except.map]; rfl⟩
      | arr xs =>
          simp only [at?] at hx
          cases hi : index? s with
          | none => simp [hi] at hx
          | some i =>
              simp only [hi] at hx
              cases hz : xs[i]? with
              | none => simp [hz] at hx
              | some z =>
                  simp only [hz] at hx
                  obtain ⟨z', hz'⟩ := ih hx
                  exact ⟨_, by simp only [modifyAt, hi, hz, hz', Except.map]; rfl⟩
      | _ => simp [at?] at hx

/-- `b` is `a` with another part at a pointer, to which objects lead. Behind the last step there
may be something in only one of the two. -/
inductive EditedAt : Pointer → Json → Json → Prop
  | root (a b : Json) : EditedAt [] a b
  | field {s : String} {fields fields' : List (String × Json)}
      (others : ∀ t, t ≠ s → FiniteMap.find? fields' t = FiniteMap.find? fields t) :
      EditedAt [s] (.obj fields) (.obj fields')
  | inner {s : String} {p : Pointer} {fields fields' : List (String × Json)} {x y : Json}
      (others : ∀ t, t ≠ s → FiniteMap.find? fields' t = FiniteMap.find? fields t)
      (hx : FiniteMap.find? fields s = some x) (hy : FiniteMap.find? fields' s = some y)
      (h : EditedAt p x y) : EditedAt (s :: p) (.obj fields) (.obj fields')

/-- An edit leaves alone what is apart from its pointer. -/
theorem EditedAt.agreeOff {p : Pointer} {a b : Json} (h : EditedAt p a b) : AgreeOff [p] a b := by
  intro q hq
  replace hq : p.Apart q := hq p (by simp)
  induction h generalizing q with
  | root a b => exact absurd hq (not_apart_nil q)
  | field others =>
      cases q with
      | nil => exact absurd hq.symm (not_apart_nil _)
      | cons t q =>
          have hst := (apart_cons_iff.1 hq).resolve_right (not_apart_nil q)
          simp [at?, others t (Ne.symm hst)]
  | @inner s p fields fields' x y others hx hy _ ih =>
      cases q with
      | nil => exact absurd hq.symm (not_apart_nil _)
      | cons t q =>
          by_cases hst : s = t
          · subst hst
            have hpq : Apart p q := (apart_cons_iff.1 hq).resolve_left (by simp)
            simpa [at?, hx, hy] using ih q hpq
          · simp [at?, others t (Ne.symm hst)]

/-- An edit below a pointer is an edit at that pointer. -/
theorem EditedAt.above {p r : Pointer} {a b : Json} (h : EditedAt (p ++ r) a b) :
    EditedAt p a b := by
  induction p generalizing a b with
  | nil => exact .root a b
  | cons s p ih =>
      rw [List.cons_append] at h
      generalize hq : p ++ r = q at h
      cases h with
      | field others =>
          obtain ⟨rfl, -⟩ := List.append_eq_nil_iff.1 hq
          exact .field others
      | inner others hx hy h => exact .inner others hx hy (ih (hq ▸ h))

/-- A change at a named pointer that edits what it finds there. -/
theorem modifyAt_edited {f : Json → Except PatchFault Json} {dir : Pointer} (hdir : dir.IsNamed)
    (r : Pointer) {j j' : Json} (h : modifyAt f dir j = .ok j')
    (hf : ∀ x y, f x = .ok y → EditedAt r x y) : EditedAt (dir ++ r) j j' := by
  induction dir generalizing j j' with
  | nil =>
      refine hf j j' ?_
      cases j <;> exact h
  | cons s dir ih =>
      have hs : index? s = none := hdir s (by simp)
      have hnamed : IsNamed dir := fun t ht => hdir t (by simp [ht])
      obtain ⟨x, y, hx, -, -⟩ := modifyAt_ok h
      obtain ⟨fields, rfl⟩ := isObject_of_at? hs hx
      simp only [modifyAt] at h
      cases hfind : FiniteMap.find? fields s with
      | none => simp [hfind] at h
      | some z =>
          simp only [hfind] at h
          cases hm : modifyAt f dir z with
          | error e => simp [hm, Except.map] at h
          | ok w =>
              simp only [hm, Except.map, Except.ok.injEq] at h
              subst h
              exact .inner (fun t ht => FiniteMap.find?_insert_of_ne _ _ (Ne.symm ht)) hfind
                (FiniteMap.find?_insert_self _ _ _) (ih hnamed hm)

/-- A change at a named pointer leaves alone what is apart from it. -/
theorem modifyAt_agreeOff {f : Json → Except PatchFault Json} {p : Pointer} (hp : p.IsNamed)
    {j j' : Json} (h : modifyAt f p j = .ok j') : AgreeOff [p] j j' := by
  have hedited := modifyAt_edited hp [] h fun x y _ => .root x y
  rw [List.append_nil] at hedited
  exact hedited.agreeOff

/-! ### The three edits -/

theorem replaceAt_edited {p : Pointer} (hp : p.IsNamed) {j j' v : Json}
    (h : j.replaceAt p v = .ok j') : EditedAt p j j' := by
  have hedited := modifyAt_edited hp [] h fun x y _ => .root x y
  rwa [List.append_nil] at hedited

/-- After a replacement the new value is at the pointer, and all else is as before. -/
theorem replaceAt_ok {p : Pointer} (hp : p.IsNamed) {j j' v : Json}
    (h : j.replaceAt p v = .ok j') : j'.at? p = some v ∧ AgreeOff [p] j j' := by
  obtain ⟨x, y, -, hy, hj'⟩ := modifyAt_ok h
  cases hy
  exact ⟨hj', (replaceAt_edited hp h).agreeOff⟩

theorem replaceAt_of_at? {p : Pointer} {j x : Json} (v : Json) (h : j.at? p = some x) :
    ∃ j', j.replaceAt p v = .ok j' :=
  modifyAt_of_at? h rfl

theorem addAt_concat (j : Json) (dir : Pointer) (s : String) (v : Json) :
    j.addAt (dir ++ [s]) v = modifyAt (addStep s v) dir j := by
  simp [addAt]

theorem removeAt_concat (j : Json) (dir : Pointer) (s : String) :
    j.removeAt (dir ++ [s]) = modifyAt (removeStep s) dir j := by
  simp [removeAt]

/-- What an edit below a pointer with a named last step can go through: an object, unless `s` is
the sign for the end of an array. -/
theorem isObject_of_addStep {s : String} {v x y : Json} (hs : index? s = none) (hdash : s ≠ "-")
    (h : addStep s v x = .ok y) : ∃ fields, x = .obj fields := by
  cases x with
  | obj fields => exact ⟨fields, rfl⟩
  | arr xs => simp [addStep, hs, hdash] at h
  | _ => simp [addStep] at h

theorem isObject_of_removeStep {s : String} {x y : Json} (hs : index? s = none)
    (h : removeStep s x = .ok y) : ∃ fields, x = .obj fields := by
  cases x with
  | obj fields => exact ⟨fields, rfl⟩
  | arr xs => simp [removeStep, hs] at h
  | _ => simp [removeStep] at h

theorem addAt_edited {dir : Pointer} {s : String} (hdir : dir.IsNamed) (hs : index? s = none)
    (hdash : s ≠ "-") {j j' v : Json} (h : j.addAt (dir ++ [s]) v = .ok j') :
    EditedAt (dir ++ [s]) j j' := by
  rw [addAt_concat] at h
  refine modifyAt_edited hdir [s] h fun x y hy => ?_
  obtain ⟨fields, rfl⟩ := isObject_of_addStep hs hdash hy
  cases hy
  exact .field fun t ht => FiniteMap.find?_insert_of_ne _ _ (Ne.symm ht)

theorem removeAt_edited {dir : Pointer} {s : String} (hdir : dir.IsNamed) (hs : index? s = none)
    {j j' : Json} (h : j.removeAt (dir ++ [s]) = .ok j') : EditedAt (dir ++ [s]) j j' := by
  rw [removeAt_concat] at h
  refine modifyAt_edited hdir [s] h fun x y hy => ?_
  obtain ⟨fields, rfl⟩ := isObject_of_removeStep hs hy
  simp only [removeStep] at hy
  split at hy
  · cases hy
    exact .field fun t ht => FiniteMap.find?_erase_of_ne _ (Ne.symm ht)
  · cases hy

/-- After an addition the new value is at the pointer, and all else is as before. -/
theorem addAt_ok {dir : Pointer} {s : String} (hdir : dir.IsNamed) (hs : index? s = none)
    (hdash : s ≠ "-") {j j' v : Json} (h : j.addAt (dir ++ [s]) v = .ok j') :
    j'.at? (dir ++ [s]) = some v ∧ AgreeOff [dir ++ [s]] j j' := by
  refine ⟨?_, (addAt_edited hdir hs hdash h).agreeOff⟩
  rw [addAt_concat] at h
  obtain ⟨x, y, -, hy, hj'⟩ := modifyAt_ok h
  obtain ⟨fields, rfl⟩ := isObject_of_addStep hs hdash hy
  cases hy
  rw [at?_append, hj', Option.bind_some, at?_obj_singleton, FiniteMap.find?_insert_self]

/-- After a removal nothing is at the pointer, and all else is as before. -/
theorem removeAt_ok {dir : Pointer} {s : String} (hdir : dir.IsNamed) (hs : index? s = none)
    {j j' : Json} (h : j.removeAt (dir ++ [s]) = .ok j') :
    j'.at? (dir ++ [s]) = none ∧ AgreeOff [dir ++ [s]] j j' := by
  refine ⟨?_, (removeAt_edited hdir hs h).agreeOff⟩
  rw [removeAt_concat] at h
  obtain ⟨x, y, -, hy, hj'⟩ := modifyAt_ok h
  obtain ⟨fields, rfl⟩ := isObject_of_removeStep hs hy
  simp only [removeStep] at hy
  split at hy
  · cases hy
    rw [at?_append, hj', Option.bind_some, at?_obj_singleton, FiniteMap.find?_erase_self]
  · cases hy

/-- A field that is there can be removed. -/
theorem removeAt_of_at? {dir : Pointer} {s : String} (hs : index? s = none) {j x : Json}
    (h : j.at? (dir ++ [s]) = some x) : ∃ j', j.removeAt (dir ++ [s]) = .ok j' := by
  rw [at?_append] at h
  obtain ⟨parent, hparent, hx⟩ := Option.bind_eq_some_iff.1 h
  obtain ⟨fields, rfl⟩ := isObject_of_at? hs hx
  rw [at?_obj_singleton] at hx
  rw [removeAt_concat]
  exact modifyAt_of_at? hparent (by simp only [removeStep, FiniteMap.contains, hx]; rfl)

end Json

end Slumber
