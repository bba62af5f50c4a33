import Slumber.Json.Patch
import Slumber.Proofs.Text.Cutting

/-!
# Pointers and patches in writing

The text of a pointer reads back as that pointer, and a patch written as a document reads back as
that patch. So what a client sends is what the cluster applies.

* `Pointer.read?_text` — every pointer is read back from its text;
* `PatchOperation.ofJson?_toJson` and `Patch.ofJson?_toJson` — the same for operations and patches.
-/

namespace Slumber

open Slumber.Text

namespace Pointer

/-! ### One step -/

theorem slash_not_mem_escapeStep (s : String) : '/' ∉ escapeStep s := by
  intro h
  obtain ⟨c, -, hc⟩ := List.mem_flatMap.1 h
  by_cases ht : c = '~'
  · simp [ht] at hc
  · by_cases hs : c = '/'
    · simp [hs] at hc
    · rw [if_neg ht, if_neg hs, List.mem_singleton] at hc
      exact hs hc.symm

theorem readStep?_cons_of_ne {c : Char} (h : c ≠ '~') (cs : List Char) :
    readStep? (c :: cs) = (readStep? cs).map (c :: ·) := by
  rw [readStep?, if_neg h]
  · intro rest hc _
    exact h hc
  · intro rest hc _
    exact h hc

theorem readStep?_escapeStep (s : String) : readStep? (escapeStep s) = some s.toList := by
  unfold escapeStep
  induction s.toList with
  | nil => rfl
  | cons c cs ih =>
      rw [List.flatMap_cons]
      by_cases ht : c = '~'
      · simp [ht, readStep?, ih]
      · by_cases hs : c = '/'
        · simp [hs, readStep?, ih]
        · rw [if_neg ht, if_neg hs, List.singleton_append, readStep?_cons_of_ne ht, ih]
          rfl

/-! ### Whole pointers -/

/-- Cutting the text of a pointer at its slashes gives the escaped steps. -/
theorem splitOn_escaped (s : String) (p : Pointer) :
    splitOn '/' (escapeStep s ++ p.flatMap fun t => '/' :: escapeStep t)
      = escapeStep s :: p.map escapeStep := by
  induction p generalizing s with
  | nil => simp [splitOn_of_not_mem (slash_not_mem_escapeStep s)]
  | cons t p ih =>
      rw [List.flatMap_cons, List.cons_append, splitOn_append_sep (slash_not_mem_escapeStep s),
        ih t]
      rfl

/-- **Pointers read back.**  The text of a pointer is read as that pointer. -/
theorem read?_text (p : Pointer) : read? p.text = some p := by
  cases p with
  | nil => rfl
  | cons s p =>
      have hread : ∀ q : Pointer,
          (q.map escapeStep).mapM (fun step => (readStep? step).map String.ofList) = some q := by
        intro q
        induction q with
        | nil => rfl
        | cons t q ih => simp [readStep?_escapeStep, ih]
      simp only [read?, text, String.toList_ofList, List.flatMap_cons, List.cons_append,
        splitOn_escaped]
      exact hread (s :: p)

end Pointer

/-! ### Patches -/

theorem PatchOperation.pointer?_text (p : Pointer) : pointer? (.str p.text) = some p :=
  Pointer.read?_text p

/-- An operation is read back from its document. -/
theorem PatchOperation.ofJson?_toJson (op : PatchOperation) : ofJson? op.toJson = some op := by
  cases op <;>
    simp [toJson, ofJson?, Json.object, FiniteMap.ofList, FiniteMap.find?_insert_of_ne,
      pointer?_text, Json.text?]

/-- **Patches read back.**  A patch is read back from its document. -/
theorem Patch.ofJson?_toJson (p : Patch) : ofJson? p.toJson = some p := by
  simp only [toJson, ofJson?]
  induction p with
  | nil => rfl
  | cons op p ih => simp [PatchOperation.ofJson?_toJson, ih]

end Slumber
