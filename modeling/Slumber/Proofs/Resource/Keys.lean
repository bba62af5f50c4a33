import Slumber.Proofs.Text.Cutting
import Slumber.Resource.Manifest

/-!
# Keys in writing

A key without slashes in its parts, and with a kind and a name, is read back from its text; and a
text that is read as a key is the text of that key. So the text tells such keys apart. The interface
version of an object, which stands in one part of its document, takes two parts of its key. It is
split at its first slash and put together again without loss, unless it begins with that slash.

* `ObjectKey.ofText?_eq_some_iff` — which texts are read as which keys;
* `ObjectKind.apiVersion_ofApiVersion` — interface versions;
* `Manifest.key_isWritable` — the keys of objects;
* `keys_round_trip` — all of it.
-/

namespace Slumber

open Slumber.Text

/-! ### Keys -/

namespace ObjectKey

/-- No part of the key holds a slash, and it has a kind and a name. -/
structure IsWritable (k : ObjectKey) : Prop where
  slash_not_mem : ∀ p ∈ k.parts, '/' ∉ p.toList
  kind_ne : k.kind ≠ ""
  name_ne : k.name ≠ ""

theorem isWritable_iff {k : ObjectKey} :
    k.IsWritable ↔ (∀ p ∈ k.parts, '/' ∉ p.toList) ∧ k.kind ≠ "" ∧ k.name ≠ "" :=
  ⟨fun h => ⟨h.slash_not_mem, h.kind_ne, h.name_ne⟩, fun h => ⟨h.1, h.2.1, h.2.2⟩⟩

instance (k : ObjectKey) : Decidable k.IsWritable :=
  decidable_of_iff _ isWritable_iff.symm

variable {k : ObjectKey} {s : String}

/-- The text of a key is a slash, and its parts with slashes between them. -/
theorem toList_text (k : ObjectKey) :
    k.text.toList = '/' :: joinWith ['/'] (k.parts.map String.toList) := by
  simp [text, parts, joinWith, String.join]

theorem ofText?_text (h : k.IsWritable) : ofText? k.text = some k := by
  have hpieces : splitOn '/' (joinWith ['/'] (k.parts.map String.toList))
      = k.parts.map String.toList := by
    refine splitOn_joinWith (by simp [parts]) fun p hp => ?_
    obtain ⟨part, hpart, rfl⟩ := List.mem_map.1 hp
    exact h.slash_not_mem part hpart
  have hparts : (k.parts.map String.toList).map String.ofList = k.parts := by
    simp [Function.comp_def]
  unfold ofText?
  simp only [toList_text, hpieces, hparts]
  exact if_pos ⟨h.kind_ne, h.name_ne⟩

/-- **Reading keys.**  A text is read as a key just if it is the text of the key, and the key can be
written. -/
theorem ofText?_eq_some_iff : ofText? s = some k ↔ k.IsWritable ∧ k.text = s := by
  refine ⟨fun h => ?_, fun ⟨hk, hs⟩ => hs ▸ ofText?_text hk⟩
  unfold ofText? at h
  split at h
  case h_2 => cases h
  case h_1 cs hcs =>
    split at h
    case h_2 => cases h
    case h_1 ns group version kind name hpieces =>
      split at h
      case isFalse => cases h
      case isTrue hne =>
        cases h
        -- The five parts are the pieces, which hold no slash and join to what was read.
        have hparts : splitOn '/' cs
            = (ObjectKey.mk ns group version kind name).parts.map String.toList := by
          rw [parts, ← hpieces]
          simp [Function.comp_def]
        refine ⟨⟨fun p hp => ?_, hne.1, hne.2⟩, String.toList_injective ?_⟩
        · exact not_mem_of_mem_splitOn (hparts ▸ List.mem_map_of_mem hp)
        · rw [toList_text, ← hparts, joinWith_splitOn, hcs]

/-- Keys that can be written are told apart by their texts. -/
theorem IsWritable.eq_of_text_eq {l : ObjectKey} (hk : k.IsWritable) (hl : l.IsWritable)
    (h : k.text = l.text) : k = l := by
  have hread := ofText?_text hk
  rw [h, ofText?_text hl] at hread
  exact (Option.some.inj hread).symm

end ObjectKey

/-! ### Interface versions -/

/-- An interface version that does not begin with a slash is put together again. -/
theorem ObjectKind.apiVersion_ofApiVersion {version : String}
    (h : version.toList.head? ≠ some '/') (kind : String) :
    (ofApiVersion version kind).apiVersion = version := by
  unfold ofApiVersion
  cases hcut : cutAt '/' version.toList with
  | none => rfl
  | some halves =>
      obtain ⟨group, rest⟩ := halves
      obtain ⟨hjoin, -⟩ := cutAt_eq_some hcut
      have hgroup : String.ofList group ≠ "" := by
        intro hempty
        have hnil : group = [] := by simpa using congrArg String.toList hempty
        rw [hjoin, hnil] at h
        exact h rfl
      simp only [apiVersion, if_neg hgroup]
      exact String.toList_injective (by simp [hjoin])

/-- The halves of an interface version with at most one slash hold none. -/
theorem ObjectKind.slash_not_mem_ofApiVersion {version : String}
    (h : version.toList.count '/' ≤ 1) (kind : String) :
    '/' ∉ (ofApiVersion version kind).group.toList
      ∧ '/' ∉ (ofApiVersion version kind).version.toList := by
  unfold ofApiVersion
  cases hcut : cutAt '/' version.toList with
  | none => exact ⟨by simp, not_mem_of_cutAt_eq_none hcut⟩
  | some halves =>
      obtain ⟨group, rest⟩ := halves
      obtain ⟨hjoin, hgroup⟩ := cutAt_eq_some hcut
      rw [hjoin, List.count_append, List.count_cons_self] at h
      have hrest : '/' ∉ rest := List.count_eq_zero.1 (by omega)
      simp only [String.toList_ofList]
      exact ⟨hgroup, hrest⟩

/-! ### The keys of objects -/

namespace Manifest

/-- What makes the key of an object one that can be written. -/
structure HasWritableKey (m : Manifest) : Prop where
  namespaceName : '/' ∉ m.namespaceName.toList
  kind : '/' ∉ m.kind.toList
  name : '/' ∉ m.name.toList
  apiVersion : m.apiVersion.toList.count '/' ≤ 1
  kind_ne : m.kind ≠ ""
  name_ne : m.name ≠ ""

theorem objectKind_kind (m : Manifest) : m.objectKind.kind = m.kind := by
  unfold objectKind ObjectKind.ofApiVersion
  split <;> rfl

theorem key_isWritable {m : Manifest} (h : m.HasWritableKey) : m.key.IsWritable := by
  obtain ⟨hgroup, hversion⟩ := ObjectKind.slash_not_mem_ofApiVersion h.apiVersion m.kind
  refine ⟨?_, ?_, h.name_ne⟩
  · simp only [key, objectKind_kind, ObjectKey.parts, List.forall_mem_cons]
    exact ⟨h.namespaceName, hgroup, hversion, h.kind, h.name, by simp⟩
  · simpa only [key, objectKind_kind] using h.kind_ne

end Manifest

/-! ### Round trips -/

/-- **Keys round-trip.**  A key without slashes in its parts, with a kind and a name, is read back
from its text. A text that is read as a key is the text of that key, which is such a key. So two
such keys with one text are equal. An interface version that does not begin with a slash is put
together again from its halves. And an object without slashes in its namespace, kind and name, with
at most one in its interface version, and with a kind and a name has a key that is read back. -/
theorem keys_round_trip :
    (∀ k : ObjectKey, k.IsWritable → ObjectKey.ofText? k.text = some k)
    ∧ (∀ s k, ObjectKey.ofText? s = some k → k.text = s ∧ k.IsWritable)
    ∧ (∀ k l : ObjectKey, k.IsWritable → l.IsWritable → k.text = l.text → k = l)
    ∧ (∀ version kind : String, version.toList.head? ≠ some '/' →
        (ObjectKind.ofApiVersion version kind).apiVersion = version)
    ∧ ∀ m : Manifest, m.HasWritableKey → ObjectKey.ofText? m.key.text = some m.key := by
  refine ⟨fun k => ObjectKey.ofText?_text, fun s k h => ?_, fun k l => ?_, fun version kind h => ?_,
    fun m h => ?_⟩
  · exact (ObjectKey.ofText?_eq_some_iff.1 h).symm
  · exact ObjectKey.IsWritable.eq_of_text_eq
  · exact ObjectKind.apiVersion_ofApiVersion h kind
  · exact ObjectKey.ofText?_text (Manifest.key_isWritable h)

/-- A pod, whose kind belongs to the group without a name. -/
def frontPod : Manifest :=
  ⟨.obj [("apiVersion", .str "v1"), ("kind", .str "Pod"),
    ("metadata", .obj [("name", .str "front-0"), ("namespace", .str "dev")])]⟩

/-- An empty part of a key leaves two slashes in a row. -/
theorem keys_round_trip_front :
    frontPod.HasWritableKey ∧ frontPod.key.text = "/dev//v1/Pod/front-0"
    ∧ ObjectKey.ofText? frontPod.key.text = some ⟨"dev", "", "v1", "Pod", "front-0"⟩
    ∧ frontPod.apiVersion.toList.head? ≠ some '/'
    ∧ frontPod.key.objectKind.apiVersion = frontPod.apiVersion
    ∧ (ObjectKey.mk "dev" "" "v1" "Pod" "front-0").IsWritable
    ∧ ∀ k : ObjectKey, k.IsWritable → k.text = "/dev//v1/Pod/front-0"
        → k = ⟨"dev", "", "v1", "Pod", "front-0"⟩ := by
  obtain ⟨-, -, hsame, hversion, hobject⟩ := keys_round_trip
  have hkeyed : frontPod.HasWritableKey :=
    ⟨by decide, by decide, by decide, by decide, by decide, by decide⟩
  have hkey : frontPod.key = ⟨"dev", "", "v1", "Pod", "front-0"⟩ := by decide
  have htext : frontPod.key.text = "/dev//v1/Pod/front-0" := by decide
  have hhead : frontPod.apiVersion.toList.head? ≠ some '/' := by decide
  have hwritable : (ObjectKey.mk "dev" "" "v1" "Pod" "front-0").IsWritable := by decide
  refine ⟨hkeyed, htext, hkey ▸ hobject frontPod hkeyed, hhead, ?_, hwritable, fun k hk h => ?_⟩
  · exact hversion frontPod.apiVersion frontPod.kind hhead
  · exact hsame k _ hk hwritable (h.trans (hkey ▸ htext).symm)

end Slumber
