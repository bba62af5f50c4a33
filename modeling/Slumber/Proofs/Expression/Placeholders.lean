import Slumber.Expression.Evaluator
import Slumber.Proofs.Decimal.Digits
import Slumber.Proofs.SortedMap

/-!
# How placeholders are bound

The placeholders of an expression are found by going through it from left to right, from behind the
last one to where the next one begins; so they do not overlap. What stands between them stays as it
is, and each of them becomes the name of its path, without blanks around it. Paths are numbered in
the order in which they first occur, and a name holds what its path finds in the document.

* `Cut` — a text, cut into its placeholders and what stands between them;
* `exists_cut` — every text can be cut;
* `replacePlaceholders_eq` — the text with names for its placeholders, and the paths named;
* `placeholders_bound` — the main theorem.
-/

namespace Slumber.Expression

open Slumber.Text

/-! ### One placeholder -/

/-- No character is a brace. -/
def IsBraceless (cs : List Char) : Prop :=
  ∀ c ∈ cs, c ≠ '\x7b' ∧ c ≠ '\x7d'

/-- A path in double braces. -/
def bracedChars (path : List Char) : List Char :=
  '\x7b' :: '\x7b' :: (path ++ ['\x7d', '\x7d'])

/-- A text begins with a placeholder: a path without braces in double braces. -/
def BeginsPlaceholder (cs : List Char) : Prop :=
  ∃ path rest, IsBraceless path ∧ cs = bracedChars path ++ rest

theorem placeholder?_braced {path : List Char} (hpath : IsBraceless path) (rest : List Char) :
    placeholder? (bracedChars path ++ rest) = some (path, rest) := by
  have hin : ∀ c ∈ path, (c ≠ '\x7b' && c ≠ '\x7d') = true := by
    intro c hc
    simpa using hpath c hc
  simp only [bracedChars, List.cons_append, List.append_assoc, placeholder?,
    List.takeWhile_append_of_pos hin, List.dropWhile_append_of_pos hin]
  simp

theorem placeholder?_eq_none {cs : List Char} (h : ¬ BeginsPlaceholder cs) :
    placeholder? cs = none := by
  refine Option.eq_none_iff_forall_ne_some.2 fun found hfound => h ?_
  unfold placeholder? at hfound
  split at hfound
  case h_2 => cases hfound
  case h_1 cs =>
    extract_lets inPath at hfound
    split at hfound
    case h_2 => cases hfound
    case h_1 rest hrest =>
      have hbraceless : IsBraceless (cs.takeWhile inPath) := by
        intro c hc
        have hin : inPath c = true := List.all_eq_true.1 List.all_takeWhile c hc
        simpa [inPath] using hin
      have hcs : cs = cs.takeWhile inPath ++ '\x7d' :: '\x7d' :: rest :=
        hrest ▸ List.takeWhile_append_dropWhile.symm
      refine ⟨cs.takeWhile inPath, rest, hbraceless, ?_⟩
      conv => lhs; rw [hcs]
      simp [bracedChars]

theorem isSome_placeholder?_iff {cs : List Char} :
    (placeholder? cs).isSome = true ↔ BeginsPlaceholder cs := by
  constructor
  · intro h
    by_contra hnone
    rw [placeholder?_eq_none hnone] at h
    cases h
  · rintro ⟨path, rest, hpath, rfl⟩
    rw [placeholder?_braced hpath]
    rfl

instance (cs : List Char) : Decidable (IsBraceless cs) :=
  List.decidableBAll (fun c => c ≠ '\x7b' ∧ c ≠ '\x7d') cs

instance (cs : List Char) : Decidable (BeginsPlaceholder cs) :=
  decidable_of_iff _ isSome_placeholder?_iff

/-! ### All placeholders of a text -/

/-- No placeholder begins in a text that is followed by another one. -/
def NoneBegins (before rest : List Char) : Prop :=
  ∀ back, back <:+ before → back ≠ [] → ¬ BeginsPlaceholder (back ++ rest)

theorem noneBegins_nil (rest : List Char) : NoneBegins [] rest :=
  fun _ hback hne => absurd (List.suffix_nil.1 hback) hne

theorem noneBegins_cons_iff {c : Char} {before rest : List Char} :
    NoneBegins (c :: before) rest
      ↔ ¬ BeginsPlaceholder (c :: (before ++ rest)) ∧ NoneBegins before rest := by
  constructor
  · exact fun h => ⟨h _ (List.suffix_refl _) (List.cons_ne_nil _ _),
      fun back hback => h back (hback.trans (List.suffix_cons _ _))⟩
  · rintro ⟨hc, hbefore⟩ back hback hne
    rcases List.suffix_cons_iff.1 hback with rfl | hback
    · exact hc
    · exact hbefore back hback hne

instance decidableNoneBegins : (before rest : List Char) → Decidable (NoneBegins before rest)
  | [], rest => isTrue (noneBegins_nil rest)
  | _ :: before, rest =>
    have := decidableNoneBegins before rest
    decidable_of_iff _ noneBegins_cons_iff.symm

/-- A placeholder of a text: what stands between the one before and this one, and its path. -/
structure Placeholder where
  before : List Char
  path : List Char
deriving DecidableEq, Repr

/-- The path of a placeholder without blanks around it. -/
def Placeholder.key (p : Placeholder) : String :=
  trim (String.ofList p.path)

/-- A text is cut, from left to right, into placeholders with what stands before each of them, where
none begins, and what stands behind the last of them. -/
inductive Cut : List Char → List Placeholder → List Char → Prop
  | last {cs : List Char} (none : NoneBegins cs []) : Cut cs [] cs
  | next (before path : List Char) {rest last : List Char} {ps : List Placeholder}
      (braceless : IsBraceless path) (first : NoneBegins before (bracedChars path ++ rest))
      (others : Cut rest ps last) :
      Cut (before ++ (bracedChars path ++ rest)) (⟨before, path⟩ :: ps) last

/-- A character that begins no placeholder goes to what stands before the first one. -/
theorem Cut.cons {c : Char} {cs last : List Char} {ps : List Placeholder} (h : Cut cs ps last)
    (hc : ¬ BeginsPlaceholder (c :: cs)) : ∃ ps' last', Cut (c :: cs) ps' last' := by
  cases h with
  | last none =>
      exact ⟨[], _, .last (noneBegins_cons_iff.2 ⟨by rwa [List.append_nil], none⟩)⟩
  | @next before path rest last ps braceless first others =>
      exact ⟨⟨c :: before, path⟩ :: ps, last,
        .next (c :: before) path braceless (noneBegins_cons_iff.2 ⟨hc, first⟩) others⟩

/-- Every text can be cut. -/
theorem exists_cut (cs : List Char) : ∃ ps last, Cut cs ps last := by
  induction hlength : cs.length using Nat.strongRecOn generalizing cs with
  | ind n ih =>
      by_cases hbegins : BeginsPlaceholder cs
      · obtain ⟨path, rest, hpath, rfl⟩ := hbegins
        have hshorter : rest.length < n := by
          rw [← hlength, bracedChars, List.cons_append, List.length_cons, List.cons_append,
            List.length_cons, List.length_append]
          omega
        obtain ⟨ps, last, hcut⟩ := ih rest.length hshorter rest rfl
        exact ⟨⟨[], path⟩ :: ps, last, .next [] path hpath (noneBegins_nil _) hcut⟩
      · cases cs with
        | nil => exact ⟨[], [], .last (noneBegins_nil _)⟩
        | cons c cs =>
            obtain ⟨ps, last, hcut⟩ := ih cs.length (by rw [← hlength]; simp) cs rfl
            exact hcut.cons hbegins

/-! ### Names -/

namespace Bindings

/-- The paths that are named when those of some placeholders follow others that have names. -/
def extend (b : Bindings) (ps : List Placeholder) : Bindings :=
  b ++ ((ps.map Placeholder.key).removeAll b).eraseDups

theorem removeAll_concat (keys : List String) (b : Bindings) (key : String) :
    keys.removeAll (b ++ [key]) = (keys.removeAll b).filter fun k => !k == key := by
  unfold List.removeAll
  rw [List.filter_filter]
  refine List.filter_congr fun k _ => ?_
  rw [List.elem_eq_contains, List.elem_eq_contains, List.contains_append, List.contains_cons,
    List.contains_nil, Bool.or_false, Bool.not_or, Bool.and_comm]

/-- A path that has a name keeps it, and another one is named next. -/
theorem extend_cons (b : Bindings) (p : Placeholder) (ps : List Placeholder) :
    b.extend (p :: ps) = (b.number p.key).2.extend ps := by
  unfold extend number
  rw [List.map_cons, List.cons_removeAll]
  by_cases hmem : p.key ∈ b
  · simp [hmem]
  · rw [if_neg hmem, if_pos (by simpa using hmem), List.eraseDups_cons, removeAll_concat,
      List.append_assoc, List.singleton_append]

/-- Whatever other paths follow, a path keeps its number. -/
theorem number_fst (b : Bindings) (p : Placeholder) (ps : List Placeholder) :
    (b.number p.key).1 = (b.extend (p :: ps)).idxOf p.key := by
  rw [extend_cons]
  unfold number extend
  by_cases hmem : p.key ∈ b
  · rw [if_pos hmem]
    exact (List.idxOf_append_of_mem hmem).symm
  · rw [if_neg hmem, List.append_assoc, List.idxOf_append_of_notMem hmem, List.singleton_append,
      List.idxOf_cons_self]
    rfl

end Bindings

/-- The name of a placeholder, when paths are numbered in their order. -/
def Placeholder.nameIn (p : Placeholder) (paths : List String) : String :=
  Bindings.name (paths.idxOf p.key)

/-- What stands between the placeholders, with names for them. -/
def fill (paths : List String) (ps : List Placeholder) (last : List Char) : List Char :=
  ps.flatMap (fun p => p.before ++ (p.nameIn paths).toList) ++ last

/-- What stands before a placeholder is gone through as it is. -/
theorem replacePlaceholders_before {before rest : List Char} (h : NoneBegins before rest)
    (fuel : Nat) (b : Bindings) :
    replacePlaceholders (before.length + fuel) b (before ++ rest)
      = (before ++ (replacePlaceholders fuel b rest).1, (replacePlaceholders fuel b rest).2) := by
  induction before with
  | nil => simp
  | cons c before ih =>
      obtain ⟨hc, hbefore⟩ := noneBegins_cons_iff.1 h
      rw [List.length_cons, Nat.succ_add, List.cons_append, replacePlaceholders,
        placeholder?_eq_none hc, ih hbefore]
      rfl

/-- **Replacing placeholders.**  They become the names of their paths, what stands between them
stays, and the paths that had no name are named in the order of their first occurrence. -/
theorem replacePlaceholders_eq {cs last : List Char} {ps : List Placeholder} (h : Cut cs ps last)
    {fuel : Nat} (hfuel : cs.length ≤ fuel) (b : Bindings) :
    replacePlaceholders fuel b cs = (fill (b.extend ps) ps last, b.extend ps) := by
  induction h generalizing fuel b with
  | @last cs none =>
      obtain ⟨k, rfl⟩ := Nat.exists_eq_add_of_le hfuel
      have hbefore := replacePlaceholders_before none k b
      have hend : replacePlaceholders k b [] = ([], b) := by
        cases k <;> rfl
      rw [List.append_nil, hend, List.append_nil] at hbefore
      rw [hbefore]
      simp [fill, Bindings.extend]
  | @next before path rest last ps braceless first others ih =>
      obtain ⟨k, rfl⟩ : ∃ k, fuel = before.length + (k + 1) := by
        refine ⟨fuel - before.length - 1, ?_⟩
        simp only [bracedChars, List.length_append, List.length_cons] at hfuel
        omega
      have hrest : rest.length ≤ k := by
        simp only [bracedChars, List.length_append, List.length_cons] at hfuel
        omega
      have hfound := placeholder?_braced braceless rest
      rw [replacePlaceholders_before first]
      rw [bracedChars, List.cons_append] at hfound ⊢
      rw [replacePlaceholders, hfound]
      have hnumber := b.number_fst ⟨before, path⟩ ps
      have hextend := b.extend_cons ⟨before, path⟩ ps
      simp only [Placeholder.key] at hnumber hextend
      simp only [ih hrest, hnumber, ← hextend]
      simp [fill, Placeholder.nameIn, Placeholder.key]

/-! ### Values -/

namespace Bindings

theorem name_injective {i j : Nat} (h : name i = name j) : i = j := by
  have hdigits : Nat.toDigits 10 i = Nat.toDigits 10 j := by
    simpa [name, Nat.toString_eq_repr, Nat.repr] using congrArg String.toList h
  rw [← Decimal.digitsValue_toDigits i, hdigits, Decimal.digitsValue_toDigits]

variable (b : Bindings) (document : Json)

/-- What a path finds in a document, as a value. -/
def valueAt (document : Json) (path : String) : Value :=
  ((document.resolve? path).map Value.ofJson).getD .nil

theorem keys_entries :
    (b.zipIdx.map fun (path, i) => (name i, valueAt document path)).map (·.1)
      = (List.range b.length).map name := by
  rw [List.map_map, List.range_eq_range', ← List.zipIdx_map_snd, List.map_map]
  rfl

theorem nodup_keys_entries :
    ((b.zipIdx.map fun (path, i) => (name i, valueAt document path)).map (·.1)).Nodup := by
  rw [keys_entries]
  exact List.nodup_range.map fun _ _ => name_injective

/-- The names of some paths are numbered from zero on. -/
theorem keys_values_perm : (b.values document).keys.Perm ((List.range b.length).map name) := by
  rw [← keys_entries b document]
  exact (FiniteMap.ofList_perm (nodup_keys_entries b document)).map _

/-- The name of a path holds what it finds. -/
theorem find?_values {i : Nat} {path : String} (h : b[i]? = some path) :
    (b.values document).find? (name i) = some (valueAt document path) := by
  have hperm := FiniteMap.ofList_perm (nodup_keys_entries b document)
  have hnodup := (hperm.map (·.1)).nodup_iff.2 (nodup_keys_entries b document)
  refine (FiniteMap.mem_iff_find?_of_nodup hnodup).1 (hperm.mem_iff.2 ?_)
  exact List.mem_map.2 ⟨(path, i), List.mk_mem_zipIdx_iff_getElem?.2 h, rfl⟩

end Bindings

/-! ### Expressions -/

/-- The distinct paths of some placeholders, in the order of their first occurrence. -/
def distinctKeys (ps : List Placeholder) : List String :=
  (ps.map Placeholder.key).eraseDups

theorem extend_nil (ps : List Placeholder) : Bindings.extend [] ps = distinctKeys ps := by
  simp [Bindings.extend, distinctKeys]

/-- **Placeholders are bound faithfully.**  Every expression is cut into placeholders, from left to
right, and however it is cut in this way: what stands between them stays as it is, and each becomes
a name; two get one name just if their paths are equal, up to blanks around them; the names that are
bound are those of the distinct paths, numbered from zero on in the order of their first occurrence;
and each of them holds what its path finds in the document, or `nil`. -/
theorem placeholders_bound (expression : String) (document : Json) :
    (∃ ps last, Cut expression.toList ps last)
    ∧ ∀ ps last, Cut expression.toList ps last →
      (bindPlaceholders expression document).1 = String.ofList (fill (distinctKeys ps) ps last)
      ∧ (∀ p ∈ ps, ∀ q ∈ ps,
          p.nameIn (distinctKeys ps) = q.nameIn (distinctKeys ps) ↔ p.key = q.key)
      ∧ (bindPlaceholders expression document).2.keys.Perm
          ((List.range (distinctKeys ps).length).map Bindings.name)
      ∧ ∀ i path, (distinctKeys ps)[i]? = some path →
          (bindPlaceholders expression document).2.find? (Bindings.name i)
            = some (((document.resolve? path).map Value.ofJson).getD .nil) := by
  refine ⟨exists_cut _, fun ps last hcut => ?_⟩
  have hbind : bindPlaceholders expression document
      = (String.ofList (fill (distinctKeys ps) ps last),
          Bindings.values (distinctKeys ps) document) := by
    unfold bindPlaceholders
    simp only [replacePlaceholders_eq hcut (Nat.le_refl _) [], extend_nil]
  rw [hbind]
  refine ⟨rfl, fun p hp q hq => ?_, Bindings.keys_values_perm _ document,
    fun i path => Bindings.find?_values _ document⟩
  have hmem : p.key ∈ distinctKeys ps := List.mem_eraseDups.2 (List.mem_map_of_mem hp)
  exact ⟨fun h => (List.idxOf_inj hmem).1 (Bindings.name_injective h),
    fun h => congrArg (fun key => Bindings.name ((distinctKeys ps).idxOf key)) h⟩

/-- A field that is named twice, and another one that is missing. -/
def repeatedField : String :=
  "\x7b\x7bname\x7d\x7d == \x7b\x7b name \x7d\x7d && \x7b\x7bzone\x7d\x7d"

/-- The three placeholders of the expression. -/
def repeatedFieldParts : List Placeholder :=
  [⟨[], "name".toList⟩, ⟨" == ".toList, " name ".toList⟩, ⟨" && ".toList, "zone".toList⟩]

/-- Blanks around the path make no other name of it, and the missing field is `nil`. -/
theorem placeholders_bound_repeated :
    Cut repeatedField.toList repeatedFieldParts []
    ∧ (bindPlaceholders repeatedField (.obj [("name", .str "web")])).1 = "var0 == var0 && var1"
    ∧ (bindPlaceholders repeatedField (.obj [("name", .str "web")])).2.keys.Perm ["var0", "var1"]
    ∧ (bindPlaceholders repeatedField (.obj [("name", .str "web")])).2.find? "var0"
        = some (.string "web")
    ∧ (bindPlaceholders repeatedField (.obj [("name", .str "web")])).2.find? "var1"
        = some .nil := by
  have hcut : Cut repeatedField.toList repeatedFieldParts [] :=
    .next [] "name".toList (by decide) (by decide)
      (.next " == ".toList " name ".toList (by decide) (by decide)
        (.next " && ".toList "zone".toList (by decide) (by decide)
          (.last (by decide))))
  obtain ⟨htext, -, hkeys, hvalues⟩ :=
    (placeholders_bound repeatedField (.obj [("name", .str "web")])).2 _ _ hcut
  have hpaths : distinctKeys repeatedFieldParts = ["name", "zone"] := by decide
  rw [hpaths] at htext hkeys hvalues
  refine ⟨hcut, htext.trans (by decide), hkeys, ?_, ?_⟩
  · exact hvalues 0 "name" rfl
  · exact hvalues 1 "zone" rfl

end Slumber.Expression
