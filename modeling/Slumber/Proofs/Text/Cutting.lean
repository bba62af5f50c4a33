import Slumber.Text.Words

/-!
# What cutting and trimming leave as it is

Texts with a separator between them are cut one after the other, so that pieces which were joined
are cut out again. A token cannot be found in a text that does not hold its first character, and in
front of a text that it cuts such a text goes to the first piece. Trimming drops nothing from the
side that begins or ends with a character that is not blank.

* `splitOn_append`, `splitOn_joinWith` — cutting a text that was put together;
* `cutAtText_of_notMem`, `cutAtText_append` — a text without the first character of the token;
* `trimChars_trimChars` — trimming twice drops no more than trimming once;
* `trimChars_concat_of_not_blank`, `trimChars_trimLeft_concat` — trimming a text with a character
  behind it.
-/

namespace Slumber.Text

/-! ### Cutting at a character -/

section

variable {sep : Char} {cs : List Char}

theorem splitOn_of_not_mem (h : sep ∉ cs) : splitOn sep cs = [cs] := by
  induction cs with
  | nil => rfl
  | cons c cs ih =>
      obtain ⟨hc, hcs⟩ := List.ne_and_not_mem_of_not_mem_cons h
      rw [splitOn, if_neg (Ne.symm hc), ih hcs]

/-- Two texts with a separator between them are cut one after the other. -/
theorem splitOn_append (sep : Char) (front back : List Char) :
    splitOn sep (front ++ sep :: back) = splitOn sep front ++ splitOn sep back := by
  induction front with
  | nil => simp [splitOn]
  | cons c front ih =>
      simp only [List.cons_append, splitOn, ih]
      split
      · rfl
      · cases hfront : splitOn sep front with
        | nil => exact absurd hfront (splitOn_ne_nil sep front)
        | cons p ps => rfl

theorem splitOn_append_sep (h : sep ∉ cs) (rest : List Char) :
    splitOn sep (cs ++ sep :: rest) = cs :: splitOn sep rest := by
  rw [splitOn_append, splitOn_of_not_mem h, List.singleton_append]

/-- Pieces without the separator are cut out of the text that they are joined to. -/
theorem splitOn_joinWith {pieces : List (List Char)} (hne : pieces ≠ [])
    (h : ∀ p ∈ pieces, sep ∉ p) : splitOn sep (joinWith [sep] pieces) = pieces := by
  induction pieces with
  | nil => exact absurd rfl hne
  | cons p pieces ih =>
      obtain ⟨hp, hpieces⟩ := List.forall_mem_cons.1 h
      cases pieces with
      | nil => exact splitOn_of_not_mem hp
      | cons q pieces =>
          rw [joinWith, List.append_assoc, List.singleton_append, splitOn_append_sep hp,
            ih (List.cons_ne_nil _ _) hpieces]
          exact List.cons_ne_nil _ _

theorem not_mem_of_cutAt_eq_none (h : cutAt sep cs = none) : sep ∉ cs := by
  induction cs with
  | nil => exact List.not_mem_nil
  | cons c cs ih =>
      simp only [cutAt] at h
      split at h
      · cases h
      · rename_i hc
        exact List.not_mem_cons_of_ne_of_not_mem (Ne.symm hc) (ih (Option.map_eq_none_iff.1 h))

end

/-! ### Cutting at a token -/

section

variable {t : Char} {ts front cs : List Char}

theorem cutAtText_of_notMem (h : t ∉ cs) : cutAtText (t :: ts) cs = none := by
  induction cs with
  | nil => rfl
  | cons c cs ih =>
      obtain ⟨hc, hcs⟩ := List.ne_and_not_mem_of_not_mem_cons h
      simp [cutAtText, dropToken?, hc, ih hcs]

theorem cutAtText_append (h : t ∉ front) :
    cutAtText (t :: ts) (front ++ cs)
      = (cutAtText (t :: ts) cs).map fun (a, b) => (front ++ a, b) := by
  induction front with
  | nil => simp
  | cons c front ih =>
      obtain ⟨hc, hfront⟩ := List.ne_and_not_mem_of_not_mem_cons h
      simp [cutAtText, dropToken?, hc, ih hfront, Option.map_map, Function.comp_def]

theorem splitOnText_of_notMem (h : t ∉ cs) : splitOnText (t :: ts) cs = [cs] := by
  rw [splitOnText, dif_neg (List.cons_ne_nil t ts)]
  split
  · rfl
  · rename_i a b hcut
    rw [cutAtText_of_notMem h] at hcut
    cases hcut

end

/-! ### Trimming -/

section

variable {c : Char} {cs ds : List Char}

/-- What is left begins with no blank. -/
theorem trimLeft_cases (cs : List Char) :
    trimLeft cs = [] ∨ ∃ c rest, trimLeft cs = c :: rest ∧ isBlank c = false := by
  induction cs with
  | nil => exact .inl rfl
  | cons c cs ih =>
      cases hc : isBlank c with
      | true => simpa [trimLeft, hc] using ih
      | false => exact .inr ⟨c, cs, trimLeft_cons_of_not_blank hc, hc⟩

theorem trimLeft_append (h : trimLeft cs ≠ []) : trimLeft (cs ++ ds) = trimLeft cs ++ ds := by
  unfold trimLeft at h ⊢
  rw [List.dropWhile_append, if_neg (by simpa using h)]

theorem trimRight_cons_of_not_blank (h : isBlank c = false) :
    trimRight (c :: cs) = c :: trimRight cs := by
  simp only [trimRight, List.reverse_cons, List.dropWhile_append]
  split
  · simp_all
  · simp

theorem trimRight_concat_of_blank (h : isBlank c = true) :
    trimRight (cs ++ [c]) = trimRight cs := by
  simp [trimRight, h]

theorem trimLeft_trimLeft (cs : List Char) : trimLeft (trimLeft cs) = trimLeft cs := by
  obtain h | ⟨c, rest, h, hc⟩ := trimLeft_cases cs
  · rw [h, trimLeft_nil]
  · rw [h, trimLeft_cons_of_not_blank hc]

theorem trimRight_trimRight (cs : List Char) : trimRight (trimRight cs) = trimRight cs := by
  have h := trimLeft_trimLeft cs.reverse
  simp only [trimLeft] at h
  simp only [trimRight, List.reverse_reverse, h]

theorem trimLeft_trimChars (cs : List Char) : trimLeft (trimChars cs) = trimChars cs := by
  obtain h | ⟨c, rest, h, hc⟩ := trimLeft_cases cs
  · simp [trimChars, h]
  · rw [trimChars, h, trimRight_cons_of_not_blank hc, trimLeft_cons_of_not_blank hc]

theorem trimChars_trimChars (cs : List Char) : trimChars (trimChars cs) = trimChars cs := by
  rw [trimChars, trimLeft_trimChars, trimChars, trimRight_trimRight]

theorem trimChars_concat_of_not_blank (hcs : trimLeft cs ≠ []) (hc : isBlank c = false) :
    trimChars (cs ++ (ds ++ [c])) = trimLeft cs ++ (ds ++ [c]) := by
  rw [trimChars, trimLeft_append hcs, ← List.append_assoc, trimRight_concat_of_not_blank hc]

theorem trimChars_trimLeft_concat (hcs : trimLeft cs ≠ []) (hc : isBlank c = true) :
    trimChars (trimLeft cs ++ [c]) = trimChars cs := by
  have h : trimLeft (trimLeft cs) ≠ [] := by rwa [trimLeft_trimLeft]
  rw [trimChars, trimLeft_append h, trimLeft_trimLeft, trimRight_concat_of_blank hc, trimChars]

end

end Slumber.Text
