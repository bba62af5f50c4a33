import Mathlib.Data.List.Induction
import Slumber.Proofs.Text.Cutting

/-!
# Lists of names in a text

Names are separated by commas; blanks around a name, and blank names, do not count. So blanks around
the whole list do not count either, and lists that are joined by commas give the names of each.

* `names_trim` — blanks around the list;
* `names_intercalate` — lists that are joined.
-/

namespace Slumber.Text

variable {c : Char} {cs : List Char}

/-! ### Cutting -/

/-- A character in front goes to the first piece. -/
theorem splitOn_cons_of_ne {sep : Char} (hc : c ≠ sep) (cs : List Char) :
    ∃ p ps, splitOn sep cs = p :: ps ∧ splitOn sep (c :: cs) = (c :: p) :: ps := by
  cases hcs : splitOn sep cs with
  | nil => exact absurd hcs (splitOn_ne_nil sep cs)
  | cons p ps => exact ⟨p, ps, rfl, by simp [splitOn, hc, hcs]⟩

/-- A character behind goes to the last piece. -/
theorem splitOn_concat_of_ne {sep : Char} (hc : c ≠ sep) (cs : List Char) :
    ∃ ps p, splitOn sep cs = ps ++ [p] ∧ splitOn sep (cs ++ [c]) = ps ++ [p ++ [c]] := by
  induction cs with
  | nil => exact ⟨[], [], rfl, by simp [splitOn, hc]⟩
  | cons d cs ih =>
      obtain ⟨ps, p, hcs, hconcat⟩ := ih
      by_cases hd : d = sep
      · exact ⟨[] :: ps, p, by simp [splitOn, hd, hcs], by simp [splitOn, hd, hconcat]⟩
      · cases ps with
        | nil => exact ⟨[], d :: p, by simp [splitOn, hd, hcs], by simp [splitOn, hd, hconcat]⟩
        | cons q ps =>
            exact ⟨(d :: q) :: ps, p, by simp [splitOn, hd, hcs], by simp [splitOn, hd, hconcat]⟩

/-! ### Blanks around a list -/

theorem trimChars_cons_of_blank (hc : isBlank c = true) (cs : List Char) :
    trimChars (c :: cs) = trimChars cs := by
  simp [trimChars, trimLeft, hc]

theorem trimChars_concat_of_blank (hc : isBlank c = true) (cs : List Char) :
    trimChars (cs ++ [c]) = trimChars cs := by
  by_cases hcs : trimLeft cs = []
  · have hall : trimLeft (cs ++ [c]) = [] := by
      unfold trimLeft at hcs ⊢
      rw [List.dropWhile_append, if_pos (by simpa using hcs)]
      simp [hc]
    rw [trimChars, trimChars, hcs, hall]
  · rw [trimChars, trimChars, trimLeft_append hcs, trimRight_concat_of_blank hc]

/-- Blanks at the beginning change the pieces by blanks only. -/
theorem map_trimChars_splitOn_trimLeft {sep : Char} (hsep : isBlank sep = false)
    (cs : List Char) :
    (splitOn sep (trimLeft cs)).map trimChars = (splitOn sep cs).map trimChars := by
  induction cs with
  | nil => rfl
  | cons c cs ih =>
      cases hc : isBlank c with
      | false => rw [trimLeft_cons_of_not_blank hc]
      | true =>
          have hne : c ≠ sep := fun h => by
            rw [h, hsep] at hc
            cases hc
          obtain ⟨p, ps, hcs, hcons⟩ := splitOn_cons_of_ne hne cs
          have hdrop : trimLeft (c :: cs) = trimLeft cs := by simp [trimLeft, hc]
          rw [hdrop, ih, hcs, hcons, List.map_cons, List.map_cons, trimChars_cons_of_blank hc]

/-- And so do blanks at the end. -/
theorem map_trimChars_splitOn_trimRight {sep : Char} (hsep : isBlank sep = false)
    (cs : List Char) :
    (splitOn sep (trimRight cs)).map trimChars = (splitOn sep cs).map trimChars := by
  induction cs using List.reverseRecOn with
  | nil => rfl
  | append_singleton cs c ih =>
      cases hc : isBlank c with
      | false => rw [trimRight_concat_of_not_blank hc]
      | true =>
          have hne : c ≠ sep := fun h => by
            rw [h, hsep] at hc
            cases hc
          obtain ⟨ps, p, hcs, hconcat⟩ := splitOn_concat_of_ne hne cs
          rw [trimRight_concat_of_blank hc, ih, hcs, hconcat, List.map_append, List.map_append,
            List.map_singleton, List.map_singleton, trimChars_concat_of_blank hc]

/-! ### Names -/

/-- Blanks around a list of names do not count. -/
theorem names_trim (s : String) : names (trim s) = names s := by
  have hcomma : isBlank ',' = false := by decide
  unfold names trim
  rw [String.toList_ofList, trimChars, map_trimChars_splitOn_trimRight hcomma,
    map_trimChars_splitOn_trimLeft hcomma]

/-- A blank text lists no names. -/
theorem names_eq_nil_of_blank {s : String} (h : trim s = "") : names s = [] := by
  rw [← names_trim, h]
  decide

theorem names_append (s t : String) : names (s ++ "," ++ t) = names s ++ names t := by
  unfold names
  have hjoined : (s ++ "," ++ t).toList = s.toList ++ ',' :: t.toList := by simp
  rw [hjoined, splitOn_append, List.map_append, List.filterMap_append]

/-- Lists of names that are joined by commas list the names of each. -/
theorem names_intercalate (lists : List String) :
    names (",".intercalate lists) = lists.flatMap names := by
  induction lists with
  | nil => decide
  | cons s lists ih =>
      cases lists with
      | nil => simp
      | cons t lists =>
          rw [String.intercalate_cons_cons, names_append, ih]
          exact List.flatMap_cons.symm

end Slumber.Text
