import Slumber.Text.Blank

/-!
# Cutting a text at a separator

Lists of names, chains of clauses and keys with slashes are all texts cut at a fixed separator.
`splitOn` cuts at every occurrence of one character and `splitOnText` at every occurrence of a
longer token, leftmost first and without overlap; both give at least one piece. `cutAt` and
`cutAtText` cut at the first occurrence only. Joining the pieces of `splitOn` gives the text back.
-/

namespace Slumber.Text

/-- Cuts at every `sep`; a list without it is one piece. -/
def splitOn (sep : Char) : List Char → List (List Char)
  | [] => [[]]
  | c :: cs =>
    if c = sep then [] :: splitOn sep cs
    else
      match splitOn sep cs with
      | [] => [[c]]
      | p :: ps => (c :: p) :: ps

/-- Puts `sep` between the pieces. -/
def joinWith (sep : List Char) : List (List Char) → List Char
  | [] => []
  | [p] => p
  | p :: ps => p ++ sep ++ joinWith sep ps

/-- The rest of `cs` after the token `tok`, if `cs` starts with it. -/
def dropToken? : List Char → List Char → Option (List Char)
  | [], cs => some cs
  | _ :: _, [] => none
  | t :: ts, c :: cs => if t = c then dropToken? ts cs else none

/-- What stands before and after the first occurrence of `sep`. -/
def cutAt (sep : Char) : List Char → Option (List Char × List Char)
  | [] => none
  | c :: cs =>
    if c = sep then some ([], cs)
    else (cutAt sep cs).map fun (a, b) => (c :: a, b)

/-- What stands before and after the first occurrence of the token `tok`. -/
def cutAtText (tok : List Char) : List Char → Option (List Char × List Char)
  | [] => if tok = [] then some ([], []) else none
  | c :: cs =>
    match dropToken? tok (c :: cs) with
    | some rest => some ([], rest)
    | none => (cutAtText tok cs).map fun (a, b) => (c :: a, b)

theorem dropToken?_eq_some {tok cs rest : List Char} (h : dropToken? tok cs = some rest) :
    cs = tok ++ rest := by
  induction tok generalizing cs with
  | nil => simpa [dropToken?] using h
  | cons t ts ih =>
      cases cs with
      | nil => simp [dropToken?] at h
      | cons c cs =>
          simp only [dropToken?] at h
          split at h
          · rename_i htc
            simp [htc, ih h]
          · cases h

theorem cutAtText_length {tok cs a b : List Char} (ht : tok ≠ [])
    (h : cutAtText tok cs = some (a, b)) : b.length < cs.length := by
  induction cs generalizing a with
  | nil => simp [cutAtText, ht] at h
  | cons c cs ih =>
      simp only [cutAtText] at h
      split at h
      · rename_i rest hd
        have hlen := congrArg List.length (dropToken?_eq_some hd)
        have hpos : 0 < tok.length := List.length_pos_iff.2 ht
        simp only [Option.some.injEq, Prod.mk.injEq] at h
        obtain ⟨_, rfl⟩ := h
        simp only [List.length_cons, List.length_append] at hlen
        simp only [List.length_cons]
        omega
      · cases hc : cutAtText tok cs with
        | none => simp [hc] at h
        | some p =>
            obtain ⟨a', b'⟩ := p
            simp only [hc, Option.map_some, Option.some.injEq, Prod.mk.injEq] at h
            obtain ⟨_, rfl⟩ := h
            have := ih hc
            simp only [List.length_cons]
            omega

/-- Cuts at every occurrence of a non-empty token, leftmost first. -/
def splitOnText (tok : List Char) (cs : List Char) : List (List Char) :=
  if ht : tok = [] then [cs]
  else
    match h : cutAtText tok cs with
    | none => [cs]
    | some (a, b) =>
      have : b.length < cs.length := cutAtText_length ht h
      a :: splitOnText tok b
termination_by cs.length

/-- The comma-separated names of a text: trimmed, and without the blank ones. -/
def names (s : String) : List String :=
  ((splitOn ',' s.toList).map trimChars).filterMap fun n =>
    if n.isEmpty then none else some (String.ofList n)

/-! ### Cutting loses nothing -/

theorem splitOn_ne_nil (sep : Char) (cs : List Char) : splitOn sep cs ≠ [] := by
  cases cs with
  | nil => simp [splitOn]
  | cons c cs =>
      simp only [splitOn]
      split
      · simp
      · split <;> simp

/-- Joining what `splitOn` cut gives the list back. -/
theorem joinWith_splitOn (sep : Char) (cs : List Char) :
    joinWith [sep] (splitOn sep cs) = cs := by
  induction cs with
  | nil => rfl
  | cons c cs ih =>
      simp only [splitOn]
      split
      · rename_i h
        cases hs : splitOn sep cs with
        | nil => exact absurd hs (splitOn_ne_nil sep cs)
        | cons p ps => rw [hs] at ih; simp [joinWith, ih, h]
      · cases hs : splitOn sep cs with
        | nil => exact absurd hs (splitOn_ne_nil sep cs)
        | cons p ps =>
            rw [hs] at ih
            cases ps with
            | nil => simpa [joinWith] using ih
            | cons q qs => simpa [joinWith] using ih

/-- No piece that `splitOn` cuts holds the separator. -/
theorem not_mem_of_mem_splitOn {sep : Char} {cs p : List Char} (h : p ∈ splitOn sep cs) :
    sep ∉ p := by
  induction cs generalizing p with
  | nil => simp only [splitOn, List.mem_singleton] at h; simp [h]
  | cons c cs ih =>
      simp only [splitOn] at h
      split at h
      · rcases List.mem_cons.1 h with rfl | h
        · simp
        · exact ih h
      · rename_i hc
        cases hs : splitOn sep cs with
        | nil => exact absurd hs (splitOn_ne_nil sep cs)
        | cons q qs =>
            rw [hs] at h
            rcases List.mem_cons.1 h with rfl | h
            · have hq : sep ∉ q := ih (by simp [hs])
              simp [Ne.symm hc, hq]
            · exact ih (by simp [hs, h])

theorem cutAt_eq_some {sep : Char} {cs a b : List Char} (h : cutAt sep cs = some (a, b)) :
    cs = a ++ sep :: b ∧ sep ∉ a := by
  induction cs generalizing a with
  | nil => simp [cutAt] at h
  | cons c cs ih =>
      simp only [cutAt] at h
      split at h
      · rename_i hc
        simp only [Option.some.injEq, Prod.mk.injEq] at h
        obtain ⟨rfl, rfl⟩ := h
        simp [hc]
      · rename_i hc
        cases hs : cutAt sep cs with
        | none => simp [hs] at h
        | some p =>
            obtain ⟨a', b'⟩ := p
            simp only [hs, Option.map_some, Option.some.injEq, Prod.mk.injEq] at h
            obtain ⟨rfl, rfl⟩ := h
            obtain ⟨rfl, hn⟩ := ih hs
            simp [Ne.symm hc, hn]

end Slumber.Text
