import Reshape.Text.Blank

/-!
# Texts cut into parts

`splitOn` cuts a list of characters at every occurrence of one character, so `n` occurrences give
`n + 1` parts; `joinWith` puts the parts together again. `splitAround` cuts at a longer separator, and
`words` at white space.
-/

namespace Reshape.Text

def splitOn (sep : Char) : List Char → List (List Char)
  | [] => [[]]
  | c :: rest =>
    if c = sep then [] :: splitOn sep rest
    else
      match splitOn sep rest with
      | [] => [[c]]
      | part :: parts => (c :: part) :: parts

def joinWith (sep : Char) : List (List Char) → List Char
  | [] => []
  | [part] => part
  | part :: next :: parts => part ++ sep :: joinWith sep (next :: parts)

/-- A part with a character in front of the first of some parts. -/
def consFirst (c : Char) : List (List Char) → List (List Char)
  | [] => [[c]]
  | part :: parts => (c :: part) :: parts

/-- The parts between the places where a separator stands, from left to right. `skipped` characters
belong to a separator before them. -/
def splitAroundFrom (sep : List Char) : Nat → List Char → List (List Char)
  | _, [] => [[]]
  | skipped + 1, _ :: rest => splitAroundFrom sep skipped rest
  | 0, c :: rest =>
    if sep.isPrefixOf (c :: rest) then [] :: splitAroundFrom sep (sep.length - 1) rest
    else consFirst c (splitAroundFrom sep 0 rest)

/-- The parts around a separator of at least one character. -/
def splitAround (sep cs : List Char) : List (List Char) :=
  splitAroundFrom sep 0 cs

/-- The parts between white space, without empty ones. -/
def words (cs : List Char) : List (List Char) :=
  (splitOn ' ' (cs.map fun c => if isBlank c then ' ' else c)).filter (!·.isEmpty)

theorem splitOn_ne_nil (sep : Char) (cs : List Char) : splitOn sep cs ≠ [] := by
  cases cs with
  | nil => simp [splitOn]
  | cons c rest =>
      simp only [splitOn]
      split
      · simp
      · split <;> simp

theorem splitOn_self (sep : Char) (rest : List Char) :
    splitOn sep (sep :: rest) = [] :: splitOn sep rest := by
  simp [splitOn]

theorem joinWith_splitOn (sep : Char) (cs : List Char) : joinWith sep (splitOn sep cs) = cs := by
  induction cs with
  | nil => rfl
  | cons c rest ih =>
      have nonempty := splitOn_ne_nil sep rest
      by_cases here : c = sep
      · subst here
        simp only [splitOn, if_true]
        cases parts : splitOn c rest with
        | nil => exact absurd parts nonempty
        | cons part others => simp [joinWith, ← parts, ih]
      · simp only [splitOn, here, if_false]
        cases parts : splitOn sep rest with
        | nil => exact absurd parts nonempty
        | cons part others =>
            rw [parts] at ih
            cases others with
            | nil => simpa [joinWith] using ih
            | cons next others => simpa [joinWith] using ih

/-- No part holds the separator. -/
theorem not_mem_of_mem_splitOn {sep : Char} {cs part : List Char} (h : part ∈ splitOn sep cs) :
    sep ∉ part := by
  induction cs generalizing part with
  | nil => simp_all [splitOn]
  | cons c rest ih =>
      by_cases here : c = sep
      · simp only [splitOn, here, if_true, List.mem_cons] at h
        rcases h with rfl | h
        · simp
        · exact ih h
      · simp only [splitOn, here, if_false] at h
        cases parts : splitOn sep rest with
        | nil => exact absurd parts (splitOn_ne_nil sep rest)
        | cons first others =>
            rw [parts] at h ih
            rcases List.mem_cons.mp h with rfl | h
            · simp only [List.mem_cons, not_or]
              exact ⟨Ne.symm here, ih (List.mem_cons_self ..)⟩
            · exact ih (List.mem_cons_of_mem _ h)

end Reshape.Text
