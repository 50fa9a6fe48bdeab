/-!
# Parts of a text

`splitOn` cuts a text at every occurrence of a character; `joinWith` puts the parts together again.
-/

namespace EventWiring.Text

def splitOn (c : Char) : List Char → List (List Char)
  | [] => [[]]
  | d :: rest =>
    if d = c then [] :: splitOn c rest
    else match splitOn c rest with
      | part :: parts => (d :: part) :: parts
      | [] => [[d]]

def joinWith (c : Char) : List (List Char) → List Char
  | [] => []
  | [part] => part
  | part :: parts => part ++ c :: joinWith c parts

theorem splitOn_ne_nil (c : Char) (cs : List Char) : splitOn c cs ≠ [] := by
  cases cs with
  | nil => simp [splitOn]
  | cons d rest =>
    simp only [splitOn]
    split
    · simp
    · split <;> simp

theorem joinWith_splitOn (c : Char) (cs : List Char) : joinWith c (splitOn c cs) = cs := by
  induction cs with
  | nil => rfl
  | cons d rest ih =>
    simp only [splitOn]
    cases h : splitOn c rest with
    | nil => exact absurd h (splitOn_ne_nil c rest)
    | cons part parts =>
      rw [h] at ih
      by_cases hd : d = c
      · simp [hd, joinWith, ih]
      · cases parts with
        | nil => simpa [hd, joinWith] using ih
        | cons p ps => simpa [hd, joinWith] using ih

theorem not_mem_of_mem_splitOn {c : Char} {cs part : List Char} (h : part ∈ splitOn c cs) :
    c ∉ part := by
  induction cs generalizing part with
  | nil => simp_all [splitOn]
  | cons d rest ih =>
    simp only [splitOn] at h
    split at h
    · rcases List.mem_cons.1 h with rfl | h
      · simp
      · exact ih h
    · next hd =>
      cases hs : splitOn c rest with
      | nil => exact absurd hs (splitOn_ne_nil c rest)
      | cons p ps =>
        rw [hs] at h ih
        rcases List.mem_cons.1 h with rfl | h
        · have hp : c ∉ p := ih List.mem_cons_self
          simpa [hp] using Ne.symm hd
        · exact ih (List.mem_cons_of_mem _ h)

theorem splitOn_of_not_mem {c : Char} {cs : List Char} (h : c ∉ cs) : splitOn c cs = [cs] := by
  induction cs with
  | nil => rfl
  | cons d rest ih =>
    rw [List.mem_cons, not_or] at h
    simp [splitOn, Ne.symm h.1, ih h.2]

theorem splitOn_append {c : Char} {a : List Char} (h : c ∉ a) (b : List Char) :
    splitOn c (a ++ c :: b) = a :: splitOn c b := by
  induction a with
  | nil => simp [splitOn]
  | cons d rest ih =>
    rw [List.mem_cons, not_or] at h
    simp [splitOn, Ne.symm h.1, ih h.2]

end EventWiring.Text
