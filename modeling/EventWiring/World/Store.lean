import EventWiring.Key

/-!
# Stores

A store keeps objects under keys. What it holds is told by `get?`; `put_eq_self` says that writing
what is there changes nothing at all.
-/

namespace EventWiring

abbrev Store (α : Type) := List (Key × α)

namespace Store

variable {α β : Type}

def get? (s : Store α) (key : Key) : Option α := s.lookup key

def put (key : Key) (a : α) : Store α → Store α
  | [] => [(key, a)]
  | (k, old) :: rest => if k = key then (key, a) :: rest else (k, old) :: put key a rest

def erase (key : Key) (s : Store α) : Store α := s.filter (·.1 ≠ key)

def keyLE (a b : Key) : Bool := a.space < b.space || (a.space = b.space && a.name ≤ b.name)

/-- The objects in ascending order of namespace and name. -/
def listed (s : Store α) : List (Key × α) := s.mergeSort fun a b => keyLE a.1 b.1

theorem get?_nil (key : Key) : get? ([] : Store α) key = none := rfl

theorem get?_cons (k key : Key) (a : α) (s : Store α) :
    get? ((k, a) :: s) key = if k = key then some a else get? s key := by
  by_cases h : k = key
  · simp [get?, h]
  · have : (key == k) = false := by simpa using Ne.symm h
    simp [get?, List.lookup_cons, this, h]

@[simp] theorem get?_put (key : Key) (a : α) (s : Store α) : (s.put key a).get? key = some a := by
  induction s with
  | nil => simp [put, get?_cons]
  | cons e rest ih =>
    obtain ⟨k, old⟩ := e
    by_cases h : k = key
    · simp [put, h, get?_cons]
    · simp [put, h, get?_cons, ih]

theorem get?_put_of_ne {key other : Key} (h : other ≠ key) (a : α) (s : Store α) :
    (s.put key a).get? other = s.get? other := by
  induction s with
  | nil => simp [put, get?_cons, Ne.symm h, get?_nil]
  | cons e rest ih =>
    obtain ⟨k, old⟩ := e
    by_cases hk : k = key
    · subst hk
      simp [put, get?_cons, Ne.symm h]
    · simp [put, hk, get?_cons, ih]

@[simp] theorem get?_erase (key : Key) (s : Store α) : (s.erase key).get? key = none := by
  induction s with
  | nil => rfl
  | cons e rest ih =>
    obtain ⟨k, old⟩ := e
    simp only [erase] at ih ⊢
    by_cases h : k = key
    · simpa [List.filter_cons, h] using ih
    · simpa [List.filter_cons, h, get?_cons] using ih

theorem get?_erase_of_ne {key other : Key} (h : other ≠ key) (s : Store α) :
    (s.erase key).get? other = s.get? other := by
  induction s with
  | nil => rfl
  | cons e rest ih =>
    obtain ⟨k, old⟩ := e
    simp only [erase] at ih ⊢
    by_cases hk : k = key
    · have : k ≠ other := fun hko => h (hko ▸ hk)
      simpa [List.filter_cons, hk, get?_cons, Ne.symm h] using ih
    · simp only [List.filter_cons, hk, ne_eq, not_false_eq_true, decide_true, if_true, get?_cons]
      simpa using congrArg (fun o => if k = other then some old else o) ih

theorem put_eq_self {key : Key} {a : α} {s : Store α} (h : s.get? key = some a) :
    s.put key a = s := by
  induction s with
  | nil => simp [get?_nil] at h
  | cons e rest ih =>
    obtain ⟨k, old⟩ := e
    rw [get?_cons] at h
    by_cases hk : k = key
    · simp_all [put]
    · simp_all [put]

theorem erase_eq_self {key : Key} {s : Store α} (h : s.get? key = none) : s.erase key = s := by
  induction s with
  | nil => rfl
  | cons e rest ih =>
    obtain ⟨k, old⟩ := e
    rw [get?_cons] at h
    by_cases hk : k = key
    · simp [hk] at h
    · simp only [hk, if_false] at h
      simpa [erase, List.filter_cons, hk] using ih h

end Store

end EventWiring
