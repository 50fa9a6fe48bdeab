import EventWiring.Condition

/-!
# What conditions say

The verdict of a condition is all of it but its type and its time. A list of conditions is
determined by the types in it and, for each type, the first condition of that type (`get?`) and
the further ones (`spares`); see `Conditions.ext_types`. Writing a condition moves no type,
changes the first condition of its own type alone, and leaves every spare one as it is.
-/

namespace EventWiring

structure Verdict where
  status : String
  reason : Option String
  message : Option String
deriving DecidableEq, Repr

namespace Verdict

def holds : Verdict := ⟨Condition.isTrue, none, none⟩

def undecided : Verdict := ⟨Condition.isUnknown, none, none⟩

def fails (reason message : String) : Verdict := ⟨Condition.isFalse, some reason, some message⟩

theorem holds_ne_undecided : holds ≠ undecided := by decide

theorem fails_ne_undecided (reason message : String) : fails reason message ≠ undecided := by
  intro h
  have hstatus : Condition.isFalse = Condition.isUnknown := congrArg status h
  exact absurd hstatus (by decide)

/-- What follows from the verdicts on the dependents, some of which may be missing. -/
def derive (vs : List (Option Verdict)) : Verdict :=
  if vs.all (·.any (·.status = Condition.isTrue)) then holds
  else
    let present := vs.filterMap id
    ((present.find? (·.status = Condition.isFalse)).or
      (present.find? (·.status ≠ Condition.isTrue))).getD undecided

end Verdict

namespace Condition

def verdict (c : Condition) : Verdict := ⟨c.status, c.reason, c.message⟩

/-- What stands in place of `old` once `new` is written over it. -/
def writtenOver (new old : Condition) : Condition :=
  if old.status = new.status then { old with reason := new.reason, message := new.message } else new

@[simp] theorem verdict_writtenOver (new old : Condition) :
    (new.writtenOver old).verdict = new.verdict := by
  unfold writtenOver verdict
  split
  · next h => simp [h]
  · rfl

theorem type_writtenOver {new old : Condition} (h : old.type = new.type) :
    (new.writtenOver old).type = old.type := by
  unfold writtenOver
  split
  · rfl
  · exact h.symm

end Condition

namespace Conditions

def verdict? (cs : Conditions) (type : String) : Option Verdict :=
  (cs.get? type).map Condition.verdict

def types (cs : Conditions) : List String := cs.map (·.type)

/-- The conditions of a type that do not count, because another one comes before them. -/
def spares (cs : Conditions) (type : String) : Conditions := (cs.filter (·.type = type)).tail

variable {cs ds : Conditions}

/-! ## Views -/

theorem get?_cons (c : Condition) (cs : Conditions) (t : String) :
    get? (c :: cs) t = if c.type = t then some c else cs.get? t := by
  unfold get?
  rw [List.find?_cons]
  by_cases h : c.type = t <;> simp [h]

theorem types_cons (c : Condition) (cs : Conditions) : types (c :: cs) = c.type :: cs.types := rfl

theorem type_of_get? {t : String} {c : Condition} (h : cs.get? t = some c) : c.type = t := by
  simpa using List.find?_some h

theorem get?_isSome {t : String} : (cs.get? t).isSome ↔ t ∈ cs.types := by
  simp [get?, types, List.find?_isSome]

theorem filter_type (cs : Conditions) (t : String) :
    cs.filter (·.type = t) = (cs.get? t).toList ++ cs.spares t := by
  unfold spares get?
  rw [← List.head?_filter]
  cases cs.filter (·.type = t) <;> rfl

theorem mem_spares {t : String} {c : Condition} (h : c ∈ cs.spares t) : c ∈ cs ∧ c.type = t := by
  simpa using List.mem_filter.1 (List.mem_of_mem_tail h)

theorem ext_types (ht : cs.types = ds.types) (hg : ∀ t, cs.get? t = ds.get? t)
    (hs : ∀ t, cs.spares t = ds.spares t) : cs = ds := by
  have hf : ∀ t, cs.filter (·.type = t) = ds.filter (·.type = t) := fun t => by
    rw [filter_type, filter_type, hg, hs]
  clear hg hs
  induction cs generalizing ds with
  | nil => exact (List.map_eq_nil_iff.1 ht.symm).symm
  | cons c cs ih =>
    cases ds with
    | nil => simp [types] at ht
    | cons d ds =>
      simp only [types, List.map_cons, List.cons.injEq] at ht
      have hd := hf d.type
      simp only [List.filter_cons, ht.1, decide_true, if_true, List.cons.injEq] at hd
      obtain ⟨rfl, -⟩ := hd
      rw [ih ht.2 fun t => ?_]
      have := hf t
      simp only [List.filter_cons] at this
      split at this
      · exact (List.cons.inj this).2
      · exact this

/-! ## Writing one condition -/

theorem upsert_nil (new : Condition) : upsert [] new = [new] := rfl

theorem upsert_cons (c : Condition) (cs : Conditions) (new : Condition) :
    upsert (c :: cs) new =
      if c.type = new.type then new.writtenOver c :: cs else c :: cs.upsert new := rfl

theorem get?_upsert (cs : Conditions) (new : Condition) (t : String) :
    (cs.upsert new).get? t =
      if t = new.type then some (((cs.get? t).map new.writtenOver).getD new) else cs.get? t := by
  induction cs with
  | nil =>
    rw [upsert_nil, get?_cons]
    by_cases h : t = new.type
    · simp [h, get?]
    · rw [if_neg (Ne.symm h), if_neg h]
  | cons c rest ih =>
    rw [upsert_cons, get?_cons]
    by_cases hc : c.type = new.type
    · rw [if_pos hc, get?_cons, Condition.type_writtenOver hc]
      by_cases h : c.type = t
      · simp [h, ← hc]
      · have : t ≠ new.type := fun e => h (hc.trans e.symm)
        rw [if_neg h, if_neg h, if_neg this]
    · rw [if_neg hc, get?_cons, ih]
      by_cases h : c.type = t
      · have : t ≠ new.type := fun e => hc (h.trans e)
        rw [if_pos h, if_pos h, if_neg this]
      · rw [if_neg h, if_neg h]

theorem verdict?_upsert (cs : Conditions) (new : Condition) (t : String) :
    (cs.upsert new).verdict? t = if t = new.type then some new.verdict else cs.verdict? t := by
  unfold verdict?
  rw [get?_upsert]
  split
  · cases cs.get? t <;> simp
  · rfl

theorem types_upsert (cs : Conditions) (new : Condition) :
    (cs.upsert new).types = if new.type ∈ cs.types then cs.types else cs.types ++ [new.type] := by
  induction cs with
  | nil => rfl
  | cons c rest ih =>
    rw [upsert_cons, types_cons]
    by_cases hc : c.type = new.type
    · rw [if_pos hc, types_cons, Condition.type_writtenOver hc, if_pos (hc ▸ List.mem_cons_self)]
    · rw [if_neg hc, types_cons, ih]
      by_cases hm : new.type ∈ types rest
      · rw [if_pos hm, if_pos (List.mem_cons_of_mem _ hm)]
      · rw [if_neg hm, if_neg (by simp [Ne.symm hc, hm]), List.cons_append]

theorem spares_upsert (cs : Conditions) (new : Condition) (t : String) :
    (cs.upsert new).spares t = cs.spares t := by
  induction cs with
  | nil =>
    by_cases h : new.type = t <;> simp [upsert_nil, spares, h]
  | cons c rest ih =>
    rw [upsert_cons]
    by_cases hc : c.type = new.type
    · rw [if_pos hc]
      simp only [spares, List.filter_cons, Condition.type_writtenOver hc]
      split <;> rfl
    · rw [if_neg hc]
      by_cases h : c.type = t
      · -- the first of type `t` stays in front, so that all the others of that type are spare
        have hne : t ≠ new.type := fun e => hc (h.trans e)
        have hf : (upsert rest new).filter (·.type = t) = rest.filter (·.type = t) := by
          rw [filter_type, filter_type, get?_upsert, if_neg hne, ih]
        simp [spares, h, hf]
      · simpa [spares, h] using ih

/-! ## Rewriting the conditions of some types -/

/-- `ds` is `cs` except for the first conditions of the types in `managed`, of which those that are
missing in `cs` may have been added. -/
structure Rewrites (managed : List String) (cs ds : Conditions) : Prop where
  others : ∀ t, t ∉ managed → ds.get? t = cs.get? t
  spares : ∀ t, ds.spares t = cs.spares t
  types : (∀ t ∈ managed, t ∈ cs.types) → ds.types = cs.types

namespace Rewrites

variable {managed : List String} {es : Conditions}

theorem refl (cs : Conditions) : Rewrites managed cs cs :=
  ⟨fun _ _ => rfl, fun _ => rfl, fun _ => rfl⟩

theorem trans (h : Rewrites managed cs ds) (h' : Rewrites managed ds es) :
    Rewrites managed cs es where
  others t ht := (h'.others t ht).trans (h.others t ht)
  spares t := (h'.spares t).trans (h.spares t)
  types hm := by
    have := h.types hm
    rw [← this]
    exact h'.types fun t ht => this ▸ hm t ht

theorem upsert {new : Condition} (h : new.type ∈ managed) (cs : Conditions) :
    Rewrites managed cs (cs.upsert new) where
  others t ht := by
    rw [get?_upsert, if_neg]
    rintro rfl
    exact ht h
  spares t := spares_upsert cs new t
  types hm := by rw [types_upsert, if_pos (hm _ h)]

theorem foldl {β : Type} {f : Conditions → β → Conditions} {l : List β}
    (h : ∀ x ∈ l, ∀ cs, Rewrites managed cs (f cs x)) (cs : Conditions) :
    Rewrites managed cs (l.foldl f cs) := by
  induction l generalizing cs with
  | nil => exact refl cs
  | cons x l ih =>
    exact (h x List.mem_cons_self cs).trans (ih (fun y hy => h y (List.mem_cons_of_mem _ hy)) _)

/-- What says the same of every managed type as before, though perhaps since another time. -/
theorem verdict? (h : Rewrites managed cs ds)
    (hm : ∀ t ∈ managed, ds.verdict? t = cs.verdict? t) (t : String) :
    ds.verdict? t = cs.verdict? t := by
  by_cases ht : t ∈ managed
  · exact hm t ht
  · unfold Conditions.verdict?
    rw [h.others t ht]

end Rewrites

end Conditions

end EventWiring
