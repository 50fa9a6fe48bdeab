import EventWiring.Proofs.Condition.Derived

/-!
# Lists of conditions only grow

Whatever is done to a list of conditions (`Conditions.Edit`), every condition stays in its place and
new ones come behind them, at most one of each type that was missing (`Conditions.Extends`). What an
edit is not about it leaves as it is; see `Conditions.grows_in_place`.
-/

namespace EventWiring.Conditions

variable {cs ds es : Conditions} {about : List String} {c new : Condition} {i : Nat}

/-! ## Edits -/

/-- What can be done to a list of conditions: what is done for a set of dependents, and what knows
of none. -/
inductive Edit where
  | manage (dependents : List String) (op : Operation)
  | upsert (new : Condition)
  | restoreTimes (previous : Conditions)

namespace Edit

def apply (cs : Conditions) : Edit → Conditions
  | manage dependents op => op.apply dependents cs
  | upsert new => cs.upsert new
  | restoreTimes previous => cs.restoreTimes previous

/-- The types of the conditions that an edit is about; a mark is about `Ready` too. -/
def addressed : Edit → List String
  | manage dependents (.establish _) => managed dependents
  | manage dependents (.reset _) => managed dependents
  | manage _ (.markTrue _ type) => [type, Condition.ready]
  | manage _ (.markFalse _ type _ _) => [type, Condition.ready]
  | upsert new => [new.type]
  | restoreTimes previous => previous.types

end Edit

/-! ## Growth -/

/-- The conditions of `cs` are in their places in `ds`, and behind them there is at most one of each
type that is missing in `cs`. Only conditions of those types have changed or come. -/
structure Extends (about : List String) (cs ds : Conditions) : Prop where
  grown : ∃ added, ds.types = cs.types ++ added ∧ added.Nodup ∧
    ∀ t ∈ added, t ∉ cs.types ∧ t ∈ about
  kept : ∀ (i : Nat) (c : Condition), cs[i]? = some c → c.type ∉ about → ds[i]? = some c

namespace Extends

theorem refl (cs : Conditions) : Extends about cs cs :=
  ⟨⟨[], by simp⟩, fun _ _ h _ => h⟩

theorem trans (h : Extends about cs ds) (h' : Extends about ds es) : Extends about cs es where
  grown := by
    obtain ⟨added, hds, hdistinct, hnew⟩ := h.grown
    obtain ⟨later, hes, hdistinct', hnew'⟩ := h'.grown
    refine ⟨added ++ later, by rw [hes, hds, List.append_assoc], ?_, fun t ht => ?_⟩
    · refine List.nodup_append.2 ⟨hdistinct, hdistinct', fun t ht u hu htu => ?_⟩
      -- what came first is there when the rest comes
      refine (hnew' u hu).1 ?_
      rw [hds, ← htu]
      exact List.mem_append_right _ ht
    · rcases List.mem_append.1 ht with ht | ht
      · exact hnew t ht
      · refine ⟨fun hold => (hnew' t ht).1 ?_, (hnew' t ht).2⟩
        rw [hds]
        exact List.mem_append_left _ hold
  kept i c hc ht := h'.kept i c (h.kept i c hc ht) ht

theorem mono {more : List String} (h : Extends about cs ds) (hmore : ∀ t ∈ about, t ∈ more) :
    Extends more cs ds where
  grown := by
    obtain ⟨added, hds, hdistinct, hnew⟩ := h.grown
    exact ⟨added, hds, hdistinct, fun t ht => (hnew t ht).imp_right (hmore t)⟩
  kept i c hc ht := h.kept i c hc fun h => ht (hmore _ h)

/-- No type comes to stand twice. -/
theorem nodup (h : Extends about cs ds) (hcs : cs.types.Nodup) : ds.types.Nodup := by
  obtain ⟨added, hds, hdistinct, hnew⟩ := h.grown
  rw [hds]
  refine List.nodup_append.2 ⟨hcs, hdistinct, ?_⟩
  rintro t ht _ hadded rfl
  exact (hnew t hadded).1 ht

end Extends

/-! ## One edit -/

theorem getElem?_upsert_of_ne (h : cs[i]? = some c) (hne : c.type ≠ new.type) :
    (cs.upsert new)[i]? = some c := by
  induction cs generalizing i with
  | nil => cases h
  | cons d cs ih =>
    rw [upsert_cons]
    cases i with
    | zero =>
      obtain rfl : d = c := Option.some.inj h
      rw [if_neg hne]
      rfl
    | succ i =>
      have hrest : cs[i]? = some c := h
      split
      · exact hrest
      · exact ih hrest

theorem extends_upsert (h : new.type ∈ about) (cs : Conditions) :
    Extends about cs (cs.upsert new) where
  grown := by
    rw [types_upsert]
    split
    · exact ⟨[], by simp⟩
    · next hnew =>
      refine ⟨[new.type], rfl, by simp, fun t ht => ?_⟩
      rw [List.mem_singleton.1 ht]
      exact ⟨hnew, h⟩
  kept i c hc ht := getElem?_upsert_of_ne hc fun htype => ht (htype ▸ h)

theorem extends_establish (cs : Conditions) (dependents : List String) (clock : Readings) :
    Extends (managed dependents) cs (cs.establish dependents clock) := by
  refine List.foldlRecOn _ _ (Extends.refl cs) fun ds hds x hx => hds.trans ?_
  show Extends _ ds (if _ then _ else _)
  split
  · exact extends_upsert (mem_managed_of_mem_stamped hx) ds
  · exact .refl ds

theorem extends_reset (cs : Conditions) (dependents : List String) (clock : Readings) :
    Extends (managed dependents) cs (cs.reset dependents clock) :=
  List.foldlRecOn _ _ (Extends.refl cs) fun ds hds _ hx =>
    hds.trans (extends_upsert (mem_managed_of_mem_stamped hx) ds)

theorem extends_mark (cs : Conditions) (dependents : List String) (clock : Readings)
    (type status : String) (reason message : Option String) :
    Extends [type, Condition.ready] cs
      (cs.mark dependents clock type status reason message) := by
  let new : Condition := ⟨type, status, reason, message, some (clock 0)⟩
  have hnew : new.type ∈ [type, Condition.ready] := List.mem_cons_self
  refine (extends_upsert hnew cs).trans (extends_upsert ?_ (cs.upsert new))
  rw [derivedReady_type]
  exact List.mem_cons_of_mem _ (List.mem_singleton_self _)

theorem restored_of_not_mem {previous : Conditions} (h : c.type ∉ previous.types) :
    restored previous c = c := by
  unfold restored
  split
  · next old hold =>
    have hmatch := List.find?_some hold
    simp only [Bool.and_eq_true, decide_eq_true_eq] at hmatch
    exact absurd (List.mem_map.2 ⟨old, List.mem_of_find?_eq_some hold, hmatch.1⟩) h
  · rfl

theorem extends_restoreTimes (cs previous : Conditions) :
    Extends previous.types cs (cs.restoreTimes previous) where
  grown := ⟨[], by simp [types_restoreTimes]⟩
  kept i c hc ht := by
    rw [restoreTimes_eq_map, List.getElem?_map, hc, Option.map_some, restored_of_not_mem ht]

theorem extends_apply (cs : Conditions) (edit : Edit) :
    Extends edit.addressed cs (edit.apply cs) := by
  cases edit with
  | manage dependents op =>
    cases op with
    | establish clock => exact extends_establish cs dependents clock
    | reset clock => exact extends_reset cs dependents clock
    | markTrue clock type => exact extends_mark cs dependents clock type _ _ _
    | markFalse clock type reason message => exact extends_mark cs dependents clock type _ _ _
  | upsert new => exact extends_upsert (List.mem_singleton_self _) cs
  | restoreTimes previous => exact extends_restoreTimes cs previous

/-! ## What single edits keep -/

theorem upsert_of_missing (h : cs.get? new.type = none) : cs.upsert new = cs ++ [new] := by
  induction cs with
  | nil => rfl
  | cons d cs ih =>
    rw [get?_cons] at h
    split at h
    · cases h
    · next hne => rw [upsert_cons, if_neg hne, ih h, List.cons_append]

/-- What is there is not established again. -/
theorem isPrefix_establish (cs : Conditions) (dependents : List String) (clock : Readings) :
    cs <+: cs.establish dependents clock := by
  refine List.foldlRecOn _ _ (List.prefix_refl cs) fun ds hds x _ => hds.trans ?_
  show ds <+: (if _ then _ else _)
  split
  · next hmissing =>
    have hnone : ds.get? (unknown x.2 x.1).type = none := Option.isNone_iff_eq_none.1 hmissing
    rw [upsert_of_missing hnone]
    exact List.prefix_append _ _
  · exact List.prefix_refl ds

theorem restored_eq (previous : Conditions) (c : Condition) :
    restored previous c =
      { c with lastTransitionTime := (restored previous c).lastTransitionTime } :=
  eq_of_verdict_of_time (restored_type previous c) (restored_verdict previous c) rfl

theorem get?_upsert_of_same (hc : cs.get? new.type = some c) (hstatus : c.status = new.status) :
    (cs.upsert new).get? new.type =
      some { c with reason := new.reason, message := new.message } := by
  rw [get?_upsert, if_pos rfl, hc]
  exact congrArg some (if_pos hstatus)

/-! ## Sequences of edits -/

/-- The conditions after one edit and the next. -/
def revise (cs : Conditions) (edits : List Edit) : Conditions := edits.foldl Edit.apply cs

theorem extends_revise (cs : Conditions) (edits : List Edit) :
    Extends (edits.flatMap Edit.addressed) cs (cs.revise edits) :=
  List.foldlRecOn _ _ (Extends.refl cs) fun ds hds edit hedit =>
    hds.trans ((extends_apply ds edit).mono fun _ ht => List.mem_flatMap.2 ⟨edit, hedit, ht⟩)

/-- Whatever is done to a list of conditions, what was there stays in its place, and no type is
added that was there or was added before. Each edit changes only what it is about: establishing
changes nothing, restoring the times nothing but them, and a condition that is written with the
status that it has keeps its time. -/
theorem grows_in_place (cs : Conditions) :
    (∀ edits, Extends (edits.flatMap Edit.addressed) cs (cs.revise edits) ∧
      (cs.types.Nodup → (cs.revise edits).types.Nodup)) ∧
    (∀ edit : Edit, Extends edit.addressed cs (edit.apply cs)) ∧
    (∀ dependents clock, cs <+: cs.establish dependents clock) ∧
    (∀ previous, ∃ time : Condition → Option String,
      cs.restoreTimes previous = cs.map fun c => { c with lastTransitionTime := time c }) ∧
    ∀ new c, cs.get? new.type = some c → c.status = new.status →
      (cs.upsert new).get? new.type =
        some { c with reason := new.reason, message := new.message } := by
  refine ⟨fun edits => ⟨extends_revise cs edits, (extends_revise cs edits).nodup⟩,
    extends_apply cs, isPrefix_establish cs, fun previous => ?_,
    fun new c => get?_upsert_of_same⟩
  refine ⟨fun c => (restored previous c).lastTransitionTime, ?_⟩
  rw [restoreTimes_eq_map]
  exact List.map_congr_left fun c _ => restored_eq previous c

/-- A list with a condition of a type that is nobody's. -/
def foreign : Conditions :=
  [⟨"C", "Odd", none, none, some "2019-01-01T00:00:00Z"⟩, ⟨"B", "True", none, none, none⟩]

theorem foreign_grows_in_place :
    let clock : Readings := fun _ => "2020-01-01T00:00:00Z"
    let edits : List Edit := [.manage ["A", "B"] (.establish clock),
      .manage ["A", "B"] (.markFalse clock "A" "Lost" "gone"),
      .upsert ⟨"D", "True", none, none, none⟩,
      .restoreTimes [⟨"B", "True", none, none, some "2018-01-01T00:00:00Z"⟩]]
    let odd : Condition := ⟨"C", "Odd", none, none, some "2019-01-01T00:00:00Z"⟩
    let new : Condition := ⟨"C", "Odd", some "Same", none, some "2020-01-01T00:00:00Z"⟩
    foreign.types.Nodup ∧ (foreign.revise edits).types = ["C", "B", "A", "Ready", "D"] ∧
      (foreign.revise edits).types.Nodup ∧
      foreign[0]? = some odd ∧ odd.type ∉ edits.flatMap Edit.addressed ∧
      (foreign.revise edits)[0]? = some odd ∧
      foreign.get? new.type = some odd ∧ odd.status = new.status ∧
      (foreign.upsert new).get? new.type = some { odd with reason := new.reason } := by
  intro clock edits odd new
  have hdistinct : foreign.types.Nodup := by decide
  have hfirst : foreign[0]? = some odd := rfl
  have hspared : odd.type ∉ edits.flatMap Edit.addressed := by decide
  have hget : foreign.get? new.type = some odd := by decide +kernel
  obtain ⟨hrun, -, -, -, hsame⟩ := grows_in_place foreign
  obtain ⟨hextends, hnodup⟩ := hrun edits
  exact ⟨hdistinct, by decide +kernel, hnodup hdistinct, hfirst, hspared,
    hextends.kept 0 odd hfirst hspared, hget, rfl, hsame new odd hget rfl⟩

end EventWiring.Conditions
