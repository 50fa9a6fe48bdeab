import EventWiring.Proofs.Condition.Verdict

/-!
# Revising conditions

Establishing, resetting and marking rewrite the conditions of the dependents and `Ready`, and
nothing else; what each of the conditions says afterwards is told by `verdict?`. Restoring the
times changes no verdict. A revision that ends at the verdicts of an earlier one, whose times were
restored, ends at the very same list once its own times are restored (`restoreTimes_again`).
-/

namespace EventWiring.Conditions

variable {cs ds : Conditions} {dependents : List String} {clock : Readings}

/-- The types of the conditions that a set of dependents gives. -/
def managed (dependents : List String) : List String := dependents ++ [Condition.ready]

theorem ready_mem_managed : Condition.ready ∈ managed dependents := by simp [managed]

theorem map_fst_stamped (dependents : List String) (clock : Readings) :
    (stamped dependents clock).map Prod.fst = managed dependents := by
  rw [stamped, List.mapIdx_eq_zipIdx_map, List.map_map]
  exact List.zipIdx_map_fst 0 _

theorem mem_managed_of_mem_stamped {x : String × String} (h : x ∈ stamped dependents clock) :
    x.1 ∈ managed dependents := by
  rw [← map_fst_stamped dependents clock]
  exact List.mem_map_of_mem h

/-! ## Establishing and resetting -/

theorem rewrites_establish (cs : Conditions) (dependents : List String) (clock : Readings) :
    Rewrites (managed dependents) cs (cs.establish dependents clock) := by
  refine Rewrites.foldl (fun x hx cs => ?_) cs
  show Rewrites _ cs (if _ then _ else _)
  split
  · exact .upsert (mem_managed_of_mem_stamped hx) cs
  · exact .refl cs

theorem rewrites_reset (cs : Conditions) (dependents : List String) (clock : Readings) :
    Rewrites (managed dependents) cs (cs.reset dependents clock) :=
  Rewrites.foldl (fun _ hx cs => .upsert (mem_managed_of_mem_stamped hx) cs) cs

theorem verdict?_reset {t : String} (ht : t ∈ managed dependents) (cs : Conditions) :
    (cs.reset dependents clock).verdict? t = some .undecided := by
  unfold reset
  rw [← map_fst_stamped dependents clock] at ht
  suffices ∀ (l : List (String × String)) (cs : Conditions),
      t ∈ l.map Prod.fst ∨ cs.verdict? t = some .undecided →
        (l.foldl (fun cs x => cs.upsert (unknown x.2 x.1)) cs).verdict? t = some .undecided from
    this _ cs (.inl ht)
  intro l
  induction l with
  | nil => intro cs h; simpa using h
  | cons x l ih =>
    intro cs h
    refine ih _ ?_
    rw [verdict?_upsert]
    by_cases hx : t = x.1
    · exact .inr (if_pos hx)
    · rw [List.map_cons, List.mem_cons] at h
      exact h.imp (fun h => h.resolve_left hx) fun h => (if_neg hx).trans h

/-! ## Marking -/

theorem derivedReady_type (cs : Conditions) (dependents : List String) (time : String) :
    (cs.derivedReady dependents time).type = Condition.ready := by
  unfold derivedReady
  split
  · rfl
  · split <;> rfl

theorem verdict_derivedReady (cs : Conditions) (dependents : List String) (time : String) :
    (cs.derivedReady dependents time).verdict = .derive (dependents.map cs.verdict?) := by
  have hhappy : (dependents.map cs.verdict?).all (·.any (·.status = Condition.isTrue)) =
      cs.happy dependents := by
    rw [List.all_map]
    congr 1
    funext t
    simp only [verdict?, isTrue, Function.comp_def, Option.any_map]
    rfl
  have hpresent : (dependents.map cs.verdict?).filterMap id =
      (dependents.filterMap cs.get?).map Condition.verdict := by
    rw [List.filterMap_map, List.map_filterMap]
    rfl
  unfold derivedReady Verdict.derive
  rw [hhappy, hpresent]
  split
  · rfl
  · have hculprit : (cs.culprit dependents).map Condition.verdict =
        (((dependents.filterMap cs.get?).map Condition.verdict).find?
          (·.status = Condition.isFalse)).or
        (((dependents.filterMap cs.get?).map Condition.verdict).find?
          (·.status ≠ Condition.isTrue)) := by
      rw [culprit, Option.map_or, List.find?_map, List.find?_map]
      rfl
    simp only [← hculprit]
    cases cs.culprit dependents <;> rfl

theorem rewrites_mark {type : String} (h : type ∈ managed dependents) (cs : Conditions)
    (clock : Readings) (status : String) (reason message : Option String) :
    Rewrites (managed dependents) cs (cs.mark dependents clock type status reason message) := by
  unfold mark
  refine Rewrites.trans (.upsert h cs) (.upsert ?_ _)
  rw [derivedReady_type]
  exact ready_mem_managed

/-- Marking a dependent decides it, and derives `Ready` anew. -/
theorem verdict?_mark (cs : Conditions) (dependents : List String) (clock : Readings)
    (type status : String) (reason message : Option String) (t : String) :
    (cs.mark dependents clock type status reason message).verdict? t =
      if t = Condition.ready then
        some (.derive (dependents.map fun t =>
          if t = type then some ⟨status, reason, message⟩ else cs.verdict? t))
      else if t = type then some ⟨status, reason, message⟩ else cs.verdict? t := by
  unfold mark
  rw [verdict?_upsert, derivedReady_type, verdict_derivedReady]
  split
  · congr 3
    funext t
    exact verdict?_upsert cs _ t
  · exact verdict?_upsert cs _ t

/-! ## Restoring the times -/

/-- A condition with the time that it had in `previous`, if its type and status stood there. -/
def restored (previous : Conditions) (c : Condition) : Condition :=
  match previous.find? fun p => p.type = c.type && p.status = c.status with
  | some old => { c with lastTransitionTime := old.lastTransitionTime }
  | none => c

theorem restoreTimes_eq_map (cs previous : Conditions) :
    cs.restoreTimes previous = cs.map (restored previous) := rfl

theorem mem_restoreTimes {previous : Conditions} {c : Condition} :
    c ∈ cs.restoreTimes previous ↔ ∃ d ∈ cs, restored previous d = c := List.mem_map

@[simp] theorem restored_type (previous : Conditions) (c : Condition) :
    (restored previous c).type = c.type := by
  unfold restored
  split <;> rfl

@[simp] theorem restored_verdict (previous : Conditions) (c : Condition) :
    (restored previous c).verdict = c.verdict := by
  unfold restored
  split <;> rfl

theorem restored_status (previous : Conditions) (c : Condition) :
    (restored previous c).status = c.status :=
  congrArg Verdict.status (restored_verdict previous c)

theorem types_restoreTimes (cs previous : Conditions) :
    (cs.restoreTimes previous).types = cs.types := by
  rw [restoreTimes_eq_map]
  simp [types]

theorem get?_restoreTimes (cs previous : Conditions) (t : String) :
    (cs.restoreTimes previous).get? t = (cs.get? t).map (restored previous) := by
  unfold get?
  rw [restoreTimes_eq_map, List.find?_map]
  simp only [Function.comp_def, restored_type]

@[simp] theorem verdict?_restoreTimes (cs previous : Conditions) (t : String) :
    (cs.restoreTimes previous).verdict? t = cs.verdict? t := by
  unfold verdict?
  rw [get?_restoreTimes]
  cases cs.get? t <;> simp

theorem spares_restoreTimes (cs previous : Conditions) (t : String) :
    (cs.restoreTimes previous).spares t = (cs.spares t).map (restored previous) := by
  unfold spares
  rw [restoreTimes_eq_map, List.filter_map, List.map_tail]
  simp [Function.comp_def]

theorem restored_cases (previous : Conditions) (c : Condition) :
    (∃ old ∈ previous, old.type = c.type ∧ old.status = c.status ∧
      (restored previous c).lastTransitionTime = old.lastTransitionTime) ∨
    ∀ old ∈ previous, old.type = c.type → old.status ≠ c.status := by
  unfold restored
  split
  · next old hold =>
    have := List.find?_some hold
    simp only [Bool.and_eq_true, decide_eq_true_eq] at this
    exact .inl ⟨old, List.mem_of_find?_eq_some hold, this.1, this.2, rfl⟩
  · next hnone =>
    rw [List.find?_eq_none] at hnone
    exact .inr fun old hold ht hs => by simpa [ht, hs] using hnone old hold

/-- The time of a restored condition depends on its type and status alone. -/
theorem restored_time {previous : Conditions} {c d : Condition} (ht : c.type = d.type)
    (hs : c.status = d.status) (h : d ∈ previous) :
    (restored previous c).lastTransitionTime = (restored previous d).lastTransitionTime := by
  unfold restored
  rw [ht, hs]
  split
  · rfl
  · next hnone =>
    rw [List.find?_eq_none] at hnone
    simpa using hnone d h

theorem eq_of_verdict_of_time {c d : Condition} (ht : c.type = d.type) (hv : c.verdict = d.verdict)
    (hl : c.lastTransitionTime = d.lastTransitionTime) : c = d := by
  cases c
  cases d
  simp_all [Condition.verdict]

/-- Restoring from a list whose own times were restored from `previous` gives nothing new to a
condition of `previous` that is in the list. -/
theorem restored_restored {previous : Conditions} {c : Condition} (hc : c ∈ previous)
    (hmem : restored previous c ∈ ds.restoreTimes previous) :
    restored (ds.restoreTimes previous) (restored previous c) = restored previous c := by
  refine eq_of_verdict_of_time (restored_type _ _) (restored_verdict _ _) ?_
  rcases restored_cases (ds.restoreTimes previous) (restored previous c) with
    ⟨old, hold, ht, hs, hl⟩ | hnone
  · obtain ⟨d, -, rfl⟩ := mem_restoreTimes.1 hold
    rw [restored_type, restored_type] at ht
    rw [restored_status, restored_status] at hs
    exact hl.trans (restored_time ht hs hc)
  · exact absurd rfl (hnone _ hmem rfl)

/-- The first condition of its type has its own time. -/
theorem restored_of_get? {c d : Condition} {t : String} (hd : ds.get? t = some d)
    (ht : c.type = t) (hv : c.verdict = d.verdict) : restored ds c = d := by
  have hfind : ds.find? (fun p => p.type = c.type && p.status = c.status) = some d := by
    obtain ⟨l, l', rfl, hl⟩ := (List.find?_eq_some_iff_append.1 hd).2
    have hdt := type_of_get? hd
    have hs : c.status = d.status := congrArg Verdict.status hv
    rw [List.find?_eq_some_iff_append]
    refine ⟨by simp [ht, hdt, hs], l, l', rfl, fun x hx => ?_⟩
    have := hl x hx
    simp_all
  unfold restored
  rw [hfind]
  refine eq_of_verdict_of_time ?_ hv rfl
  exact ht.trans (type_of_get? hd).symm

/-- A second revision that decides as the first did finds nothing to change. -/
theorem restoreTimes_again {types : List String} {es : Conditions} (h : Rewrites types cs ds)
    (hm : ∀ t ∈ types, t ∈ ds.types) (h' : Rewrites types (ds.restoreTimes cs) es)
    (hv : ∀ t ∈ types, es.verdict? t = ds.verdict? t) :
    es.restoreTimes (ds.restoreTimes cs) = ds.restoreTimes cs := by
  have hsame : ∀ t, es.verdict? t = (ds.restoreTimes cs).verdict? t :=
    h'.verdict? fun t ht => (hv t ht).trans (verdict?_restoreTimes ds cs t).symm
  refine ext_types ?_ (fun t => ?_) fun t => ?_
  · rw [types_restoreTimes]
    exact h'.types fun t ht => (types_restoreTimes ds cs).symm ▸ hm t ht
  · rw [get?_restoreTimes]
    have := hsame t
    unfold verdict? at this
    cases hes : es.get? t with
    | none =>
      rw [hes] at this
      exact (Option.map_eq_none_iff.1 this.symm).symm
    | some e =>
      rw [hes] at this
      obtain ⟨d, hd, hde⟩ := Option.map_eq_some_iff.1 this.symm
      rw [hd, Option.map_some, restored_of_get? hd (type_of_get? hes) hde.symm]
  · -- the spare conditions are those of `cs`, whose times are restored already
    rw [spares_restoreTimes, h'.spares, spares_restoreTimes, h.spares, List.map_map]
    refine List.map_congr_left fun c hc => ?_
    obtain ⟨hcs, -⟩ := mem_spares hc
    have hds : c ∈ ds.spares t := h.spares t ▸ hc
    exact restored_restored hcs (mem_restoreTimes.2 ⟨c, (mem_spares hds).1, rfl⟩)

end EventWiring.Conditions
