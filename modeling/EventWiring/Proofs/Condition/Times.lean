import EventWiring.Proofs.Condition.Revision

/-!
# Transition times

What a revision writes it stamps with the time. A condition that is the first of its type has
therefore either kept its status and its time, or has a time that was read meanwhile (`Dated`). So
once the times are restored, over a list in which no type stands twice, a time is the old one where
the status is and one that was read where the status is not (`dated_restoreTimes`). Types that are
missing are added behind the others in the order in which they are established (`types_establish`).
-/

namespace EventWiring

/-- The time of the condition is one of those. -/
def Condition.Stamped (times : String → Prop) (c : Condition) : Prop :=
  ∃ time, times time ∧ c.lastTransitionTime = some time

namespace Conditions

variable {times : String → Prop} {previous cs ds : Conditions} {dependents : List String}
  {clock : Readings} {new c : Condition} {t : String}

/-! ## Revisions -/

/-- The first condition of each type has the status and the time that it had in `previous`, or a
time that was read since. -/
def Dated (times : String → Prop) (previous cs : Conditions) : Prop :=
  ∀ t c, cs.get? t = some c → c.Stamped times ∨ ∃ old, previous.get? t = some old ∧
    old.status = c.status ∧ old.lastTransitionTime = c.lastTransitionTime

namespace Dated

theorem refl (cs : Conditions) : Dated times cs cs := fun _ c hc => .inr ⟨c, hc, rfl, rfl⟩

theorem upsert (h : Dated times previous cs) (hnew : new.Stamped times) :
    Dated times previous (cs.upsert new) := by
  intro t c hc
  rw [get?_upsert] at hc
  by_cases ht : t = new.type
  · rw [if_pos ht] at hc
    cases hold : cs.get? t with
    | none =>
      rw [hold] at hc
      cases hc
      exact .inl hnew
    | some old =>
      rw [hold] at hc
      obtain rfl : new.writtenOver old = c := Option.some.inj hc
      -- the time of `old` goes on where its status does
      by_cases hsame : old.status = new.status
      · have hwritten : new.writtenOver old =
            { old with reason := new.reason, message := new.message } := if_pos hsame
        rw [hwritten]
        exact h t old hold
      · have hwritten : new.writtenOver old = new := if_neg hsame
        rw [hwritten]
        exact .inl hnew
  · rw [if_neg ht] at hc
    exact h t c hc

theorem foldl {β : Type} {f : Conditions → β → Conditions} {l : List β}
    (h : Dated times previous cs)
    (hf : ∀ x ∈ l, ∀ cs, Dated times previous cs → Dated times previous (f cs x)) :
    Dated times previous (l.foldl f cs) := by
  induction l generalizing cs with
  | nil => exact h
  | cons x l ih =>
    exact ih (hf x List.mem_cons_self cs h) fun y hy => hf y (List.mem_cons_of_mem _ hy)

theorem establish (h : Dated times previous cs)
    (hclock : ∀ x ∈ stamped dependents clock, x.1 ∉ cs.types → times x.2) :
    Dated times previous (cs.establish dependents clock) := by
  unfold Conditions.establish
  generalize stamped dependents clock = l at hclock ⊢
  induction l generalizing cs with
  | nil => exact h
  | cons x l ih =>
    have hlater : ∀ y ∈ l, y.1 ∉ cs.types → times y.2 :=
      fun y hy => hclock y (List.mem_cons_of_mem _ hy)
    rw [List.foldl_cons]
    show Dated times previous (l.foldl _ (if _ then _ else _))
    split
    · next hmissing =>
      replace hmissing : x.1 ∉ cs.types := by
        rw [← get?_isSome, Option.isSome_eq_false_iff.2 hmissing]
        exact Bool.false_ne_true
      refine ih (h.upsert ⟨x.2, hclock x List.mem_cons_self hmissing, rfl⟩) fun y hy hnew => ?_
      refine hlater y hy fun hold => hnew ?_
      show y.1 ∈ (cs.upsert _).types
      rw [types_upsert]
      split
      · exact hold
      · exact List.mem_append_left _ hold
    · exact ih h hlater

theorem reset (h : Dated times previous cs)
    (hclock : ∀ x ∈ stamped dependents clock, times x.2) :
    Dated times previous (cs.reset dependents clock) :=
  h.foldl fun x hx _ hcs => hcs.upsert ⟨x.2, hclock x hx, rfl⟩

theorem mark (h : Dated times previous cs) {type status : String} {reason message : Option String}
    (hmark : times (clock 0)) (hready : times (clock 1)) :
    Dated times previous (cs.mark dependents clock type status reason message) := by
  refine (h.upsert ⟨_, hmark, rfl⟩).upsert ⟨_, hready, ?_⟩
  unfold derivedReady
  split
  · rfl
  · split <;> rfl

end Dated

/-! ## The order of the types -/

theorem types_establish (hdistinct : (managed dependents).Nodup) (cs : Conditions)
    (clock : Readings) : (cs.establish dependents clock).types =
      cs.types ++ (managed dependents).filter (· ∉ cs.types) := by
  rw [← map_fst_stamped dependents clock] at hdistinct ⊢
  unfold establish
  generalize stamped dependents clock = l at hdistinct ⊢
  induction l generalizing cs with
  | nil => simp
  | cons x l ih =>
    obtain ⟨type, time⟩ := x
    obtain ⟨hnew, hrest⟩ := List.nodup_cons.1 hdistinct
    rw [List.foldl_cons, ih _ hrest, List.map_cons, List.filter_cons]
    by_cases hthere : type ∈ cs.types
    · have hsome : (cs.get? type).isNone = false := by simpa using get?_isSome.2 hthere
      simp [hsome, hthere]
    · have hnone : (cs.get? type).isNone = true := by
        simpa using fun h => hthere (get?_isSome.1 h)
      have hothers : ∀ t ∈ l.map Prod.fst, t ≠ type := fun t ht h => hnew (h ▸ ht)
      have hfilter : (l.map Prod.fst).filter (· ∉ cs.types ++ [type]) =
          (l.map Prod.fst).filter (· ∉ cs.types) :=
        List.filter_congr fun t ht => by simp [hothers t ht]
      have htypes : (cs.upsert (unknown time type)).types = cs.types ++ [type] :=
        (types_upsert cs _).trans (if_neg hthere)
      simp only [hnone, if_true, htypes, hfilter, hthere, not_false_eq_true, decide_true]
      rw [List.append_assoc]
      rfl

theorem mem_types_establish (h : t ∈ managed dependents) (cs : Conditions) (clock : Readings)
    (hdistinct : (managed dependents).Nodup) : t ∈ (cs.establish dependents clock).types := by
  rw [types_establish hdistinct, List.mem_append, List.mem_filter]
  by_cases hthere : t ∈ cs.types
  · exact .inl hthere
  · exact .inr ⟨h, by simpa using hthere⟩

/-! ## Restoring the times -/

/-- Where no type stands twice, every condition counts. -/
theorem get?_of_mem (hdistinct : cs.types.Nodup) (h : c ∈ cs) : cs.get? c.type = some c := by
  induction cs with
  | nil => cases h
  | cons d cs ih =>
    obtain ⟨hnew, hrest⟩ := List.nodup_cons.1 hdistinct
    rw [get?_cons]
    rcases List.mem_cons.1 h with rfl | h
    · exact if_pos rfl
    · rw [if_neg, ih hrest h]
      intro hd
      exact hnew (List.mem_map.2 ⟨c, h, hd.symm⟩)

/-- The condition has the time that it had in `previous` as long as it has its status, and else a
time that was read since. -/
structure Timely (times : String → Prop) (previous : Conditions) (c : Condition) : Prop where
  kept : ∀ old, previous.get? c.type = some old → old.status = c.status →
    c.lastTransitionTime = old.lastTransitionTime
  moved : (∀ old, previous.get? c.type = some old → old.status ≠ c.status) → c.Stamped times

theorem dated_restoreTimes (hdistinct : previous.types.Nodup) (h : Dated times previous ds)
    (hc : (ds.restoreTimes previous).get? t = some c) : Timely times previous c := by
  rw [get?_restoreTimes] at hc
  obtain ⟨d, hd, rfl⟩ := Option.map_eq_some_iff.1 hc
  rcases restored_cases previous d with ⟨first, hfirst, htype, hstatus, htime⟩ | hnone
  · have hcounts : previous.get? d.type = some first := htype ▸ get?_of_mem hdistinct hfirst
    constructor
    · intro old hold _
      rw [restored_type, hcounts] at hold
      cases hold
      exact htime
    · intro hmoved
      rw [restored_type, restored_status] at hmoved
      exact absurd hstatus (hmoved first hcounts)
  · have hsame : restored previous d = d := by
      unfold restored
      split
      · next old hold =>
        have hmatch := List.find?_some hold
        simp only [Bool.and_eq_true, decide_eq_true_eq] at hmatch
        exact absurd hmatch.2 (hnone old (List.mem_of_find?_eq_some hold) hmatch.1)
      · rfl
    rw [hsame]
    constructor
    · intro old hold hstatus
      exact absurd hstatus
        (hnone old (List.mem_of_find?_eq_some hold) (type_of_get? hold))
    · intro _
      rcases h t d hd with hstamped | ⟨old, hold, hstatus, -⟩
      · exact hstamped
      · have htype : old.type = d.type := (type_of_get? hold).trans (type_of_get? hd).symm
        exact absurd hstatus (hnone old (List.mem_of_find?_eq_some hold) htype)

/-- What no revision touches is restored to what it is. -/
theorem get?_restoreTimes_of_same (h : ds.get? t = previous.get? t) :
    (ds.restoreTimes previous).get? t = previous.get? t := by
  rw [get?_restoreTimes, h]
  cases hold : previous.get? t with
  | none => rfl
  | some old => exact congrArg some (restored_of_get? hold (type_of_get? hold) rfl)

end Conditions

end EventWiring
