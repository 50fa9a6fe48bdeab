import EventWiring.Proofs.Condition.Revision

/-!
# Ready is derived

The conditions of a set of dependents are established, reset and marked in any order
(`Conditions.Operation`). Whatever they were before, after a mark `Ready` says what the dependents
say: it is true if all of them hold, and else it gives the reason of the one that is to blame
(`Conditions.Explains`). Where `Ready` was true exactly if all dependents held, this stays so.
-/

namespace EventWiring.Conditions

variable {cs ds : Conditions} {dependents : List String} {t : String}

/-! ## Operations -/

/-- What is done to the conditions of a set of dependents, with what the clock reads meanwhile. -/
inductive Operation where
  | establish (clock : Readings)
  | reset (clock : Readings)
  | markTrue (clock : Readings) (type : String)
  | markFalse (clock : Readings) (type reason message : String)

namespace Operation

def apply (dependents : List String) (cs : Conditions) : Operation → Conditions
  | establish clock => cs.establish dependents clock
  | reset clock => cs.reset dependents clock
  | markTrue clock type => cs.markTrue dependents clock type
  | markFalse clock type reason message => cs.markFalse dependents clock type reason message

/-- Only marks derive `Ready`. -/
def marks : Operation → Bool
  | establish _ => false
  | reset _ => false
  | markTrue _ _ => true
  | markFalse _ _ _ _ => true

theorem apply_of_marks (dependents : List String) {op : Operation} (h : op.marks = true) :
    ∃ clock type status reason message, ∀ cs : Conditions,
      op.apply dependents cs = cs.mark dependents clock type status reason message := by
  cases op with
  | markTrue clock type => exact ⟨clock, type, _, _, _, fun _ => rfl⟩
  | markFalse clock type reason message => exact ⟨clock, type, _, _, _, fun _ => rfl⟩
  | _ => cases h

end Operation

/-- The conditions after one operation and the next. -/
def perform (cs : Conditions) (dependents : List String) (ops : List Operation) : Conditions :=
  ops.foldl (Operation.apply dependents) cs

/-! ## Blame -/

/-- No dependent that is there has `p`. -/
def Nowhere (cs : Conditions) (dependents : List String) (p : Condition → Prop) : Prop :=
  ∀ t ∈ dependents, ∀ c, cs.get? t = some c → ¬ p c

/-- `c` is the condition of the first dependent that is there and has `p`. -/
def First (cs : Conditions) (dependents : List String) (p : Condition → Prop) (c : Condition) :
    Prop :=
  ∃ pre t post, dependents = pre ++ t :: post ∧ cs.get? t = some c ∧ p c ∧ cs.Nowhere pre p

/-- What explains that not all dependents hold: the first that is false, else the first that is
there and not true. A dependent that is missing is not to blame. -/
inductive Explains (cs : Conditions) (dependents : List String) : Verdict → Prop
  | failed {c : Condition} : cs.First dependents (·.status = Condition.isFalse) c →
    Explains cs dependents c.verdict
  | unsettled {c : Condition} : cs.Nowhere dependents (·.status = Condition.isFalse) →
    cs.First dependents (·.status ≠ Condition.isTrue) c → Explains cs dependents c.verdict
  | missing : cs.Nowhere dependents (·.status ≠ Condition.isTrue) →
    Explains cs dependents .undecided

theorem nowhere_of_find? {p : Condition → Prop} [DecidablePred p]
    (h : (dependents.filterMap cs.get?).find? (p ·) = none) : cs.Nowhere dependents p := by
  intro t ht c hc hp
  rw [List.find?_eq_none] at h
  exact h c (List.mem_filterMap.2 ⟨t, ht, hc⟩) (decide_eq_true hp)

theorem first_of_find? {p : Condition → Prop} [DecidablePred p] {c : Condition}
    (h : (dependents.filterMap cs.get?).find? (p ·) = some c) : cs.First dependents p c := by
  rw [List.find?_filterMap, Option.bind_eq_some_iff] at h
  obtain ⟨t, hfound, hc⟩ := h
  obtain ⟨hp, pre, post, rfl, hpre⟩ := List.find?_eq_some_iff_append.1 hfound
  rw [hc] at hp
  refine ⟨pre, t, post, rfl, hc, by simpa using hp, fun u hu d hd hpd => ?_⟩
  simpa [hd, hpd] using hpre u hu

theorem explains_derivedReady (h : cs.happy dependents = false) (time : String) :
    cs.Explains dependents (cs.derivedReady dependents time).verdict := by
  have hderived : (cs.derivedReady dependents time).verdict =
      ((cs.culprit dependents).map Condition.verdict).getD .undecided := by
    unfold derivedReady
    rw [h]
    cases cs.culprit dependents <;> rfl
  rw [hderived, culprit]
  cases hfalse : (dependents.filterMap cs.get?).find? (·.status = Condition.isFalse) with
  | some c => exact .failed (first_of_find? hfalse)
  | none =>
    rw [Option.none_or]
    cases hopen : (dependents.filterMap cs.get?).find? (·.status ≠ Condition.isTrue) with
    | some c => exact .unsettled (nowhere_of_find? hfalse) (first_of_find? hopen)
    | none => exact .missing (nowhere_of_find? hopen)

theorem Explains.status_ne {v : Verdict} (h : cs.Explains dependents v) :
    v.status ≠ Condition.isTrue := by
  cases h with
  | failed hfirst =>
    obtain ⟨_, _, _, _, _, hfalse, _⟩ := hfirst
    intro htrue
    exact absurd (hfalse.symm.trans htrue) (by decide)
  | unsettled _ hfirst =>
    obtain ⟨_, _, _, _, _, hopen, _⟩ := hfirst
    exact hopen
  | missing => exact by decide

section Congr

variable (h : ∀ t ∈ dependents, ds.get? t = cs.get? t)

include h

theorem happy_congr : ds.happy dependents = cs.happy dependents := by
  rw [Bool.eq_iff_iff]
  simp only [happy, List.all_eq_true]
  refine forall₂_congr fun t ht => ?_
  rw [isTrue, isTrue, h t ht]

theorem Nowhere.congr {p : Condition → Prop} (hcs : cs.Nowhere dependents p) :
    ds.Nowhere dependents p := fun t ht c hc => hcs t ht c (h t ht ▸ hc)

theorem First.congr {p : Condition → Prop} {c : Condition} (hcs : cs.First dependents p c) :
    ds.First dependents p c := by
  obtain ⟨pre, t, post, rfl, ht, hp, hpre⟩ := hcs
  refine ⟨pre, t, post, rfl, (h t (by simp)).trans ht, hp, hpre.congr fun u hu => ?_⟩
  exact h u (List.mem_append_left _ hu)

theorem Explains.congr {v : Verdict} (hcs : cs.Explains dependents v) :
    ds.Explains dependents v := by
  cases hcs with
  | failed hfirst => exact .failed (hfirst.congr h)
  | unsettled hnone hfirst => exact .unsettled (hnone.congr h) (hfirst.congr h)
  | missing hnone => exact .missing (hnone.congr h)

end Congr

/-! ## Agreement -/

/-- `Ready` is true exactly if all dependents hold. -/
def Agrees (cs : Conditions) (dependents : List String) : Prop :=
  cs.isTrue Condition.ready = cs.happy dependents

instance (cs : Conditions) (dependents : List String) : Decidable (cs.Agrees dependents) :=
  inferInstanceAs (Decidable (_ = _))

theorem isTrue_eq_any (cs : Conditions) (t : String) :
    cs.isTrue t = (cs.verdict? t).any (·.status = Condition.isTrue) := by
  rw [verdict?, Option.any_map]
  rfl

theorem happy_iff : cs.happy dependents = true ↔
    ∀ t ∈ dependents, ∃ c, cs.get? t = some c ∧ c.status = Condition.isTrue := by
  simp [happy, isTrue, Option.any_eq_true]

/-- What `Ready` says after a mark follows from the dependents as they are then. -/
theorem derived_mark (hready : Condition.ready ∉ dependents) (cs : Conditions) (clock : Readings)
    (type status : String) (reason message : Option String) :
    let after := cs.mark dependents clock type status reason message
    ∃ c, after.get? Condition.ready = some c ∧
      (c.status = Condition.isTrue ↔ after.happy dependents = true) ∧
      (after.happy dependents = false → after.Explains dependents c.verdict) := by
  intro after
  let marked := cs.upsert ⟨type, status, reason, message, some (clock 0)⟩
  let derived := marked.derivedReady dependents (clock 1)
  have hafter : after = marked.upsert derived := rfl
  have htype : derived.type = Condition.ready := derivedReady_type _ _ _
  have hsame : ∀ t ∈ dependents, after.get? t = marked.get? t := by
    intro t ht
    rw [hafter, get?_upsert, htype, if_neg]
    rintro rfl
    exact hready ht
  have hverdict : after.verdict? Condition.ready = some derived.verdict := by
    rw [hafter, verdict?_upsert, htype, if_pos rfl]
  obtain ⟨c, hc, hderived⟩ := Option.map_eq_some_iff.1 hverdict
  have hstatus : c.status = derived.status := congrArg Verdict.status hderived
  refine ⟨c, hc, ?_, fun hunhappy => ?_⟩
  · rw [hstatus, happy_congr hsame]
    cases hhappy : marked.happy dependents with
    | true =>
      have htrue : derived = ⟨Condition.ready, Condition.isTrue, none, none, some (clock 1)⟩ :=
        if_pos hhappy
      simp [htrue]
    | false =>
      have hne : derived.status ≠ Condition.isTrue :=
        (explains_derivedReady hhappy (clock 1)).status_ne
      simp [hne]
  · rw [happy_congr hsame] at hunhappy
    rw [hderived]
    exact (explains_derivedReady hunhappy (clock 1)).congr hsame

theorem isTrue_establish (cs : Conditions) (dependents : List String) (clock : Readings)
    (t : String) : (cs.establish dependents clock).isTrue t = cs.isTrue t := by
  unfold establish
  generalize stamped dependents clock = l
  induction l generalizing cs with
  | nil => rfl
  | cons x l ih =>
    rw [List.foldl_cons, ih]
    show (if _ then _ else _ : Conditions).isTrue t = _
    split
    · next hmissing =>
      -- a condition that is missing is not true, and neither is an unknown one
      have htype : (unknown x.2 x.1).type = x.1 := rfl
      rw [isTrue_eq_any, verdict?_upsert, htype]
      by_cases ht : t = x.1
      · have hnone : cs.get? t = none := by simpa [ht] using hmissing
        rw [if_pos ht, isTrue, hnone]
        rfl
      · rw [if_neg ht, isTrue_eq_any]
    · rfl

theorem agrees_establish (h : cs.Agrees dependents) (clock : Readings) :
    (cs.establish dependents clock).Agrees dependents := by
  have hhappy : (cs.establish dependents clock).happy dependents = cs.happy dependents := by
    unfold happy
    congr 1
    funext t
    exact isTrue_establish cs dependents clock t
  unfold Agrees
  rw [isTrue_establish, hhappy]
  exact h

theorem agrees_reset (hdependents : dependents ≠ []) (cs : Conditions) (clock : Readings) :
    (cs.reset dependents clock).Agrees dependents := by
  have huntrue : ∀ t ∈ managed dependents, (cs.reset dependents clock).isTrue t = false := by
    intro t ht
    rw [isTrue_eq_any, verdict?_reset ht]
    rfl
  obtain ⟨t, ht⟩ := List.exists_mem_of_ne_nil dependents hdependents
  have hunhappy : (cs.reset dependents clock).happy dependents = false := by
    refine List.all_eq_false.2 ⟨t, ht, ?_⟩
    rw [huntrue t (List.mem_append_left _ ht)]
    exact Bool.false_ne_true
  rw [Agrees, huntrue _ ready_mem_managed, hunhappy]

theorem agrees_mark (hready : Condition.ready ∉ dependents) (cs : Conditions) (clock : Readings)
    (type status : String) (reason message : Option String) :
    (cs.mark dependents clock type status reason message).Agrees dependents := by
  obtain ⟨c, hc, htrue, -⟩ := derived_mark hready cs clock type status reason message
  unfold Agrees
  rw [Bool.eq_iff_iff, ← htrue, isTrue, hc]
  simp

theorem agrees_apply (hready : Condition.ready ∉ dependents) (hdependents : dependents ≠ [])
    (h : cs.Agrees dependents) (op : Operation) : (op.apply dependents cs).Agrees dependents := by
  cases op with
  | establish clock => exact agrees_establish h clock
  | reset clock => exact agrees_reset hdependents cs clock
  | markTrue clock type => exact agrees_mark hready cs clock type _ _ _
  | markFalse clock type reason message => exact agrees_mark hready cs clock type _ _ _

/-- `Ready` is derived and cannot drift. Whatever was done before, after a mark it is there, is true
exactly if all dependents hold, and else says what explains that they do not. And where it is true
exactly if all dependents hold, every sequence of operations keeps it so. -/
theorem ready_derived (hready : Condition.ready ∉ dependents) (cs : Conditions) :
    (∀ ops op, op.marks = true →
      let after := cs.perform dependents (ops ++ [op])
      (after.happy dependents = true ↔
        ∀ t ∈ dependents, ∃ c, after.get? t = some c ∧ c.status = Condition.isTrue) ∧
      ∃ c, after.get? Condition.ready = some c ∧
        (c.status = Condition.isTrue ↔ after.happy dependents = true) ∧
        (after.happy dependents = false → after.Explains dependents c.verdict)) ∧
    (dependents ≠ [] → cs.Agrees dependents → ∀ ops, (cs.perform dependents ops).Agrees dependents)
    := by
  refine ⟨fun ops op hmarks => ⟨happy_iff, ?_⟩, fun hdependents hagrees ops => ?_⟩
  · obtain ⟨clock, type, status, reason, message, happly⟩ :=
      Operation.apply_of_marks dependents hmarks
    have hlast : cs.perform dependents (ops ++ [op]) =
        (cs.perform dependents ops).mark dependents clock type status reason message := by
      rw [perform, List.foldl_append]
      exact happly _
    rw [hlast]
    exact derived_mark hready _ clock type status reason message
  · unfold perform
    induction ops generalizing cs with
    | nil => exact hagrees
    | cons op ops ih => exact ih _ (agrees_apply hready hdependents hagrees op)

/-- A list with a contradiction and without `Ready`: one dependent is said to be neither true nor
false, and the other both. -/
def disputed : Conditions :=
  [⟨"B", "Perhaps", some "Odd", none, none⟩, ⟨"A", "True", none, none, none⟩,
    ⟨"A", "False", some "Spare", none, none⟩]

theorem disputed_ready_derived :
    let clock : Readings := fun _ => "2020-01-01T00:00:00Z"
    let after := disputed.perform ["A", "B"] ([.establish clock] ++ [.markTrue clock "Ready"])
    Condition.ready ∉ ["A", "B"] ∧
      (∃ c, after.get? Condition.ready = some c ∧ c.status ≠ Condition.isTrue ∧
        after.Explains ["A", "B"] c.verdict ∧ c.verdict = ⟨"Perhaps", some "Odd", none⟩) ∧
      disputed.Agrees ["A", "B"] ∧ after.Agrees ["A", "B"] := by
  intro clock after
  have hready : Condition.ready ∉ ["A", "B"] := by decide
  have hagrees : disputed.Agrees ["A", "B"] := by decide +kernel
  have hunhappy : after.happy ["A", "B"] = false := by decide +kernel
  have hderived := ready_derived hready disputed
  obtain ⟨-, c, hc, htrue, hexplains⟩ := hderived.1 [.establish clock] (.markTrue clock "Ready") rfl
  have hverdict : after.verdict? Condition.ready = some ⟨"Perhaps", some "Odd", none⟩ := by
    decide +kernel
  refine ⟨hready, ⟨c, hc, fun h => ?_, hexplains hunhappy, ?_⟩, hagrees, ?_⟩
  · exact absurd (htrue.1 h) (by rw [hunhappy]; exact Bool.false_ne_true)
  · rw [verdict?, hc] at hverdict
    exact Option.some.inj hverdict
  · exact hderived.2 (List.cons_ne_nil _ _) hagrees _

end EventWiring.Conditions
