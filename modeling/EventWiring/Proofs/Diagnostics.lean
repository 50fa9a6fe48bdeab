import Mathlib.Data.Set.Card
import EventWiring.Controller
import EventWiring.Proofs.Condition.Derived
import EventWiring.Proofs.Pass.Progress

/-!
# How many schedulers are ready

The controller notes every scheduler that it is triggered for before it works on it. Whatever comes
of the work, it therefore counts the keys under which it last saw a scheduler that serves
(`Controller.ready_counts_serving`). How often it saw it, and what it saw in between under other
keys, does not matter.
-/

namespace EventWiring

/-! ## What is last seen -/

/-- The scheduler is to stay, and has come through all its stages. -/
structure Scheduler.Serving (s : Scheduler) : Prop where
  stays : s.metadata.deletionTimestamp = none
  reached : ∃ status, s.status = some status ∧ ∀ stage : Stage, ∃ c,
    status.conditions.get? stage.condition = some c ∧ c.status = Condition.isTrue

theorem Scheduler.serving_iff {s : Scheduler} :
    (!s.metadata.deleting && s.ready) = true ↔ s.Serving := by
  have hready : s.ready = true ↔ ∃ status, s.status = some status ∧
      ∀ stage : Stage, ∃ c, status.conditions.get? stage.condition = some c ∧
        c.status = Condition.isTrue := by
    simp only [ready, SchedulerStatus.ready, Option.any_eq_true, Conditions.happy_iff,
      Stage.conditions, List.forall_mem_map]
    refine exists_congr fun status => and_congr_right fun _ => ?_
    exact ⟨fun h stage => h stage (by cases stage <;> decide), fun h stage _ => h stage⟩
  rw [Bool.and_eq_true, Bool.not_eq_true', Metadata.deleting, Option.isSome_eq_false_iff,
    Option.isNone_iff_eq_none, hready]
  exact ⟨fun h => ⟨h.1, h.2⟩, fun h => ⟨h.stays, h.reached⟩⟩

variable {seen seen' : List Scheduler} {s : Scheduler} {key : String} {d : Diagnostics}

/-- The last of the schedulers that was queued under the key. -/
def lastSeen? (seen : List Scheduler) (key : String) : Option Scheduler :=
  seen.reverse.find? (Key.queued ·.metadata = key)

theorem lastSeen?_concat : lastSeen? (seen ++ [s]) key =
    if Key.queued s.metadata = key then some s else lastSeen? seen key := by
  unfold lastSeen?
  rw [List.reverse_concat, List.find?_cons]
  by_cases h : Key.queued s.metadata = key <;> simp [h]

/-- The keys under which a scheduler that serves was last seen. -/
def servingKeys (seen : List Scheduler) : Set String :=
  {key | ∃ s, lastSeen? seen key = some s ∧ s.Serving}

theorem servingKeys_congr (h : ∀ key, lastSeen? seen key = lastSeen? seen' key) :
    servingKeys seen = servingKeys seen' := by
  unfold servingKeys
  simp only [h]

/-- What is seen again as it was last seen is nothing new. -/
theorem lastSeen?_again (h : lastSeen? seen (Key.queued s.metadata) = some s) (key : String) :
    lastSeen? (seen ++ [s]) key = lastSeen? seen key := by
  rw [lastSeen?_concat]
  split
  · next hkey => rw [← hkey, h]
  · rfl

/-! ## What is noted -/

namespace Diagnostics

theorem mem_observe {k : String} {ready : Bool} : k ∈ (d.observe key ready).readyKeys ↔
    if k = key then ready = true else k ∈ d.readyKeys := by
  unfold observe
  by_cases h : k = key <;> cases ready <;> simp [h]

/-- The count is that of the keys, none of which is there twice. -/
structure Exact (d : Diagnostics) : Prop where
  counted : d.ready = d.readyKeys.length
  distinct : d.readyKeys.Nodup

theorem exact_blank : Exact .blank := ⟨rfl, List.nodup_nil⟩

theorem Exact.observe (h : d.Exact) (key : String) (ready : Bool) :
    (d.observe key ready).Exact where
  counted := rfl
  distinct := by
    have hothers : (d.readyKeys.filter (· ≠ key)).Nodup := h.distinct.filter _
    unfold Diagnostics.observe
    cases ready with
    | false => exact hothers
    | true => exact List.nodup_cons.2 ⟨by simp, hothers⟩

end Diagnostics

namespace Controller

/-- What is noted once these schedulers were seen, the last one last. -/
def noted (seen : List Scheduler) : Diagnostics := seen.foldl observe .blank

theorem noted_concat (seen : List Scheduler) (s : Scheduler) :
    noted (seen ++ [s]) = observe (noted seen) s :=
  List.foldl_concat ..

theorem exact_noted (seen : List Scheduler) : (noted seen).Exact :=
  List.foldlRecOn seen observe Diagnostics.exact_blank fun _ h _ _ => h.observe _ _

theorem mem_noted : key ∈ (noted seen).readyKeys ↔ key ∈ servingKeys seen := by
  induction seen using List.reverseRecOn with
  | nil => exact iff_of_false List.not_mem_nil fun ⟨_, h, _⟩ => nomatch h
  | append_singleton seen s ih =>
    unfold servingKeys at ih ⊢
    rw [noted_concat, observe, Diagnostics.mem_observe, Scheduler.serving_iff, Set.mem_ofPred_eq,
      lastSeen?_concat]
    by_cases h : Key.queued s.metadata = key
    · simp [h]
    · simp [h, Ne.symm h, ih]

theorem ready_noted (seen : List Scheduler) :
    (servingKeys seen).Finite ∧ (noted seen).ready = (servingKeys seen).ncard := by
  have hkeys : servingKeys seen = ((noted seen).readyKeys.toFinset : Set String) := by
    ext key
    simp [mem_noted]
  rw [hkeys, Set.ncard_coe_finset, List.toFinset_card_of_nodup (exact_noted seen).distinct]
  exact ⟨Finset.finite_toSet _, (exact_noted seen).counted⟩

end Controller

/-! ## What the controller does -/

/-- What befalls a controller: it is triggered for a scheduler, or others change what it works
on. -/
inductive Occasion (σ : Type) where
  | trigger (s : Scheduler)
  | other (change : σ → σ)

def Occasion.trigger? {σ : Type} : Occasion σ → Option Scheduler
  | trigger s => some s
  | other _ => none

/-- A trigger that was seen to. -/
structure Handling where
  scheduler : Scheduler
  result : Except Error Unit
  /-- How many schedulers are counted as ready by then. -/
  ready : Nat

namespace Controller

section Handlings

variable {σ : Type} (c : Controller) (answer : (call : Call) → σ → call.Answer × σ)

/-- The triggers that a controller sees to, one after the other, having noted this much before. -/
def handlings : List (Occasion σ) → σ → Diagnostics → List Handling
  | [], _, _ => []
  | .trigger s :: occasions, w, d =>
    let (d, work) := c.handle d s
    let run := work.run answer w
    ⟨s, run.result, d.ready⟩ :: handlings occasions run.state d
  | .other change :: occasions, w, d => handlings occasions (change w) d

/-- The schedulers of some handlings. -/
def seenBy (hs : List Handling) : List Scheduler := hs.map (·.scheduler)

variable {c answer} {occasions : List (Occasion σ)} {w : σ} {d : Diagnostics}

theorem seenBy_handlings : seenBy (c.handlings answer occasions w d) =
    occasions.filterMap Occasion.trigger? := by
  induction occasions generalizing w d with
  | nil => rfl
  | cons occasion occasions ih =>
    cases occasion with
    | trigger s => exact congrArg (s :: ·) ih
    | other change => exact ih

/-- Each handling counts what is noted of it and all before. -/
theorem ready_of_handlings {before after : List Handling} {x : Handling}
    (h : c.handlings answer occasions w d = before ++ x :: after) :
    x.ready = ((seenBy (before ++ [x])).foldl observe d).ready := by
  induction occasions generalizing w d before with
  | nil => simp [handlings] at h
  | cons occasion occasions ih =>
    cases occasion with
    | other change => exact ih h
    | trigger s =>
      cases before with
      | nil =>
        obtain ⟨rfl, -⟩ := List.cons.inj h
        rfl
      | cons first before =>
        obtain ⟨rfl, hrest⟩ := List.cons.inj h
        have hlater := ih hrest
        exact hlater

/-- Whatever comes of the passes, a controller that is triggered counts the keys under which it last
saw a scheduler that serves. So it counts as before when it is triggered again for what it last saw,
and where different keys were seen in another order. -/
theorem ready_counts_serving (c : Controller) (answer : (call : Call) → σ → call.Answer × σ)
    (occasions : List (Occasion σ)) (w : σ) :
    let run := c.handlings answer occasions w .blank
    seenBy run = occasions.filterMap Occasion.trigger? ∧
    (∀ before x after, run = before ++ x :: after →
      (servingKeys (seenBy (before ++ [x]))).Finite ∧
      x.ready = (servingKeys (seenBy (before ++ [x]))).ncard) ∧
    (∀ before x y after, run = before ++ x :: y :: after →
      lastSeen? (seenBy (before ++ [x])) (Key.queued y.scheduler.metadata) = some y.scheduler →
      y.ready = x.ready) ∧
    ∀ {τ : Type} (c' : Controller) (answer' : (call : Call) → τ → call.Answer × τ)
      (occasions' : List (Occasion τ)) (w' : τ) (before after before' after' : List Handling)
      (x x' : Handling), run = before ++ x :: after →
      c'.handlings answer' occasions' w' .blank = before' ++ x' :: after' →
      (∀ key, lastSeen? (seenBy (before ++ [x])) key = lastSeen? (seenBy (before' ++ [x'])) key) →
      x.ready = x'.ready := by
  intro run
  have hcount : ∀ {τ : Type} {c : Controller} {answer : (call : Call) → τ → call.Answer × τ}
      {occasions : List (Occasion τ)} {w : τ} {before after : List Handling} {x : Handling},
      c.handlings answer occasions w .blank = before ++ x :: after →
      x.ready = (servingKeys (seenBy (before ++ [x]))).ncard :=
    fun h => (ready_of_handlings h).trans (ready_noted _).2
  refine ⟨seenBy_handlings, fun before x after h => ⟨(ready_noted _).1, hcount h⟩, ?_, ?_⟩
  · intro before x y after h hlast
    have hy : run = (before ++ [x]) ++ y :: after := by rw [h, List.append_assoc]; rfl
    rw [hcount h, hcount hy]
    have hagain : seenBy (before ++ [x] ++ [y]) = seenBy (before ++ [x]) ++ [y.scheduler] :=
      List.map_append
    rw [hagain, servingKeys_congr (lastSeen?_again hlast)]
  · intro τ c' answer' occasions' w' before after before' after' x x' h h' hsame
    rw [hcount h, hcount h', servingKeys_congr hsame]

end Handlings

/-- Two schedulers become ready, one is seen twice, and the other is on its way out. The count is
the same where the one on its way out is seen first. -/
theorem leaving_ready_counts_serving :
    let c : Controller := ⟨.sample "2020-01-01T00:00:00Z", .ofSeconds 10, .ofSeconds 300⟩
    let conditions : Conditions := Stage.conditions.map fun type => ⟨type, "True", none, none, none⟩
    let photos : Scheduler :=
      { Scheduler.sample with status := some { SchedulerStatus.blank with conditions } }
    let films : Scheduler := { photos with metadata.name := some "films" }
    let leaving : Scheduler := { photos with metadata.deletionTimestamp := some ⟨0, false⟩ }
    let handlings := fun seen =>
      c.handlings World.answer (seen.map Occasion.trigger) (.sample photos) .blank
    ∃ first second third last early late,
      handlings [photos, films, films, leaving] = [first, second, third, last] ∧
      handlings [leaving, films] = [early, late] ∧
      [first, second, third, last].map (·.ready) = [1, 2, 2, 1] ∧
      (servingKeys [photos, films, films, leaving]).ncard = 1 ∧
      third.ready = second.ready ∧ last.ready = late.ready := by
  intro c conditions photos films leaving handlings
  obtain ⟨-, hcount, hagain, horder⟩ := ready_counts_serving c World.answer
    ([photos, films, films, leaving].map .trigger) (.sample photos)
  have hrun : handlings [photos, films, films, leaving] = [_, _, _, _] := rfl
  have hrun' : handlings [leaving, films] = [_, _] := rfl
  have hsame (key : String) :
      lastSeen? [photos, films, films, leaving] key = lastSeen? [leaving, films] key := by
    have hphotos : Key.queued photos.metadata = "media/photos" := rfl
    have hfilms : Key.queued films.metadata = "media/films" := rfl
    have hleaving : Key.queued leaving.metadata = "media/photos" := rfl
    by_cases h : "media/photos" = key <;> by_cases h' : "media/films" = key
    · exact absurd (h.trans h'.symm) (by decide)
    all_goals simp [lastSeen?, hphotos, hfilms, hleaving, h, h']
  refine ⟨_, _, _, _, _, _, hrun, hrun', rfl, ?_, ?_, ?_⟩
  · exact (hcount [_, _, _] _ [] hrun).2.symm
  · exact hagain [_] _ _ [_] hrun rfl
  · exact horder c World.answer _ _ [_, _, _] [] [_] [] _ _ hrun hrun' hsame

end Controller

end EventWiring
