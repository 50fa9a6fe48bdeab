import EventWiring.Proofs.Condition.Times
import EventWiring.Proofs.Pass.Work

/-!
# Transition times of a pass

A pass makes every condition unknown and then marks the stages that it decides, so that a condition
may change its status more than once on the way. What counts is where it ends: with its old status
it has its old time, and else a time that the pass has read (`times_follow_statuses`). Other
conditions are left alone, and the order stays.
-/

namespace EventWiring.Pass

open Conditions (Dated Timely managed stamped)
open Program (Exchange)

variable {p : Pass} {s : Scheduler} {status : SchedulerStatus} {previous cs : Conditions}
  {times : String → Prop}

variable (p) (previous) (cs) in
/-- The readings that a pass takes on the way from `previous` to `cs`: one for each condition that
is missing, one for each that becomes unknown, and two for each stage that it decides. -/
inductive Read : String → Prop
  | established {x : String × String} : x ∈ stamped Stage.conditions (p.clock 0) →
    x.1 ∉ previous.types → Read x.2
  | reset {x : String × String} : x ∈ stamped Stage.conditions (p.clock 1) → Read x.2
  | marked {stage : Stage} {i : Nat} : i < 2 →
    cs.verdict? stage.condition ≠ some .undecided → Read (p.clock (moment stage) i)

variable (p) (previous) (cs) in
/-- How the conditions of a pass follow from the previous ones. -/
structure Revised : Prop where
  timely : ∀ t ∈ managed Stage.conditions, ∃ c, cs.get? t = some c ∧
    Timely (p.Read previous cs) previous c
  others : ∀ t ∉ managed Stage.conditions, cs.get? t = previous.get? t
  types : cs.types = previous.types ++ (managed Stage.conditions).filter (· ∉ previous.types)
  distinct : cs.types.Nodup

example : managed Stage.conditions =
    ["TopicReady", "PullSubscriptionReady", "NotificationReady", "Ready"] := rfl

/-! ## Findings -/

theorem dated_startingStatus (hestablished : ∀ x ∈ stamped Stage.conditions (p.clock 0),
      x.1 ∉ (s.status.getD .blank).conditions.types → times x.2)
    (hreset : ∀ x ∈ stamped Stage.conditions (p.clock 1), times x.2) :
    Dated times (s.status.getD .blank).conditions (p.startingStatus s).conditions := by
  simp only [startingStatus, SchedulerStatus.reset, SchedulerStatus.establish]
  exact ((Dated.refl _).establish hestablished).reset hreset

theorem types_startingStatus (p : Pass) (s : Scheduler) :
    (p.startingStatus s).conditions.types = (s.status.getD .blank).conditions.types ++
      (managed Stage.conditions).filter (· ∉ (s.status.getD .blank).conditions.types) := by
  have hdistinct : (managed Stage.conditions).Nodup := by decide
  rw [← Conditions.types_establish hdistinct _ (p.clock 0)]
  simp only [startingStatus, SchedulerStatus.reset, SchedulerStatus.establish]
  exact (Conditions.rewrites_reset _ _ _).types fun t ht =>
    Conditions.mem_types_establish ht _ _ hdistinct

theorem dated_markReady (status : SchedulerStatus) (h : Dated times previous status.conditions)
    (stage : Stage) (hmarked : ∀ i < 2, times (p.clock (moment stage) i)) :
    Dated times previous (p.markReady status stage).conditions :=
  h.mark (hmarked 0 Nat.two_pos) (hmarked 1 Nat.one_lt_two)

theorem dated_markSetback (status : SchedulerStatus) (h : Dated times previous status.conditions)
    (stage : Stage) (b : Setback) (hmarked : ∀ i < 2, times (p.clock (moment stage) i)) :
    Dated times previous (p.markSetback status stage b).conditions :=
  h.mark (hmarked 0 Nat.two_pos) (hmarked 1 Nat.one_lt_two)

/-- What is recorded has no times but those at which its stages were decided. -/
def Dates (record : Pass → SchedulerStatus → SchedulerStatus) (v : Stage → Verdict) : Prop :=
  ∀ p {times : String → Prop} {previous : Conditions} {status : SchedulerStatus},
    Dated times previous status.conditions →
    (∀ stage, v stage ≠ .undecided → ∀ i < 2, times (p.clock (moment stage) i)) →
    Dated times previous (record p status).conditions

theorem Progress.dates (g : Progress) : Dates (fun p status => g.record p status) g.verdict := by
  intro p times previous status h hmarked
  have hholds : ∀ stage, g.verdict stage = .holds → ∀ i < 2, times (p.clock (moment stage) i) :=
    fun stage hstage => hmarked stage (hstage ▸ Verdict.holds_ne_undecided)
  have hfails : ∀ stage (b : Setback), g.verdict stage = .fails b.reason b.message →
      ∀ i < 2, times (p.clock (moment stage) i) :=
    fun stage b hstage => hmarked stage (hstage ▸ Verdict.fails_ne_undecided _ _)
  have htopic : ∀ ids, g.verdict .topic = .holds →
      Dated times previous (p.recordTopic status ids).conditions :=
    fun ids hstage => dated_markReady { status with topicId := _, projectId := _ } h .topic
      (hholds .topic hstage)
  have hsink : ∀ ids uri, g.verdict .topic = .holds → g.verdict .pullSubscription = .holds →
      Dated times previous (p.recordSink (p.recordTopic status ids) uri).conditions :=
    fun ids uri htopicHolds hstage =>
      dated_markReady { p.recordTopic status ids with sinkUri := _ } (htopic ids htopicHolds)
        .pullSubscription (hholds .pullSubscription hstage)
  cases g with
  | noTopic b => exact dated_markSetback _ h .topic b (hfails .topic b rfl)
  | noSubscription ids b =>
    exact dated_markSetback _ (htopic ids rfl) .pullSubscription b (hfails .pullSubscription b rfl)
  | noNotification ids uri b =>
    exact dated_markSetback _ (hsink ids uri rfl rfl) .notification b (hfails .notification b rfl)
  | complete ids uri report =>
    exact dated_markReady
      { p.recordSink (p.recordTopic status ids) uri with notificationId := _, projectId := _ }
      (hsink ids uri rfl rfl) .notification (hholds .notification rfl)

theorem Removal.dates (r : Removal) : Dates (fun p status => r.record p status) r.verdict := by
  intro p times previous status h hmarked
  cases r with
  | notificationLeft e =>
    exact dated_markSetback _ h .notification _
      (hmarked .notification (Verdict.fails_ne_undecided _ _))
  | _ => exact (forget_conditions status).symm ▸ h

/-- Whatever is recorded, the times are those of the statuses once they are restored. -/
theorem revised_settled {record : Pass → SchedulerStatus → SchedulerStatus} {v : Stage → Verdict}
    (h : Recording record v) (hdates : Dates record v)
    (hdistinct : (s.status.getD .blank).conditions.types.Nodup) :
    ∃ status, (p.settled s (record p)).status = some status ∧
      p.Revised (s.status.getD .blank).conditions status.conditions := by
  refine ⟨_, rfl, ?_⟩
  have hundecided := p.tells_startingStatus s
  have htells := h.tells p hundecided
  have hlast := h.rewrites p (p.startingStatus s)
  have hrewrites := (p.rewrites_startingStatus s).trans hlast
  show p.Revised _ ((record p (p.startingStatus s)).conditions.restoreTimes _)
  obtain ⟨previous, hprevious⟩ : ∃ previous, (s.status.getD .blank).conditions = previous :=
    ⟨_, rfl⟩
  rw [hprevious] at hdistinct hrewrites ⊢
  have htypes : ((record p (p.startingStatus s)).conditions.restoreTimes previous).types =
      previous.types ++ (managed Stage.conditions).filter (· ∉ previous.types) := by
    rw [Conditions.types_restoreTimes, hlast.types fun t ht => hundecided.mem_types ht,
      types_startingStatus, hprevious]
  have hdated : Dated
      (p.Read previous ((record p (p.startingStatus s)).conditions.restoreTimes previous))
      previous (record p (p.startingStatus s)).conditions := by
    refine hdates p ?_ fun stage hstage i hi => .marked hi ?_
    · rw [← hprevious]
      exact dated_startingStatus (fun x hx hnew => .established hx hnew) fun x hx => .reset hx
    · rw [(htells.restoreTimes previous).stage stage]
      exact fun heq => hstage (Option.some.inj heq)
  refine ⟨fun t ht => ?_, fun t ht => ?_, htypes, ?_⟩
  · obtain ⟨c, hc⟩ := Option.isSome_iff_exists.1
      (Conditions.get?_isSome.2 ((htells.restoreTimes previous).mem_types ht))
    exact ⟨c, hc, Conditions.dated_restoreTimes hdistinct hdated hc⟩
  · exact Conditions.get?_restoreTimes_of_same (hrewrites.others t ht)
  · rw [htypes, List.nodup_append]
    have hmanaged : (managed Stage.conditions).Nodup := by decide
    refine ⟨hdistinct, hmanaged.filter _, ?_⟩
    rintro t ht _ hnew rfl
    exact absurd ht (by simpa using (List.mem_filter.1 hnew).2)

/-! ## The whole pass -/

variable {σ : Type} {answer : (c : Call) → σ → c.Answer × σ} {w : σ} {found : Scheduler}

theorem revised_work (hpast : PastMarker answer w found)
    (hdistinct : (found.status.getD .blank).conditions.types.Nodup) :
    ∃ status, ((p.work found).run answer w).result.2.status = some status ∧
      p.Revised (found.status.getD .blank).conditions status.conditions := by
  cases hdeleting : found.metadata.deleting with
  | true =>
    obtain ⟨_, _, r, -, -, hresult⟩ :=
      removal_of_work hdeleting (Program.run_trace answer (p.work found) w)
    rw [hresult]
    exact revised_settled r.recording r.dates hdistinct
  | false =>
    obtain ⟨finalizers, version, _, _, g, -, -, -, hresult⟩ := work_run_live hpast hdeleting
    rw [hresult]
    exact revised_settled (s := remarked found finalizers version) g.recording g.dates hdistinct

/-- Transition times change exactly with statuses. -/
theorem times_follow_statuses {key : String} {k : Key} (hkey : Key.parse key = .ok k)
    (hfound : (answer (.getScheduler k.space k.name) w).1 = .ok (some found))
    (hpast : PastMarker answer (answer (.getScheduler k.space k.name) w).2 found)
    (hdistinct : (found.status.getD .blank).conditions.types.Nodup) :
    let worked := (p.work found).run answer (answer (.getScheduler k.space k.name) w).2
    let pass := (p.reconcile key).run answer w
    ∃ status, worked.result.2.status = some status ∧
      p.Revised (found.status.getD .blank).conditions status.conditions ∧
      ∀ x ∈ pass.exchanges, ∀ s, x.call = .updateStatus s → s.status = some status := by
  intro worked pass
  obtain ⟨status, hstatus, hrevised⟩ := revised_work (p := p) hpast hdistinct
  refine ⟨status, hstatus, hrevised, fun x hx s hcall => ?_⟩
  rw [stored_of_reconcile hkey hfound x hx s hcall]
  exact hstatus

/-- A scheduler with a condition that no pass manages, and with two that are there already. -/
def paused : Scheduler :=
  { Scheduler.sample with
    status := some
      { SchedulerStatus.blank with
        conditions := [⟨"Ready", "True", none, none, some "2019-01-01T00:00:00Z"⟩,
          ⟨"Paused", "True", some "ByHand", none, some "2019-01-02T00:00:00Z"⟩,
          ⟨"TopicReady", "False", none, none, none⟩] } }

theorem paused_times_follow_statuses :
    let p := Pass.sample "2020-01-01T00:00:00Z"
    let worked := (World.sample paused).run (p.work paused)
    let pass := (World.sample paused).run (p.reconcile "media/photos")
    Key.parse "media/photos" = .ok .sample ∧
      (World.answer (.getScheduler "media" "photos") (.sample paused)).1 = .ok (some paused) ∧
      PastMarker World.answer (.sample paused) paused ∧
      (paused.status.getD .blank).conditions.types.Nodup ∧
      ∃ status, worked.result.2.status = some status ∧
        p.Revised (paused.status.getD .blank).conditions status.conditions ∧
        ∀ x ∈ pass.exchanges, ∀ s, x.call = .updateStatus s → s.status = some status := by
  have hpast : PastMarker World.answer (.sample paused) paused := by
    rintro - patch ⟨⟩
    exact ⟨_, rfl⟩
  have hdistinct : (paused.status.getD .blank).conditions.types.Nodup := by decide
  refine ⟨rfl, rfl, hpast, hdistinct, ?_⟩
  exact @times_follow_statuses (.sample "2020-01-01T00:00:00Z") World World.answer
    (.sample paused) paused "media/photos" .sample rfl rfl hpast hdistinct

end EventWiring.Pass
