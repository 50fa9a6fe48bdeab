import EventWiring.Proofs.Condition.Revision
import EventWiring.Proofs.Pass.Progress

/-!
# The status of a pass

Every status that a pass computes starts from unknown conditions, so that its verdicts follow from
what the pass found and from nothing that was there before (`Recording.tells_settled`). A second
pass that finds the same computes the very same status, whatever its clock reads
(`Recording.settled_again`).
-/

namespace EventWiring

namespace Stage

theorem condition_ne_ready (stage : Stage) : stage.condition ≠ Condition.ready := by
  cases stage <;> decide

theorem condition_eq_iff {a b : Stage} : a.condition = b.condition ↔ a = b := by
  cases a <;> cases b <;> decide

theorem condition_mem_managed (stage : Stage) :
    stage.condition ∈ Conditions.managed conditions := by
  cases stage <;> decide

end Stage

namespace Conditions

/-- The conditions of the stages say `v`, and `Ready` what follows from it. -/
structure Tells (cs : Conditions) (v : Stage → Verdict) : Prop where
  stage : ∀ stage, cs.verdict? stage.condition = some (v stage)
  ready : cs.verdict? Condition.ready = some (.derive (Stage.all.map fun stage => some (v stage)))

variable {cs : Conditions} {v : Stage → Verdict}

theorem Tells.congr {v' : Stage → Verdict} (h : cs.Tells v) (hv : ∀ stage, v stage = v' stage) :
    cs.Tells v' :=
  funext hv ▸ h

theorem Tells.isTrue_iff (h : cs.Tells v) (stage : Stage) :
    cs.isTrue stage.condition = true ↔ (v stage).status = Condition.isTrue := by
  obtain ⟨c, hc, hsays⟩ := Option.map_eq_some_iff.1 (h.stage stage)
  have hverdict : (v stage).status = c.status := by rw [← hsays]; rfl
  rw [Conditions.isTrue, hc, Option.any_some, decide_eq_true_iff, ← hverdict]

theorem tells_reset (cs : Conditions) (clock : Readings) :
    (cs.reset Stage.conditions clock).Tells fun _ => .undecided where
  stage stage := verdict?_reset (Stage.condition_mem_managed stage) cs
  ready := verdict?_reset ready_mem_managed cs

theorem Tells.mark (h : cs.Tells v) (clock : Readings) (stage : Stage) (status : String)
    (reason message : Option String) :
    (cs.mark Stage.conditions clock stage.condition status reason message).Tells
      fun s => if s = stage then ⟨status, reason, message⟩ else v s where
  stage s := by
    rw [verdict?_mark, if_neg (Stage.condition_ne_ready s)]
    by_cases hs : s = stage
    · rw [if_pos (congrArg _ hs), if_pos hs]
    · rw [if_neg (mt Stage.condition_eq_iff.1 hs), if_neg hs, h.stage]
  ready := by
    rw [verdict?_mark, if_pos rfl, Stage.conditions, List.map_map]
    congr 3
    funext s
    simp only [Function.comp_apply, Stage.condition_eq_iff, h.stage]
    split <;> rfl

theorem Tells.restoreTimes (h : cs.Tells v) (previous : Conditions) :
    (cs.restoreTimes previous).Tells v where
  stage s := (verdict?_restoreTimes cs previous _).trans (h.stage s)
  ready := (verdict?_restoreTimes cs previous _).trans h.ready

/-- Two lists that tell the same agree on all that a pass manages. -/
theorem Tells.verdict?_eq {ds : Conditions} (h : cs.Tells v) (h' : ds.Tells v) {t : String}
    (ht : t ∈ managed Stage.conditions) : cs.verdict? t = ds.verdict? t := by
  rw [managed, List.mem_append, List.mem_singleton] at ht
  rcases ht with ht | rfl
  · obtain ⟨stage, -, rfl⟩ := List.mem_map.1 ht
    rw [h.stage, h'.stage]
  · rw [h.ready, h'.ready]

theorem Tells.mem_types (h : cs.Tells v) {t : String} (ht : t ∈ managed Stage.conditions) :
    t ∈ cs.types := by
  have hsome : (cs.verdict? t).isSome := by
    rw [managed, List.mem_append, List.mem_singleton] at ht
    rcases ht with ht | rfl
    · obtain ⟨stage, -, rfl⟩ := List.mem_map.1 ht
      rw [h.stage]
      rfl
    · rw [h.ready]
      rfl
  unfold verdict? at hsome
  rw [Option.isSome_map] at hsome
  exact get?_isSome.1 hsome

end Conditions

namespace Pass

open Conditions (managed Rewrites)

/-! ## Recordings -/

/-- A status without its conditions. -/
def identifiers (status : SchedulerStatus) : SchedulerStatus := { status with conditions := [] }

theorem eq_of_identifiers {a b : SchedulerStatus} (h : identifiers a = identifiers b)
    (hc : a.conditions = b.conditions) : a = b := by
  cases a
  cases b
  simp_all [identifiers]

theorem identifiers_startingStatus (p : Pass) (s : Scheduler) :
    identifiers (p.startingStatus s) = identifiers (s.status.getD .blank) := by
  unfold identifiers startingStatus SchedulerStatus.reset SchedulerStatus.establish
  rfl

theorem identifiers_markSetback (p : Pass) (status : SchedulerStatus) (stage : Stage)
    (b : Setback) : identifiers (p.markSetback status stage b) = identifiers status := by
  unfold identifiers markSetback SchedulerStatus.markNotReady
  rfl

theorem identifiers_settled (p : Pass) (s : Scheduler)
    (record : SchedulerStatus → SchedulerStatus) :
    identifiers ((p.settled s record).status.getD .blank) =
      identifiers (record (p.startingStatus s)) := by
  unfold identifiers settled SchedulerStatus.restoreTimes
  rfl

/-- A way to write a finding into a status: it decides the conditions of the stages, moves no other
one, and writes identifiers that are not written differently the next time. -/
structure Recording (record : Pass → SchedulerStatus → SchedulerStatus) (v : Stage → Verdict) :
    Prop where
  tells : ∀ p {status}, status.conditions.Tells (fun _ => .undecided) →
    (record p status).conditions.Tells v
  rewrites : ∀ p status,
    Rewrites (managed Stage.conditions) status.conditions (record p status).conditions
  again : ∀ p q {status status'}, identifiers status' = identifiers (record p status) →
    identifiers (record q status') = identifiers status'

variable (p q : Pass)

theorem tells_startingStatus (s : Scheduler) :
    (p.startingStatus s).conditions.Tells fun _ => .undecided := by
  simp only [startingStatus, SchedulerStatus.reset]
  exact Conditions.tells_reset _ _

theorem rewrites_startingStatus (s : Scheduler) :
    Rewrites (managed Stage.conditions) (s.status.getD .blank).conditions
      (p.startingStatus s).conditions := by
  simp only [startingStatus, SchedulerStatus.reset, SchedulerStatus.establish]
  exact (Conditions.rewrites_establish _ _ _).trans (Conditions.rewrites_reset _ _ _)

namespace Recording

variable {record : Pass → SchedulerStatus → SchedulerStatus} {v : Stage → Verdict}

theorem tells_settled (h : Recording record v) (s : Scheduler) :
    ∃ status, (p.settled s (record p)).status = some status ∧ status.conditions.Tells v :=
  ⟨_, rfl, (h.tells p (p.tells_startingStatus s)).restoreTimes _⟩

theorem settled_again (h : Recording record v) {s s' : Scheduler}
    (hs' : s'.status = (p.settled s (record p)).status) :
    (q.settled s' (record q)).status = s'.status := by
  obtain ⟨S, hS⟩ : ∃ S, S = (record p (p.startingStatus s)).restoreTimes
    (s.status.getD .blank).conditions := ⟨_, rfl⟩
  have hstored : s'.status = some S := hs'.trans (congrArg some hS.symm)
  have hprevious : s'.status.getD .blank = S := by rw [hstored, Option.getD_some]
  have hids : identifiers S = identifiers (record p (p.startingStatus s)) := by rw [hS]; rfl
  have hconditions : S.conditions = (record p (p.startingStatus s)).conditions.restoreTimes
    (s.status.getD .blank).conditions := by rw [hS]; rfl
  unfold settled
  rw [hprevious, hstored]
  refine congrArg some (eq_of_identifiers ?_ ?_)
  · have hstart : identifiers (q.startingStatus s') = identifiers S := by
      rw [← hprevious]
      exact q.identifiers_startingStatus s'
    exact (h.again p q (hstart.trans hids)).trans hstart
  · have htells := h.tells p (p.tells_startingStatus s)
    have hds := (p.rewrites_startingStatus s).trans (h.rewrites p _)
    have hes := (q.rewrites_startingStatus s').trans (h.rewrites q _)
    rw [hprevious, hconditions] at hes
    show (record q (q.startingStatus s')).conditions.restoreTimes S.conditions = S.conditions
    rw [hconditions]
    exact Conditions.restoreTimes_again hds (fun t ht => htells.mem_types ht) hes fun t ht =>
      (h.tells q (q.tells_startingStatus s')).verdict?_eq htells ht

end Recording

/-! ## What the findings say -/

variable {cs : Conditions} {v : Stage → Verdict}

theorem tells_markSetback (status : SchedulerStatus) (h : status.conditions.Tells v)
    (stage : Stage) (b : Setback) :
    (p.markSetback status stage b).conditions.Tells
      fun s => if s = stage then .fails b.reason b.message else v s :=
  h.mark _ stage _ _ _

theorem tells_markReady (status : SchedulerStatus) (h : status.conditions.Tells v)
    (stage : Stage) :
    (p.markReady status stage).conditions.Tells fun s => if s = stage then .holds else v s :=
  h.mark _ stage _ _ _

theorem rewrites_markSetback (status : SchedulerStatus) (stage : Stage) (b : Setback) :
    Rewrites (managed Stage.conditions) status.conditions
      (p.markSetback status stage b).conditions :=
  Conditions.rewrites_mark stage.condition_mem_managed _ _ _ _ _

theorem rewrites_markReady (status : SchedulerStatus) (stage : Stage) :
    Rewrites (managed Stage.conditions) status.conditions (p.markReady status stage).conditions :=
  Conditions.rewrites_mark stage.condition_mem_managed _ _ _ _ _

/-- The stages before the one that is not reached hold, and those after it are undecided. -/
def Progress.verdict : Progress → Stage → Verdict
  | noTopic b, .topic => .fails b.reason b.message
  | noTopic _, _ => .undecided
  | noSubscription _ _, .topic => .holds
  | noSubscription _ b, .pullSubscription => .fails b.reason b.message
  | noSubscription _ _, .notification => .undecided
  | noNotification _ _ b, .notification => .fails b.reason b.message
  | noNotification _ _ _, _ => .holds
  | complete _ _ _, _ => .holds

def Removal.verdict : Removal → Stage → Verdict
  | notificationLeft e, .notification =>
    .fails (deletionSetback e).reason (deletionSetback e).message
  | _, _ => .undecided

theorem tells_recordTopic {status : SchedulerStatus} (h : status.conditions.Tells v)
    (ids : TopicIds) :
    (p.recordTopic status ids).conditions.Tells fun s => if s = .topic then .holds else v s :=
  p.tells_markReady { status with topicId := _, projectId := _ } h .topic

theorem tells_recordSink {status : SchedulerStatus} (h : status.conditions.Tells v)
    (uri : String) :
    (p.recordSink status uri).conditions.Tells
      fun s => if s = .pullSubscription then .holds else v s :=
  p.tells_markReady { status with sinkUri := _ } h .pullSubscription

theorem tells_recordReport {status : SchedulerStatus} (h : status.conditions.Tells v)
    (report : Notification.Report) :
    (p.recordReport status report).conditions.Tells
      fun s => if s = .notification then .holds else v s :=
  p.tells_markReady { status with notificationId := _, projectId := _ } h .notification

theorem Progress.recording (g : Progress) :
    Recording (fun p status => g.record p status) g.verdict where
  tells p status h := by
    cases g with
    | noTopic b => exact (p.tells_markSetback _ h _ b).congr fun s => by cases s <;> rfl
    | noSubscription ids b =>
      have htopic := p.tells_recordTopic h ids
      exact (p.tells_markSetback _ htopic _ b).congr fun s => by cases s <;> rfl
    | noNotification ids uri b =>
      have hsink := p.tells_recordSink (p.tells_recordTopic h ids) uri
      exact (p.tells_markSetback _ hsink _ b).congr fun s => by cases s <;> rfl
    | complete ids uri report =>
      have hsink := p.tells_recordSink (p.tells_recordTopic h ids) uri
      exact (p.tells_recordReport hsink report).congr fun s => by cases s <;> rfl
  rewrites p status := by
    cases g with
    | noTopic b => exact p.rewrites_markSetback _ _ _
    | noSubscription ids b =>
      exact (p.rewrites_markReady _ _).trans (p.rewrites_markSetback _ _ _)
    | noNotification ids uri b =>
      exact ((p.rewrites_markReady _ _).trans (p.rewrites_markReady _ _)).trans
        (p.rewrites_markSetback _ _ _)
    | complete ids uri report =>
      exact ((p.rewrites_markReady _ _).trans (p.rewrites_markReady _ _)).trans
        (p.rewrites_markReady _ _)
  again p q status status' h := by
    cases g <;>
      simp_all [identifiers, record, markSetback, markReady, recordTopic, recordSink, recordReport,
        SchedulerStatus.markReady, SchedulerStatus.markNotReady]

theorem forget_conditions (status : SchedulerStatus) :
    (forget status).conditions = status.conditions := by
  unfold forget
  split <;> rfl

theorem notificationId_forget (status : SchedulerStatus) :
    (forget status).notificationId.getD "" = "" := by
  unfold forget
  split
  · assumption
  · rfl

/-- What is forgotten stays forgotten. -/
theorem forget_again {status status' : SchedulerStatus}
    (h : status'.notificationId = (forget status).notificationId) : forget status' = status' := by
  refine if_pos ?_
  rw [h]
  exact notificationId_forget status

theorem Removal.recording (r : Removal) :
    Recording (fun p status => r.record p status) r.verdict where
  tells p status h := by
    cases r with
    | notificationLeft e =>
      exact (p.tells_markSetback _ h _ _).congr fun s => by cases s <;> rfl
    | _ => exact (forget_conditions status).symm ▸ h
  rewrites p status := by
    cases r with
    | notificationLeft e => exact p.rewrites_markSetback _ _ _
    | _ => exact (forget_conditions status).symm ▸ .refl _
  again p q status status' h := by
    cases r with
    | notificationLeft e => rfl
    | topicLeft e =>
      have hid := congrArg SchedulerStatus.notificationId h
      exact congrArg identifiers (forget_again hid)
    | _ =>
      have hid := congrArg SchedulerStatus.notificationId h
      have hforget : forget status' = status' := forget_again hid
      have htopic := congrArg SchedulerStatus.topicId h
      show identifiers { forget status' with topicId := none } = identifiers status'
      rw [hforget]
      exact congrArg (fun id => { identifiers status' with topicId := id }) htopic.symm

/-- While the notification is left, the identifiers are. -/
theorem identifiers_notificationLeft (s : Scheduler) (e : Error) :
    identifiers ((p.settled s ((Removal.notificationLeft e).record p)).status.getD .blank) =
      identifiers (s.status.getD .blank) := by
  refine (identifiers_settled p s _).trans ?_
  exact (identifiers_markSetback p (p.startingStatus s) _ _).trans (identifiers_startingStatus p s)

/-! ## The name of the topic -/

theorem topicName_ne (s : Scheduler) (status : SchedulerStatus) : topicName s status ≠ "" := by
  unfold topicName
  simp only
  split
  · intro h
    have hlength := congrArg String.length h
    simp at hlength
  · assumption

namespace Progress

/-- The topic that is known by then. -/
def topicId? : Progress → Option String
  | noTopic _ => none
  | noSubscription ids _ => some ids.topicId
  | noNotification ids _ _ => some ids.topicId
  | complete ids _ _ => some ids.topicId

theorem topicId_record (g : Progress) (status : SchedulerStatus) :
    (g.record p status).topicId = g.topicId?.or status.topicId := by
  cases g <;> rfl

end Progress

theorem topicIds_ok {t : Topic} {name : String} {ids : TopicIds} (h : topicIds t name = .ok ids) :
    ids.topicId = name ∧ name ≠ "" := by
  simp only [topicIds] at h
  split at h
  · cases h
  split at h
  · cases h
  split at h
  · cases h
  next hne =>
    split at h
    · cases h
    next heq =>
      have heq := Decidable.not_not.1 heq
      cases h
      exact ⟨heq, heq ▸ hne⟩

/-- A topic that a pass reaches bears the name that the pass asked for. -/
theorem topicId_of_survey {s : Scheduler} {name : String} {log : List Program.Exchange}
    {g : Progress} (h : Program.Trace (p.survey s name) log g) :
    g.topicId? = none ∨ g.topicId? = some name ∧ name ≠ "" := by
  obtain ⟨l, topic, l', htopic, h, rfl⟩ := Program.trace_bind.1 h
  rcases topic with b | ids
  · obtain ⟨-, rfl⟩ := Program.trace_pure.1 h
    exact .inl rfl
  have hids : ids.topicId = name ∧ name ≠ "" := by
    obtain ⟨_, r, _, -, hr, -⟩ := Program.trace_bind.1 htopic
    rcases r with e | t
    · obtain ⟨-, hr⟩ := Program.trace_pure.1 hr
      cases hr
    · obtain ⟨-, hr⟩ := Program.trace_pure.1 hr
      exact topicIds_ok hr.symm
  obtain ⟨l, subscription, l', -, h, rfl⟩ := Program.trace_bind.1 h
  rcases subscription with b | uri
  · obtain ⟨-, rfl⟩ := Program.trace_pure.1 h
    exact .inr ⟨congrArg some hids.1, hids.2⟩
  obtain ⟨l, report, l', -, h, rfl⟩ := Program.trace_bind.1 h
  rcases report with b | report <;>
  · obtain ⟨-, rfl⟩ := Program.trace_pure.1 h
    exact .inr ⟨congrArg some hids.1, hids.2⟩

/-- Once it was recorded, the name stays the same. -/
theorem topicName_settled {s s' : Scheduler} {log : List Program.Exchange} {g : Progress}
    (h : Program.Trace (p.survey s (topicName s (s.status.getD .blank))) log g)
    (hs' : s'.status = (p.settled s (g.record p)).status)
    (huid : s'.metadata.uid = s.metadata.uid) :
    topicName s' (s'.status.getD .blank) = topicName s (s.status.getD .blank) := by
  have hid : (s'.status.getD .blank).topicId = g.topicId?.or (s.status.getD .blank).topicId := by
    rw [hs']
    exact g.topicId_record p _
  rcases topicId_of_survey p h with hnone | ⟨hname, hne⟩
  · rw [hnone, Option.none_or] at hid
    simp only [topicName, hid, huid]
  · rw [hname, Option.some_or] at hid
    generalize topicName s (s.status.getD .blank) = name at hid hne ⊢
    simp only [topicName, hid, Option.getD_some, if_neg hne]

end Pass

end EventWiring
