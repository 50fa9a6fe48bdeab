import EventWiring.Controller
import EventWiring.Proofs.Pass.Stages

/-!
# When the controller comes back

Where no call fails and every read tells what is stored, the stores alone decide what the controller
makes of a pass (`Controller.trigger_classified`): it waits for a change once the wiring is complete
or undone, comes back soon while the next thing to happen is somebody else's, and late when
something broke.
-/

namespace EventWiring

open Program (Exchange Ends ends_pure ends_ask_bind ends_bind)
open Notification (Action Args Report jobName podSelector)

variable {α β : Type}

/-! ## Outlooks -/

/-- What a result holds out. -/
inductive Outlook where
  | done
  | pending
  | broken
deriving DecidableEq, Repr

namespace Outlook

def of : Except Error α → Outlook
  | .ok _ => done
  | .error e => if e.pending then pending else broken

def requeue (c : Controller) : Outlook → Requeue
  | done => .onChange
  | pending => .after c.pendingRequeue
  | broken => .after c.errorRequeue

end Outlook

theorem Outlook.of_error (e : Error) :
    of (.error e : Except Error α) = if e.pending then pending else broken := rfl

theorem Controller.requeue_eq (c : Controller) (r : Except Error Unit) :
    c.requeue r = (Outlook.of r).requeue c := by
  cases r with
  | ok u => rfl
  | error e =>
    rw [Outlook.of_error]
    show Requeue.after (if e.pending then c.pendingRequeue else c.errorRequeue) = _
    split <;> rfl

/-- The result is pending exactly if `P` and done exactly if `D`, and broken otherwise. -/
structure Classified (r : Except Error α) (P D : Prop) : Prop where
  pending : Outlook.of r = .pending ↔ P
  done : Outlook.of r = .done ↔ D
  broken : Outlook.of r = .broken ↔ ¬ P ∧ ¬ D

namespace Classified

variable {r : Except Error α} {e : Error} {P D P' D' : Prop}

theorem intro (hP : Outlook.of r = .pending ↔ P) (hD : Outlook.of r = .done ↔ D) :
    Classified r P D where
  pending := hP
  done := hD
  broken := by
    rw [← hP, ← hD]
    cases Outlook.of r <;> simp

theorem settled {a : α} (hD : D) (hP : ¬ P) : Classified (.ok a : Except Error α) P D :=
  .intro (iff_of_false Outlook.noConfusion hP) (iff_of_true rfl hD)

theorem waiting (he : e.pending = true) (hP : P) (hD : ¬ D) :
    Classified (.error e : Except Error α) P D := by
  have hof : Outlook.of (.error e : Except Error α) = .pending := if_pos he
  exact .intro (iff_of_true hof hP) (iff_of_false (hof ▸ Outlook.noConfusion) hD)

theorem failed (he : e.pending = false) (hP : ¬ P) (hD : ¬ D) :
    Classified (.error e : Except Error α) P D := by
  have hof : Outlook.of (.error e : Except Error α) = .broken := if_neg (by simp [he])
  exact .intro (iff_of_false (hof ▸ Outlook.noConfusion) hP)
    (iff_of_false (hof ▸ Outlook.noConfusion) hD)

theorem congr (h : Classified r P D) (hP : P ↔ P') (hD : D ↔ D') : Classified r P' D' :=
  .intro (h.pending.trans hP) (h.done.trans hD)

/-- Only the outlook of a result counts. -/
theorem retype {r' : Except Error β} (h : Classified r P D) (hr : Outlook.of r' = Outlook.of r) :
    Classified r' P D :=
  .intro (hr ▸ h.pending) (hr ▸ h.done)

theorem not_done (h : Classified (.error e : Except Error α) P D) : ¬ D := by
  intro hD
  have hof := h.done.2 hD
  rw [Outlook.of_error] at hof
  split at hof <;> cases hof

/-- What does not get past its first stage comes to what the stage comes to. -/
theorem stop (h : Classified (.error e : Except Error α) P D) :
    Classified (.error e : Except Error β) (P ∨ D ∧ P') (D ∧ D') := by
  have hD := h.not_done
  exact .intro (h.pending.trans (by simp [hD])) (h.done.trans (by simp [hD]))

/-- What gets past its first stage comes to what the rest comes to. -/
theorem next {a : α} {r : Except Error β} (h : Classified (.ok a : Except Error α) P D)
    (hr : Classified r P' D') : Classified r (P ∨ D ∧ P') (D ∧ D') := by
  have hD : D := h.done.1 rfl
  have hP : ¬ P := fun hP => by cases h.pending.2 hP
  exact .intro (hr.pending.trans (by simp [hP, hD])) (hr.done.trans (by simp [hD]))

variable {γ : Type} {o : Option γ} {Pending Done : γ → Prop}

theorem found {x : γ} (h : Classified r (Pending x) (Done x)) (ho : o = some x) :
    Classified r (∀ x, o = some x → Pending x) (∃ x, o = some x ∧ Done x) :=
  h.congr (by simp [ho]) (by simp [ho])

theorem absent (he : e.pending = true) (ho : o = none) :
    Classified (.error e : Except Error α) (∀ x, o = some x → Pending x)
      (∃ x, o = some x ∧ Done x) :=
  waiting he (by simp [ho]) (by simp [ho])

end Classified

/-! ## What the stores hold out -/

/-- The job has a true condition of that type. -/
def Job.Holds (j : Job) (type : String) : Prop :=
  ∃ c ∈ j.conditions, c.type = type ∧ c.status = "True"

theorem Job.isSome_holding? {j : Job} {type : String} :
    (j.holding? type).isSome = true ↔ j.Holds type := by
  unfold holding? Holds
  simp

/-- The pod that counts reports success. -/
def Reported (pods : List Pod) : Prop :=
  ∃ pod report, Pod.select pods = .ok pod ∧ pod.report = .ok report ∧ report.success = true

section Outlook

variable (st : Stores) (s : Scheduler)

/-- The topic is absent or not ready. -/
def TopicPending : Prop :=
  ∀ topic, st.topics.get? (Key.of s.metadata) = some topic → topic.ready = false

def TopicValid : Prop :=
  ∃ topic, st.topics.get? (Key.of s.metadata) = some topic ∧
    Pass.TopicFits topic (Pass.topicName s (s.status.getD .blank))

/-- The pull subscription is absent or not ready. -/
def SubscriptionPending : Prop :=
  ∀ ps, st.pullSubscriptions.get? (Key.of s.metadata) = some ps → ps.ready = false

def SubscriptionValid : Prop :=
  ∃ ps, st.pullSubscriptions.get? (Key.of s.metadata) = some ps ∧ Pass.SinkFits ps

variable (uid : String) (action : Action)

/-- The job is absent, or neither complete nor failed. -/
def JobPending : Prop :=
  ∀ job, st.jobs.get? ⟨s.space, jobName uid action⟩ = some job →
    ¬ job.Holds "Complete" ∧ ¬ job.Holds "Failed"

/-- The job is complete and not failed, and the pod that counts reports success. -/
def JobSucceeded : Prop :=
  ∃ job, st.jobs.get? ⟨s.space, jobName uid action⟩ = some job ∧
    job.Holds "Complete" ∧ ¬ job.Holds "Failed" ∧
      Reported (st.listPods s.space (podSelector uid action))

/-- All is well so far, and the next stage is on its way. -/
def Waiting : Prop :=
  TopicPending st s ∨ TopicValid st s ∧
    (SubscriptionPending st s ∨ SubscriptionValid st s ∧ JobPending st s uid .create)

def Wired : Prop :=
  TopicValid st s ∧ SubscriptionValid st s ∧ JobSucceeded st s uid .create

/-- The scheduler has recorded the name of a notification. -/
def Recorded : Prop := (s.status.getD .blank).notificationId.getD "" ≠ ""

def Leaving : Prop := Recorded s ∧ JobPending st s uid .delete

def Gone : Prop := ¬ Recorded s ∨ JobSucceeded st s uid .delete

end Outlook

/-! ## Stages -/

namespace Pass

variable {st st' : Stores} {log : List Exchange} {p : Pass} {s : Scheduler} {name : String}

theorem classified_topicIds (topic : Topic) (hname : name ≠ "") :
    Classified ((topicIds topic name).mapError (·.error)) (topic.ready = false)
      (TopicFits topic name) := by
  rw [topicFits_iff hname]
  simp only [topicIds]
  split
  · next hready => exact .waiting rfl (by simpa using hready) (by simp_all)
  next hready =>
  have hready : topic.ready = true := by simpa using hready
  split
  · next hproject => exact .failed rfl (by simp [hready]) fun h => h.2.1 hproject
  next hproject =>
  split
  · next hid => exact .failed rfl (by simp [hready]) fun h => hname (h.2.2.symm.trans hid)
  split
  · next hne => exact .failed rfl (by simp [hready]) fun h => hne h.2.2
  next hid => exact .settled ⟨hready, hproject, Decidable.not_not.1 hid⟩ (by simp [hready])

theorem classified_sinkOf (ps : PullSubscription) (key : Key) :
    Classified ((sinkOf ps key).mapError (·.error)) (ps.ready = false) (SinkFits ps) := by
  unfold sinkOf SinkFits
  cases ps.ready with
  | false => exact .waiting rfl rfl (by simp)
  | true =>
    cases Uri.check ps.sinkUri with
    | ok u => exact .settled ⟨rfl, rfl⟩ (by simp)
    | error failure => exact .failed rfl (by simp) (by simp)

theorem classified_phase (job : Job) (name : String) :
    Classified (job.phase.outcome name) (¬ job.Holds "Complete" ∧ ¬ job.Holds "Failed")
      (job.Holds "Complete" ∧ ¬ job.Holds "Failed") := by
  simp only [← Job.isSome_holding?]
  unfold Job.phase Job.finished Job.failed
  cases (job.holding? "Complete").isSome <;> cases (job.holding? "Failed").isSome
  · exact .waiting rfl (by simp) (by simp)
  · exact .failed rfl (by simp) (by simp)
  · exact .settled (by simp) (by simp)
  · exact .failed rfl (by simp) (by simp)

/-- Nothing that a pod fails to report is on its way. -/
theorem reportOf_error {pods : List Pod} {e : Error} (h : reportOf pods = .error e) :
    e.pending = false ∧ ¬ Reported pods := by
  have hnot : ¬ Reported pods := by
    rintro ⟨pod, report, hselect, hreport, hsuccess⟩
    rw [reportOf_of_success hselect hreport hsuccess] at h
    cases h
  refine ⟨?_, hnot⟩
  unfold reportOf at h
  cases hselect : Pod.select pods with
  | error e' =>
    rw [hselect] at h
    cases h
    unfold Pod.select at hselect
    split at hselect
    · cases hselect
    · cases hselect
      rfl
  | ok pod =>
    rw [hselect] at h
    change (pod.report >>= Report.outcome) = .error e at h
    cases hreport : pod.report with
    | error e' =>
      rw [hreport] at h
      cases h
      unfold Pod.report at hreport
      simp only [Report.decode] at hreport
      split at hreport
      · cases hreport
        rfl
      · split at hreport
        · cases hreport
        · cases hreport
          rfl
    | ok report =>
      rw [hreport] at h
      change report.outcome = .error e at h
      unfold Report.outcome at h
      split at h
      · cases h
      · cases h
        rfl

theorem classified_reportOf (pods : List Pod) :
    Classified (reportOf pods) False (Reported pods) := by
  cases h : reportOf pods with
  | ok report =>
    obtain ⟨pod, hselect, hreport, hsuccess⟩ := reportOf_ok h
    exact .settled ⟨pod, report, hselect, hreport, hsuccess⟩ id
  | error e => exact .failed (reportOf_error h).1 id (reportOf_error h).2

/-! ## On the stores -/

variable {owner : OwnerReference}

theorem classified_reachTopic {r : Except Setback TopicIds} (howner : s.ownerReference = .ok owner)
    (hname : name ≠ "") (h : Ends .none st (reachTopic s name) log st' r) :
    Classified (r.mapError (·.error))
      (∀ topic, st.topics.get? (Key.of s.metadata) = some topic → topic.ready = false)
      (∃ topic, st.topics.get? (Key.of s.metadata) = some topic ∧ TopicFits topic name) := by
  obtain ⟨l, found, mid, l', hensure, hrest, rfl⟩ := ends_bind.1 h
  obtain ⟨topic, hstored, rfl⟩ | ⟨habsent, rfl⟩ := (ends_ensure hensure).current
    fun _ ho => key_owned Topic.metadata (fun _ => rfl) ho
  · obtain ⟨-, -, rfl⟩ := ends_pure.1 hrest
    exact (classified_topicIds topic hname).found hstored
  · have hdesired : ∃ topic, s.topic name = .ok topic := by
      unfold Scheduler.topic Scheduler.ownedMetadata
      rw [howner]
      exact ⟨_, rfl⟩
    obtain ⟨topic, htopic⟩ := hdesired
    rw [htopic] at hrest
    obtain ⟨-, -, rfl⟩ := ends_pure.1 hrest
    simp only [topicIds, not_ready_of_topic htopic]
    exact .absent rfl habsent

theorem classified_reachSubscription {r : Except Setback String}
    (howner : s.ownerReference = .ok owner)
    (h : Ends .none st (reachSubscription s name) log st' r) :
    Classified (r.mapError (·.error)) (SubscriptionPending st s) (SubscriptionValid st s) := by
  obtain ⟨l, found, mid, l', hensure, hrest, rfl⟩ := ends_bind.1 h
  obtain ⟨ps, hstored, rfl⟩ | ⟨habsent, rfl⟩ := (ends_ensure hensure).current
    fun _ ho => key_owned PullSubscription.metadata (fun _ => rfl) ho
  · obtain ⟨-, -, rfl⟩ := ends_pure.1 hrest
    exact (classified_sinkOf ps _).found hstored
  · have hdesired : ∃ ps, s.pullSubscription name = .ok ps := by
      unfold Scheduler.pullSubscription Scheduler.ownedMetadata
      rw [howner]
      exact ⟨_, rfl⟩
    obtain ⟨ps, hps⟩ := hdesired
    rw [hps] at hrest
    obtain ⟨-, -, rfl⟩ := ends_pure.1 hrest
    simp only [sinkOf, not_ready_of_pullSubscription hps]
    exact .absent rfl habsent

theorem classified_runJob {args : Args} {uid : String} {action : Action} (huid : args.uid = uid)
    (hspace : args.space = s.space) (haction : args.action = action) {r : Except Error Report}
    (h : Ends .none st (runJob args) log st' r) :
    Classified r (JobPending st s uid action) (JobSucceeded st s uid action) := by
  have hjobName : args.jobName = jobName uid action := by
    rw [Args.jobName, huid, haction]
  have hselector : args.podSelector = podSelector uid action := by
    rw [Args.podSelector, huid, haction]
  have hphase := fun job => classified_phase job args.jobName
  cases ends_runJob h with
  | unread e hfails => exact hfails.elim
  | created hfinds hnone =>
    rw [hspace, hjobName] at hnone
    exact .absent rfl hnone
  | refused e e' hfinds hrefused => exact absurd (hfinds.resolve_right id) (hrefused.resolve_left id)
  | unfit job e hfinds houtcome =>
    have hstored := hfinds.resolve_right id
    rw [hspace, hjobName] at hstored
    have hstop : Classified (.error e : Except Error Report)
        (¬ job.Holds "Complete" ∧ ¬ job.Holds "Failed" ∨
          (job.Holds "Complete" ∧ ¬ job.Holds "Failed") ∧ False)
        ((job.Holds "Complete" ∧ ¬ job.Holds "Failed") ∧
          Reported (st.listPods s.space (podSelector uid action))) :=
      (houtcome ▸ hphase job).stop
    have hjob : Classified (.error e : Except Error Report)
        (¬ job.Holds "Complete" ∧ ¬ job.Holds "Failed") (job.Holds "Complete" ∧
          ¬ job.Holds "Failed" ∧ Reported (st.listPods s.space (podSelector uid action))) :=
      hstop.congr (by simp) and_assoc
    exact hjob.found hstored
  | unlisted job e hfinds hsucceeded hfails => exact hfails.elim
  | reported job hfinds hsucceeded =>
    have hstored := hfinds.resolve_right id
    rw [hspace, hjobName] at hstored
    rw [hspace, hselector]
    have houtcome : job.phase.outcome args.jobName = .ok () := by rw [hsucceeded]; rfl
    have hjob : Classified (reportOf (st.listPods s.space (podSelector uid action)))
        (¬ job.Holds "Complete" ∧ ¬ job.Holds "Failed") _ :=
      ((houtcome ▸ hphase job).next (classified_reportOf _)).congr (by simp) and_assoc
    exact hjob.found hstored

variable {uid : String}

theorem classified_reachNotification {status : SchedulerStatus} {r : Except Setback Report}
    (howner : s.ownerReference = .ok owner)
    (h : Ends .none st (p.reachNotification s status) log st' r) :
    Classified (r.mapError (·.error)) (JobPending st s owner.uid .create)
      (JobSucceeded st s owner.uid .create) := by
  obtain ⟨l, created, mid, l', hcreate, hrest, rfl⟩ := ends_bind.1 h
  obtain ⟨args, hargs, huid, hspace, haction⟩ := notificationArgs_of_owner howner p .create
    (status.projectId.getD "") status.topicId none
  unfold createNotification at hcreate
  rw [hargs] at hcreate
  have hjob := classified_runJob huid hspace haction hcreate
  rcases created with e | report <;>
  · obtain ⟨-, -, rfl⟩ := ends_pure.1 hrest
    exact hjob

/-- What the wiring comes to. -/
theorem classified_survey {g : Progress} (howner : s.ownerReference = .ok owner)
    (h : Ends .none st (p.survey s (topicName s (s.status.getD .blank))) log st' g) :
    Classified g.result (Waiting st s owner.uid) (Wired st s owner.uid) := by
  obtain ⟨l, topic, mid, l', htopic, hrest, rfl⟩ := ends_bind.1 h
  have hclassified := classified_reachTopic howner (topicName_ne s _) htopic
  rcases topic with b | ids
  · obtain ⟨-, -, rfl⟩ := ends_pure.1 hrest
    exact hclassified.stop
  refine hclassified.next ?_
  obtain ⟨_, -, rfl, -⟩ := reached_topic htopic
  obtain ⟨l₁, subscription, mid₁, l₁', hsubscription, hrest₁, rfl⟩ := ends_bind.1 hrest
  have hclassified := classified_reachSubscription howner hsubscription
  rcases subscription with b | uri
  · obtain ⟨-, -, rfl⟩ := ends_pure.1 hrest₁
    exact hclassified.stop
  refine hclassified.next ?_
  obtain ⟨_, -, rfl, -⟩ := reached_subscription hsubscription
  obtain ⟨l₂, report, mid₂, l₂', hnotification, hrest₂, rfl⟩ := ends_bind.1 hrest₁
  have hclassified := classified_reachNotification howner hnotification
  rcases report with b | report <;>
  · obtain ⟨-, -, rfl⟩ := ends_pure.1 hrest₂
    exact hclassified.retype rfl

theorem schedulers_undoNotification {status : SchedulerStatus} {u : Except Error Unit}
    (h : Ends .none st (p.undoNotification s status) log st' u) :
    st'.schedulers = st.schedulers :=
  h.keeps (I := fun mid => mid.schedulers = st.schedulers)
    (obeys_undoNotification (P := fun _ c => c.scheduler? = none)
      (fun _ c hc => by cases c <;> first | rfl | cases hc) fun _ _ _ => rfl)
    (fun hc hgives hmid => (hgives.schedulers hc).trans hmid) rfl

/-- What is left of the notification. -/
theorem classified_undoNotification {u : Except Error Unit} (howner : s.ownerReference = .ok owner)
    (h : Ends .none st (p.undoNotification s (s.status.getD .blank)) log st' u) :
    Classified u (Leaving st s owner.uid) (Gone st s owner.uid) := by
  unfold undoNotification at h
  split at h
  · next hempty =>
    obtain ⟨-, -, rfl⟩ := ends_pure.1 h
    exact .settled (.inl fun hne => hne hempty) fun hleaving => hleaving.1 hempty
  next hrecorded =>
  obtain ⟨args, hargs, huid, hspace, haction⟩ := notificationArgs_of_owner howner p .delete
    (deletionProject s (s.status.getD .blank)) none
    (some ((s.status.getD .blank).notificationId.getD ""))
  unfold deletionArgs at h
  rw [hargs] at h
  obtain ⟨l, r, mid, l', hjob, hrest, rfl⟩ := ends_bind.1 h
  have hclassified : Classified r (Leaving st s owner.uid) (Gone st s owner.uid) :=
    (classified_runJob huid hspace haction hjob).congr
      (by simp [Leaving, Recorded, hrecorded]) (by simp [Gone, Recorded, hrecorded])
  rcases r with e | report <;>
  · obtain ⟨-, -, rfl⟩ := ends_pure.1 hrest
    exact hclassified.retype rfl

/-! ## The whole pass -/

variable {r : Except Error Unit}

theorem outlook_map (x : Except Error Ending) : Outlook.of (x.map fun _ => ()) = Outlook.of x := by
  cases x <;> rfl

/-- The marker goes on, and the status that follows from the finding is stored. -/
theorem classified_live (howner : s.ownerReference = .ok owner)
    (hstored : st.schedulers.get? (Key.of s.metadata) = some s)
    (hlive : s.metadata.deleting = false) (h : Ends .none st (p.attend s) log st' r) :
    Classified r (Waiting st s owner.uid) (Wired st s owner.uid) := by
  obtain ⟨e, c, -, hfails⟩ | ⟨schedulers, l, mid, g, hsurvey, hresult, -⟩ :=
    ends_attend_live hstored hlive h
  · exact hfails.elim
  have hclassified := classified_survey howner hsurvey
  rw [hresult]
  exact hclassified.retype (outlook_map _)

/-- Where nothing goes wrong, what is to be deleted is gone afterwards. -/
theorem ends_removing {d : Dependent} {left : Error → Removal} {rest : Scheduler → Program Removal}
    {x : Removal} (h : Ends .none st (removing d left rest s) log st' x) :
    ∃ mid l, mid.schedulers = st.schedulers ∧ Ends .none mid (rest s) l st' x := by
  obtain ⟨reply, mid, l, rfl, hgives, hrest⟩ := ends_ask_bind.1 h
  obtain ⟨e, rfl, -, hfails⟩ | ⟨⟨b, rfl⟩, -⟩ := hgives.delete
  · exact hfails.elim
  · exact ⟨mid, l, hgives.schedulers rfl, hrest⟩

theorem ends_release {x : Removal} (hstored : st.schedulers.get? (Key.of s.metadata) = some s)
    (h : Ends .none st (release s) log st' x) : x = .complete := by
  obtain ⟨l, marker, mid, l', hmarker, hrest, rfl⟩ := ends_bind.1 h
  have hreleased : marker = .ok () := by
    unfold releaseMarker at hmarker
    split at hmarker
    · exact (ends_pure.1 hmarker).2.2
    · obtain ⟨reply, st₁, rest, rfl, hgives, hreply⟩ := ends_ask_bind.1 hmarker
      obtain ⟨e, rfl, -, hrefused⟩ | ⟨_, _, -, -, rfl, -⟩ := hgives.patchScheduler
      · have hstored : st.schedulers.get? ⟨s.space, s.displayName⟩ = some s := hstored
        rw [hstored] at hrefused
        cases hrefused.resolve_left id
      · exact (ends_pure.1 hreply).2.2
  subst hreleased
  exact (ends_pure.1 hrest).2.2

theorem ends_removeObjects {x : Removal}
    (hstored : st.schedulers.get? (Key.of s.metadata) = some s)
    (h : Ends .none st (removeObjects s) log st' x) : x = .complete := by
  obtain ⟨mid, l, hmid, hrest⟩ := ends_removing h
  obtain ⟨mid', l', hmid', hrelease⟩ := ends_removing hrest
  refine ends_release ?_ hrelease
  rw [hmid', hmid]
  exact hstored

theorem classified_deleting (howner : s.ownerReference = .ok owner)
    (hstored : st.schedulers.get? (Key.of s.metadata) = some s)
    (hdeleting : s.metadata.deleting = true) (h : Ends .none st (p.attend s) log st' r) :
    Classified r (Leaving st s owner.uid) (Gone st s owner.uid) := by
  unfold attend at h
  rw [work_of_deleting p hdeleting, Program.bind_assoc] at h
  obtain ⟨heard, st₁, l, rfl, htold, hrest⟩ := ends_ask_bind.1 h
  obtain rfl := htold.publish
  simp only [Program.bind_assoc, Program.pure_bind] at hrest
  obtain ⟨l, left, mid, l', hdismantle, hfinish, rfl⟩ := ends_bind.1 hrest
  obtain ⟨l₁, u, mid₁, l₁', hundo, hleft, rfl⟩ := ends_bind.1 hdismantle
  have hclassified := classified_undoNotification howner hundo
  have hschedulers := schedulers_undoNotification hundo
  rw [← hschedulers] at hstored
  rcases u with e | ⟨⟩
  · obtain ⟨-, rfl, rfl⟩ := ends_pure.1 hleft
    rw [finish_eq (Removal.result_ne_finalized (r := .notificationLeft e) nofun)] at hfinish
    obtain ⟨hresult, -⟩ := (ends_conclude hfinish).left hstored rfl rfl id
    rw [hresult]
    exact hclassified.retype rfl
  · obtain rfl := ends_removeObjects hstored hleft
    obtain ⟨-, -, rfl⟩ := ends_pure.1 hfinish
    exact hclassified

end Pass

/-! ## The controller -/

variable {c : Controller} {w : World} {s : Scheduler} {uid name : String}

/-- Where no call fails and every read tells what is stored, a program that does not listen makes
the calls that it makes on the stores alone, and comes to what it comes to there. -/
theorem World.ends_current {p : Program α} (hmended : ∀ site, w.faults.failure? site = none)
    (hdeaf : p.Deaf) (hcurrent : w.Truthful p) :
    ∃ log, Ends .none w.stores p log (w.run p).state.stores (w.run p).result ∧
      (w.run p).exchanges.map (·.call) = log.map (·.call) := by
  have hanswer : w.faults.answer = Stores.answer := by
    funext call st
    exact Faults.answer_accepted (Faults.refusal?_of_mended hmended call) st
  obtain ⟨hresult, hstate, -, hcalls⟩ := World.run_mute hdeaf hcurrent
  rw [hresult, hstate, hcalls, hanswer]
  exact ⟨_, Stores.ends_run p w.stores, rfl⟩

/-- Where no call fails and every read tells what is stored, a pass is a course of the stores in
which nothing goes wrong. -/
theorem World.ends_mended {p : Program α} (hmended : ∀ site, w.faults.failure? site = none)
    (hdeaf : p.Deaf) (hcurrent : w.Truthful p) :
    ∃ log, Ends .none w.stores p log (w.run p).state.stores (w.run p).result := by
  obtain ⟨log, hends, -⟩ := World.ends_current hmended hdeaf hcurrent
  exact ⟨log, hends⟩

/-- The controller waits for a change exactly when the scheduler is wired up, or undone; it comes
back soon exactly when the next thing to happen is somebody else's; else something broke. -/
theorem Controller.trigger_classified (hmended : ∀ site, w.faults.failure? site = none)
    (hcurrent : w.Truthful (c.trigger s))
    (hstored : w.stores.schedulers.get? (Key.of s.metadata) = some s)
    (huid : s.metadata.uid = some uid) (hname : s.metadata.name = some name) (hne : name ≠ "")
    (hslash : '/' ∉ name.toList ∧ '/' ∉ s.space.toList) :
    let result := (w.run (c.trigger s)).result
    c.requeue result = (Outlook.of result).requeue c ∧
      (s.metadata.deleting = false →
        Classified result (Waiting w.stores s uid) (Wired w.stores s uid)) ∧
      (s.metadata.deleting = true →
        Classified result (Leaving w.stores s uid) (Gone w.stores s uid)) := by
  intro result
  have hdisplay : s.metadata.displayName = name := by rw [Metadata.displayName, hname]; rfl
  have hkey : Key.parse (Key.queued s.metadata) = .ok (Key.of s.metadata) :=
    Key.parse_queued hslash.2 (hdisplay ▸ hslash.1) (hdisplay ▸ hne)
  obtain ⟨owner, howner, rfl⟩ : ∃ owner, s.ownerReference = .ok owner ∧ owner.uid = uid := by
    unfold Scheduler.ownerReference
    rw [hname, huid]
    exact ⟨_, rfl, rfl⟩
  obtain ⟨log, hends⟩ := World.ends_mended hmended (c.pass.deaf_reconcile _) hcurrent
  change Ends .none w.stores (c.pass.reconcile (Key.queued s.metadata)) log _ result at hends
  obtain ⟨e, call, -, hfails⟩ | ⟨rest, rfl, hattend⟩ :=
    Pass.ends_reconcile_stored hkey hstored hends
  · exact hfails.elim
  refine ⟨c.requeue_eq result, fun hlive => ?_, fun hdeleting => ?_⟩
  · exact Pass.classified_live howner hstored hlive hattend
  · exact Pass.classified_deleting howner hstored hdeleting hattend

/-- A controller that comes back after ten seconds, or after five minutes. -/
def Controller.sample : Controller :=
  ⟨.sample "2020-01-01T00:00:00Z", .ofSeconds 10, .ofSeconds 300⟩

theorem Controller.sample_trigger_classified :
    let w := World.sample .sample
    let result := (w.run (Controller.sample.trigger .sample)).result
    (∀ site, w.faults.failure? site = none) ∧ w.Truthful (Controller.sample.trigger .sample) ∧
      w.stores.schedulers.get? (Key.of Scheduler.sample.metadata) = some .sample ∧
      Scheduler.sample.metadata.deleting = false ∧
      Classified result (Waiting w.stores .sample "7") (Wired w.stores .sample "7") ∧
      Controller.sample.requeue result = .after (.ofSeconds 10) := by
  intro w result
  have hcurrent : w.Truthful (Controller.sample.trigger .sample) :=
    World.truthful_of_clear rfl rfl _
  obtain ⟨hrequeue, hlive, -⟩ := Controller.trigger_classified (c := .sample) (w := w)
    (s := .sample) (fun _ => rfl) hcurrent rfl rfl rfl (by decide)
    (by decide)
  have hclassified := hlive rfl
  refine ⟨fun _ => rfl, hcurrent, rfl, rfl, hclassified, ?_⟩
  have hwaiting : Waiting w.stores .sample "7" := .inl fun _ h => nomatch h
  rw [hrequeue, hclassified.pending.2 hwaiting]
  rfl

end EventWiring
