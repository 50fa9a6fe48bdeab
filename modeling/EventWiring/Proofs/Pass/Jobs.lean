import EventWiring.Proofs.Pass.Survey
import EventWiring.Proofs.World.History

/-!
# The jobs of a scheduler

There is at most one job for each action, under a key that follows from the bare scheduler. A pass
over a live scheduler touches only the one that creates (`spared_attend`), and a pass over one that
is on its way out only the one that deletes; what is recorded stays recorded until the notification
is gone (`Dismantling`), and then its deletion is confirmed (`Dismantling.confirmed`).
-/

namespace EventWiring

open Program (Exchange Heeds Obeys Reaches Trace heeds_of_obeys)
open Notification (Action Args Report jobName podSelector)

theorem Notification.jobName_create_ne (uid : String) : jobName uid .create ≠ jobName uid .delete := by
  unfold jobName
  rw [ne_eq, String.append_left_inj]
  decide

/-- What tells a scheduler from all others. -/
structure Identity where
  name : Option String
  space? : Option String
  uid : Option String
deriving DecidableEq

def Metadata.identity (m : Metadata) : Identity := ⟨m.name, m.space?, m.uid⟩

namespace Identity

/-- Where the topic and the pull subscription are. -/
def key (id : Identity) : Key := ⟨id.space?.getD "", id.name.getD ""⟩

/-- Where the job of that action is. -/
def jobKey (id : Identity) (action : Action) : Key :=
  ⟨id.space?.getD "", jobName (id.uid.getD "") action⟩

end Identity

namespace Scheduler

/-- The name of the notification that is recorded, empty if there is none. -/
def recordedId (s : Scheduler) : String := (s.status.getD .blank).notificationId.getD ""

theorem recordedId_of_status {s s' : Scheduler} (h : s'.status = s.status) :
    s'.recordedId = s.recordedId := by
  unfold recordedId
  rw [h]

/-- Where the job of that action is. -/
def jobKey (s : Scheduler) (action : Action) : Key :=
  ⟨s.space, jobName (s.metadata.uid.getD "") action⟩

theorem jobKey_create_ne (s : Scheduler) : s.jobKey .create ≠ s.jobKey .delete := by
  intro h
  exact Notification.jobName_create_ne _ (congrArg Key.name h)

/-- The bare scheduler tells where the jobs are. -/
theorem jobKey_of_bare {s s' : Scheduler} (h : s'.bare = s.bare) (action : Action) :
    s'.jobKey action = s.jobKey action := by
  show s'.bare.jobKey action = s.bare.jobKey action
  rw [h]

end Scheduler

/-- The job deletes the notification of that name. -/
def Job.Deletes (job : Job) (id : String) : Prop :=
  ∃ args : Args, args.action = .delete ∧ args.notificationId = some id ∧ job.spec = args.job.spec

namespace Pass

variable {st st' mid : Stores} {log : List Exchange} {p : Pass} {s : Scheduler}

theorem notificationArgs_ok {action : Action} {projectId : String}
    {topicId notificationId : Option String} {args : Args}
    (h : p.notificationArgs s action projectId topicId notificationId = .ok args) :
    s.metadata.uid.getD "" = args.uid ∧ s.space = args.space ∧ args.action = action ∧
      args.notificationId = notificationId := by
  obtain ⟨owner, howner, rfl⟩ := notificationArgs_eq_ok.1 h
  obtain ⟨name, uid, -, huid, rfl⟩ := ownerReference_eq_ok.1 howner
  rw [huid]
  exact ⟨rfl, rfl, rfl, rfl⟩

/-- A job is where it is looked up. -/
theorem jobKey_of_args {action : Action} {projectId : String}
    {topicId notificationId : Option String} {args : Args}
    (h : p.notificationArgs s action projectId topicId notificationId = .ok args) :
    s.jobKey action = ⟨args.space, args.jobName⟩ := by
  obtain ⟨huid, hspace, haction, -⟩ := notificationArgs_ok h
  rw [Scheduler.jobKey, huid, hspace, ← haction]
  rfl

/-! ## Live schedulers -/

/-- Only the job that creates the notification is touched. -/
theorem spared_attend {t : Trouble} (hlive : s.metadata.deleting = false)
    (hstored : st.schedulers.get? (Key.of s.metadata) = some s) :
    Heeds t (fun _ _ c => ¬ c.Touches .job (s.jobKey .delete)) log st (p.attend s) := by
  refine heeds_attend_live hlive (fun _ _ => id) (fun l mid marked hput => ?_)
    (fun _ _ _ _ _ _ _ _ => id) fun _ _ _ => id
  obtain ⟨-, -, ⟨finalizers, version, rfl⟩, -⟩ := hput.stored hstored rfl
  refine heeds_survey (fun _ c hc _ => ?_) fun l' d space object h => ?_
  · cases c <;> first | exact id | cases hc
  · rintro ⟨hjob, hkey⟩
    cases h with
    | job topic ids ps uri args _ _ hargs =>
      have hcreate : s.jobKey .create = ⟨args.space, args.jobName⟩ := jobKey_of_args hargs
      exact Scheduler.jobKey_create_ne s (hcreate.trans hkey)
    | _ => cases hjob

/-! ## Schedulers on their way out -/

theorem recordedId_settled (r : Removal) :
    (p.settled s (r.record p)).recordedId = s.recordedId ∨
      (p.settled s (r.record p)).recordedId = "" ∧ ∀ e, r ≠ .notificationLeft e := by
  have hid : ∀ status : SchedulerStatus, status.notificationId = (identifiers status).notificationId :=
    fun _ => rfl
  unfold Scheduler.recordedId
  cases r with
  | notificationLeft e =>
    refine .inl ?_
    rw [hid, identifiers_notificationLeft, ← hid]
  | _ =>
    refine .inr ⟨?_, fun _ h => nomatch h⟩
    rw [hid, identifiers_settled, ← hid]
    exact notificationId_forget _

/-- What a call needs to have come before it for the notification not to be forgotten. -/
def Careful (p : Pass) (s : Scheduler) (log : List Exchange) : Call → Prop
  | .patchScheduler _ _ _ => NotificationGone p s log
  | .updateStatus new =>
    new.recordedId = s.recordedId ∨ new.recordedId = "" ∧ NotificationGone p s log
  | _ => True

theorem gone_of_dismantle {r : Removal} (hr : ∀ e, r ≠ .notificationLeft e)
    (h : Trace (p.dismantle s (s.status.getD .blank)) log r) : NotificationGone p s log := by
  obtain ⟨l, u, l', hundo, hrest, rfl⟩ := Program.trace_bind.1 h
  rcases u with e | ⟨⟩
  · exact absurd (Program.trace_pure.1 hrest).2 (hr e)
  · exact (gone_of_undoNotification hundo).mono fun x hx => List.mem_append_left _ hx

theorem careful_attend (hdeleting : s.metadata.deleting = true) :
    Obeys (Careful p s) log (p.attend s) := by
  refine obeys_attend_deleting hdeleting (fun _ _ => trivial)
    (fun _ => obeys_undoNotification (fun _ c _ => by cases c <;> trivial) fun _ _ _ => trivial)
    (fun _ _ => trivial) (fun _ _ _ => trivial) (fun _ _ hgone _ _ _ => hgone)
    fun log l r hr _ => ?_
  refine (recordedId_settled r).imp_right fun ⟨hempty, hleft⟩ => ⟨hempty, ?_⟩
  exact (gone_of_dismantle hleft hr).mono fun x hx => List.mem_append_right _ hx

/-- A pass over a scheduler that is on its way out, so far: it began on `st₀`. -/
structure Dismantling (p : Pass) (s : Scheduler) (st₀ : Stores) (log : List Exchange)
    (st : Stores) : Prop where
  scheduler : ∃ s', st.schedulers.get? (Key.of s.metadata) = some s' ∧ s'.bare = s.bare ∧
    (s'.recordedId = s.recordedId ∨ s'.recordedId = "" ∧ NotificationGone p s log)
  deletion : ∀ job, st.jobs.get? (s.jobKey .delete) = some job → s.recordedId ≠ "" →
    job.Deletes s.recordedId
  creation : st.jobs.get? (s.jobKey .create) = st₀.jobs.get? (s.jobKey .create)
  read : ∀ job, ⟨.get .job (s.jobKey .delete).space (s.jobKey .delete).name, .ok (some job)⟩ ∈ log →
    s.recordedId ≠ "" → job.Deletes s.recordedId

namespace Dismantling

variable {st₀ : Stores} {c : Call} {reply : c.Answer}

/-- A call that is allowed leaves the jobs as they are, or creates the one that deletes the recorded
notification. -/
theorem jobs_of_allowed (hc : Allowed p s log c) (hgives : st.Gives .failures c reply st') :
    st'.jobs.get? (s.jobKey .create) = st.jobs.get? (s.jobKey .create) ∧
      ∀ job, st'.jobs.get? (s.jobKey .delete) = some job →
        st.jobs.get? (s.jobKey .delete) = some job ∨ job.Deletes s.recordedId := by
  have hkept : (∀ k, ¬ c.Touches .job k) →
      st'.jobs.get? (s.jobKey .create) = st.jobs.get? (s.jobKey .create) ∧
        ∀ job, st'.jobs.get? (s.jobKey .delete) = some job →
          st.jobs.get? (s.jobKey .delete) = some job ∨ job.Deletes s.recordedId := by
    intro huntouched
    refine ⟨hgives.untouched (d := .job) (huntouched _), fun job hjob => .inl ?_⟩
    exact (hgives.untouched (d := .job) (huntouched _)).symm.trans hjob
  cases c with
  | create d space object =>
    obtain ⟨args, hargs, -, hcall⟩ := hc
    cases hcall
    obtain ⟨-, -, haction, hid⟩ := notificationArgs_ok hargs
    obtain ⟨-, -, rfl, -⟩ | ⟨-, -, rfl⟩ := hgives.create
    · exact ⟨rfl, fun job hjob => .inl hjob⟩
    · have hput : Key.of args.job.metadata = s.jobKey .delete := (jobKey_of_args hargs).symm
      show (st.jobs.put (Key.of args.job.metadata) args.job).get? _ = _ ∧ ∀ job,
        (st.jobs.put (Key.of args.job.metadata) args.job).get? _ = some job → _
      rw [hput, Store.get?_put_of_ne s.jobKey_create_ne, Store.get?_put]
      refine ⟨rfl, ?_⟩
      rintro job ⟨⟩
      exact .inr ⟨args, haction, hid, rfl⟩
  | delete d space name =>
    refine hkept fun k htouches => ?_
    obtain ⟨rfl, -⟩ := htouches
    exact hc
  | _ => exact hkept fun _ => id

theorem step (h : Dismantling p s st₀ log st) (hc : Allowed p s log c ∧ Careful p s log c)
    (hgives : st.Gives .failures c reply st') :
    Dismantling p s st₀ (log ++ [⟨c, reply⟩]) st' where
  scheduler := by
    obtain ⟨s₁, hs₁, hbare₁, hid₁⟩ := h.scheduler
    have hmono : NotificationGone p s log → NotificationGone p s (log ++ [⟨c, reply⟩]) :=
      fun hgone => hgone.mono fun x hx => List.mem_append_left _ hx
    obtain ⟨s₂, hs₂, hbare₂, hstatus⟩ := hgives.scheduler hs₁
    refine ⟨s₂, hs₂, hbare₂.trans hbare₁, ?_⟩
    rcases hstatus with hsame | ⟨desired, rfl, hwritten⟩
    · rw [Scheduler.recordedId_of_status hsame]
      exact hid₁.imp_right (And.imp_right hmono)
    · rw [Scheduler.recordedId_of_status hwritten]
      exact hc.2.imp_right (And.imp_right hmono)
  deletion job hjob hid :=
    ((jobs_of_allowed hc.1 hgives).2 job hjob).elim (fun hold => h.deletion job hold hid) id
  creation := (jobs_of_allowed hc.1 hgives).1.trans h.creation
  read job hread hid := by
    rcases List.mem_append.1 hread with hbefore | hnow
    · exact h.read job hbefore hid
    · cases List.mem_singleton.1 hnow
      obtain ⟨-, -, hfound⟩ := hgives.get
      exact h.deletion job ((hfound _ rfl).resolve_right id).symm hid

/-- It stays so wherever the pass gets, and the next call is careful. -/
theorem of_reaches {text : String} {q : Program (Except Error Unit)}
    (hkey : Key.parse text = .ok (Key.of s.metadata))
    (hstored : st.schedulers.get? (Key.of s.metadata) = some s)
    (hdeleting : s.metadata.deleting = true)
    (hjobs : ∀ job, st.jobs.get? (s.jobKey .delete) = some job → s.recordedId ≠ "" →
      job.Deletes s.recordedId)
    (h : Reaches .failures st (p.reconcile text) log mid q) :
    Dismantling p s st log mid ∧ ∀ c next, q = .call c next → Careful p s log c := by
  have hattend : Obeys (fun log c => Allowed p s log c ∧ Careful p s log c)
      [⟨.getScheduler s.space s.displayName, .ok (some s)⟩] (p.attend s) :=
    (allowed_attend hdeleting).and (careful_attend hdeleting)
  have hheeds : Heeds .failures (fun log _ c => Allowed p s log c ∧ Careful p s log c) [] st
      (p.reconcile text) :=
    heeds_reconcile_stored hkey hstored ⟨trivial, trivial⟩
      (heeds_of_obeys hattend fun _ _ _ hc => hc)
  constructor
  · refine hheeds.keeps h (fun hc hgives hmid => hmid.step hc hgives) ?_
    exact ⟨⟨s, hstored, rfl, .inl rfl⟩, hjobs, rfl, fun _ hread => nomatch hread⟩
  · rintro c next rfl
    exact (hheeds.reaches h).1.2

end Dismantling

/-! ## Confirmation -/

/-- The deletion of the notification of that name is confirmed: a finished job that deletes it and
did not fail was found, and the pod that counts reported success. -/
def DeletionConfirmed (s : Scheduler) (id : String) (log : List Exchange) : Prop :=
  ∃ (job : Job) (pods : List Pod) (pod : Pod) (report : Report),
    ⟨.get .job (s.jobKey .delete).space (s.jobKey .delete).name, .ok (some job)⟩ ∈ log ∧
      job.Deletes id ∧ job.finished ∧ ¬ job.failed ∧
      ⟨.listPods s.space (podSelector (s.metadata.uid.getD "") .delete), .ok pods⟩ ∈ log ∧
      Pod.select pods = .ok pod ∧ pod.report = .ok report ∧ report.success

namespace DeletionConfirmed

variable {id : String}

theorem mono {log' : List Exchange} (h : DeletionConfirmed s id log)
    (hlog : ∀ x ∈ log, x ∈ log') : DeletionConfirmed s id log' := by
  obtain ⟨job, pods, pod, report, hjob, hdeletes, hfinished, hfailed, hpods, hreport⟩ := h
  exact ⟨job, pods, pod, report, hlog _ hjob, hdeletes, hfinished, hfailed, hlog _ hpods, hreport⟩

/-- It does not matter what the scheduler remembers by then. -/
theorem congr {s' : Scheduler} (h : DeletionConfirmed s id log) (hbare : s.bare = s'.bare) :
    DeletionConfirmed s' id log := by
  have hbare' : DeletionConfirmed s.bare id log := h
  rw [hbare] at hbare'
  exact hbare'

end DeletionConfirmed

/-- A notification that is gone, and was recorded, is known to be deleted. -/
theorem Dismantling.confirmed {st₀ : Stores} (h : Dismantling p s st₀ log st)
    (hgone : NotificationGone p s log) (hid : s.recordedId ≠ "") :
    DeletionConfirmed s s.recordedId log := by
  obtain ⟨args, hargs, job, pods, pod, report, hjob, hfinished, hfailed, hpods, hreport⟩ :=
    hgone.resolve_left hid
  have hkey : s.jobKey .delete = ⟨args.space, args.jobName⟩ := jobKey_of_args hargs
  obtain ⟨huid, hspace, haction, -⟩ := notificationArgs_ok hargs
  have hread : ⟨.get .job (s.jobKey .delete).space (s.jobKey .delete).name, .ok (some job)⟩ ∈
      log := by
    rw [hkey]
    exact hjob
  refine ⟨job, pods, pod, report, hread, h.read job hread hid, hfinished, hfailed, ?_, hreport⟩
  rw [huid, hspace, ← haction]
  exact hpods

end Pass

end EventWiring
