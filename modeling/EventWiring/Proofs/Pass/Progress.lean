import EventWiring.Pass.Reconcile
import EventWiring.Proofs.Program.Trace
import EventWiring.World.Change

/-!
# What a pass finds

A pass asks first and records afterwards. How far the wiring gets is a `Progress`, found by
`survey`; what is left of it when it is undone is a `Removal`, found by `dismantle`. The result of
the pass and the status that it computes are functions of the finding (`work_of_live`,
`work_of_deleting`), and the calls depend on no condition of the status.
-/

namespace EventWiring.Pass

open Notification (Report)

/-! ## Wiring up -/

/-- How far the wiring gets. -/
inductive Progress where
  | noTopic (b : Setback)
  | noSubscription (ids : TopicIds) (b : Setback)
  | noNotification (ids : TopicIds) (uri : String) (b : Setback)
  | complete (ids : TopicIds) (uri : String) (report : Report)

namespace Progress

def result : Progress → Except Error Ending
  | noTopic b => .error b.error
  | noSubscription _ b => .error b.error
  | noNotification _ _ b => .error b.error
  | complete _ _ _ => .ok .converged

def record (p : Pass) (status : SchedulerStatus) : Progress → SchedulerStatus
  | noTopic b => p.markSetback status .topic b
  | noSubscription ids b => p.markSetback (p.recordTopic status ids) .pullSubscription b
  | noNotification ids uri b =>
    p.markSetback (p.recordSink (p.recordTopic status ids) uri) .notification b
  | complete ids uri report =>
    p.recordReport (p.recordSink (p.recordTopic status ids) uri) report

end Progress

/-- A status that knows a topic and nothing else. -/
def TopicIds.known (ids : TopicIds) : SchedulerStatus :=
  { SchedulerStatus.blank with topicId := some ids.topicId, projectId := some ids.projectId }

def survey (p : Pass) (s : Scheduler) (name : String) : Program Progress := do
  match ← reachTopic s name with
  | .error b => return .noTopic b
  | .ok ids =>
    match ← reachSubscription s name with
    | .error b => return .noSubscription ids b
    | .ok uri =>
      match ← p.reachNotification s ids.known with
      | .error b => return .noNotification ids uri b
      | .ok report => return .complete ids uri report

/-- What a pass creates to wire a scheduler up, when it is missing. -/
inductive Wanted (p : Pass) (s : Scheduler) (name : String) : (d : Dependent) → d.Object → Prop
  | topic (object : Topic) : s.topic name = .ok object → Wanted p s name .topic object
  | pullSubscription (object : PullSubscription) : s.pullSubscription name = .ok object →
    Wanted p s name .pullSubscription object
  | job (ids : TopicIds) (args : Notification.Args) :
    p.notificationArgs s .create ids.projectId (some ids.topicId) none = .ok args →
    Wanted p s name .job args.job

theorem converge_eq (p : Pass) (s : Scheduler) (status : SchedulerStatus) :
    p.converge s status =
      p.survey s (topicName s status) >>= fun g => pure (g.result, g.record p status) := by
  unfold converge survey
  simp only [Program.bind_assoc]
  congr 1
  funext topic
  rcases topic with b | ids
  · rfl
  simp only [Program.bind_assoc]
  congr 1
  funext subscription
  rcases subscription with b | uri
  · rfl
  have hknown : p.reachNotification s (p.recordSink (p.recordTopic status ids) uri) =
      p.reachNotification s ids.known := rfl
  simp only [Program.bind_assoc, hknown]
  congr 1
  funext report
  rcases report with b | report <;> rfl

/-! ## Undoing the wiring -/

/-- What is left when the wiring is undone. -/
inductive Removal where
  | notificationLeft (e : Error)
  | topicLeft (e : Error)
  | subscriptionLeft (e : Error)
  | markerLeft (e : Error)
  | complete

/-- The status without its notification. An empty name of one is left as it is. -/
def forget (status : SchedulerStatus) : SchedulerStatus :=
  if status.notificationId.getD "" = "" then status else { status with notificationId := none }

namespace Removal

def result : Removal → Except Error Ending
  | notificationLeft e => .error e
  | topicLeft e => .error e
  | subscriptionLeft e => .error e
  | markerLeft e => .error e
  | complete => .ok .finalized

def record (p : Pass) (status : SchedulerStatus) : Removal → SchedulerStatus
  | notificationLeft e => p.markSetback status .notification (deletionSetback e)
  | topicLeft _ => forget status
  | _ => { forget status with topicId := none }

end Removal

theorem Removal.result_ne_finalized {r : Removal} (h : r ≠ .complete) :
    r.result ≠ .ok .finalized := by
  cases r with
  | complete => exact absurd rfl h
  | _ => exact fun h => nomatch h

/-- What the job that deletes the recorded notification needs to know. -/
def deletionArgs (p : Pass) (s : Scheduler) (status : SchedulerStatus) :
    Except Error Notification.Args :=
  p.notificationArgs s .delete (deletionProject s status) none
    (some (status.notificationId.getD ""))

/-- Deletes the recorded notification, if there is one. -/
def undoNotification (p : Pass) (s : Scheduler) (status : SchedulerStatus) :
    Program (Except Error Unit) :=
  if status.notificationId.getD "" = "" then return .ok ()
  else match p.deletionArgs s status with
    | .error e => return .error e
    | .ok args => do
      match ← runJob args with
      | .error e => return .error e
      | .ok _ => return .ok ()

theorem deleteNotification_eq (p : Pass) (s : Scheduler) (status : SchedulerStatus) :
    p.deleteNotification s status =
      p.undoNotification s status >>= fun r => pure (r.map fun _ => forget status) := by
  unfold deleteNotification undoNotification deletionArgs forget
  by_cases h : status.notificationId.getD "" = ""
  · simp [h, Except.map]
  · simp only [h, if_false]
    cases p.notificationArgs s .delete (deletionProject s status) none
      (some (status.notificationId.getD "")) with
    | error e => rfl
    | ok args =>
      simp only [Program.bind_assoc]
      congr 1
      funext r
      rcases r with e | report <;> rfl

/-- The last step of a removal. -/
def release (s : Scheduler) : Program Removal := do
  match ← releaseMarker s with
  | .error e => return .markerLeft e
  | .ok () => return .complete

/-- A step of a removal: a dependent is deleted, and then the rest is removed. -/
def removing (d : Dependent) (left : Error → Removal) (rest : Scheduler → Program Removal)
    (s : Scheduler) : Program Removal := do
  match ← Program.ask (.delete d s.space s.displayName) with
  | .error e => return left e
  | .ok _ => rest s

/-- What is left to remove once the notification is gone. -/
def removeObjects : Scheduler → Program Removal :=
  removing .topic .topicLeft (removing .pullSubscription .subscriptionLeft release)

def dismantle (p : Pass) (s : Scheduler) (status : SchedulerStatus) : Program Removal := do
  match ← p.undoNotification s status with
  | .error e => return .notificationLeft e
  | .ok () => removeObjects s

theorem teardown_eq (p : Pass) (s : Scheduler) (status : SchedulerStatus) :
    p.teardown s status =
      Program.ask (.publish (.deleteRequested s)) >>= fun _ =>
        p.dismantle s status >>= fun r => pure (r.result, r.record p status) := by
  unfold teardown dismantle removeObjects removing release
  congr 1
  funext _
  rw [deleteNotification_eq]
  simp only [Program.bind_assoc, Program.pure_bind]
  congr 1
  funext r
  rcases r with e | ⟨⟩
  · rfl
  simp only [Except.map, Program.bind_assoc]
  congr 1
  funext topic
  rcases topic with e | _
  · rfl
  simp only [Program.bind_assoc]
  congr 1
  funext subscription
  rcases subscription with e | _
  · rfl
  simp only [Program.bind_assoc]
  congr 1
  funext marker
  rcases marker with e | ⟨⟩ <;> rfl

/-! ## What a scheduler owns -/

section Owned

variable {s : Scheduler}

theorem map_eq_ok {ε α β : Type} {x : Except ε α} {f : α → β} {b : β} :
    x.map f = .ok b ↔ ∃ a, x = .ok a ∧ b = f a := by
  cases x <;> simp [Except.map, eq_comm]

theorem ownerReference_eq_ok {owner : OwnerReference} : s.ownerReference = .ok owner ↔
    ∃ name uid, s.metadata.name = some name ∧ s.metadata.uid = some uid ∧
      owner = ⟨Scheduler.apiVersion, "Scheduler", name, uid, some true, some true⟩ := by
  unfold Scheduler.ownerReference
  cases s.metadata.name <;> cases s.metadata.uid <;> simp [eq_comm]

theorem notificationArgs_eq_ok {p : Pass} {action : Notification.Action} {projectId : String}
    {topicId notificationId : Option String} {args : Notification.Args} :
    p.notificationArgs s action projectId topicId notificationId = .ok args ↔
      ∃ owner, s.ownerReference = .ok owner ∧
        args = ⟨owner.uid, s.space, owner, p.image, action, projectId, s.spec.bucket, topicId,
          notificationId, s.spec.secretOrStandard, p.backoffLimit⟩ :=
  map_eq_ok

end Owned

/-! ## The whole pass -/

/-- The scheduler with the status that follows from a finding. -/
def settled (p : Pass) (s : Scheduler) (record : SchedulerStatus → SchedulerStatus) : Scheduler :=
  { s with
    status := some
      ((record (p.startingStatus s)).restoreTimes (s.status.getD .blank).conditions) }

theorem work_of_deleting (p : Pass) {s : Scheduler} (h : s.metadata.deleting = true) :
    p.work s =
      Program.ask (.publish (.deleteRequested s)) >>= fun _ =>
        p.dismantle s (s.status.getD .blank) >>= fun r =>
          pure (r.result, p.settled s (r.record p)) := by
  unfold work revise
  rw [if_pos h, teardown_eq]
  simp only [Program.bind_assoc, Program.ask_bind, Program.call_bind]
  rfl

theorem work_of_live (p : Pass) {s : Scheduler} (h : s.metadata.deleting = false) :
    p.work s = ensureMarker s >>= fun r =>
      match r with
      | .error e => pure (.error e, s)
      | .ok s =>
        p.survey s (topicName s (s.status.getD .blank)) >>= fun g =>
          pure (g.result, p.settled s (g.record p)) := by
  unfold work revise
  simp only [h, Bool.false_eq_true, if_false]
  congr 1
  funext r
  rcases r with e | s
  · rfl
  · simp only [converge_eq, Program.bind_assoc]
    rfl

/-- What follows the work of a pass. -/
def finish (found : Scheduler) (x : Except Error Ending × Scheduler) :
    Program (Except Error Unit) :=
  match x.1 with
  | .ok .finalized => pure (.ok ())
  | result => conclude found x.2 result

theorem finish_eq {found : Scheduler} {x : Except Error Ending × Scheduler}
    (h : x.1 ≠ .ok .finalized) : finish found x = conclude found x.2 x.1 := by
  obtain ⟨e | ending, s⟩ := x
  · rfl
  · cases ending with
    | converged => rfl
    | finalized => exact absurd rfl h

/-- The pass over a scheduler that was found. -/
def attend (p : Pass) (found : Scheduler) : Program (Except Error Unit) :=
  p.work found >>= finish found

theorem reconcile_eq (p : Pass) {key : String} {k : Key} (h : Key.parse key = .ok k) :
    p.reconcile key = Program.ask (.getScheduler k.space k.name) >>= fun r =>
      match r with
      | .error e => pure (.error e)
      | .ok none => pure (.ok ())
      | .ok (some found) => p.attend found := by
  unfold reconcile
  rw [h]
  rfl

/-! ## What is called -/

section Obeys

open Program (Exchange Obeys)

variable {P : List Exchange → Call → Prop} {log : List Exchange} {p : Pass} {s : Scheduler}

/-- An object is created where none was found. -/
theorem obeys_ensure {d : Dependent} {space name : String} {desired : Except Error d.Object}
    (hget : P log (.get d space name))
    (hcreate : ∀ object, desired = .ok object →
      P (log ++ [⟨.get d space name, .ok none⟩]) (.create d space object)) :
    Obeys P log (ensure d space name desired) := by
  refine Program.obeys_ask_bind hget fun reply => ?_
  rcases reply with e | (_ | existing)
  · trivial
  · rcases desired with e | object
    · trivial
    · exact ⟨hcreate object rfl, fun _ => trivial⟩
  · trivial

theorem obeys_runJob {args : Notification.Args}
    (hget : P log (.get .job args.space args.jobName))
    (hcreate : P (log ++ [⟨.get .job args.space args.jobName, .ok none⟩])
      (.create .job args.space args.job))
    (hlist : ∀ log, P log (.listPods args.space args.podSelector)) :
    Obeys P log (runJob args) := by
  have hjob : Obeys P log (ensureJob args) := by
    refine Program.obeys_ask_bind hget fun reply => ?_
    rcases reply with e | (_ | job)
    · trivial
    · refine Program.obeys_ask_bind hcreate fun reply => ?_
      split <;> trivial
    · trivial
  refine hjob.bind fun l phase _ => ?_
  split
  · trivial
  · refine Program.obeys_ask_bind (hlist _) fun reply => ?_
    split <;> trivial

/-- The stages one after the other: a job is run for the topic that was reached. -/
theorem obeys_survey_stages {name : String}
    (htopic : Obeys P log (ensure .topic s.space s.displayName (s.topic name)))
    (hsubscription : ∀ l, Obeys P (log ++ l)
      (ensure .pullSubscription s.space s.displayName (s.pullSubscription name)))
    (hjob : ∀ l l' ids args, Program.Trace (reachTopic s name) l (.ok ids) →
      p.notificationArgs s .create ids.projectId (some ids.topicId) none = .ok args →
      Obeys P (log ++ l ++ l') (runJob args)) :
    Obeys P log (p.survey s name) := by
  have hreach : Obeys P log (reachTopic s name) := by
    refine htopic.bind fun _ _ _ => ?_
    split <;> trivial
  refine hreach.bind fun l topic hl => ?_
  rcases topic with b | ids
  · trivial
  have hsink : Obeys P (log ++ l) (reachSubscription s name) := by
    refine (hsubscription l).bind fun _ _ _ => ?_
    split <;> trivial
  refine hsink.bind fun l' subscription _ => ?_
  rcases subscription with b | uri
  · trivial
  have hcreation : Obeys P (log ++ l ++ l') (p.createNotification s ids.known) := by
    unfold createNotification
    split
    · trivial
    · next args hargs => exact hjob l l' ids args hl hargs
  have hnotification : Obeys P (log ++ l ++ l') (p.reachNotification s ids.known) := by
    refine hcreation.bind fun _ _ _ => ?_
    split <;> trivial
  refine hnotification.bind fun _ report _ => ?_
  rcases report with b | report <;> trivial

theorem obeys_survey {name : String} (hlook : ∀ log (c : Call), c.looks → P log c)
    (hcreate : ∀ log d space object, p.Wanted s name d object → P log (.create d space object)) :
    Obeys P log (p.survey s name) := by
  refine obeys_survey_stages ?_ (fun l => ?_) fun l l' ids args _ hargs => ?_
  · exact obeys_ensure (hlook _ _ rfl) fun _ h => hcreate _ _ _ _ (.topic _ h)
  · exact obeys_ensure (hlook _ _ rfl) fun _ h => hcreate _ _ _ _ (.pullSubscription _ h)
  · exact obeys_runJob (hlook _ _ rfl) (hcreate _ _ _ _ (.job ids args hargs)) (hlook · _ rfl)

/-- Undoing the notification is running the job that deletes it, if one is recorded. -/
theorem obeys_undoNotification_job {status : SchedulerStatus}
    (hjob : ∀ args, status.notificationId.getD "" ≠ "" → p.deletionArgs s status = .ok args →
      Obeys P log (runJob args)) :
    Obeys P log (p.undoNotification s status) := by
  unfold undoNotification
  split
  · trivial
  next hrecorded =>
  split
  · trivial
  next args hargs =>
    refine (hjob args hrecorded hargs).bind fun _ _ _ => ?_
    split <;> trivial

theorem obeys_undoNotification {status : SchedulerStatus}
    (hlook : ∀ log (c : Call), c.looks → P log c)
    (hcreate : ∀ log args, p.deletionArgs s status = .ok args →
      P log (.create .job args.space args.job)) :
    Obeys P log (p.undoNotification s status) :=
  obeys_undoNotification_job fun args _ hargs =>
    obeys_runJob (hlook _ _ rfl) (hcreate _ args hargs) (hlook · _ rfl)

/-- Putting the marker on is a patch, if it is missing. -/
theorem obeys_ensureMarker (hpatch : ∀ patch, s.addMarker? = some patch →
    P log (.patchScheduler s.space s.displayName patch)) : Obeys P log (ensureMarker s) := by
  unfold ensureMarker
  split
  · trivial
  · next patch hsome =>
    refine Program.obeys_ask_bind (hpatch patch hsome) fun reply => ?_
    split <;> trivial

/-- Taking the marker off is a patch, if it is first in line. -/
theorem obeys_release (hpatch : ∀ patch, s.removeMarker? = some patch →
    P log (.patchScheduler s.space s.displayName patch)) : Obeys P log (release s) := by
  have hmarker : Obeys P log (releaseMarker s) := by
    unfold releaseMarker
    split
    · trivial
    · next patch hsome =>
      refine Program.obeys_ask_bind (hpatch patch hsome) fun reply => ?_
      split <;> trivial
  refine hmarker.bind fun l r _ => ?_
  split <;> trivial

theorem obeys_conclude {found : Scheduler} {result : Except Error Ending}
    (htell : ∀ log e, P log (.publish e)) (hupdate : P log (.updateStatus s)) :
    Obeys P log (conclude found s result) := by
  unfold conclude
  split
  · trivial
  have hstore : Obeys P log (storeStatus found s) := by
    refine Program.obeys_ask_bind hupdate fun reply => ?_
    split
    · trivial
    · split
      · exact Program.obeys_ask_bind (htell _ _) fun _ => trivial
      · trivial
  refine hstore.bind fun l written _ => ?_
  split
  · trivial
  · exact Program.obeys_ask_bind (htell _ _) fun _ => trivial

theorem obeys_finish {found : Scheduler} {x : Except Error Ending × Scheduler}
    (htell : ∀ log e, P log (.publish e))
    (hupdate : x.1 ≠ .ok .finalized → P log (.updateStatus x.2)) :
    Obeys P log (finish found x) := by
  by_cases hfinalized : x.1 = .ok .finalized
  · obtain ⟨result, s⟩ := x
    subst hfinalized
    trivial
  · rw [finish_eq hfinalized]
    exact obeys_conclude htell (hupdate hfinalized)

end Obeys

end EventWiring.Pass

namespace EventWiring

/-- A scheduler as its user writes it. -/
def Scheduler.sample : Scheduler where
  metadata :=
    { name := some "photos"
      space? := some "media"
      uid := some "7"
      resourceVersion := some "1" }
  spec :=
    { bucket := "photos"
      project := none
      secret := none
      sink := ⟨none, some "https://media.example/events"⟩
      ceOverrides := none }
  status := none

/-- The key that it is under. -/
def Key.sample : Key := ⟨"media", "photos"⟩

/-- A world with one scheduler and nothing else. -/
def World.sample (s : Scheduler) : World := .ofObjects [s] [] [] [] [] none

/-- A pass at a fixed time. -/
def Pass.sample (time : String) : Pass := ⟨"notifications:1", 3, fun _ _ => time⟩

namespace Pass

open Notification (Action Report)

def completeJob (job : Job) : Job :=
  { job with status := some ⟨some [⟨"Complete", "True", none, none⟩]⟩ }

/-- The pod of a job of the sample, done and with that report. -/
def donePod (action : Action) (report : Report) : Pod where
  metadata :=
    { name := some action.name
      space? := some "media"
      labels := some (.ofList [(Notification.uidLabel, "7"),
        (Notification.actionLabel, action.name)]) }
  status := some ⟨some "Succeeded", some [⟨some ⟨some report.toJson.render⟩⟩]⟩

end Pass

end EventWiring
