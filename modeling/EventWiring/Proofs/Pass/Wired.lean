import EventWiring.Proofs.Notification.Accepted
import EventWiring.Proofs.Pass.Once
import EventWiring.Proofs.Pass.Remembered

/-!
# What a pass creates

An object that a pass creates belongs to the scheduler that the pass has read, and lies where every
pass over that scheduler looks for it (`Scheduler.place`). What it says follows from the spec, from
what is recorded, and from the topic that the pass has obtained (`Scheduler.Made`). Whoever answers
the calls of a pass, each of them is of this kind (`wired_attend`).
-/

namespace EventWiring

open Notification (Action Args actionLabel podSelector uidLabel)
open Pass (Obtained)
open Program (Exchange Obeys Trace)

/-! ## Jobs -/

/-- All that the containers of a job find in their environment. -/
def Job.environment (job : Job) : List EnvVar := (job.spec.elim [] (·.containers)).flatMap (·.env)

/-- The selector asks for the labels: it lists them with their values, and is read as that list
where no comma in a value ends a label too early. -/
def Asks (selector : String) (labels : Text.Entries) : Prop :=
  selector = ",".intercalate (labels.map fun e => e.1 ++ "=" ++ e.2) ∧
    ((∀ e ∈ labels, ',' ∉ e.2.toList) → Stores.wantedLabels selector = labels)

theorem asks_podSelector (uid : String) (a : Action) :
    Asks (podSelector uid a) [(uidLabel, uid), (actionLabel, a.name)] := by
  constructor
  · simp [podSelector, String.append_assoc]
  · intro hcommas
    exact Stores.wantedLabels_podSelector (hcommas _ List.mem_cons_self) a

namespace Notification.Args

variable (a : Args)

theorem entries_labels : a.labels.entries = [(actionLabel, a.action.name), (uidLabel, a.uid)] := by
  have hlt : actionLabel < uidLabel := by decide
  simp [labels, TextMap.ofList, TextMap.insert, TextMap.empty, Text.Entries.insert, hlt]

theorem nodup_environment : (a.job.environment.map (·.name)).Nodup := by
  cases htopic : a.topicId <;> cases hid : a.notificationId <;>
    simp [Job.environment, job, container, env, htopic, hid]

end Notification.Args

namespace Job

/-- The job carries out the action for the object with that uid, and has the labels that the
selector for both asks for, as its pods have. -/
structure WorksFor (job : Job) (uid : String) (a : Action) : Prop where
  action : job.variables "ACTION" = [a.name]
  once : (job.environment.map (·.name)).Nodup
  labels : ∃ labels, job.metadata.labels = some labels ∧
    job.spec.map (·.podLabels) = some labels ∧
    labels.entries.Perm [(uidLabel, uid), (actionLabel, a.name)]
  asked : Asks (podSelector uid a) [(uidLabel, uid), (actionLabel, a.name)]

/-- The job creates a notification for the bucket of the scheduler, about the topic that was
obtained, which is ready. -/
structure CreatesFor (job : Job) (s : Scheduler) (log : List Exchange) : Prop where
  bucket : job.variables "BUCKET" = [s.spec.bucket]
  topic : ∃ (topic : Topic) (status : TopicStatus) (topicId projectId : String),
    Obtained log .topic s topic ∧ topic.ready = true ∧ topic.status = some status ∧
    status.topicId = some topicId ∧ status.projectId = some projectId ∧
    job.variables "TOPIC_ID" = [topicId] ∧ job.variables "PROJECT_ID" = [projectId]
  notification : job.variables "NOTIFICATION_ID" = []

/-- The job deletes the recorded notification in the project that is asked for, else in the one
that is recorded. -/
structure DeletesFor (job : Job) (s : Scheduler) : Prop where
  recorded : s.recordedId ≠ ""
  notification : job.variables "NOTIFICATION_ID" = [s.recordedId]
  project : job.variables "PROJECT_ID" =
    [((s.spec.project.filter (· ≠ "")).or (s.status.getD .blank).projectId).getD ""]
  topic : job.variables "TOPIC_ID" = []

theorem worksFor_args (a : Args) : a.job.WorksFor a.uid a.action where
  action := (Pass.variables_job a).1
  once := a.nodup_environment
  labels := by
    refine ⟨a.labels, rfl, rfl, ?_⟩
    rw [a.entries_labels]
    exact .swap ..
  asked := asks_podSelector a.uid a.action

end Job

/-! ## Schedulers -/

namespace Scheduler

/-- What the job of a pass over the scheduler is for. -/
def action (s : Scheduler) : Action := if s.metadata.deleting then .delete else .create

/-- Where a pass looks for the objects of the scheduler. -/
def place (s : Scheduler) : Dependent → Key
  | .job => s.jobKey s.action
  | _ => Key.of s.metadata

/-- The scheduler is the only owner, and the controller. -/
def Owns (s : Scheduler) (m : Metadata) : Prop :=
  ∃ owner, m.ownerReferences = some [owner] ∧ owner.kind = "Scheduler" ∧
    s.metadata.name = some owner.name ∧ s.metadata.uid = some owner.uid ∧
    owner.controller = some true ∧ owner.blockOwnerDeletion = some true

/-- The object is made for the scheduler, by a pass that has exchanged `log`. -/
def Made (s : Scheduler) (log : List Exchange) : (d : Dependent) → d.Object → Prop
  | .topic, (object : Topic) =>
    object.spec.topic = s.expectedTopic ∧ object.spec.project = s.spec.project ∧
      object.spec.secret = some s.spec.secretOrStandard
  | .pullSubscription, (object : PullSubscription) =>
    object.spec.topic = s.expectedTopic ∧ object.spec.project = s.spec.project ∧
      object.spec.secret = some s.spec.secretOrStandard ∧ object.spec.sink = s.spec.sink ∧
      object.spec.ceOverrides = s.spec.ceOverrides
  | .job, (object : Job) =>
    (∃ uid, s.metadata.uid = some uid ∧ object.WorksFor uid s.action) ∧
      (s.metadata.deleting = false → object.CreatesFor s log) ∧
      (s.metadata.deleting = true → object.DeletesFor s)

variable {s s' : Scheduler} {d : Dependent}

theorem space_place (s : Scheduler) (d : Dependent) : (s.place d).space = s.space := by
  cases d <;> rfl

/-- A scheduler with a name has its objects where any other version of it has them. -/
theorem place_congr (hidentity : s'.metadata.identity = s.metadata.identity)
    (hname : s.metadata.name.isSome)
    (hdeleting : d = .job → s'.metadata.deleting = s.metadata.deleting) :
    s'.place d = s.place d := by
  obtain ⟨name, hname⟩ := Option.isSome_iff_exists.1 hname
  have hname' : s'.metadata.name = some name := (congrArg Identity.name hidentity).trans hname
  have hspace : s'.space = s.space :=
    congrArg (fun id : Identity => id.space?.getD "") hidentity
  have huid : s'.metadata.uid = s.metadata.uid := congrArg Identity.uid hidentity
  have hkey : Key.of s'.metadata = Key.of s.metadata := by
    show (⟨s'.space, s'.metadata.displayName⟩ : Key) = ⟨s.space, s.metadata.displayName⟩
    rw [hspace, Metadata.displayName, Metadata.displayName, hname, hname']
    rfl
  cases d with
  | job =>
    show s'.jobKey s'.action = s.jobKey s.action
    unfold jobKey action
    rw [hspace, huid, hdeleting rfl]
  | _ => exact hkey

end Scheduler

namespace Pass

variable {p : Pass} {s : Scheduler} {log : List Exchange}

theorem owns_of_ownerReference {owner : OwnerReference} {m : Metadata}
    (howner : s.ownerReference = .ok owner) (hm : m.ownerReferences = some [owner]) : s.Owns m := by
  obtain ⟨name, uid, hname, huid, rfl⟩ := ownerReference_eq_ok.1 howner
  exact ⟨_, hm, rfl, hname, huid, rfl, rfl⟩

theorem owns_of_owned {m : Metadata} (h : s.ownedMetadata = .ok m) :
    Key.of m = Key.of s.metadata ∧ s.Owns m := by
  obtain ⟨owner, howner, rfl⟩ := map_eq_ok.1 h
  exact ⟨rfl, owns_of_ownerReference howner rfl⟩

/-! ## Calls -/

/-- What a pass over the scheduler may ask for after `log`: it looks for objects, and deletes them,
in their place; what it creates there was missing, belongs to the scheduler and is made for it. -/
def Wired (s : Scheduler) (log : List Exchange) : Call → Prop
  | .getScheduler _ _ => False
  | .get d space name => ⟨space, name⟩ = s.place d
  | .delete d space name => ⟨space, name⟩ = s.place d
  | .create d space object =>
    ⟨.get d (s.place d).space (s.place d).name, .ok none⟩ ∈ log ∧ space = s.space ∧
      Key.of (d.metadata object) = s.place d ∧ s.Owns (d.metadata object) ∧ s.Made log d object
  | _ => True

/-- A job for the scheduler is looked up and created in its place. -/
theorem wired_runJob {projectId : String} {topicId notificationId : Option String} {args : Args}
    (hargs : p.notificationArgs s s.action projectId topicId notificationId = .ok args)
    (hcreates : ∀ l, s.metadata.deleting = false → args.job.CreatesFor s (log ++ l))
    (hdeletes : s.metadata.deleting = true → args.job.DeletesFor s) :
    Obeys (Wired s) log (runJob args) := by
  have hplace : s.place .job = ⟨args.space, args.jobName⟩ := jobKey_of_args hargs
  obtain ⟨owner, howner, rfl⟩ := notificationArgs_eq_ok.1 hargs
  obtain ⟨name, uid, -, huid, rfl⟩ := ownerReference_eq_ok.1 howner
  refine obeys_runJob hplace.symm ⟨?_, rfl, hplace.symm, owns_of_ownerReference howner rfl,
    ⟨uid, huid, Job.worksFor_args _⟩, hcreates _, hdeletes⟩ fun _ => trivial
  rw [hplace]
  exact List.mem_append_right _ (List.mem_singleton_self _)

theorem createsFor_of_args {args : Args} {ids : TopicIds} {l : List Exchange}
    (hl : Trace (reachTopic s s.expectedTopic) l (.ok ids)) (hlog : ∀ x ∈ l, x ∈ log)
    (hargs : p.notificationArgs s .create ids.projectId (some ids.topicId) none = .ok args) :
    args.job.CreatesFor s log := by
  obtain ⟨topic, hobtained, hids⟩ := ((obtained_reachTopic hl).1 ids).1 rfl
  obtain ⟨hfits, rfl⟩ := (topicIds_eq_ok s.expectedTopic_ne).1 hids
  have hproject := hfits.project
  obtain ⟨hready, status, hstatus, -, hid⟩ := hfits
  rw [hstatus, Option.getD_some] at hproject
  obtain ⟨owner, -, rfl⟩ := notificationArgs_eq_ok.1 hargs
  obtain ⟨-, hprojectId, hbucket, htopicId, hnone⟩ := variables_job _
  refine ⟨hbucket, ⟨topic, status, _, _, ?_, hready, hstatus, hid, hproject.symm, htopicId, ?_⟩,
    hnone⟩
  · exact hobtained.imp (hlog _) (Exists.imp fun _ => hlog _)
  · rw [hprojectId, hstatus]
    rfl

theorem deletesFor_of_args {args : Args} (hrecorded : s.recordedId ≠ "")
    (hargs : p.deletionArgs s (s.status.getD .blank) = .ok args) : args.job.DeletesFor s := by
  obtain ⟨owner, -, rfl⟩ := notificationArgs_eq_ok.1 hargs
  obtain ⟨-, hproject, -, htopic, hid⟩ := variables_job _
  refine ⟨hrecorded, hid, hproject.trans ?_, htopic⟩
  unfold deletionProject
  cases s.spec.project with
  | none => rfl
  | some project => by_cases hempty : project = "" <;> simp [hempty, Option.filter]

/-- The wiring of a scheduler, whatever the marker. -/
theorem wired_survey (hlive : s.metadata.deleting = false) (log : List Exchange)
    (finalizers : Option (List String)) (version : Option String) :
    Obeys (Wired s) log (p.survey (remarked s finalizers version) s.expectedTopic) := by
  have haction : s.action = .create := by simp [Scheduler.action, hlive]
  refine obeys_survey_stages ?_ (fun l => ?_) fun l l' ids args hl hargs => ?_
  · refine obeys_ensure rfl fun object hobject => ?_
    obtain ⟨m, hm, rfl⟩ := map_eq_ok.1 hobject
    obtain ⟨hkey, howns⟩ := owns_of_owned (s := s) hm
    exact ⟨List.mem_append_right _ (List.mem_singleton_self _), rfl, hkey, howns, rfl, rfl, rfl⟩
  · refine obeys_ensure rfl fun object hobject => ?_
    obtain ⟨m, hm, rfl⟩ := map_eq_ok.1 hobject
    obtain ⟨hkey, howns⟩ := owns_of_owned (s := s) hm
    exact ⟨List.mem_append_right _ (List.mem_singleton_self _), rfl, hkey, howns, rfl, rfl, rfl,
      rfl, rfl⟩
  · have hargs : p.notificationArgs s .create ids.projectId (some ids.topicId) none = .ok args :=
      hargs
    refine wired_runJob (haction ▸ hargs) (fun l₁ _ => createsFor_of_args hl ?_ hargs) fun h => ?_
    · intro x hx
      simp [hx]
    · rw [hlive] at h
      cases h

theorem wired_attend : Obeys (Wired s) log (p.attend s) := by
  cases hdeleting : s.metadata.deleting with
  | false =>
    exact obeys_attend_live hdeleting (fun _ _ => trivial) (fun _ _ _ => trivial)
      (wired_survey hdeleting) fun _ _ => trivial
  | true =>
    have haction : s.action = .delete := by simp [Scheduler.action, hdeleting]
    refine obeys_attend_deleting hdeleting (fun _ _ => trivial) (fun _ => ?_) (fun _ _ => rfl)
      (fun _ _ _ => rfl) (fun _ _ _ _ _ _ => trivial) fun _ _ _ _ _ => trivial
    refine obeys_undoNotification_job fun args hrecorded hargs => ?_
    have hdeletion : p.notificationArgs s s.action (deletionProject s (s.status.getD .blank)) none
        (some s.recordedId) = .ok args := haction ▸ hargs
    refine wired_runJob hdeletion (fun _ h => ?_) fun _ => deletesFor_of_args hrecorded hargs
    rw [hdeleting] at h
    cases h

/-! ## Passes -/

variable {text : String} {r : Except Error Unit}

/-- After it has read the scheduler a pass attends to it. -/
theorem attend_of_reconcile (h : Trace (p.reconcile text) log r) :
    (∀ x ∈ log, ∃ space name, x.call = .getScheduler space name) ∨
      ∃ k found rest, Key.parse text = .ok k ∧
        log = ⟨.getScheduler k.space k.name, .ok (some found)⟩ :: rest ∧
        Trace (p.attend found) rest r := by
  cases hkey : Key.parse text with
  | error e =>
    unfold reconcile at h
    rw [hkey] at h
    obtain ⟨rfl, -⟩ := Program.trace_pure.1 h
    exact .inl fun x hx => nomatch hx
  | ok k =>
    rw [reconcile_eq p hkey] at h
    obtain ⟨reply, rest, rfl, hrest⟩ := Program.trace_ask_bind.1 h
    rcases reply with e | (_ | found)
    · obtain ⟨rfl, -⟩ := Program.trace_pure.1 hrest
      exact .inl fun x hx => ⟨_, _, congrArg Exchange.call (List.mem_singleton.1 hx)⟩
    · obtain ⟨rfl, -⟩ := Program.trace_pure.1 hrest
      exact .inl fun x hx => ⟨_, _, congrArg Exchange.call (List.mem_singleton.1 hx)⟩
    · exact .inr ⟨k, found, rest, rfl, rfl, hrest⟩

/-- Every pass over a version of the scheduler looks for the object under that key, and deletes it
there. Jobs are looked for by passes that have the same to do. -/
def SoughtAt (s : Scheduler) (d : Dependent) (key : Key) : Prop :=
  ∀ (p : Pass) (text : String) (log : List Exchange) (r : Except Error Unit),
    Trace (p.reconcile text) log r →
    ∀ s' ∈ copies log, s'.metadata.identity = s.metadata.identity →
      (d = .job → s'.metadata.deleting = s.metadata.deleting) →
      ∀ x ∈ log, ∀ space name, x.call = .get d space name ∨ x.call = .delete d space name →
        ⟨space, name⟩ = key

theorem soughtAt_place (hname : s.metadata.name.isSome) (d : Dependent) :
    SoughtAt s d (s.place d) := by
  intro p text log r h s' hs' hidentity hdeleting x hx space name hcall
  rcases attend_of_reconcile h with hreads | ⟨k, found, rest, -, rfl, hattend⟩
  · obtain ⟨space', name', hread⟩ := hreads x hx
    rw [hread] at hcall
    rcases hcall with hcall | hcall <;> cases hcall
  have hobeys : Obeys (Wired found) [] (p.attend found) := wired_attend
  have hwired : ∀ y ∈ rest, ∃ l, Wired found l y.call := by
    intro y hy
    obtain ⟨pre, post, hrest⟩ := List.append_of_mem hy
    exact ⟨_, hobeys.trace hattend hrest⟩
  obtain rfl : s' = found := by
    obtain ⟨y, hy, hcopy⟩ := List.mem_filterMap.1 hs'
    rcases List.mem_cons.1 hy with rfl | hy
    · exact (Option.some.inj hcopy).symm
    · obtain ⟨l, hl⟩ := hwired y hy
      have hread : ∀ space name, y.call ≠ .getScheduler space name := fun _ _ h => by
        rw [h] at hl
        exact hl
      exact absurd ((Program.Exchange.copy?_eq_none hread).symm.trans hcopy) nofun
  rw [← Scheduler.place_congr hidentity hname hdeleting]
  rcases List.mem_cons.1 hx with rfl | hx
  · rcases hcall with hcall | hcall <;> cases hcall
  · obtain ⟨l, hl⟩ := hwired x hx
    rcases hcall with hcall | hcall <;>
    · rw [hcall] at hl
      exact hl

variable {σ : Type} {answer : (c : Call) → σ → c.Answer × σ} {w : σ}

/-- Whoever answers the calls of a pass: each object that it creates lies in the namespace of the
scheduler that it has read, where it was looked for in vain and where every other pass looks, has
that scheduler as its only owner, and is made from the spec, what is recorded and the topic that
was obtained. -/
theorem created_wired {d : Dependent} {space : String} {object : d.Object}
    {reply : Except Error d.Object} {pre post : List Exchange}
    (h : ((p.reconcile text).run answer w).exchanges =
      pre ++ ⟨.create d space object, reply⟩ :: post) :
    ∃ k found, Key.parse text = .ok k ∧
      ⟨.getScheduler k.space k.name, .ok (some found)⟩ ∈ pre ∧
      space = found.space ∧ (d.metadata object).space = found.space ∧
      ⟨.get d space (d.metadata object).displayName, .ok none⟩ ∈ pre ∧
      SoughtAt found d (Key.of (d.metadata object)) ∧ found.Owns (d.metadata object) ∧
      found.Made pre d object := by
  have hmem : (⟨.create d space object, reply⟩ : Exchange) ∈
      ((p.reconcile text).run answer w).exchanges := h ▸ by simp
  rcases attend_of_reconcile (Program.run_trace answer (p.reconcile text) w) with
    hreads | ⟨k, found, rest, hkey, hlog, hattend⟩
  · obtain ⟨_, _, hread⟩ := hreads _ hmem
    cases hread
  rw [hlog] at h
  cases pre with
  | nil => cases (List.cons.inj h).1
  | cons first pre =>
    obtain ⟨rfl, hrest⟩ := List.cons.inj h
    have hobeys : Obeys (Wired found) [⟨.getScheduler k.space k.name, .ok (some found)⟩]
        (p.attend found) := wired_attend
    obtain ⟨hlooked, hspace, hplace, howns, hmade⟩ := hobeys.trace hattend hrest
    have hname : found.metadata.name.isSome := by
      obtain ⟨owner, -, -, hname, -⟩ := howns
      exact Option.isSome_of_mem hname
    refine ⟨k, found, hkey, List.mem_cons_self, hspace, ?_, ?_, ?_, howns, hmade⟩
    · exact (congrArg Key.space hplace).trans (found.space_place d)
    · rw [← hplace] at hlooked
      rw [hspace, ← found.space_place d, ← hplace]
      exact hlooked
    · rw [hplace]
      exact soughtAt_place hname d

/-- The job that creates the notification of the sample is told what its topic reports. -/
theorem sample_created_wired :
    ∃ (pre post : List Exchange) (job : Job) (reply : Except Error Job) (found : Scheduler),
      (((Pass.sample "2020-01-01T00:00:00Z").reconcile "media/photos").run Stores.answer
        (topicRecorded.report .pullSubscription .sample wellSubscription)).exchanges =
          pre ++ ⟨.create .job "media" job, reply⟩ :: post ∧
      job.variables "TOPIC_ID" = ["scheduler-7"] ∧ job.variables "PROJECT_ID" = ["shop"] ∧
      found.Owns job.metadata ∧ found.Made pre .job job := by
  have hsplit : (((Pass.sample "2020-01-01T00:00:00Z").reconcile "media/photos").run Stores.answer
      (topicRecorded.report .pullSubscription .sample wellSubscription)).exchanges =
        [_, _, _, _] ++ ⟨.create .job "media" _, _⟩ :: _ := rfl
  obtain ⟨k, found, -, -, -, -, -, -, howns, hmade⟩ := created_wired hsplit
  exact ⟨_, _, _, _, found, hsplit, by decide +kernel, by decide +kernel, howns, hmade⟩

end Pass

end EventWiring
