import EventWiring.Proofs.Pass.Released
import EventWiring.Proofs.Pass.Survey

/-!
# The name of a topic lasts

A live scheduler expects its topic under one name for good. What a pass creates bears that name
(`Creating.bears`), and a status that it stores records that name or what was recorded before
(`Loyal`). So over any history in which others leave the scheduler alone the name that was once
recorded stays, and until then it follows from the uid (`topicName_lasts`).
-/

namespace EventWiring

open Program (Exchange Ends Heeds Reaches ends_bind ends_pure)
open Notification (Args)

/-- The values that a name has for the containers of a job. -/
def Job.variables (job : Job) (name : String) : List String :=
  (((job.spec.elim [] (·.containers)).flatMap (·.env)).filter (·.name = name)).map (·.value)

/-- The object is about the messaging topic of that name. -/
def Dependent.Bears (name : String) : (d : Dependent) → d.Object → Prop
  | .topic, (object : Topic) => object.spec.topic = name
  | .pullSubscription, (object : PullSubscription) => object.spec.topic = name
  | .job, (object : Job) => object.variables "TOPIC_ID" = [name]

namespace Scheduler

/-- The name of the topic that is recorded, empty if there is none. -/
def recordedTopic (s : Scheduler) : String := (s.status.getD .blank).topicId.getD ""

/-- The name that a pass expects of the topic. -/
def expectedTopic (s : Scheduler) : String := Pass.topicName s (s.status.getD .blank)

theorem expectedTopic_eq (s : Scheduler) : s.expectedTopic =
    if s.recordedTopic = "" then "scheduler-" ++ s.metadata.uid.getD "" else s.recordedTopic := rfl

theorem expectedTopic_ne (s : Scheduler) : s.expectedTopic ≠ "" := Pass.topicName_ne s _

theorem recordedTopic_of_status {s s' : Scheduler} (h : s'.status = s.status) :
    s'.recordedTopic = s.recordedTopic := by
  unfold recordedTopic
  rw [h]

theorem uid_of_bare {s s' : Scheduler} (h : s'.bare = s.bare) :
    s'.metadata.uid = s.metadata.uid := by
  show s'.bare.metadata.uid = s.bare.metadata.uid
  rw [h]

/-- What becomes of a scheduler while its topic is called `name`. -/
structure Lasts (name : String) (s s' : Scheduler) : Prop where
  bare : s'.bare = s.bare
  topic : s'.recordedTopic = s.recordedTopic ∨ s'.recordedTopic = name

namespace Lasts

variable {name : String} {s s' s'' : Scheduler}

theorem refl (name : String) (s : Scheduler) : Lasts name s s := ⟨rfl, .inl rfl⟩

theorem trans (h : Lasts name s s') (h' : Lasts name s' s'') : Lasts name s s'' where
  bare := h'.bare.trans h.bare
  topic := by
    rcases h'.topic with hsame | hname
    · rw [hsame]
      exact h.topic
    · exact .inr hname

/-- The name is expected all the while. -/
theorem expected (h : Lasts name s s') (hname : s.expectedTopic = name) :
    s'.expectedTopic = name := by
  rcases h.topic with hsame | hrecorded
  · rw [← hname, expectedTopic_eq, expectedTopic_eq, hsame, uid_of_bare h.bare]
  · have hne : name ≠ "" := hname ▸ s.expectedTopic_ne
    rw [expectedTopic_eq, hrecorded, if_neg hne]

/-- What is recorded stays. -/
theorem recorded (h : Lasts name s s') (hname : s.expectedTopic = name)
    (hrecorded : s.recordedTopic ≠ "") : s'.recordedTopic = s.recordedTopic := by
  rcases h.topic with hsame | hsame
  · exact hsame
  · rw [hsame, ← hname, expectedTopic_eq, if_neg hrecorded]

end Lasts

end Scheduler

namespace Pass

variable {t : Trouble} {st st' mid : Stores} {log : List Exchange} {p : Pass}
  {s found : Scheduler} {name : String}

/-! ## What a pass creates -/

theorem topicId_of_args {action : Notification.Action} {projectId : String}
    {topicId notificationId : Option String} {args : Args}
    (h : p.notificationArgs s action projectId topicId notificationId = .ok args) :
    args.topicId = topicId := by
  obtain ⟨owner, -, rfl⟩ := notificationArgs_eq_ok.1 h
  rfl

/-- The variables of a job by their names. -/
theorem variables_job (args : Args) :
    args.job.variables "ACTION" = [args.action.name] ∧
      args.job.variables "PROJECT_ID" = [args.projectId] ∧
      args.job.variables "BUCKET" = [args.bucket] ∧
      args.job.variables "TOPIC_ID" = args.topicId.toList ∧
      args.job.variables "NOTIFICATION_ID" = args.notificationId.toList := by
  cases htopic : args.topicId <;> cases hid : args.notificationId <;>
    simp [Job.variables, Args.job, Args.container, Args.env, htopic, hid]

theorem variables_of_args {args : Args} {id : String} (hid : args.topicId = some id) :
    args.job.variables "TOPIC_ID" = [id] := by
  obtain ⟨-, -, -, htopic, -⟩ := variables_job args
  rw [htopic, hid, Option.toList_some]

/-- Whatever is created is about the topic that is asked for. -/
theorem Creating.bears {l : List Exchange} {d : Dependent} {object : d.Object}
    (h : Creating t st p s name l d object) : d.Bears name object := by
  cases h with
  | topic object hobject =>
    obtain ⟨metadata, -, rfl⟩ := map_eq_ok.1 hobject
    rfl
  | pullSubscription topic ids object hids hobject =>
    obtain ⟨metadata, -, rfl⟩ := map_eq_ok.1 hobject
    rfl
  | job topic ids ps uri args hids huri hargs =>
    have hid : args.topicId = some name := (topicIds_ok hids).1 ▸ topicId_of_args hargs
    exact variables_of_args hid

/-! ## What a pass stores -/

/-- The topic under that key was read and is ready under that name. -/
def TopicTold (key : Key) (name : String) (log : List Exchange) : Prop :=
  ∃ topic : Topic, ⟨.get .topic key.space key.name, .ok (some topic)⟩ ∈ log ∧
    TopicFits topic name

/-- The status says that the topic is ready. -/
def SaysTopicReady (s : Scheduler) : Prop :=
  (s.status.getD .blank).conditions.isTrue Stage.topic.condition

/-- The call is true to the name of the topic of `s`. -/
def Loyal (name : String) (s : Scheduler) (log : List Exchange) : Call → Prop
  | .create d _ object => d.Bears name object
  | .updateStatus new =>
    (new.recordedTopic = s.recordedTopic ∨ new.recordedTopic = name) ∧
      (SaysTopicReady new → TopicTold (Key.of s.metadata) name log)
  | _ => True

/-- The topic is found ready only when it was read. -/
theorem told_of_survey {g : Progress} (h : Ends t st (p.survey s name) log st' g) :
    g.topicId? = none ∨ TopicTold (Key.of s.metadata) name log := by
  obtain ⟨l, topic, mid, l', htopic, hrest, rfl⟩ := ends_bind.1 h
  rcases topic with b | ids
  · obtain ⟨-, -, rfl⟩ := ends_pure.1 hrest
    exact .inl rfl
  · obtain ⟨topic, rfl, -, hids⟩ := reached_topic htopic
    exact .inr ⟨topic, List.mem_cons_self, fits_of_topicIds hids⟩

theorem topicId_of_saysTopicReady {g : Progress}
    (h : SaysTopicReady (p.settled s (g.record p))) : g.topicId? ≠ none := by
  obtain ⟨status, hstatus, htells⟩ := g.recording.tells_settled p s
  have hverdict := htells.stage .topic
  unfold SaysTopicReady at h
  rw [hstatus] at h
  cases g with
  | noTopic b =>
    obtain ⟨c, hc, hfails⟩ := Option.map_eq_some_iff.1 hverdict
    have hfalse : c.status = Condition.isFalse := congrArg Verdict.status hfails
    simp only [Option.getD_some, Conditions.isTrue, hc, Option.any_some, hfalse] at h
    exact absurd h (by decide)
  | _ =>
    intro hnone
    cases hnone

theorem recordedTopic_settled {g : Progress} (h : Ends t st (p.survey s name) log st' g) :
    (p.settled s (g.record p)).recordedTopic = s.recordedTopic ∨
      (p.settled s (g.record p)).recordedTopic = name := by
  have hid : (p.settled s (g.record p)).recordedTopic =
      (g.topicId?.or (s.status.getD .blank).topicId).getD "" :=
    congrArg (·.getD "") (g.topicId_record p (p.startingStatus s))
  rcases topicId_of_survey p h.trace with hnone | ⟨hname, -⟩
  · rw [hid, hnone, Option.none_or]
    exact .inl rfl
  · rw [hid, hname, Option.some_or]
    exact .inr rfl

theorem loyal_attend (hlive : found.metadata.deleting = false)
    (hstored : st.schedulers.get? (Key.of found.metadata) = some found)
    (hname : found.expectedTopic = name) :
    Heeds t (fun log _ c => Loyal name found log c) log st (p.attend found) := by
  refine heeds_attend_live hlive (fun _ _ => trivial) (fun l mid marked hput => ?_)
    (fun l mid marked l' mid' g hput hg => ?_) fun _ _ _ => trivial
  · obtain ⟨-, -, ⟨finalizers, version, rfl⟩, -⟩ := hput.stored hstored rfl
    refine heeds_survey (fun _ c hc _ => ?_) fun l' d space object h => ?_
    · cases c <;> trivial
    · rw [← hname]
      exact h.bears
  · obtain ⟨-, -, ⟨finalizers, version, rfl⟩, -⟩ := hput.stored hstored rfl
    have hg : Ends t mid (p.survey (remarked found finalizers version) name) l' mid' g := by
      rw [← hname]
      exact hg
    refine ⟨recordedTopic_settled hg, fun hready => ?_⟩
    have htold := (told_of_survey hg).resolve_left (topicId_of_saysTopicReady hready)
    obtain ⟨topic, hread, hfits⟩ := htold
    exact ⟨topic, List.mem_append_right _ hread, hfits⟩

/-! ## Histories -/

/-- The scheduler under `key` is stored and live, and expects its topic under that name. -/
structure Expecting (key : Key) (name : String) (s : Scheduler) (st : Stores) : Prop
    extends Scheduler.Living key s st where
  name : s.expectedTopic = name

/-- What was created is about the topic of that name. -/
def AllBear (name : String) (log : List Exchange) : Prop :=
  ∀ d space object answer, ⟨.create d space object, answer⟩ ∈ log → d.Bears name object

theorem AllBear.append {l : List Exchange} (h : AllBear name log) (hl : AllBear name l) :
    AllBear name (log ++ l) := by
  intro d space object answer hmem
  exact (List.mem_append.1 hmem).elim (h d space object answer) (hl d space object answer)

variable {key : Key} {text : String} {pre : List Exchange} {q : Program (Except Error Unit)}

namespace Expecting

/-- Wherever a pass gets, the scheduler lasts, and the next call is loyal. -/
theorem reaches (h : Expecting key name s st) (htext : Key.parse text = .ok key)
    (hpass : Reaches t st (p.reconcile text) pre mid q) :
    (∃ s', Expecting key name s' mid ∧ s.Lasts name s') ∧ AllBear name pre ∧
      ∀ c next, q = .call c next → Loyal name s pre c := by
  have hliving := h.toLiving
  obtain ⟨⟨hstored, rfl, hlive⟩, hname⟩ := h
  have hheeds : Heeds t (fun log _ c => Loyal name s log c) [] st (p.reconcile text) :=
    heeds_reconcile_stored htext hstored trivial (loyal_attend hlive hstored hname)
  obtain ⟨s', hs', hbare, htopic, hbear⟩ := hliving.keeps
    (I := fun log s' _ => (s'.recordedTopic = s.recordedTopic ∨ s'.recordedTopic = name) ∧
      AllBear name log)
    hheeds hpass (fun {log c reply mid mid' s₁ s₂} hc _ hstatus ⟨htopic, hbear⟩ => by
      refine ⟨?_, hbear.append fun d space object answer hmem => ?_⟩
      · rcases hstatus with hsame | ⟨desired, rfl, hwritten⟩
        · rw [Scheduler.recordedTopic_of_status hsame]
          exact htopic
        · rw [Scheduler.recordedTopic_of_status hwritten]
          exact hc.1
      · cases List.mem_singleton.1 hmem
        exact hc) ⟨.inl rfl, fun _ _ _ _ h => nomatch h⟩
  have hlasts : s.Lasts name s' := ⟨hbare, htopic⟩
  refine ⟨⟨s', ⟨hs', hlasts.expected hname⟩, hlasts⟩, hbear, ?_⟩
  rintro c next rfl
  exact (hheeds.reaches hpass).1

end Expecting

variable {st₀ st₁ st₂ : Stores} {s₀ s₁ : Scheduler} {log₁ log₂ : List Exchange}

theorem expecting_of_history (h : Expecting key name s₀ st₀)
    (hlife : History t key (Stores.Spares key) st₀ log st) :
    (∃ s, Expecting key name s st ∧ s₀.Lasts name s) ∧ AllBear name log := by
  refine hlife.keeps (I := fun log st =>
    (∃ s, Expecting key name s st ∧ s₀.Lasts name s) ∧ AllBear name log) ?_ ?_ ?_
  · exact ⟨⟨s₀, h, .refl name s₀⟩, fun _ _ _ _ h => nomatch h⟩
  · rintro log l mid st' text r p htext hpass ⟨⟨s, hs, hlasts⟩, hbear⟩
    obtain ⟨⟨s', hs', hlasts'⟩, hbear', -⟩ := hs.reaches htext hpass
    exact ⟨⟨s', hs', hlasts.trans hlasts'⟩, hbear.append hbear'⟩
  · rintro log mid st' hspares ⟨⟨s, hs, hlasts⟩, hbear⟩
    exact ⟨⟨s, ⟨hs.spared hspares, hs.name⟩, hlasts⟩, hbear⟩

/-- The name that a live scheduler expects of its topic is the same in all passes, whatever calls
fail, whatever reads of dependents find and whatever others do to anything but the scheduler. Once
it is recorded it stays recorded, and before that it follows from the uid. All that is created is
about the topic of that name, and a status says that the topic is ready only when the topic that was
read tells that name. -/
theorem topicName_lasts (hstored : st₀.schedulers.get? key = some s₀)
    (hkey : Key.of s₀.metadata = key) (hlive : s₀.metadata.deleting = false)
    (hbefore : History t key (Stores.Spares key) st₀ log₁ st₁)
    (hs₁ : st₁.schedulers.get? key = some s₁)
    (hafter : History t key (Stores.Spares key) st₁ log₂ st₂) (htext : Key.parse text = .ok key)
    (hpass : Reaches t st₂ (p.reconcile text) pre mid q) :
    (∃ s, mid.schedulers.get? key = some s ∧ s.bare = s₀.bare ∧
      s.expectedTopic = s₀.expectedTopic ∧
      (s₁.recordedTopic ≠ "" → s.recordedTopic = s₁.recordedTopic) ∧
      (s₁.recordedTopic = "" →
        s₀.expectedTopic = "scheduler-" ++ s₀.metadata.uid.getD "")) ∧
    (∀ d space object answer, ⟨.create d space object, answer⟩ ∈ log₁ ++ log₂ ++ pre →
      d.Bears s₀.expectedTopic object) ∧
    ∀ new next, q = .call (.updateStatus new) next → SaysTopicReady new →
      TopicTold key s₀.expectedTopic pre := by
  obtain ⟨⟨s, hs, hlasts₁⟩, hbear₁⟩ :=
    expecting_of_history ⟨⟨hstored, hkey, hlive⟩, rfl⟩ hbefore
  obtain rfl : s₁ = s := Option.some.inj (hs₁.symm.trans hs.stored)
  obtain ⟨⟨s₂, hs₂, hlasts₂⟩, hbear₂⟩ := expecting_of_history hs hafter
  obtain ⟨⟨s', hs', hlasts'⟩, hbear', hloyal⟩ := hs₂.reaches htext hpass
  have hlasts := hlasts₂.trans hlasts'
  refine ⟨⟨s', hs'.stored, hlasts.bare.trans hlasts₁.bare, hs'.name,
    hlasts.recorded hs.name, fun hempty => ?_⟩, (hbear₁.append hbear₂).append hbear', ?_⟩
  · rw [← hs.name, Scheduler.expectedTopic_eq, if_pos hempty, Scheduler.uid_of_bare hlasts₁.bare]
  · rintro new next rfl hready
    have htold := (hloyal _ _ rfl).2 hready
    rwa [hs₂.key] at htold

theorem spares_report {d : Dependent} {f : d.Object → d.Object} (k : Key) :
    Stores.Spares key st (st.report d k f) := by
  unfold Stores.Spares Stores.report
  split
  · rw [Stores.schedulers_setDependents]
  · rfl

theorem history_passed {others : Stores → Stores → Prop}
    (h : History t .sample others st₀ log st) :
    ∃ log', History t .sample others st₀ log' (passed st) := by
  obtain ⟨l, r, hends⟩ := ends_passed (t := t) st
  exact ⟨_, .pass _ h rfl hends⟩

/-- The stores of the sample once its topic is recorded. -/
def topicRecorded : Stores :=
  (World.sample .sample).stores |> passed |>.report .topic .sample wellTopic |> passed

theorem sample_topicName_lasts :
    ∃ log₁ log₂ s₁ pre mid,
      (World.sample .sample).stores.schedulers.get? .sample = some .sample ∧
      History .failures .sample (Stores.Spares .sample) (World.sample .sample).stores log₁
        topicRecorded ∧
      topicRecorded.schedulers.get? .sample = some s₁ ∧ s₁.recordedTopic = "scheduler-7" ∧
      History .failures .sample (Stores.Spares .sample) topicRecorded log₂
        (topicRecorded.report .pullSubscription .sample wellSubscription) ∧
      Reaches .failures (topicRecorded.report .pullSubscription .sample wellSubscription)
        ((Pass.sample "2020-01-01T00:00:00Z").reconcile "media/photos") pre mid
        (.done (.error (.jobNotCompleted "scheduler-create-7"))) ∧
      (∃ s, mid.schedulers.get? .sample = some s ∧ s.recordedTopic = "scheduler-7") ∧
      ∀ d space object answer, ⟨.create d space object, answer⟩ ∈ log₁ ++ log₂ ++ pre →
        d.Bears "scheduler-7" object := by
  have hstart : History .failures .sample (Stores.Spares .sample) (World.sample .sample).stores []
      (World.sample .sample).stores := .start
  obtain ⟨_, hcreated⟩ := history_passed hstart
  have hreported : Stores.Spares .sample (passed (World.sample .sample).stores)
      ((passed (World.sample .sample).stores).report .topic .sample wellTopic) :=
    spares_report .sample
  obtain ⟨log₁, hbefore⟩ := history_passed (.other hcreated hreported)
  have hfound : (topicRecorded.schedulers.get? .sample).map (·.recordedTopic) =
      some "scheduler-7" := by decide +kernel
  obtain ⟨s₁, hs₁, hrecorded⟩ := Option.map_eq_some_iff.1 hfound
  have hafter : History .failures .sample (Stores.Spares .sample) topicRecorded []
      (topicRecorded.report .pullSubscription .sample wellSubscription) :=
    .other .start (spares_report .sample)
  have hpass := Stores.ends_run (t := .failures)
    ((Pass.sample "2020-01-01T00:00:00Z").reconcile "media/photos")
    (topicRecorded.report .pullSubscription .sample wellSubscription)
  have hresult : (((Pass.sample "2020-01-01T00:00:00Z").reconcile "media/photos").run Stores.answer
      (topicRecorded.report .pullSubscription .sample wellSubscription)).result =
        .error (.jobNotCompleted "scheduler-create-7") := by rfl
  rw [hresult] at hpass
  have hstored : (World.sample .sample).stores.schedulers.get? .sample = some .sample := rfl
  have htext : Key.parse "media/photos" = .ok .sample := rfl
  obtain ⟨⟨s, hs, -, -, hlasts, -⟩, hbear, -⟩ :=
    topicName_lasts hstored rfl rfl hbefore hs₁ hafter htext hpass
  have hkept := hlasts (by rw [hrecorded]; decide)
  exact ⟨log₁, [], s₁, _, _, hstored, hbefore, hs₁, hrecorded, hafter, hpass,
    ⟨s, hs, hkept.trans hrecorded⟩, hbear⟩

end Pass

end EventWiring
