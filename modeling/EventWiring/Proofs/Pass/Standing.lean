import EventWiring.Proofs.Pass.TopicName

/-!
# What a finding stands on

The stages of the wiring come out one after the other (`Surveyed`). A stage that is reached rests on
objects that are stored: the topic, the pull subscription, and the job with its pods
(`Progress.Stands`). As long as these stand, and no call fails, every later survey reaches the stage
again and finds the same (`upheld_of_survey`), whatever it comes to besides.
-/

namespace EventWiring

open Program (Exchange Ends Heeds Obeys Reaches ends_bind ends_pure)
open Notification (Args Report podSelector)

variable {t : Trouble} {st st' mid : Stores} {log : List Exchange}

/-- A read that was made first finds what was stored then, or may find anything. -/
theorem Program.Reaches.finds {α : Type} {p q : Program α} {d : Dependent} {space name : String}
    {found : Option d.Object}
    (h : Reaches t st p (⟨.get d space name, .ok found⟩ :: log) st' q) :
    Pass.Finds t st d space name found := by
  rcases h with _ | ⟨hgives, -⟩
  exact (hgives.get.2.2 _ rfl).imp_left Eq.symm

namespace Pass

variable {p : Pass} {s : Scheduler} {name : String}

/-! ## The stages one after the other -/

section Surveyed

variable (t) (st) (p) (s) (name)

inductive Surveyed : Stores → Progress → Prop
  | noTopic {l : List Exchange} {st' : Stores} (b : Setback) :
    Ends t st (reachTopic s name) l st' (.error b) → Surveyed st' (.noTopic b)
  | noSubscription {l l' : List Exchange} {st' : Stores} (ids : TopicIds) (b : Setback) :
    Ends t st (reachTopic s name) l st (.ok ids) →
    Ends t st (reachSubscription s name) l' st' (.error b) → Surveyed st' (.noSubscription ids b)
  | noNotification {l l' l'' : List Exchange} {st' : Stores} (ids : TopicIds) (uri : String)
    (b : Setback) : Ends t st (reachTopic s name) l st (.ok ids) →
    Ends t st (reachSubscription s name) l' st (.ok uri) →
    Ends t st (p.reachNotification s ids.known) l'' st' (.error b) →
    Surveyed st' (.noNotification ids uri b)
  | complete {l l' l'' : List Exchange} {st' : Stores} (ids : TopicIds) (uri : String)
    (report : Report) : Ends t st (reachTopic s name) l st (.ok ids) →
    Ends t st (reachSubscription s name) l' st (.ok uri) →
    Ends t st (p.reachNotification s ids.known) l'' st' (.ok report) →
    Surveyed st' (.complete ids uri report)

end Surveyed

theorem ends_survey {g : Progress} (h : Ends t st (p.survey s name) log st' g) :
    Surveyed t st p s name st' g := by
  obtain ⟨l, topic, mid, l', htopic, hrest, rfl⟩ := ends_bind.1 h
  rcases topic with b | ids
  · obtain ⟨-, rfl, rfl⟩ := ends_pure.1 hrest
    exact .noTopic b htopic
  obtain ⟨-, -, rfl, -⟩ := reached_topic htopic
  obtain ⟨l₁, subscription, mid₁, l₁', hsubscription, hrest₁, rfl⟩ := ends_bind.1 hrest
  rcases subscription with b | uri
  · obtain ⟨-, rfl, rfl⟩ := ends_pure.1 hrest₁
    exact .noSubscription ids b htopic hsubscription
  obtain ⟨-, -, rfl, -⟩ := reached_subscription hsubscription
  obtain ⟨l₂, report, mid₂, l₂', hnotification, hrest₂, rfl⟩ := ends_bind.1 hrest₁
  rcases report with b | report
  · obtain ⟨-, rfl, rfl⟩ := ends_pure.1 hrest₂
    exact .noNotification ids uri b htopic hsubscription hnotification
  · obtain ⟨-, rfl, rfl⟩ := ends_pure.1 hrest₂
    exact .complete ids uri report htopic hsubscription hnotification

/-! ## What is found -/

namespace Progress

def ids? : Progress → Option TopicIds
  | noTopic _ => none
  | noSubscription ids _ => some ids
  | noNotification ids _ _ => some ids
  | complete ids _ _ => some ids

def uri? : Progress → Option String
  | noNotification _ uri _ => some uri
  | complete _ uri _ => some uri
  | _ => none

def report? : Progress → Option Report
  | complete _ _ report => some report
  | _ => none

/-- Whatever `g` finds, `g'` finds. -/
structure Upholds (g g' : Progress) : Prop where
  ids : ∀ ids, g.ids? = some ids → g'.ids? = some ids
  uri : ∀ uri, g.uri? = some uri → g'.uri? = some uri
  report : ∀ report, g.report? = some report → g'.report? = some report

variable {g g' g'' : Progress}

theorem Upholds.refl (g : Progress) : g.Upholds g := ⟨fun _ => id, fun _ => id, fun _ => id⟩

theorem Upholds.trans (h : g.Upholds g') (h' : g'.Upholds g'') : g.Upholds g'' where
  ids ids hids := h'.ids ids (h.ids ids hids)
  uri uri huri := h'.uri uri (h.uri uri huri)
  report report hreport := h'.report report (h.report report hreport)

/-- There is nothing to find beyond a complete wiring. -/
theorem Upholds.complete {ids : TopicIds} {uri : String} {report : Report}
    (h : (complete ids uri report).Upholds g) : g = .complete ids uri report := by
  have hids := h.ids ids rfl
  have huri := h.uri uri rfl
  have hreport := h.report report rfl
  cases g <;> simp_all [ids?, uri?, report?]

theorem verdict_eq_holds {stage : Stage} : g.verdict stage = .holds ↔
    match stage with
    | .topic => g.ids?.isSome
    | .pullSubscription => g.uri?.isSome
    | .notification => g.report?.isSome := by
  cases g <;> cases stage <;>
    simp [verdict, ids?, uri?, report?, Verdict.holds, Verdict.undecided, Verdict.fails,
      Condition.isTrue, Condition.isFalse, Condition.isUnknown]

theorem ids_of_uri {uri : String} (h : g.uri? = some uri) : ∃ ids, g.ids? = some ids := by
  cases g <;> simp_all [uri?, ids?]

theorem uri_of_report {report : Report} (h : g.report? = some report) :
    ∃ uri, g.uri? = some uri := by
  cases g <;> simp_all [uri?, report?]

/-- A stage that held holds. -/
theorem Upholds.verdict {stage : Stage} (h : g.Upholds g') (hg : g.verdict stage = .holds) :
    g'.verdict stage = .holds := by
  rw [verdict_eq_holds] at hg ⊢
  cases stage with
  | topic =>
    obtain ⟨ids, hids⟩ := Option.isSome_iff_exists.1 hg
    exact Option.isSome_of_mem (h.ids ids hids)
  | pullSubscription =>
    obtain ⟨uri, huri⟩ := Option.isSome_iff_exists.1 hg
    exact Option.isSome_of_mem (h.uri uri huri)
  | notification =>
    obtain ⟨report, hreport⟩ := Option.isSome_iff_exists.1 hg
    exact Option.isSome_of_mem (h.report report hreport)

theorem complete_of_holds (h : ∀ stage, g.verdict stage = .holds) :
    ∃ ids uri report, g = .complete ids uri report := by
  have hreport := verdict_eq_holds.1 (h .notification)
  cases g with
  | complete ids uri report => exact ⟨ids, uri, report, rfl⟩
  | _ => cases hreport

end Progress

/-! ## What is stored -/

section Tells

variable (st) (s)

/-- The topic that is stored tells this. -/
def TopicTells (name : String) (ids : TopicIds) : Prop :=
  ∃ topic, st.topics.get? (Key.of s.metadata) = some topic ∧ topicIds topic name = .ok ids

/-- The pull subscription that is stored tells this sink. -/
def SinkTells (uri : String) : Prop :=
  ∃ ps, st.pullSubscriptions.get? (Key.of s.metadata) = some ps ∧
    sinkOf ps (Key.of s.metadata) = .ok uri

/-- The job that creates the notification succeeded, and this is what its pods report. -/
def JobTells (report : Report) : Prop :=
  (∃ owner, s.ownerReference = .ok owner) ∧
    ∃ job, st.jobs.get? (s.jobKey .create) = some job ∧ job.phase = .succeeded ∧
      reportOf (st.listPods s.space (podSelector (s.metadata.uid.getD "") .create)) = .ok report

/-- All that is found is what is stored tells. -/
structure Progress.Stands (name : String) (g : Progress) : Prop where
  topic : ∀ ids, g.ids? = some ids → TopicTells st s name ids
  sink : ∀ uri, g.uri? = some uri → SinkTells st s uri
  job : ∀ report, g.report? = some report → JobTells st s report

end Tells

/-! ## What is found is stored -/

theorem reported_of_runJob {args : Args} {r : Except Error Report} {report : Report}
    (h : JobRun t st args log st' r) (hr : r = .ok report) :
    (∃ job, Finds t st .job args.space args.jobName (some job) ∧ job.phase = .succeeded) ∧
      reportOf (st.listPods args.space args.podSelector) = .ok report ∧ st' = st := by
  cases h with
  | reported job hfinds hsucceeded => exact ⟨⟨job, hfinds, hsucceeded⟩, hr, rfl⟩
  | _ => cases hr

/-- A report comes from the job, and nothing is written for it. -/
theorem reached_notification {status : SchedulerStatus} {report : Report}
    (hcurrent : ¬ t.stale .job)
    (h : Ends t st (p.reachNotification s status) log st' (.ok report)) :
    JobTells st s report ∧ st' = st := by
  obtain ⟨l, r, mid, l', hcreation, hrest, rfl⟩ := ends_bind.1 h
  rcases r with e | report'
  · cases (ends_pure.1 hrest).2.2
  obtain ⟨rfl, rfl, hreport⟩ := ends_pure.1 hrest
  obtain rfl := Except.ok.inj hreport
  unfold createNotification at hcreation
  split at hcreation
  · cases (ends_pure.1 hcreation).2.2
  next args hargs =>
  obtain ⟨⟨job, hfinds, hsucceeded⟩, hpods, rfl⟩ := reported_of_runJob (ends_runJob hcreation) rfl
  obtain ⟨huid, hspace, haction, -⟩ := notificationArgs_ok hargs
  have howner : ∃ owner, s.ownerReference = .ok owner := by
    unfold notificationArgs at hargs
    cases howner : s.ownerReference with
    | error e =>
      rw [howner] at hargs
      cases hargs
    | ok owner => exact ⟨owner, rfl⟩
  refine ⟨⟨howner, job, ?_, hsucceeded, ?_⟩, rfl⟩
  · rw [jobKey_of_args hargs]
    exact hfinds.resolve_right hcurrent
  · rw [huid, hspace, ← haction]
    exact hpods

theorem reached_topic_tells {ids : TopicIds} (hcurrent : ¬ t.stale .topic)
    (h : Ends t st (reachTopic s name) log st' (.ok ids)) : TopicTells st s name ids := by
  obtain ⟨topic, rfl, -, hids⟩ := reached_topic h
  exact ⟨topic, h.finds.resolve_right hcurrent, hids⟩

theorem reached_subscription_tells {uri : String} (hcurrent : ¬ t.stale .pullSubscription)
    (h : Ends t st (reachSubscription s name) log st' (.ok uri)) : SinkTells st s uri := by
  obtain ⟨ps, rfl, -, huri⟩ := reached_subscription h
  exact ⟨ps, h.finds.resolve_right hcurrent, huri⟩

/-- Where reads are current, a finding rests on what was stored when the survey began. -/
theorem stands_of_survey {g : Progress} (hcurrent : ∀ d, ¬ t.stale d)
    (h : Ends t st (p.survey s name) log st' g) : g.Stands st s name := by
  cases ends_survey h with
  | noTopic b => exact ⟨fun _ h => (nomatch h), fun _ h => (nomatch h), fun _ h => (nomatch h)⟩
  | noSubscription ids b htopic =>
    refine ⟨?_, fun _ h => (nomatch h), fun _ h => (nomatch h)⟩
    rintro _ ⟨⟩
    exact reached_topic_tells (hcurrent _) htopic
  | noNotification ids uri b htopic hsubscription =>
    refine ⟨?_, ?_, fun _ h => (nomatch h)⟩
    · rintro _ ⟨⟩
      exact reached_topic_tells (hcurrent _) htopic
    · rintro _ ⟨⟩
      exact reached_subscription_tells (hcurrent _) hsubscription
  | complete ids uri report htopic hsubscription hnotification =>
    refine ⟨?_, ?_, ?_⟩
    · rintro _ ⟨⟩
      exact reached_topic_tells (hcurrent _) htopic
    · rintro _ ⟨⟩
      exact reached_subscription_tells (hcurrent _) hsubscription
    · rintro _ ⟨⟩
      exact (reached_notification (hcurrent _) hnotification).1

/-! ## What is stored is found -/

theorem topic_found {ids : TopicIds} {r : Except Setback TopicIds} (hids : TopicTells st s name ids)
    (h : Ends .none st (reachTopic s name) log st' r) : r = .ok ids := by
  obtain ⟨topic, hstored, hids⟩ := hids
  obtain ⟨l, found, mid, l', hensure, hrest, rfl⟩ := ends_bind.1 h
  obtain ⟨existing, hexisting, rfl⟩ | ⟨habsent, -⟩ := (ends_ensure hensure).current
    fun _ ho => key_owned Topic.metadata (fun _ => rfl) ho
  · obtain rfl : topic = existing := Option.some.inj (hstored.symm.trans hexisting)
    obtain ⟨-, -, rfl⟩ := ends_pure.1 hrest
    exact hids
  · cases hstored.symm.trans habsent

theorem sink_found {uri : String} {r : Except Setback String} (huri : SinkTells st s uri)
    (h : Ends .none st (reachSubscription s name) log st' r) : r = .ok uri := by
  obtain ⟨ps, hstored, huri⟩ := huri
  obtain ⟨l, found, mid, l', hensure, hrest, rfl⟩ := ends_bind.1 h
  obtain ⟨existing, hexisting, rfl⟩ | ⟨habsent, -⟩ := (ends_ensure hensure).current
    fun _ ho => key_owned PullSubscription.metadata (fun _ => rfl) ho
  · obtain rfl : ps = existing := Option.some.inj (hstored.symm.trans hexisting)
    obtain ⟨-, -, rfl⟩ := ends_pure.1 hrest
    exact huri
  · cases hstored.symm.trans habsent

/-- A job that succeeded is found, and so is what its pods report. -/
theorem JobRun.found {args : Args} {r : Except Error Report} {job : Job}
    (h : JobRun .none st args log st' r)
    (hstored : st.jobs.get? ⟨args.space, args.jobName⟩ = some job)
    (hsucceeded : job.phase = .succeeded) :
    r = reportOf (st.listPods args.space args.podSelector) := by
  cases h with
  | unread e hfails => exact hfails.elim
  | created hfinds habsent => cases hstored.symm.trans habsent
  | refused e e' hfinds => cases hstored.symm.trans (hfinds.resolve_right id)
  | unfit existing e hfinds houtcome =>
    obtain rfl : job = existing :=
      Option.some.inj (hstored.symm.trans (hfinds.resolve_right id))
    rw [hsucceeded] at houtcome
    cases houtcome
  | unlisted existing e hfinds _ hfails => exact hfails.elim
  | reported => rfl

theorem report_found {status : SchedulerStatus} {report : Report} {r : Except Setback Report}
    (hreport : JobTells st s report)
    (h : Ends .none st (p.reachNotification s status) log st' r) : r = .ok report := by
  obtain ⟨⟨owner, howner⟩, job, hstored, hsucceeded, hpods⟩ := hreport
  obtain ⟨l, created, mid, l', hcreate, hrest, rfl⟩ := ends_bind.1 h
  obtain ⟨args, hargs, -⟩ := notificationArgs_of_owner howner p .create
    (status.projectId.getD "") status.topicId none
  obtain ⟨huid, hspace, haction, -⟩ := notificationArgs_ok hargs
  unfold createNotification at hcreate
  rw [hargs] at hcreate
  have hfound := (ends_runJob hcreate).found (jobKey_of_args hargs ▸ hstored) hsucceeded
  have hselector : args.podSelector = podSelector (s.metadata.uid.getD "") .create := by
    rw [Args.podSelector, huid, haction]
  rw [hselector, ← hspace, hpods] at hfound
  subst hfound
  exact (ends_pure.1 hrest).2.2

/-- What stands is found again. -/
theorem upheld_of_survey {g g' : Progress} (hg : g.Stands st s name)
    (h : Ends .none st (p.survey s name) log st' g') : g.Upholds g' := by
  -- What `g` has found at a stage, the survey finds there, so that it gets at least as far.
  cases ends_survey h with
  | noTopic b htopic =>
    have hids : ∀ ids, g.ids? ≠ some ids := fun ids hids =>
      nomatch topic_found (hg.topic ids hids) htopic
    have huri : ∀ uri, g.uri? ≠ some uri := fun uri huri =>
      (Progress.ids_of_uri huri).elim hids
    exact ⟨fun ids h => absurd h (hids ids), fun uri h => absurd h (huri uri),
      fun report h => (Progress.uri_of_report h).elim fun uri h => absurd h (huri uri)⟩
  | noSubscription ids b htopic hsubscription =>
    have huri : ∀ uri, g.uri? ≠ some uri := fun uri huri =>
      nomatch sink_found (hg.sink uri huri) hsubscription
    refine ⟨fun ids hids => ?_, fun uri h => absurd h (huri uri),
      fun report h => (Progress.uri_of_report h).elim fun uri h => absurd h (huri uri)⟩
    exact congrArg some (Except.ok.inj (topic_found (hg.topic ids hids) htopic))
  | noNotification ids uri b htopic hsubscription hnotification =>
    refine ⟨fun ids hids => ?_, fun uri huri => ?_, fun report hreport => ?_⟩
    · exact congrArg some (Except.ok.inj (topic_found (hg.topic ids hids) htopic))
    · exact congrArg some (Except.ok.inj (sink_found (hg.sink uri huri) hsubscription))
    · cases report_found (hg.job report hreport) hnotification
  | complete ids uri report htopic hsubscription hnotification =>
    refine ⟨fun ids hids => ?_, fun uri huri => ?_, fun report hreport => ?_⟩
    · exact congrArg some (Except.ok.inj (topic_found (hg.topic ids hids) htopic))
    · exact congrArg some (Except.ok.inj (sink_found (hg.sink uri huri) hsubscription))
    · exact congrArg some (Except.ok.inj (report_found (hg.job report hreport) hnotification))

end Pass

end EventWiring
