import EventWiring.Proofs.Pass.Monotone

/-!
# A scheduler that is ready knows what it made

A pass that succeeds leaves a live scheduler ready, and its status names the topic, the project, the
sink and the notification that the job reports (`Complete`). A teardown finds the notification by
that name alone: one that is recorded is deleted before anything else is undone
(`deleted_before_undone`). A report may leave the name out, and then the scheduler is ready without
knowing its notification (`ready_without_notification`).
-/

namespace EventWiring

open Program (Exchange Ends Obeys Reaches)
open Notification (Report podSelector)

/-- The identifier is there, and it is not empty. -/
def Named (id : Option String) : Prop := id.getD "" ≠ ""

instance (id : Option String) : Decidable (Named id) := inferInstanceAs (Decidable (_ ≠ _))

/-- The status is ready and names what was wired up. -/
structure SchedulerStatus.Complete (status : SchedulerStatus) (report : Report) : Prop where
  ready : status.ready = true
  topic : Named status.topicId
  project : Named status.projectId
  sink : Named status.sinkUri
  notification : status.notificationId = some report.notificationId

/-- The call undoes something other than the notification. -/
def Call.undoes : Call → Bool
  | delete _ _ _ => true
  | patchScheduler _ _ _ => true
  | _ => false

theorem Call.not_undoes_of_looks {c : Call} (h : c.looks = true) : c.undoes = false := by
  cases c <;> first | rfl | cases h

namespace Pass

variable {t : Trouble} {st st' : Stores} {log : List Exchange} {p : Pass} {s s' : Scheduler}
  {text : String}

/-! ## What a complete wiring records -/

theorem named_of_topicIds {topic : Topic} {name : String} {ids : TopicIds}
    (h : topicIds topic name = .ok ids) : ids.topicId ≠ "" ∧ ids.projectId ≠ "" := by
  simp only [topicIds] at h
  split at h
  · cases h
  split at h
  · cases h
  next hproject =>
  split at h
  · cases h
  next htopic =>
  split at h
  · cases h
  cases h
  exact ⟨htopic, hproject⟩

/-- The empty text is no URI. -/
theorem named_of_sinkOf {ps : PullSubscription} {key : Key} {uri : String}
    (h : sinkOf ps key = .ok uri) : uri ≠ "" := by
  have hempty : Uri.check "" ≠ .ok () := nofun
  unfold sinkOf at h
  split at h
  · cases h
  split at h
  · next hcheck =>
    cases h
    rintro huri
    exact hempty (huri ▸ hcheck)
  · cases h

theorem ready_iff {status : SchedulerStatus} (h : s.status = some status) :
    status.ready = true ↔ ∀ stage, s.Says stage := by
  have hready : status.ready = true ↔
      ∀ stage ∈ Stage.all, status.conditions.isTrue stage.condition = true := by
    rw [SchedulerStatus.ready, Conditions.happy, Stage.conditions, List.all_map, List.all_eq_true]
    rfl
  rw [hready]
  unfold Scheduler.Says
  rw [h, Option.getD_some]
  exact ⟨fun hall stage => hall stage (by cases stage <;> decide), fun hall stage _ => hall stage⟩

/-- What is found in the stores is not empty, so that nothing empty is recorded for it. -/
theorem complete_of_stands {ids : TopicIds} {uri name : String} {report : Report}
    {status : SchedulerStatus}
    (hstands : (Progress.complete ids uri report).Stands st s name)
    (hstatus : (p.settled s ((Progress.complete ids uri report).record p)).status = some status) :
    status.Complete report := by
  obtain ⟨topic, -, hids⟩ := hstands.topic ids rfl
  obtain ⟨ps, -, huri⟩ := hstands.sink uri rfl
  obtain ⟨htopic, hproject⟩ := named_of_topicIds hids
  have hsink := named_of_sinkOf huri
  have hready : status.ready = true :=
    (ready_iff hstatus).2 fun stage => (says_settled rfl).2 (by cases stage <;> rfl)
  obtain rfl := Option.some.inj hstatus
  refine ⟨hready, htopic, ?_, hsink, rfl⟩
  -- A project that the job reports takes the place of the one that the topic tells.
  show Named (if report.projectId = "" then some ids.projectId else some report.projectId)
  split
  · exact hproject
  · next hreported => exact hreported

/-! ## What a teardown does with it -/

/-- Whatever calls fail, a pass over a scheduler on its way out that has this status undoes nothing
before the deletion of the notification of that name is confirmed. -/
def DeletesFirst (status : SchedulerStatus) (id : String) : Prop :=
  ∀ (q : Pass) (s : Scheduler) (st mid : Stores) (text : String) (pre : List Exchange) (c : Call)
    (next : c.Answer → Program (Except Error Unit)),
    st.schedulers.get? (Key.of s.metadata) = some s → s.metadata.deleting = true →
    s.status = some status → Key.parse text = .ok (Key.of s.metadata) →
    Reaches .failures st (q.reconcile text) pre mid (.call c next) → c.undoes = true →
    ∃ args, q.deletionArgs s status = .ok args ∧ args.notificationId = some id ∧ Confirmed args pre

theorem gone_before_undone {log : List Exchange} (hdeleting : s.metadata.deleting = true) :
    Obeys (fun log c => c.undoes = true → NotificationGone p s log) log (p.attend s) :=
  have hlook : ∀ log (c : Call), c.looks → c.undoes = true → NotificationGone p s log :=
    fun _ c hlooks hundoes => by
      rw [Call.not_undoes_of_looks hlooks] at hundoes
      cases hundoes
  obeys_attend_deleting hdeleting (fun _ _ => nofun)
    (fun _ => obeys_undoNotification hlook fun _ _ _ => nofun) (fun _ hgone _ => hgone)
    (fun _ hgone _ _ => hgone) (fun _ _ hgone _ _ _ _ => hgone) fun _ _ _ _ _ => nofun

theorem deleted_before_undone {status : SchedulerStatus} {id : String}
    (hid : status.notificationId = some id) (hne : id ≠ "") : DeletesFirst status id := by
  intro q s st mid text pre c next hstored hdeleting hstatus htext hreached hundoes
  have hheeds : Program.Heeds .failures
      (fun log _ c => c.undoes = true → NotificationGone q s log) [] st (q.reconcile text) :=
    heeds_reconcile_stored htext hstored nofun
      (Program.heeds_of_obeys (gone_before_undone hdeleting) fun _ _ _ hc => hc)
  have hgone : NotificationGone q s pre := (hheeds.reaches hreached).1 hundoes
  unfold NotificationGone at hgone
  rw [hstatus, Option.getD_some, hid, Option.getD_some] at hgone
  obtain ⟨args, hargs, hconfirmed⟩ := hgone.resolve_left hne
  obtain ⟨-, -, -, hnotification⟩ := notificationArgs_ok hargs
  rw [hid] at hnotification
  exact ⟨args, hargs, hnotification, hconfirmed⟩

/-! ## The whole -/

/-- Whatever calls fail: a pass that succeeds leaves a live scheduler ready, and nothing that its
status names is empty but for the notification, if the job does not name it. One that is named is
deleted before anything else is undone. -/
theorem success_records_identifiers {key : Key} (hstored : st.schedulers.get? key = some s)
    (hkey : Key.of s.metadata = key) (hlive : s.metadata.deleting = false)
    (htext : Key.parse text = .ok key)
    (hpass : Ends .failures st (p.reconcile text) log st' (.ok ())) :
    ∃ s' status report, st'.schedulers.get? key = some s' ∧ s'.status = some status ∧
      reportOf (st.listPods s.space (podSelector (s.metadata.uid.getD "") .create)) = .ok report ∧
      status.Complete report ∧
      (report.notificationId ≠ "" →
        Named status.notificationId ∧ DeletesFirst status report.notificationId) := by
  subst hkey
  obtain ⟨e, c, hfailed, -⟩ | ⟨rest, -, hattend⟩ := ends_reconcile_stored htext hstored hpass
  · cases hfailed
  obtain ⟨e, c, hfailed, -⟩ | ⟨schedulers, l, mid, g, hsurvey, hresult, s', hs', hstatus⟩ :=
    ends_attend_live hstored hlive hattend
  · cases hfailed
  cases g with
  | complete ids uri report =>
    have hstands := stands_of_survey (fun _ => id) hsurvey
    obtain ⟨status, hsettled, -⟩ :=
      (Progress.complete ids uri report).recording.tells_settled p s
    have hcomplete := complete_of_stands hstands hsettled
    obtain ⟨-, -, -, -, hreport⟩ := hstands.job report rfl
    refine ⟨s', status, report, hs', hstatus.trans hsettled, hreport, hcomplete, fun hnamed => ?_⟩
    refine ⟨?_, deleted_before_undone hcomplete.notification hnamed⟩
    rw [hcomplete.notification]
    exact hnamed
  | _ => cases hresult

/-- The sample, once its job has ended with that report. -/
def reported (report : Report) : Stores := creating |> ended .create report

theorem succeeds_reported (report : Report)
    (h : (((Pass.sample "2020-01-01T00:00:00Z").reconcile "media/photos").run Stores.answer
      (reported report)).result.isOk = true) :
    ∃ l, Ends t (reported report) ((Pass.sample "2020-01-01T00:00:00Z").reconcile "media/photos") l
      (passed (reported report)) (.ok ()) := by
  obtain ⟨l, r, hends, hr⟩ : ∃ l r, Ends t (reported report)
      ((Pass.sample "2020-01-01T00:00:00Z").reconcile "media/photos") l
      (passed (reported report)) r ∧ r.isOk = true := ⟨_, _, Stores.ends_run _ _, h⟩
  cases r with
  | error e => cases hr
  | ok u => exact ⟨l, hends⟩

theorem sample_success_records_identifiers :
    ∃ s l s' status report, (reported (.succeeded "9" "")).schedulers.get? .sample = some s ∧
      Key.of s.metadata = .sample ∧ s.metadata.deleting = false ∧
      Key.parse "media/photos" = .ok .sample ∧
      Ends .failures (reported (.succeeded "9" ""))
        ((Pass.sample "2020-01-01T00:00:00Z").reconcile "media/photos") l
        (passed (reported (.succeeded "9" ""))) (.ok ()) ∧
      (passed (reported (.succeeded "9" ""))).schedulers.get? .sample = some s' ∧
      s'.status = some status ∧ status.Complete report ∧ report.notificationId = "9" ∧
      DeletesFirst status "9" := by
  obtain ⟨s, hs, hkey, hlive⟩ : ∃ s : Scheduler, s.Living .sample (reported (.succeeded "9" "")) :=
    Scheduler.Living.of_look (by decide +kernel)
  have hrecorded : ((passed (reported (.succeeded "9" ""))).schedulers.get? .sample).map
      (·.recordedId) = some "9" := by decide +kernel
  obtain ⟨l, hpass⟩ := succeeds_reported (t := .failures) (.succeeded "9" "") (by decide +kernel)
  obtain ⟨s', status, report, hs', hstatus, -, hcomplete, hnamed⟩ :=
    success_records_identifiers hs hkey hlive rfl hpass
  have hid : report.notificationId = "9" := by
    rw [hs', Option.map_some, Option.some.injEq, Scheduler.recordedId, hstatus, Option.getD_some,
      hcomplete.notification, Option.getD_some] at hrecorded
    exact hrecorded
  have hdeletes := (hnamed (by rw [hid]; decide)).2
  rw [hid] at hdeletes
  exact ⟨s, l, s', status, report, hs, hkey, hlive, rfl, hpass, hs', hstatus, hcomplete, hid,
    hdeletes⟩

/-- A job that does not name the notification leaves the scheduler ready without it. -/
theorem ready_without_notification :
    ¬ ∀ {key : Key} {s : Scheduler} {st st' : Stores} {p : Pass} {text : String}
      {log : List Exchange}, st.schedulers.get? key = some s → Key.of s.metadata = key →
      s.metadata.deleting = false → Key.parse text = .ok key →
      Ends .failures st (p.reconcile text) log st' (.ok ()) →
      ∃ s' status, st'.schedulers.get? key = some s' ∧ s'.status = some status ∧
        status.ready = true ∧ Named status.topicId ∧ Named status.projectId ∧
        Named status.sinkUri ∧ Named status.notificationId := by
  intro hclaim
  obtain ⟨s, hs, hkey, hlive⟩ : ∃ s : Scheduler, s.Living .sample (reported (.succeeded "" "")) :=
    Scheduler.Living.of_look (by decide +kernel)
  have hrecorded : ((passed (reported (.succeeded "" ""))).schedulers.get? .sample).map
      (·.recordedId) = some "" := by decide +kernel
  obtain ⟨l, hpass⟩ := succeeds_reported (t := .failures) (.succeeded "" "") (by decide +kernel)
  obtain ⟨s', status, hs', hstatus, -, -, -, -, hnamed⟩ := hclaim hs hkey hlive rfl hpass
  rw [hs', Option.map_some, Option.some.injEq, Scheduler.recordedId, hstatus,
    Option.getD_some] at hrecorded
  exact hnamed hrecorded

end Pass

end EventWiring
