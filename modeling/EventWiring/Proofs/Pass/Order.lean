import EventWiring.Proofs.Finalizer
import EventWiring.Proofs.Pass.Outcome

/-!
# The order of a teardown

A pass over a scheduler that is being deleted undoes the wiring step by step: first the
notification, then the topic and the pull subscription, and last the marker. Its calls are a
selection from one plan in the order of the plan (`Pass.plan`), and each of them is made only once
the step before it is known to be done (`Allowed`).
-/

namespace EventWiring.Pass

open Program (Exchange Obeys Trace)
open Notification (Args Report)

variable {p : Pass} {s found : Scheduler} {status : SchedulerStatus} {log : List Exchange}

/-! ## Calls by kind -/

/-- The call changes something, or looks at what a job reports. -/
def counts : Call → Bool
  | .listPods _ _ => true
  | c => c.writes

/-- The calls that count, in their order. -/
def counted (log : List Exchange) : List Call := (log.map (·.call)).filter counts

theorem counted_append (l l' : List Exchange) : counted (l ++ l') = counted l ++ counted l' := by
  unfold counted
  rw [List.map_append, List.filter_append]

theorem counted_cons_of_not {x : Exchange} (h : counts x.call = false) (l : List Exchange) :
    counted (x :: l) = counted l := by
  unfold counted
  rw [List.map_cons, List.filter_cons, h]
  rfl

theorem counted_cons {x : Exchange} (h : counts x.call = true) (l : List Exchange) :
    counted (x :: l) = x.call :: counted l := by
  unfold counted
  rw [List.map_cons, List.filter_cons, h]
  rfl

/-! ## The deletion job -/

/-- A finished job that did not fail was found, and the pod that counts reported success. -/
def Confirmed (args : Args) (log : List Exchange) : Prop :=
  ∃ (job : Job) (pods : List Pod) (pod : Pod) (report : Report),
    ⟨.get .job args.space args.jobName, .ok (some job)⟩ ∈ log ∧ job.finished ∧ ¬ job.failed ∧
      ⟨.listPods args.space args.podSelector, .ok pods⟩ ∈ log ∧ Pod.select pods = .ok pod ∧
      pod.report = .ok report ∧ report.success

theorem Confirmed.mono {args : Args} {log' : List Exchange} (h : Confirmed args log)
    (hlog : ∀ x ∈ log, x ∈ log') : Confirmed args log' := by
  obtain ⟨job, pods, pod, report, hjob, hfinished, hfailed, hpods, hpod⟩ := h
  exact ⟨job, pods, pod, report, hlog _ hjob, hfinished, hfailed, hlog _ hpods, hpod⟩

theorem reportOf_ok {pods : List Pod} {report : Report} (h : reportOf pods = .ok report) :
    ∃ pod, Pod.select pods = .ok pod ∧ pod.report = .ok report ∧ report.success := by
  unfold reportOf at h
  cases hpod : Pod.select pods with
  | error e =>
    rw [hpod] at h
    cases h
  | ok pod =>
    rw [hpod] at h
    change (pod.report >>= Report.outcome) = .ok report at h
    cases hreport : pod.report with
    | error e =>
      rw [hreport] at h
      cases h
    | ok found =>
      rw [hreport] at h
      change found.outcome = .ok report at h
      unfold Report.outcome at h
      split at h
      · next hsuccess =>
        cases h
        exact ⟨pod, rfl, hreport, hsuccess⟩
      · cases h

theorem reportOf_of_success {pods : List Pod} {pod : Pod} {report : Report}
    (hselect : Pod.select pods = .ok pod) (hreport : pod.report = .ok report)
    (hsuccess : report.success) : reportOf pods = .ok report := by
  unfold reportOf
  rw [hselect]
  show (pod.report >>= Report.outcome) = .ok report
  rw [hreport]
  exact if_pos hsuccess

theorem phase_eq_succeeded {job : Job} (h : job.phase = .succeeded) :
    job.finished ∧ ¬ job.failed := by
  unfold Job.phase at h
  split at h
  · cases h
  split at h
  · cases h
  · next hfinished hfailed => exact ⟨by simpa using hfinished, hfailed⟩

/-- The job is created or found; only one that succeeded lets the pods be listed. -/
theorem trace_ensureJob {args : Args} {phase : Notification.Phase}
    (h : Trace (ensureJob args) log phase) :
    (counted log).Sublist [.create .job args.space args.job] ∧
      (phase = .succeeded → counted log = [] ∧ ∃ job : Job,
        ⟨.get .job args.space args.jobName, .ok (some job)⟩ ∈ log ∧ job.finished ∧
          ¬ job.failed) := by
  obtain ⟨reply, rest, rfl, hget⟩ := Program.trace_ask_bind.1 h
  rw [counted_cons_of_not rfl]
  rcases reply with e | (_ | job)
  · obtain ⟨rfl, rfl⟩ := Program.trace_pure.1 hget
    exact ⟨List.nil_sublist _, nofun⟩
  · obtain ⟨reply, rest, rfl, hcreate⟩ := Program.trace_ask_bind.1 hget
    have hended : rest = [] ∧ phase ≠ .succeeded := by
      split at hcreate <;>
      · obtain ⟨hrest, rfl⟩ := Program.trace_pure.1 hcreate
        exact ⟨hrest, nofun⟩
    obtain ⟨rfl, hphase⟩ := hended
    exact ⟨List.Sublist.refl _, fun h => absurd h hphase⟩
  · obtain ⟨rfl, rfl⟩ := Program.trace_pure.1 hget
    refine ⟨List.nil_sublist _, fun hphase => ⟨rfl, job, List.mem_singleton_self _, ?_⟩⟩
    exact phase_eq_succeeded hphase

theorem outcome_ok {phase : Notification.Phase} {name : String} (h : phase.outcome name = .ok ()) :
    phase = .succeeded := by
  cases phase with
  | succeeded => rfl
  | _ => cases h

theorem trace_runJob {args : Args} {r : Except Error Report} (h : Trace (runJob args) log r) :
    (counted log).Sublist
        [.create .job args.space args.job, .listPods args.space args.podSelector] ∧
      ∀ report, r = .ok report → Confirmed args log := by
  obtain ⟨l, phase, l', hjob, hrest, rfl⟩ := Program.trace_bind.1 h
  obtain ⟨hcalls, hsucceeded⟩ := trace_ensureJob hjob
  rw [counted_append]
  split at hrest
  · obtain ⟨rfl, rfl⟩ := Program.trace_pure.1 hrest
    exact ⟨hcalls.append (List.nil_sublist _), nofun⟩
  next houtcome =>
    obtain ⟨hnone, job, hget, hfinished, hfailed⟩ := hsucceeded (outcome_ok houtcome)
    obtain ⟨reply, rest, rfl, hlist⟩ := Program.trace_ask_bind.1 hrest
    have hended : rest = [] ∧ ∀ report, r = .ok report → ∃ pods, reply = .ok pods ∧
        reportOf pods = .ok report := by
      rcases reply with e | pods
      · obtain ⟨hnil, rfl⟩ := Program.trace_pure.1 hlist
        exact ⟨hnil, nofun⟩
      · obtain ⟨hnil, rfl⟩ := Program.trace_pure.1 hlist
        exact ⟨hnil, fun report h => ⟨pods, rfl, h⟩⟩
    obtain ⟨rfl, hreport⟩ := hended
    rw [hnone]
    refine ⟨.cons _ (List.Sublist.refl _), fun report hr => ?_⟩
    obtain ⟨pods, rfl, hok⟩ := hreport report hr
    obtain ⟨pod, hselect, hpod, hsuccess⟩ := reportOf_ok hok
    exact ⟨job, pods, pod, report, List.mem_append_left _ hget, hfinished, hfailed,
      List.mem_append_right _ (List.mem_singleton_self _), hselect, hpod, hsuccess⟩

/-! ## The plan -/

/-- What is called to undo the notification, if one is recorded. -/
def undoPlan (p : Pass) (s : Scheduler) (status : SchedulerStatus) : List Call :=
  if status.notificationId.getD "" = "" then []
  else match p.deletionArgs s status with
    | .error _ => []
    | .ok args => [.create .job args.space args.job, .listPods args.space args.podSelector]

def releasePlan (s : Scheduler) : List Call :=
  (s.removeMarker?.map (.patchScheduler s.space s.displayName)).toList

/-- What is called to undo the wiring, in this order. -/
def removalPlan (p : Pass) (s : Scheduler) : List Call :=
  p.undoPlan s (s.status.getD .blank) ++
    [.delete .topic s.space s.displayName, .delete .pullSubscription s.space s.displayName] ++
    releasePlan s

/-- All that a pass over a scheduler that is being deleted may call for, in this order, besides
reading; `desired` is the scheduler with the status that it computes. -/
def plan (p : Pass) (found desired : Scheduler) : List Call :=
  p.removalPlan found ++ [.updateStatus desired]

theorem plan_nodup {desired : Scheduler} : (p.plan found desired).Nodup := by
  unfold plan removalPlan undoPlan releasePlan
  cases found.removeMarker? with
  | none => split <;> (try split) <;> simp
  | some patch => split <;> (try split) <;> simp

theorem counted_undoNotification {u : Except Error Unit}
    (h : Trace (p.undoNotification s status) log u) :
    (counted log).Sublist (p.undoPlan s status) := by
  unfold undoNotification at h
  unfold undoPlan
  split at h
  · next hempty =>
    obtain ⟨rfl, -⟩ := Program.trace_pure.1 h
    exact List.nil_sublist _
  next hrecorded =>
    rw [if_neg hrecorded]
    cases hargs : p.deletionArgs s status with
    | error e =>
      rw [hargs] at h
      obtain ⟨rfl, -⟩ := Program.trace_pure.1 h
      exact List.nil_sublist _
    | ok args =>
      rw [hargs] at h
      obtain ⟨l, r, l', hjob, hrest, rfl⟩ := Program.trace_bind.1 h
      have hl' : l' = [] := by
        split at hrest <;> exact (Program.trace_pure.1 hrest).1
      rw [hl', List.append_nil]
      exact (trace_runJob hjob).1

theorem counted_release {r : Removal} (h : Trace (release s) log r) :
    (counted log).Sublist (releasePlan s) := by
  obtain ⟨l, marker, l', hmarker, hrest, rfl⟩ := Program.trace_bind.1 h
  have hl' : l' = [] := by
    split at hrest <;> exact (Program.trace_pure.1 hrest).1
  rw [hl', List.append_nil]
  unfold releaseMarker at hmarker
  unfold releasePlan
  cases hpatch : s.removeMarker? with
  | none =>
    rw [hpatch] at hmarker
    obtain ⟨rfl, -⟩ := Program.trace_pure.1 hmarker
    exact List.nil_sublist _
  | some patch =>
    rw [hpatch] at hmarker
    obtain ⟨reply, rest, rfl, hreply⟩ := Program.trace_ask_bind.1 hmarker
    have hnil : rest = [] := by
      split at hreply <;> exact (Program.trace_pure.1 hreply).1
    rw [hnil]
    exact List.Sublist.refl _

theorem counted_removing {d : Dependent} {left : Error → Removal}
    {rest : Scheduler → Program Removal} {r : Removal} {planned : List Call}
    (hrest : ∀ log, Trace (rest s) log r → (counted log).Sublist planned)
    (h : Trace (removing d left rest s) log r) :
    (counted log).Sublist (.delete d s.space s.displayName :: planned) := by
  obtain ⟨reply, later, rfl, hreply⟩ := Program.trace_ask_bind.1 h
  rw [counted_cons rfl]
  refine List.Sublist.cons_cons _ ?_
  rcases reply with e | _
  · obtain ⟨rfl, -⟩ := Program.trace_pure.1 hreply
    exact List.nil_sublist _
  · exact hrest later hreply

theorem counted_dismantle {r : Removal}
    (h : Trace (p.dismantle s (s.status.getD .blank)) log r) :
    (counted log).Sublist (p.removalPlan s) := by
  obtain ⟨l, u, l', hundo, hrest, rfl⟩ := Program.trace_bind.1 h
  unfold removalPlan
  rw [counted_append, List.append_assoc]
  refine (counted_undoNotification hundo).append ?_
  rcases u with e | ⟨⟩
  · obtain ⟨rfl, -⟩ := Program.trace_pure.1 hrest
    exact List.nil_sublist _
  · exact counted_removing (fun _ h => counted_removing (fun _ h => counted_release h) h) hrest

theorem counted_of_published {l : List Exchange} (h : ∀ x ∈ l, ∃ e, x.call = .publish e) :
    counted l = [] := by
  unfold counted
  rw [List.filter_eq_nil_iff]
  intro c hc
  obtain ⟨x, hx, rfl⟩ := List.mem_map.1 hc
  obtain ⟨e, he⟩ := h x hx
  rw [he]
  exact Bool.false_ne_true

theorem counted_conclude {result : Except Error Ending} {r : Except Error Unit}
    (h : Trace (conclude found s result) log r) : (counted log).Sublist [.updateStatus s] := by
  cases concluded_of_trace h with
  | unchanged => exact List.nil_sublist _
  | written stored later _ hlater =>
    have hlog : counted (⟨.updateStatus s, .ok stored⟩ :: later) = [.updateStatus s] := by
      rw [counted_cons rfl, counted_of_published hlater]
    exact hlog ▸ List.Sublist.refl _
  | refused e later _ hlater =>
    have hlog : counted (⟨.updateStatus s, .error e⟩ :: later) = [.updateStatus s] := by
      rw [counted_cons rfl, counted_of_published hlater]
    exact hlog ▸ List.Sublist.refl _

/-! ## Permission -/

/-- The notification is gone: none is recorded, or its deletion is confirmed. -/
def NotificationGone (p : Pass) (s : Scheduler) (log : List Exchange) : Prop :=
  (s.status.getD .blank).notificationId.getD "" = "" ∨
    ∃ args, p.deletionArgs s (s.status.getD .blank) = .ok args ∧ Confirmed args log

/-- A dependent is gone, or was gone before. -/
def DependentGone (d : Dependent) (s : Scheduler) (log : List Exchange) : Prop :=
  ∃ b, ⟨.delete d s.space s.displayName, .ok b⟩ ∈ log

/-- A step of the removal failed. -/
inductive StepFailed (p : Pass) (s : Scheduler) (log : List Exchange) : Prop
  | notification (l : List Exchange) (e : Error) : (∀ x ∈ l, x ∈ log) →
    Trace (p.undoNotification s (s.status.getD .blank)) l (.error e) → StepFailed p s log
  | dependent (d : Dependent) (e : Error) :
    ⟨.delete d s.space s.displayName, .error e⟩ ∈ log → StepFailed p s log
  | marker (patch : FinalizerPatch) (e : Error) :
    ⟨.patchScheduler s.space s.displayName patch, .error e⟩ ∈ log → StepFailed p s log

/-- What a call needs to have come before it in a pass over a scheduler that is being deleted. -/
def Allowed (p : Pass) (s : Scheduler) (log : List Exchange) : Call → Prop
  | .create d space object => ∃ args, p.deletionArgs s (s.status.getD .blank) = .ok args ∧
      args.action = .delete ∧ Call.create d space object = .create .job args.space args.job
  | .delete .topic _ _ => NotificationGone p s log
  | .delete .pullSubscription _ _ => DependentGone .topic s log
  | .delete .job _ _ => False
  | .patchScheduler _ _ patch => DependentGone .pullSubscription s log ∧
      s.metadata.markers = Scheduler.marker :: patch.finalizers
  | .updateStatus _ => StepFailed p s log
  | _ => True

theorem action_deletionArgs {args : Args} (h : p.deletionArgs s status = .ok args) :
    args.action = .delete := by
  obtain ⟨owner, -, rfl⟩ := notificationArgs_eq_ok.1 h
  rfl

theorem allowed_of_looks {c : Call} (h : c.looks = true) : Allowed p s log c := by
  cases c <;> trivial

theorem gone_of_undoNotification
    (h : Trace (p.undoNotification s (s.status.getD .blank)) log (.ok ())) :
    NotificationGone p s log := by
  unfold undoNotification at h
  split at h
  · next hempty => exact .inl hempty
  split at h
  · cases (Program.trace_pure.1 h).2
  next args hargs =>
    obtain ⟨l, r, l', hjob, hrest, rfl⟩ := Program.trace_bind.1 h
    rcases r with e | report
    · cases (Program.trace_pure.1 hrest).2
    · have hconfirmed := (trace_runJob hjob).2 report rfl
      exact .inr ⟨args, hargs, hconfirmed.mono fun x hx => List.mem_append_left _ hx⟩

theorem NotificationGone.mono {log' : List Exchange} (h : NotificationGone p s log)
    (hlog : ∀ x ∈ log, x ∈ log') : NotificationGone p s log' :=
  h.imp_right fun ⟨args, hargs, hconfirmed⟩ => ⟨args, hargs, hconfirmed.mono hlog⟩

theorem DependentGone.mono {d : Dependent} {log' : List Exchange} (h : DependentGone d s log)
    (hlog : ∀ x ∈ log, x ∈ log') : DependentGone d s log' :=
  h.imp fun _ hmem => hlog _ hmem

theorem StepFailed.mono {log' : List Exchange} (h : StepFailed p s log)
    (hlog : ∀ x ∈ log, x ∈ log') : StepFailed p s log' := by
  cases h with
  | notification l e hl h => exact .notification l e (fun x hx => hlog x (hl x hx)) h
  | dependent d e h => exact .dependent d e (hlog _ h)
  | marker patch e h => exact .marker patch e (hlog _ h)

theorem failed_of_removing {d : Dependent} {left : Error → Removal}
    {rest : Scheduler → Program Removal} {r : Removal}
    (hrest : ∀ log, Trace (rest s) log r → StepFailed p s log)
    (h : Trace (removing d left rest s) log r) : StepFailed p s log := by
  obtain ⟨reply, later, rfl, hreply⟩ := Program.trace_ask_bind.1 h
  rcases reply with e | _
  · exact .dependent d e List.mem_cons_self
  · exact (hrest later hreply).mono fun x hx => List.mem_cons_of_mem _ hx

theorem failed_of_release {r : Removal} (hr : r ≠ .complete) (h : Trace (release s) log r) :
    StepFailed p s log := by
  obtain ⟨l, marker, l', hmarker, hrest, rfl⟩ := Program.trace_bind.1 h
  rcases marker with e | ⟨⟩
  · unfold releaseMarker at hmarker
    split at hmarker
    · cases (Program.trace_pure.1 hmarker).2
    next patch hpatch =>
      obtain ⟨reply, later, rfl, hreply⟩ := Program.trace_ask_bind.1 hmarker
      rcases reply with e | _
      · exact .marker patch e List.mem_cons_self
      · cases (Program.trace_pure.1 hreply).2
  · exact absurd (Program.trace_pure.1 hrest).2 hr

/-- A removal that is not complete stopped at a step that failed. -/
theorem failed_of_dismantle {r : Removal} (hr : r ≠ .complete)
    (h : Trace (p.dismantle s (s.status.getD .blank)) log r) : StepFailed p s log := by
  obtain ⟨l, u, l', hundo, hrest, rfl⟩ := Program.trace_bind.1 h
  rcases u with e | ⟨⟩
  · exact .notification l e (fun x hx => List.mem_append_left _ hx) hundo
  · have hfailed : StepFailed p s l' :=
      failed_of_removing (fun _ h => failed_of_removing (fun _ h => failed_of_release hr h) h) hrest
    exact hfailed.mono fun x hx => List.mem_append_right _ hx

/-- A removal makes its calls one after the other: what comes later knows that all before it went
well. -/
theorem obeys_dismantle {P : List Exchange → Call → Prop}
    (hundo : Obeys P log (p.undoNotification s (s.status.getD .blank)))
    (htopic : ∀ log, NotificationGone p s log → P log (.delete .topic s.space s.displayName))
    (hsubscription : ∀ log, NotificationGone p s log → DependentGone .topic s log →
      P log (.delete .pullSubscription s.space s.displayName))
    (hpatch : ∀ log patch, NotificationGone p s log → DependentGone .topic s log →
      DependentGone .pullSubscription s log → s.removeMarker? = some patch →
      P log (.patchScheduler s.space s.displayName patch)) :
    Obeys P log (p.dismantle s (s.status.getD .blank)) := by
  refine hundo.bind fun l u hundone => ?_
  rcases u with e | ⟨⟩
  · trivial
  have hgone : NotificationGone p s (log ++ l) :=
    (gone_of_undoNotification hundone).mono fun x hx => List.mem_append_right _ hx
  refine Program.obeys_ask_bind (htopic _ hgone) fun reply => ?_
  rcases reply with e | b
  · trivial
  have htopicGone : DependentGone .topic s
      (log ++ l ++ [⟨.delete .topic s.space s.displayName, .ok b⟩]) := ⟨b, by simp⟩
  have hgone' := hgone.mono fun x hx => List.mem_append_left
    [⟨.delete .topic s.space s.displayName, .ok b⟩] hx
  refine Program.obeys_ask_bind (hsubscription _ hgone' htopicGone) fun reply => ?_
  rcases reply with e | b'
  · trivial
  refine obeys_release fun patch hremove => hpatch _ patch ?_ ?_ ⟨b', by simp⟩ hremove
  · exact hgone'.mono fun x hx => List.mem_append_left _ hx
  · exact htopicGone.mono fun x hx => List.mem_append_left _ hx

/-- Every call of a pass over a scheduler that is being deleted. -/
theorem obeys_attend_deleting {P : List Exchange → Call → Prop}
    (hdeleting : s.metadata.deleting = true) (htell : ∀ log e, P log (.publish e))
    (hundo : ∀ log, Obeys P log (p.undoNotification s (s.status.getD .blank)))
    (htopic : ∀ log, NotificationGone p s log → P log (.delete .topic s.space s.displayName))
    (hsubscription : ∀ log, NotificationGone p s log → DependentGone .topic s log →
      P log (.delete .pullSubscription s.space s.displayName))
    (hpatch : ∀ log patch, NotificationGone p s log → DependentGone .topic s log →
      DependentGone .pullSubscription s log → s.removeMarker? = some patch →
      P log (.patchScheduler s.space s.displayName patch))
    (hupdate : ∀ log l r, Trace (p.dismantle s (s.status.getD .blank)) l r → r ≠ .complete →
      P (log ++ l) (.updateStatus (p.settled s (r.record p)))) :
    Obeys P log (p.attend s) := by
  unfold attend
  rw [work_of_deleting p hdeleting, Program.bind_assoc]
  refine Program.obeys_ask_bind (htell _ _) fun reply => ?_
  rw [Program.bind_assoc]
  refine (obeys_dismantle (hundo _) htopic hsubscription hpatch).bind fun l r hr => ?_
  rw [Program.pure_bind]
  exact obeys_finish htell fun hne => hupdate _ l r hr fun hcomplete =>
    hne (congrArg Removal.result hcomplete)

theorem allowed_attend (hdeleting : s.metadata.deleting = true) :
    Obeys (Allowed p s) log (p.attend s) := by
  refine obeys_attend_deleting hdeleting (fun _ _ => trivial)
    (fun _ => obeys_undoNotification (fun _ _ => allowed_of_looks)
      fun _ args hargs => ⟨args, hargs, action_deletionArgs hargs, rfl⟩)
    (fun _ hgone => hgone) (fun _ _ htopic => htopic) (fun _ patch _ _ hsubscription hpatch => ?_)
    fun log l r hr hleft => ?_
  · exact ⟨hsubscription, (Scheduler.removeMarker?_eq_some hpatch).1⟩
  · exact (failed_of_dismantle hleft hr).mono fun x hx => List.mem_append_right _ hx

/-! ## The whole pass -/

variable {x : Except Error Ending × Scheduler} {r : Except Error Unit}

/-- The work on a scheduler that is being deleted is the removal, once that was announced. -/
theorem removal_of_work (hdeleting : s.metadata.deleting = true) (h : Trace (p.work s) log x) :
    ∃ heard l r, Trace (p.dismantle s (s.status.getD .blank)) l r ∧
      log = ⟨.publish (.deleteRequested s), heard⟩ :: l ∧
      x = (r.result, p.settled s (r.record p)) := by
  rw [work_of_deleting p hdeleting] at h
  obtain ⟨heard, later, rfl, hrest⟩ := Program.trace_ask_bind.1 h
  obtain ⟨l, r, l', hdismantle, hsettled, rfl⟩ := Program.trace_bind.1 hrest
  obtain ⟨rfl, rfl⟩ := Program.trace_pure.1 hsettled
  rw [List.append_nil]
  exact ⟨heard, l, r, hdismantle, rfl, rfl⟩

theorem counted_work (hdeleting : s.metadata.deleting = true) (h : Trace (p.work s) log x) :
    (counted log).Sublist (p.removalPlan s) := by
  obtain ⟨heard, l, r, hdismantle, rfl, rfl⟩ := removal_of_work hdeleting h
  rw [counted_cons_of_not rfl]
  exact counted_dismantle hdismantle

theorem counted_finish (h : Trace (finish found x) log r) :
    (counted log).Sublist [.updateStatus x.2] := by
  by_cases hfinalized : x.1 = .ok .finalized
  · obtain ⟨result, s⟩ := x
    subst hfinalized
    obtain ⟨rfl, -⟩ := Program.trace_pure.1 h
    exact List.nil_sublist _
  · rw [finish_eq hfinalized] at h
    exact counted_conclude h

theorem result_of_work (hdeleting : s.metadata.deleting = true) (h : Trace (p.work s) log x) :
    x.1 ≠ .ok .converged := by
  obtain ⟨heard, l, r, -, rfl, rfl⟩ := removal_of_work hdeleting h
  cases r <;> exact nofun

/-- A pass with calls after its work has failed before. -/
theorem failed_of_finish (hx : x.1 ≠ .ok .converged) (h : Trace (finish found x) log r)
    {e : Exchange} (he : e ∈ log) : r ≠ .ok () := by
  obtain ⟨result, s⟩ := x
  rcases result with error | ending
  · have hended : Concluded found s (.error error) log r := concluded_of_trace h
    intro hok
    obtain ⟨hresult, -⟩ := hended.ok_iff.1 hok
    cases hresult
  · cases ending with
    | converged => exact absurd rfl hx
    | finalized =>
      obtain ⟨rfl, -⟩ := Program.trace_pure.1 h
      cases he

theorem not_written_of_work (hdeleting : s.metadata.deleting = true) (h : Trace (p.work s) log x)
    {desired : Scheduler} {e : Exchange} (he : e ∈ log) : e.call ≠ .updateStatus desired := by
  intro hcall
  have hcounted : Call.updateStatus desired ∈ counted log := by
    unfold counted
    exact List.mem_filter.2 ⟨List.mem_map.2 ⟨e, he, hcall⟩, rfl⟩
  have hplanned := (counted_work hdeleting h).subset hcounted
  have hnodup : (p.plan s desired).Nodup := plan_nodup
  unfold plan at hnodup
  exact (List.nodup_append.1 hnodup).2.2 _ hplanned _ (List.mem_singleton_self _) rfl

variable {σ : Type} {answer : (c : Call) → σ → c.Answer × σ} {w : σ}

/-- The order of a teardown: the calls of a pass over a scheduler that is being deleted are, but for
reading, a selection from the plan in the order of the plan; each of them is allowed by what came
before it; and a pass that writes a status does not succeed. -/
theorem reconcile_deleting_order {key : String} {k : Key} (hkey : Key.parse key = .ok k)
    (hfound : (answer (.getScheduler k.space k.name) w).1 = .ok (some found))
    (hdeleting : found.metadata.deleting = true) :
    let worked := (p.work found).run answer (answer (.getScheduler k.space k.name) w).2
    let pass := (p.reconcile key).run answer w
    (counted pass.exchanges).Sublist (p.plan found worked.result.2) ∧
      (counted pass.exchanges).Nodup ∧
      (∀ pre x post, pass.exchanges = pre ++ x :: post → Allowed p found pre x.call) ∧
      ∀ x ∈ pass.exchanges, ∀ s, x.call = .updateStatus s → pass.result ≠ .ok () := by
  intro worked pass
  have hwork : Trace (p.work found) worked.exchanges worked.result :=
    Program.run_trace answer _ _
  have hfinish := Program.run_trace answer (finish found worked.result) worked.state
  have hattend := Program.run_trace answer (p.attend found)
    (answer (.getScheduler k.space k.name) w).2
  have hrun : pass = _ := reconcile_run (p := p) hkey hfound
  have hexchanges : pass.exchanges = ⟨.getScheduler k.space k.name, .ok (some found)⟩ ::
      (worked.exchanges ++ ((finish found worked.result).run answer worked.state).exchanges) := by
    rw [hrun]
    exact congrArg _ (Program.exchanges_bind answer (p.work found) (finish found) _)
  have hresult : pass.result = ((finish found worked.result).run answer worked.state).result := by
    rw [hrun]
    exact Program.result_bind answer (p.work found) (finish found) _
  have hplan : (counted pass.exchanges).Sublist (p.plan found worked.result.2) := by
    rw [hexchanges, counted_cons_of_not rfl, counted_append]
    exact (counted_work hdeleting hwork).append (counted_finish hfinish)
  refine ⟨hplan, hplan.nodup plan_nodup, fun pre x post hsplit => ?_, fun x hx s hcall => ?_⟩
  · rw [hrun] at hsplit
    cases pre with
    | nil =>
      obtain ⟨rfl, -⟩ := List.cons.inj hsplit
      trivial
    | cons first pre =>
      obtain ⟨-, hrest⟩ := List.cons.inj hsplit
      have hobeys : Obeys (Allowed p found) [first] (p.attend found) := allowed_attend hdeleting
      exact hobeys.trace hattend hrest
  · rw [hresult]
    rw [hexchanges, List.mem_cons, List.mem_append] at hx
    rcases hx with rfl | hx | hx
    · cases hcall
    · exact absurd hcall (not_written_of_work hdeleting hwork hx)
    · exact failed_of_finish (result_of_work hdeleting hwork) hfinish hx

/-- The sample on its way out, with its marker on and its notification recorded. -/
def departing : Scheduler :=
  { Scheduler.sample with
    metadata.deletionTimestamp := some ⟨0, false⟩
    metadata.finalizers := some [Scheduler.marker]
    status := some
      { SchedulerStatus.blank with projectId := some "shop", notificationId := some "9" } }

/-- Its topic and its pull subscription are there, and no job. -/
def wiredDeparting : World :=
  .ofObjects [departing] (departing.topic "scheduler-7").toOption.toList
    (departing.pullSubscription "scheduler-7").toOption.toList [] [] none

/-- After a first pass over it, when the job of that pass has succeeded. -/
def undoneDeparting : World :=
  let p := Pass.sample "2020-01-01T00:00:00Z"
  let w := (wiredDeparting.run (p.reconcile "media/photos")).state
  { w with stores := { w.stores with
      jobs := w.stores.jobs.map fun e => (e.1, completeJob e.2)
      pods := [donePod .delete (.succeeded "" "")] } }

theorem sample_reconcile_deleting_order :
    let p := Pass.sample "2020-01-01T00:00:00Z"
    let first := wiredDeparting.run (p.reconcile "media/photos")
    let pass := undoneDeparting.run (p.reconcile "media/photos")
    (counted first.exchanges).map (·.site?) = [some (.create .job), some .updateStatus] ∧
      first.result ≠ .ok () ∧
      (counted pass.exchanges).map (·.site?) = [some .listPods, some (.delete .topic),
        some (.delete .pullSubscription), some .patchScheduler] ∧
      pass.result.isOk = true ∧
      ∃ found, Key.parse "media/photos" = .ok .sample ∧
        (World.answer (.getScheduler "media" "photos") undoneDeparting).1 = .ok (some found) ∧
        found.metadata.deleting = true ∧
        let worked := (p.work found).run World.answer
          (World.answer (.getScheduler "media" "photos") undoneDeparting).2
        (counted pass.exchanges).Sublist (p.plan found worked.result.2) ∧
        (counted pass.exchanges).Nodup ∧
        (∀ pre x post, pass.exchanges = pre ++ x :: post → Allowed p found pre x.call) ∧
        ∀ x ∈ pass.exchanges, ∀ s, x.call = .updateStatus s → pass.result ≠ .ok () := by
  intro p first pass
  have hkey : Key.parse "media/photos" = .ok .sample := rfl
  have hcreated : (counted first.exchanges).map (·.site?) =
      [some (.create .job), some .updateStatus] := by decide +kernel
  have hundone : (counted pass.exchanges).map (·.site?) = [some .listPods, some (.delete .topic),
      some (.delete .pullSubscription), some .patchScheduler] := by decide +kernel
  refine ⟨hcreated, ?_, hundone, by decide +kernel, ?_⟩
  · have hwrites : (first.exchanges.any fun x => x.call.site? = some .updateStatus) = true := by
      decide +kernel
    obtain ⟨⟨c, reply⟩, hx, hsite⟩ := List.any_eq_true.1 hwrites
    have hordered := @reconcile_deleting_order p departing World World.answer wiredDeparting
      "media/photos" .sample hkey rfl rfl
    cases c with
    | updateStatus s => exact hordered.2.2.2 _ hx s rfl
    | _ => cases hsite
  · have hfound : (World.answer (.getScheduler "media" "photos")
        undoneDeparting).1.toOption.join.map (·.metadata.deleting) = some true := by
      decide +kernel
    obtain ⟨found, hstored, hdeleting⟩ := Option.map_eq_some_iff.1 hfound
    have hread : (World.answer (.getScheduler "media" "photos") undoneDeparting).1 =
        .ok (some found) := by
      revert hstored
      cases (World.answer (.getScheduler "media" "photos") undoneDeparting).1 with
      | error e => exact nofun
      | ok found? => exact congrArg Except.ok
    exact ⟨found, hkey, hread, hdeleting, reconcile_deleting_order hkey hread hdeleting⟩

end EventWiring.Pass
