import EventWiring.Proofs.Notification.Report
import EventWiring.Proofs.Pass.Released
import EventWiring.Proofs.Requeue

/-!
# Which reports are accepted

Where no call fails and every read tells what is stored, running a job yields a report exactly if
the job is complete and has not failed, and the pod that counts leaves that report as its last words
and reports success (`World.report_accepted`). A job that has failed, a pod of another job and words
that are no report never let a pass go on.
-/

namespace EventWiring

open Notification (Action Args Phase Report actionLabel jobName podSelector uidLabel)
open Program (Exchange)

/-! ## Jobs -/

namespace Job

variable {j j' : Job}

/-- It is complete, and has not failed, wherever its conditions say so. -/
def Completed (j : Job) : Prop := j.Holds "Complete" ∧ ¬ j.Holds "Failed"

theorem phase_succeeded_iff : j.phase = .succeeded ↔ j.Completed := by
  simp only [Completed, ← isSome_holding?]
  unfold phase finished failed
  cases (j.holding? "Complete").isSome <;> cases (j.holding? "Failed").isSome <;> simp

theorem outcome_phase_iff {name : String} : j.phase.outcome name = .ok () ↔ j.Completed := by
  rw [← phase_succeeded_iff]
  refine ⟨Pass.outcome_ok, fun h => ?_⟩
  rw [h]
  rfl

end Job

/-- Phases that differ at most in the message of a failure. -/
def Notification.Phase.Alike (p q : Phase) : Prop :=
  p = q ∨ ∃ m m', p = .failed m ∧ q = .failed m'

namespace Job

variable {j j' : Job}

theorem Holds.perm {type : String} (h : j.conditions.Perm j'.conditions) (hj : j.Holds type) :
    j'.Holds type := by
  obtain ⟨c, hc, hsays⟩ := hj
  exact ⟨c, h.mem_iff.1 hc, hsays⟩

/-- The order of the conditions counts at most for the message. -/
theorem alike_of_perm (h : j.conditions.Perm j'.conditions) : j.phase.Alike j'.phase := by
  have hholds : ∀ type, (j.holding? type).isSome = (j'.holding? type).isSome := by
    intro type
    rw [Bool.eq_iff_iff, isSome_holding?, isSome_holding?]
    exact ⟨Holds.perm h, Holds.perm h.symm⟩
  have hfailed : j.failed = j'.failed := hholds "Failed"
  have hfinished : j.finished = j'.finished := by
    unfold finished
    rw [hholds, hfailed]
  unfold phase
  rw [hfinished, hfailed]
  split
  · exact .inl rfl
  split
  · exact .inr ⟨_, _, rfl, rfl⟩
  · exact .inl rfl

end Job

/-! ## Pods -/

namespace Stores

/-- The labels that the selector of a job asks for. -/
theorem wantedLabels_podSelector {uid : String} (huid : ',' ∉ uid.toList) (action : Action) :
    wantedLabels (podSelector uid action) = [(uidLabel, uid), (actionLabel, action.name)] := by
  have hparts : Text.splitOn ',' (podSelector uid action).toList =
      [uidLabel.toList ++ '=' :: uid.toList, actionLabel.toList ++ '=' :: action.name.toList] := by
    have htext : (podSelector uid action).toList = (uidLabel.toList ++ '=' :: uid.toList) ++
        ',' :: (actionLabel.toList ++ '=' :: action.name.toList) := by
      simp [podSelector]
    have hfirst : ',' ∉ uidLabel.toList ++ '=' :: uid.toList := by
      simpa [uidLabel] using huid
    have hsecond : ',' ∉ actionLabel.toList ++ '=' :: action.name.toList := by
      cases action <;> decide
    rw [htext, Text.splitOn_append hfirst, Text.splitOn_of_not_mem hsecond]
  have hpart : ∀ label value : String, '=' ∉ label.toList →
      (label.toList ++ '=' :: value.toList).dropWhile (· ≠ '=') = '=' :: value.toList ∧
      (label.toList ++ '=' :: value.toList).takeWhile (· ≠ '=') = label.toList := by
    intro label value hlabel
    have hall : ∀ c ∈ label.toList, decide (c ≠ '=') = true := by
      intro c hc
      exact decide_eq_true fun h => hlabel (h ▸ hc)
    constructor
    · rw [List.dropWhile_append_of_pos hall]
      rfl
    · rw [List.takeWhile_append_of_pos hall]
      simp
  obtain ⟨huidRest, huidLabel⟩ := hpart uidLabel uid (by decide)
  obtain ⟨hactionRest, hactionLabel⟩ := hpart actionLabel action.name (by decide)
  unfold wantedLabels
  rw [hparts]
  simp only [List.filterMap_cons, List.filterMap_nil, huidRest, huidLabel, hactionRest,
    hactionLabel, String.ofList_toList]

theorem listPods_podSelector (st : Stores) (space : String) {uid : String}
    (huid : ',' ∉ uid.toList) (action : Action) :
    st.listPods space (podSelector uid action) = st.pods.filter fun p =>
      p.metadata.space? = some space && p.label? uidLabel = some uid &&
        p.label? actionLabel = some action.name := by
  unfold listPods selected
  rw [wantedLabels_podSelector huid]
  simp [Bool.and_assoc]

end Stores

namespace Pod

variable {p : Pod} {pods : List Pod} {message : String} {r : Report}

def Succeeded (p : Pod) : Prop :=
  ∃ status, p.status = some status ∧ status.phase = some "Succeeded"

theorem hasSucceeded_iff : p.hasSucceeded = true ↔ p.Succeeded := by
  unfold hasSucceeded Succeeded
  cases p.status <;> simp

/-- Of several pods the first that succeeded counts, and where none did, the first. -/
inductive Counts : List Pod → Pod → Prop
  | succeeded {pre post : List Pod} {p : Pod} : p.Succeeded → (∀ q ∈ pre, ¬ q.Succeeded) →
    Counts (pre ++ p :: post) p
  | first {post : List Pod} {p : Pod} : (∀ q ∈ p :: post, ¬ q.Succeeded) → Counts (p :: post) p

theorem select_ok_iff : select pods = .ok p ↔ Counts pods p := by
  have hnever : ∀ {qs : List Pod}, qs.find? hasSucceeded = none ↔ ∀ q ∈ qs, ¬ q.Succeeded := by
    intro qs
    simp only [List.find?_eq_none, hasSucceeded_iff]
  constructor
  · intro h
    unfold select at h
    cases hfound : pods.find? hasSucceeded with
    | some q =>
      rw [hfound] at h
      obtain rfl : q = p := Except.ok.inj h
      obtain ⟨hq, pre, post, rfl, hpre⟩ := List.find?_eq_some_iff_append.1 hfound
      refine .succeeded (hasSucceeded_iff.1 hq) fun q' hq' hsucceeded => ?_
      simpa [hasSucceeded_iff.2 hsucceeded] using hpre q' hq'
    | none =>
      cases pods with
      | nil => cases h
      | cons q post =>
        rw [hfound] at h
        obtain rfl : q = p := Except.ok.inj h
        exact .first (hnever.1 hfound)
  · intro h
    unfold select
    cases h with
    | succeeded hp hpre =>
      rw [List.find?_append, hnever.2 hpre, List.find?_cons_of_pos (hasSucceeded_iff.2 hp)]
      rfl
    | first hnone =>
      rw [hnever.2 hnone]
      rfl

/-- The first container of the pod has ended with these last words. -/
def Says (p : Pod) (message : String) : Prop :=
  ∃ status container others termination, p.status = some status ∧
    status.containers = some (container :: others) ∧ container.terminated = some termination ∧
    termination.message = some message ∧ message ≠ ""

theorem says_iff : p.Says message ↔ p.terminationMessage = message ∧ message ≠ "" := by
  constructor
  · rintro ⟨status, container, others, termination, hstatus, hcontainers, hended, hmessage, hne⟩
    refine ⟨?_, hne⟩
    simp [terminationMessage, hstatus, hcontainers, hended, hmessage]
  · rintro ⟨h, hne⟩
    -- wherever something is missing, the words are empty
    rcases p with ⟨_, _ | ⟨_, _ | _ | ⟨⟨_ | ⟨_ | words⟩⟩, others⟩⟩⟩ <;>
      first
        | exact absurd h.symm hne
        | exact ⟨_, _, _, _, rfl, rfl, rfl, congrArg some h, hne⟩

theorem report_ok_iff :
    p.report = .ok r ↔ ∃ message, p.Says message ∧ Report.decode message = .ok r := by
  simp only [says_iff]
  unfold report
  constructor
  · intro h
    by_cases hempty : p.terminationMessage = ""
    · rw [if_pos hempty] at h
      cases h
    · rw [if_neg hempty] at h
      exact ⟨_, ⟨rfl, hempty⟩, h⟩
  · rintro ⟨message, ⟨rfl, hne⟩, hdecode⟩
    rw [if_neg hne]
    exact hdecode

end Pod

namespace Pass

theorem reportOf_ok_iff {pods : List Pod} {r : Report} : reportOf pods = .ok r ↔
    ∃ pod message, Pod.Counts pods pod ∧ pod.Says message ∧ Report.decode message = .ok r ∧
      r.success = true := by
  constructor
  · intro h
    obtain ⟨pod, hselect, hreport, hsuccess⟩ := reportOf_ok h
    obtain ⟨message, hsays, hdecode⟩ := Pod.report_ok_iff.1 hreport
    exact ⟨pod, message, Pod.select_ok_iff.1 hselect, hsays, hdecode, hsuccess⟩
  · rintro ⟨pod, message, hcounts, hsays, hdecode, hsuccess⟩
    exact reportOf_of_success (Pod.select_ok_iff.2 hcounts)
      (Pod.report_ok_iff.2 ⟨message, hsays, hdecode⟩) hsuccess

namespace JobRun

variable {st st' : Stores} {args : Args} {log : List Exchange} {r : Except Error Report}

/-- Where nothing goes wrong, a report is yielded exactly if the stored job has completed and the
pod that counts leaves that report. -/
theorem ok_iff (h : JobRun .none st args log st' r) {report : Report} : r = .ok report ↔
    (∃ job, st.jobs.get? ⟨args.space, args.jobName⟩ = some job ∧ job.Completed) ∧
      ∃ pod message, Pod.Counts (st.listPods args.space args.podSelector) pod ∧
        pod.Says message ∧ Report.decode message = .ok report ∧ report.success = true := by
  cases h with
  | unread e hfails => exact hfails.elim
  | created hfinds hnone =>
    refine iff_of_false nofun ?_
    rintro ⟨⟨job, hstored, -⟩, -⟩
    exact absurd (hnone.symm.trans hstored) nofun
  | refused e e' hfinds =>
    refine iff_of_false nofun ?_
    rintro ⟨⟨job, hstored, -⟩, -⟩
    exact absurd ((hfinds.resolve_right id).symm.trans hstored) nofun
  | unfit job e hfinds houtcome =>
    refine iff_of_false nofun ?_
    rintro ⟨⟨job', hstored, hcompleted⟩, -⟩
    obtain rfl : job = job' := Option.some.inj ((hfinds.resolve_right id).symm.trans hstored)
    rw [Job.outcome_phase_iff.2 hcompleted] at houtcome
    cases houtcome
  | unlisted job e hfinds hsucceeded hfails => exact hfails.elim
  | reported job hfinds hsucceeded =>
    rw [reportOf_ok_iff]
    have hcompleted := Job.phase_succeeded_iff.1 hsucceeded
    exact (and_iff_right ⟨job, hfinds.resolve_right id, hcompleted⟩).symm

/-- A job is created only where none is stored. -/
theorem of_create (h : JobRun .none st args log st' r) {d : Dependent} {space : String}
    {object : d.Object} (hcreate : Call.create d space object ∈ log.map (·.call)) :
    st.jobs.get? ⟨args.space, args.jobName⟩ = none := by
  cases h with
  | created hfinds hnone => exact hnone
  | refused e e' hfinds => exact hfinds.resolve_right id
  | _ => simp at hcreate

/-- Pods are listed only for a job that has completed. -/
theorem of_listPods (h : JobRun .none st args log st' r) {space selector : String}
    (hlist : Call.listPods space selector ∈ log.map (·.call)) :
    ∃ job, st.jobs.get? ⟨args.space, args.jobName⟩ = some job ∧ job.Completed := by
  cases h with
  | unlisted job e hfinds hsucceeded =>
    exact ⟨job, hfinds.resolve_right id, Job.phase_succeeded_iff.1 hsucceeded⟩
  | reported job hfinds hsucceeded =>
    exact ⟨job, hfinds.resolve_right id, Job.phase_succeeded_iff.1 hsucceeded⟩
  | _ => simp at hlist

end JobRun

end Pass

/-! ## Runs -/

namespace World

variable {w : World} {args : Args}

/-- A job result is accepted exactly when it should be. A job is created only where none is stored,
pods are only asked for a job that has completed, and in which order the conditions of a job stand
changes at most the message of a failure. -/
theorem report_accepted (hmended : ∀ site, w.faults.failure? site = none)
    (hcurrent : w.Truthful (Pass.runJob args)) :
    let run := w.run (Pass.runJob args)
    let calls := run.exchanges.map (·.call)
    let stored := w.stores.jobs.get? ⟨args.space, jobName args.uid args.action⟩
    let pods := w.stores.listPods args.space (podSelector args.uid args.action)
    (∀ r, run.result = .ok r ↔ (∃ job, stored = some job ∧ job.Completed) ∧
      ∃ pod message, Pod.Counts pods pod ∧ pod.Says message ∧ Report.decode message = .ok r ∧
        r.success = true) ∧
    (',' ∉ args.uid.toList → pods = w.stores.pods.filter fun p =>
      p.metadata.space? = some args.space && p.label? uidLabel = some args.uid &&
        p.label? actionLabel = some args.action.name) ∧
    (∀ d space object, Call.create d space object ∈ calls → stored = none) ∧
    (∀ space selector, Call.listPods space selector ∈ calls →
      ∃ job, stored = some job ∧ job.Completed) ∧
    ∀ job job' : Job, job.conditions.Perm job'.conditions → job.phase.Alike job'.phase := by
  intro run calls stored pods
  obtain ⟨log, hends, hcalls⟩ := ends_current hmended (Pass.deaf_runJob args) hcurrent
  have hrun := Pass.ends_runJob hends
  change calls = _ at hcalls
  rw [hcalls]
  exact ⟨fun r => hrun.ok_iff, fun huid => Stores.listPods_podSelector _ _ huid _,
    fun _ _ _ => hrun.of_create, fun _ _ => hrun.of_listPods, fun _ _ => Job.alike_of_perm⟩

/-- What the job that creates the notification of the sample needs to know. -/
def sampleArgs : Args where
  uid := "7"
  space := "media"
  owner := ⟨Scheduler.apiVersion, "Scheduler", "photos", "7", some true, some true⟩
  image := "notifications:1"
  action := .create
  projectId := "shop"
  bucket := "photos"
  topicId := some "scheduler-7"
  notificationId := none
  secret := .standard
  backoffLimit := 3

/-- Its job has completed, at the second attempt, and the pod of another job is left. -/
def attempted : World where
  stores :=
    { Stores.empty with
      jobs := [(⟨"media", jobName "7" .create⟩,
        { sampleArgs.job with status := some ⟨some [⟨"Failed", "False", none, none⟩,
          ⟨"SuccessCriteriaMet", "True", none, none⟩, ⟨"Complete", "True", none, none⟩]⟩ })]
      pods := [Pass.donePod .delete (.succeeded "8" ""),
        { Pass.donePod .create (.failed "quota" "") with
          status := some ⟨some "Failed", some [⟨some ⟨some "quota"⟩⟩]⟩ },
        Pass.donePod .create (.succeeded "9" "shop")] }
  recorder := none
  faults := .none

theorem attempted_report_accepted :
    (∀ site, attempted.faults.failure? site = none) ∧
      attempted.Truthful (Pass.runJob sampleArgs) ∧
      (attempted.run (Pass.runJob sampleArgs)).result = .ok (.succeeded "9" "shop") := by
  have hcurrent : attempted.Truthful (Pass.runJob sampleArgs) := truthful_of_clear rfl rfl _
  refine ⟨fun _ => rfl, hcurrent, ?_⟩
  obtain ⟨hresult, hpods, -⟩ := report_accepted (fun _ => rfl) hcurrent
  refine (hresult _).2 ⟨⟨_, rfl, ?_⟩, ?_⟩
  · exact Job.phase_succeeded_iff.1 (by decide)
  · rw [hpods (by decide)]
    refine ⟨Pass.donePod .create (.succeeded "9" "shop"), _, Pod.select_ok_iff.1 (by rfl),
      ⟨_, _, _, _, rfl, rfl, rfl, rfl, by decide⟩, Report.decode_render _, rfl⟩

end World

end EventWiring
