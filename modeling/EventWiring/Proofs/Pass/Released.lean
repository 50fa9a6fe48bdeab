import EventWiring.Proofs.Pass.Jobs

/-!
# What is gone when the marker is taken off

Over the whole history of a scheduler, a job that deletes a notification deletes the one that is
recorded (`Tidy`). While the scheduler is on its way out, the name of its notification stays
recorded until such a job is known to have succeeded (`Departing`). Hence the marker is taken off
only once the notification that was recorded is known to be gone (`released_after_deletion`). Of a
notification whose name was never recorded nothing is known: the marker is also taken off while a
job that creates it is still under way (`released_over_ongoing_creation`).
-/

namespace EventWiring.Pass

open Program (Exchange Ends Heeds Reaches)
open Notification (Action Report jobName)

variable {st st' mid : Stores} {log : List Exchange} {p : Pass} {s : Scheduler}

/-! ## Histories -/

/-- What is stored of a scheduler: a job that deletes a notification is there only when the
scheduler is on its way out, and deletes the notification that is recorded. -/
structure Tidy (key : Key) (s : Scheduler) (st : Stores) : Prop where
  stored : st.schedulers.get? key = some s
  key : Key.of s.metadata = key
  jobs : ∀ job, st.jobs.get? (s.jobKey .delete) = some job →
    s.metadata.deleting = true ∧ (s.recordedId ≠ "" → job.Deletes s.recordedId)

variable {key : Key} {text : String} {r : Except Error Unit}

namespace Tidy

theorem dismantling {q : Program (Except Error Unit)} (h : Tidy key s st)
    (hdeleting : s.metadata.deleting = true) (hkey : Key.parse text = .ok key)
    (hpass : Reaches .failures st (p.reconcile text) log mid q) :
    Dismantling p s st log mid ∧ ∀ c next, q = .call c next → Careful p s log c := by
  obtain ⟨hstored, rfl, hjobs⟩ := h
  exact Dismantling.of_reaches hkey hstored hdeleting (fun job hjob => (hjobs job hjob).2) hpass

/-- No pass over a live scheduler creates a job that deletes something. -/
theorem pass_live (h : Tidy key s st) (hlive : s.metadata.deleting = false)
    (hkey : Key.parse text = .ok key) (hpass : Ends .failures st (p.reconcile text) log st' r) :
    ∃ s', Tidy key s' st' := by
  obtain ⟨hstored, rfl, hjobs⟩ := h
  have hheeds : Heeds .failures (fun _ _ c => ¬ c.Touches .job (s.jobKey .delete)) [] st
      (p.reconcile text) :=
    heeds_reconcile_stored hkey hstored id (spared_attend hlive hstored)
  have hnone : st.jobs.get? (s.jobKey .delete) = none := by
    rw [Option.eq_none_iff_forall_ne_some]
    intro job hjob
    rw [hlive] at hjobs
    exact Bool.false_ne_true (hjobs job hjob).1
  have hkept := hheeds.keeps (I := fun _ mid => mid.jobs.get? (s.jobKey .delete) = none ∧
    ∃ s', mid.schedulers.get? (Key.of s.metadata) = some s' ∧ s'.bare = s.bare) hpass
    (fun hc hgives hmid => by
      obtain ⟨hnone, s₁, hs₁, hbare₁⟩ := hmid
      obtain ⟨s₂, hs₂, hbare₂, -⟩ := hgives.scheduler hs₁
      exact ⟨(hgives.untouched (d := .job) hc).trans hnone, s₂, hs₂, hbare₂.trans hbare₁⟩)
    ⟨hnone, s, hstored, rfl⟩
  obtain ⟨hnone', s', hs', hbare⟩ := hkept
  refine ⟨s', hs', Scheduler.key_of_bare hbare, fun job hjob => ?_⟩
  rw [Scheduler.jobKey_of_bare hbare, hnone'] at hjob
  cases hjob

/-- Whatever others do, and a pass over a scheduler on its way out keeps it so. -/
theorem pass (h : Tidy key s st) (hkey : Key.parse text = .ok key)
    (hpass : Ends .failures st (p.reconcile text) log st' r) :
    ∃ s', Tidy key s' st' ∧ (s.metadata.deleting = true → s'.bare = s.bare ∧
      (s'.recordedId = s.recordedId ∨ s'.recordedId = "" ∧ NotificationGone p s log)) := by
  cases hdeleting : s.metadata.deleting with
  | false =>
    obtain ⟨s', htidy⟩ := h.pass_live hdeleting hkey hpass
    exact ⟨s', htidy, nofun⟩
  | true =>
    obtain ⟨hdismantling, -⟩ := h.dismantling hdeleting hkey hpass
    obtain ⟨s', hs', hbare, hid⟩ := hdismantling.scheduler
    obtain ⟨-, rfl, -⟩ := h
    refine ⟨s', ⟨hs', Scheduler.key_of_bare hbare, fun job hjob => ?_⟩, fun _ => ⟨hbare, hid⟩⟩
    rw [Scheduler.jobKey_of_bare hbare] at hjob
    refine ⟨(Scheduler.deleting_of_bare hbare).trans hdeleting, fun hrecorded => ?_⟩
    have hsame : s'.recordedId = s.recordedId := hid.resolve_right fun hempty => hrecorded hempty.1
    rw [hsame] at hrecorded ⊢
    exact hdismantling.deletion job hjob hrecorded

theorem stirred (h : Tidy key s st) (hstirred : st.Stirred key st') :
    ∃ s', Tidy key s' st' ∧ (s.metadata.deleting = true → s' = s) := by
  have hjobs : ∀ {k : Key} {job : Job}, st'.jobs.get? k = some job →
      ∃ old : Job, st.jobs.get? k = some old ∧ job.spec = old.spec := by
    intro k job hjob
    have hsame : (st'.jobs.get? k).map (Dependent.unreported .job) =
        (st.jobs.get? k).map (Dependent.unreported .job) := hstirred.unreported .job k
    rw [hjob] at hsame
    obtain ⟨old, hold, hunreported⟩ := Option.map_eq_some_iff.1 hsame.symm
    exact ⟨old, hold, (congrArg Job.spec hunreported).symm⟩
  have hdeletes : ∀ {job old : Job} {id : String}, job.spec = old.spec → old.Deletes id →
      job.Deletes id := by
    rintro job old id hspec ⟨args, haction, hid, hargs⟩
    exact ⟨args, haction, hid, hspec.trans hargs⟩
  rcases hstirred.scheduler with hsame | ⟨s₁, time, version, hs₁, hlive, hdoomed⟩
  · refine ⟨s, ⟨hsame.trans h.stored, h.key, fun job hjob => ?_⟩, fun _ => rfl⟩
    obtain ⟨old, hold, hspec⟩ := hjobs hjob
    exact (h.jobs old hold).imp_right fun hold hid => hdeletes hspec (hold hid)
  · obtain rfl : s = s₁ := Option.some.inj (h.stored.symm.trans hs₁)
    refine ⟨_, ⟨hdoomed, h.key, fun job hjob => ⟨rfl, fun hid => ?_⟩⟩, fun hdeleting => ?_⟩
    · obtain ⟨old, hold, hspec⟩ := hjobs hjob
      exact hdeletes hspec ((h.jobs old hold).2 hid)
    · rw [hlive] at hdeleting
      cases hdeleting

end Tidy

/-- What has happened since `s₁` was found on its way out: what it had recorded is still recorded,
or is known to be deleted, and nobody has created anything. -/
structure Departing (s₁ : Scheduler) (st₁ : Stores) (log : List Exchange) (s : Scheduler)
    (st : Stores) : Prop where
  bare : s.bare = s₁.bare
  id : s.recordedId = s₁.recordedId ∨
    (s₁.recordedId ≠ "" → DeletionConfirmed s₁ s₁.recordedId log)
  creation : (st.jobs.get? (s₁.jobKey .create)).map (Dependent.unreported .job) =
    (st₁.jobs.get? (s₁.jobKey .create)).map (Dependent.unreported .job)

namespace Departing

variable {s₁ : Scheduler} {st₁ : Stores} {l : List Exchange}

theorem dismantled (h : Departing s₁ st₁ log s st) (hdismantling : Dismantling p s st l mid) :
    (mid.jobs.get? (s₁.jobKey .create)).map (Dependent.unreported .job) =
        (st₁.jobs.get? (s₁.jobKey .create)).map (Dependent.unreported .job) ∧
      (NotificationGone p s l → s₁.recordedId ≠ "" →
        DeletionConfirmed s₁ s₁.recordedId (log ++ l)) := by
  constructor
  · have hcreation := hdismantling.creation
    rw [Scheduler.jobKey_of_bare h.bare] at hcreation
    rw [hcreation]
    exact h.creation
  · intro hgone hid
    rcases h.id with hsame | hconfirmed
    · have hdeleted := hdismantling.confirmed hgone (hsame ▸ hid)
      rw [hsame] at hdeleted
      exact (hdeleted.congr h.bare).mono fun x hx => List.mem_append_right _ hx
    · exact (hconfirmed hid).mono fun x hx => List.mem_append_left _ hx

theorem pass (h : Departing s₁ st₁ log s st) (htidy : Tidy key s st)
    (hdeleting : s.metadata.deleting = true) (hkey : Key.parse text = .ok key)
    (hpass : Ends .failures st (p.reconcile text) l st' r) :
    ∃ s', Tidy key s' st' ∧ Departing s₁ st₁ (log ++ l) s' st' := by
  obtain ⟨s', htidy', hkept⟩ := htidy.pass hkey hpass
  obtain ⟨hbare, hid⟩ := hkept hdeleting
  obtain ⟨hdismantling, -⟩ := htidy.dismantling hdeleting hkey hpass
  obtain ⟨hcreation, hconfirmed⟩ := h.dismantled hdismantling
  refine ⟨s', htidy', hbare.trans h.bare, ?_, hcreation⟩
  rcases hid with hsame | ⟨-, hgone⟩
  · refine h.id.imp hsame.trans fun hbefore hrecorded => ?_
    exact (hbefore hrecorded).mono fun x hx => List.mem_append_left _ hx
  · exact .inr (hconfirmed hgone)

theorem stirred (h : Departing s₁ st₁ log s st) (htidy : Tidy key s st)
    (hdeleting : s.metadata.deleting = true) (hstirred : st.Stirred key st') :
    ∃ s', Tidy key s' st' ∧ Departing s₁ st₁ log s' st' := by
  obtain ⟨s', htidy', hsame⟩ := htidy.stirred hstirred
  obtain rfl := hsame hdeleting
  exact ⟨_, htidy', h.bare, h.id, (hstirred.unreported .job _).trans h.creation⟩

end Departing

/-- A scheduler that was just created: nothing is recorded, and there are no jobs. -/
structure Fresh (key : Key) (s : Scheduler) (st : Stores) : Prop where
  stored : st.schedulers.get? key = some s
  key : Key.of s.metadata = key
  status : s.status.getD .blank = .blank
  jobs : st.jobs = []

variable {st₀ st₁ st₂ : Stores} {s₀ s₁ : Scheduler} {log₁ log₂ pre : List Exchange}

theorem tidy_of_history (hfresh : Fresh key s₀ st₀)
    (h : History .failures key (Stores.Stirred key) st₀ log st) : ∃ s, Tidy key s st := by
  refine h.keeps (I := fun _ st => ∃ s, Tidy key s st) ?_ ?_ ?_
  · refine ⟨s₀, hfresh.stored, hfresh.key, fun job hjob => ?_⟩
    rw [hfresh.jobs] at hjob
    cases hjob
  · rintro log l mid st' text r p hkey hpass ⟨s, htidy⟩
    obtain ⟨s', htidy', -⟩ := htidy.pass hkey hpass
    exact ⟨s', htidy'⟩
  · rintro log mid st' hstirred ⟨s, htidy⟩
    obtain ⟨s', htidy', -⟩ := htidy.stirred hstirred
    exact ⟨s', htidy'⟩

theorem departing_of_history (htidy : Tidy key s₁ st₁) (hdeleting : s₁.metadata.deleting = true)
    (h : History .failures key (Stores.Stirred key) st₁ log st) :
    ∃ s, Tidy key s st ∧ Departing s₁ st₁ log s st := by
  have hkept : ∀ {log : List Exchange} {s : Scheduler} {st : Stores},
      Departing s₁ st₁ log s st → s.metadata.deleting = true :=
    fun h => (Scheduler.deleting_of_bare h.bare).trans hdeleting
  refine h.keeps (I := fun log st => ∃ s, Tidy key s st ∧ Departing s₁ st₁ log s st) ?_ ?_ ?_
  · exact ⟨s₁, htidy, rfl, .inl rfl, rfl⟩
  · rintro log l mid st' text r p hkey hpass ⟨s, htidy, hdeparting⟩
    exact hdeparting.pass htidy (hkept hdeparting) hkey hpass
  · rintro log mid st' hstirred ⟨s, htidy, hdeparting⟩
    exact hdeparting.stirred htidy (hkept hdeparting) hstirred

/-! ## A sample history -/

section Sample

/-- The stores after a pass over the sample. -/
def passed (st : Stores) : Stores :=
  (Pass.sample "2020-01-01T00:00:00Z").after "media/photos" st

def wellCondition : Condition := ⟨Condition.ready, Condition.isTrue, none, none, none⟩

def wellTopic (topic : Topic) : Topic :=
  { topic with status := some ⟨[wellCondition], some "shop", some "scheduler-7", none⟩ }

def wellSubscription (subscription : PullSubscription) : PullSubscription :=
  { subscription with status := some ⟨[wellCondition], some "urn:photos", none, none⟩ }

/-- The sample is wired up as far as the job that creates its notification. -/
def creating : Stores :=
  (World.sample .sample).stores |> passed |>.report .topic .sample wellTopic |> passed
    |>.report .pullSubscription .sample wellSubscription |> passed

/-- A job of the sample comes to its end. -/
def ended (action : Action) (report : Report) (st : Stores) : Stores :=
  { st.report .job ⟨"media", jobName "7" action⟩ completeJob with pods := [donePod action report] }

/-- The notification of the sample has been recorded, and its deletion asked for. -/
def leaving : Stores :=
  creating |> ended .create (.succeeded "9" "") |> passed |>.doom .sample ⟨0, false⟩

/-- The notification is deleted. -/
def deleted : Stores := leaving |> passed |> ended .delete (.succeeded "" "")

variable {t : Trouble}

theorem ends_passed (st : Stores) : ∃ l r, Ends t st
    ((Pass.sample "2020-01-01T00:00:00Z").reconcile "media/photos") l (passed st) r :=
  ⟨_, _, Stores.ends_run _ _⟩

theorem comes_passed (h : Comes t .sample st mid) : Comes t .sample st (passed mid) :=
  h.after _ rfl

theorem comes_ended (h : Comes t .sample st mid) (action : Action) (report : Report) :
    Comes t .sample st (ended action report mid) := by
  have hjob : Comes t .sample st (mid.report .job ⟨"media", jobName "7" action⟩ completeJob) :=
    h.report _ fun _ => rfl
  exact hjob.run _

theorem comes_creating : Comes t .sample (World.sample .sample).stores creating := by
  have htopic : Comes t .sample _ ((passed (World.sample .sample).stores).report .topic .sample
      wellTopic) := (comes_passed (.start _)).report _ fun _ => rfl
  have hsubscription : Comes t .sample _ (Stores.report .pullSubscription .sample wellSubscription
      (passed _)) := (comes_passed htopic).report _ fun _ => rfl
  exact comes_passed hsubscription

theorem comes_leaving : Comes t .sample (World.sample .sample).stores leaving :=
  (comes_passed (comes_ended comes_creating _ _)).doom _

theorem comes_deleted : Comes t .sample leaving deleted :=
  comes_ended (comes_passed (.start _)) _ _

theorem fresh_sample : Fresh .sample .sample (World.sample .sample).stores :=
  ⟨rfl, rfl, rfl, rfl⟩

/-- A pass that makes a call of some kind gets to where it does. -/
theorem reaches_any {f : Call → Bool}
    (h : ((p.reconcile text).run Stores.answer st).exchanges.any (f ·.call) = true) :
    ∃ pre mid c next, f c = true ∧ Reaches t st (p.reconcile text) pre mid (.call c next) := by
  obtain ⟨⟨c, reply⟩, hx, hc⟩ := List.any_eq_true.1 h
  obtain ⟨pre, post, hsplit⟩ := List.append_of_mem hx
  obtain ⟨mid, next, hreached⟩ := (Stores.ends_run (p.reconcile text) st).split hsplit
  exact ⟨pre, mid, c, next, hc, hreached⟩

theorem reaches_patch
    (h : ((p.reconcile text).run Stores.answer st).exchanges.any (·.call.patches) = true) :
    ∃ pre mid space name patch next, Reaches t st (p.reconcile text) pre mid
      (.call (.patchScheduler space name patch) next) := by
  obtain ⟨pre, mid, c, next, hpatches, hreached⟩ := reaches_any h
  cases c with
  | patchScheduler space name patch => exact ⟨pre, mid, space, name, patch, next, hreached⟩
  | _ => cases hpatches

end Sample

/-! ## The marker is taken off -/

/-- Whatever calls fail and whatever others report, the marker is taken off only once the
notification that was recorded when the scheduler was found on its way out is known to be deleted,
and no job that creates one has come since. -/
theorem released_after_deletion {space name : String} {patch : FinalizerPatch}
    {next : Except Error Scheduler → Program (Except Error Unit)} (hfresh : Fresh key s₀ st₀)
    (hlife : History .failures key (Stores.Stirred key) st₀ log₁ st₁)
    (hstored : st₁.schedulers.get? key = some s) (hdeleting : s.metadata.deleting = true)
    (hlater : History .failures key (Stores.Stirred key) st₁ log₂ st₂)
    (hkey : Key.parse text = .ok key)
    (hrelease : Reaches .failures st₂ (p.reconcile text) pre mid
      (.call (.patchScheduler space name patch) next)) :
    (s.recordedId ≠ "" → DeletionConfirmed s s.recordedId (log₂ ++ pre)) ∧
      (mid.jobs.get? (s.jobKey .create)).map (Dependent.unreported .job) =
        (st₁.jobs.get? (s.jobKey .create)).map (Dependent.unreported .job) := by
  obtain ⟨s₁, htidy₁⟩ := tidy_of_history hfresh hlife
  obtain rfl : s = s₁ := Option.some.inj (hstored.symm.trans htidy₁.stored)
  obtain ⟨s₂, htidy₂, hdeparting⟩ := departing_of_history htidy₁ hdeleting hlater
  have hdeleting₂ := (Scheduler.deleting_of_bare hdeparting.bare).trans hdeleting
  obtain ⟨hdismantling, hcareful⟩ := htidy₂.dismantling hdeleting₂ hkey hrelease
  obtain ⟨hcreation, hconfirmed⟩ := hdeparting.dismantled hdismantling
  exact ⟨hconfirmed (hcareful _ _ rfl), hcreation⟩

theorem sample_released_after_deletion :
    ∃ (log₁ log₂ pre : List Exchange) (s : Scheduler) (mid : Stores) (space name : String)
      (patch : FinalizerPatch) (next : Except Error Scheduler → Program (Except Error Unit)),
      Fresh .sample .sample (World.sample .sample).stores ∧
      History .failures .sample (Stores.Stirred .sample) (World.sample .sample).stores log₁
        leaving ∧
      leaving.schedulers.get? .sample = some s ∧ s.metadata.deleting = true ∧
      History .failures .sample (Stores.Stirred .sample) leaving log₂ deleted ∧
      Key.parse "media/photos" = .ok .sample ∧
      Reaches .failures deleted ((Pass.sample "2020-01-01T00:00:00Z").reconcile "media/photos")
        pre mid (.call (.patchScheduler space name patch) next) ∧
      DeletionConfirmed s "9" (log₂ ++ pre) := by
  obtain ⟨log₁, hlife⟩ := comes_leaving (t := .failures)
  obtain ⟨log₂, hlater⟩ := comes_deleted (t := .failures)
  have hkey : Key.parse "media/photos" = .ok .sample := rfl
  have hfound : (leaving.schedulers.get? .sample).map (fun s => (s.metadata.deleting,
      s.recordedId)) = some (true, "9") := by decide +kernel
  obtain ⟨s, hstored, hs⟩ := Option.map_eq_some_iff.1 hfound
  obtain ⟨hdeleting, hid⟩ := Prod.mk.inj hs
  have hpatches : ((((Pass.sample "2020-01-01T00:00:00Z").reconcile "media/photos").run
      Stores.answer deleted).exchanges.any (·.call.patches)) = true := by decide +kernel
  obtain ⟨pre, mid, space, name, patch, next, hrelease⟩ := reaches_patch (t := .failures) hpatches
  obtain ⟨hconfirmed, -⟩ :=
    released_after_deletion fresh_sample hlife hstored hdeleting hlater hkey hrelease
  rw [hid] at hconfirmed
  exact ⟨log₁, log₂, pre, s, mid, space, name, patch, next, fresh_sample, hlife, hstored, hdeleting,
    hlater, hkey, hrelease, hconfirmed (by decide)⟩

/-- The marker is also taken off while a job that creates a notification is under way. -/
theorem released_over_ongoing_creation :
    ¬ ∀ {key : Key} {s₀ s : Scheduler} {st₀ st mid : Stores} {log pre : List Exchange} {p : Pass}
      {text space name : String} {patch : FinalizerPatch}
      {next : Except Error Scheduler → Program (Except Error Unit)},
      Fresh key s₀ st₀ → History .failures key (Stores.Stirred key) st₀ log st →
      st.schedulers.get? key = some s → s.metadata.deleting = true →
      Key.parse text = .ok key →
      Reaches .failures st (p.reconcile text) pre mid
        (.call (.patchScheduler space name patch) next) →
      ∀ job, mid.jobs.get? (s.jobKey .create) = some job → job.finished = true := by
  intro hclaim
  have hcomes : Comes .failures .sample (World.sample .sample).stores
      (creating.doom .sample ⟨0, false⟩) := comes_creating.doom _
  obtain ⟨log, hlife⟩ := hcomes
  have hkey : Key.parse "media/photos" = .ok .sample := rfl
  have hfound : ((creating.doom .sample ⟨0, false⟩).schedulers.get? .sample).map
      (fun s => (s.metadata.deleting, s.jobKey .create)) =
        some (true, ⟨"media", "scheduler-create-7"⟩) := by decide +kernel
  obtain ⟨s, hstored, hs⟩ := Option.map_eq_some_iff.1 hfound
  obtain ⟨hdeleting, hjobKey⟩ := Prod.mk.inj hs
  have hongoing : ((creating.doom .sample ⟨0, false⟩).jobs.get? ⟨"media", "scheduler-create-7"⟩).map
      Job.finished = some false := by decide +kernel
  obtain ⟨job, hjob, hunfinished⟩ := Option.map_eq_some_iff.1 hongoing
  have hpatches : ((((Pass.sample "2020-01-01T00:00:00Z").reconcile "media/photos").run
      Stores.answer (creating.doom .sample ⟨0, false⟩)).exchanges.any (·.call.patches)) = true := by
    decide +kernel
  obtain ⟨pre, mid, space, name, patch, next, hrelease⟩ := reaches_patch (t := .failures) hpatches
  obtain ⟨s', htidy⟩ := tidy_of_history fresh_sample hlife
  obtain rfl : s = s' := Option.some.inj (hstored.symm.trans htidy.stored)
  obtain ⟨hdismantling, -⟩ := htidy.dismantling hdeleting hkey hrelease
  have hmid : mid.jobs.get? (s.jobKey .create) = some job := by
    rw [hdismantling.creation, hjobKey, hjob]
  have hfinished := hclaim fresh_sample hlife hstored hdeleting hkey hrelease job hmid
  rw [hunfinished] at hfinished
  cases hfinished

end EventWiring.Pass
