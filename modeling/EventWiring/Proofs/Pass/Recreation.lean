import EventWiring.Proofs.Pass.Standing

/-!
# When a notification is created again

The job that creates a notification is created only where there is none, and the name of the
notification is recorded only while that job is there (`Sole`). So a notification that was recorded
is not created a second time as long as nobody removes the job (`created_once`). The recorded name
alone prevents nothing: once the job is gone, the next pass creates another one (`created_again`).
-/

namespace EventWiring

open Program (Exchange Ends Heeds Reaches)
open Notification (Report)

namespace Stores

/-- The scheduler under `key` is left alone, and a job under `k` is not removed. -/
def Retains (key k : Key) (st st' : Stores) : Prop :=
  st.Spares key st' ∧ ((st.jobs.get? k).isSome → (st'.jobs.get? k).isSome)

/-- An object stays where it is until it is deleted. -/
theorem Gives.isSome {t : Trouble} {st st' : Stores} {c : Call} {reply : c.Answer} {d : Dependent}
    {k : Key} (h : st.Gives t c reply st') (hc : ∀ space name, c ≠ .delete d space name)
    (hk : ((st.dependents d).get? k).isSome) : ((st'.dependents d).get? k).isSome := by
  obtain ⟨object, hobject⟩ := Option.isSome_iff_exists.1 hk
  obtain hsame | ⟨hdelete, -⟩ := h.kept hobject
  · rw [hsame]
    rfl
  · exact absurd hdelete (hc _ _)

end Stores

namespace Pass

variable {st st' mid : Stores} {log : List Exchange} {p : Pass} {s found : Scheduler}
  {name : String}

/-! ## One pass -/

/-- Whether a scheduler's job that creates its notification is there. -/
def HasCreation (s : Scheduler) (st : Stores) : Prop := (st.jobs.get? (s.jobKey .create)).isSome

theorem hasCreation_congr {s' : Scheduler} (h : s'.bare = s.bare) :
    HasCreation s' st ↔ HasCreation s st := by
  unfold HasCreation
  rw [Scheduler.jobKey_of_bare h]

/-- The job is created where there is none, and a name is stored only while the job is there. -/
def Sole (s : Scheduler) (st : Stores) : Call → Prop
  | .create .job _ _ => ¬ HasCreation s st
  | .delete _ _ _ => False
  | .updateStatus new => new.recordedId ≠ "" → HasCreation s st
  | _ => True

theorem hasCreation_of_survey {t : Trouble} {g : Progress}
    (h : Ends t st (p.survey s name) log st' g) (hjob : HasCreation found st) :
    HasCreation found st' := by
  refine h.keeps (I := fun mid => HasCreation found mid) wires_survey ?_ hjob
  intro c reply mid mid' hc hgives hmid
  refine hgives.isSome (d := .job) ?_ hmid
  rintro space name rfl
  cases hc

/-- A report comes from the job. -/
theorem hasCreation_of_complete {ids : TopicIds} {uri : String} {report : Report}
    (h : Ends .failures st (p.survey s name) log st' (.complete ids uri report)) :
    HasCreation s st' := by
  obtain ⟨-, job, hstored, -⟩ := (stands_of_survey (fun _ => id) h).job report rfl
  exact hasCreation_of_survey h (Option.isSome_of_mem hstored)

/-- Only a report changes what is recorded. -/
theorem recordedId_of_incomplete {g : Progress}
    (hg : ∀ ids uri report, g ≠ .complete ids uri report) :
    (p.settled s (g.record p)).recordedId = s.recordedId := by
  have hid : ∀ status : SchedulerStatus,
      (g.record p status).notificationId = status.notificationId := by
    intro status
    cases g with
    | complete ids uri report => exact absurd rfl (hg ids uri report)
    | _ => rfl
  exact congrArg (·.getD "") (hid (p.startingStatus s))

theorem sole_attend (hlive : found.metadata.deleting = false)
    (hstored : st.schedulers.get? (Key.of found.metadata) = some found)
    (hjob : found.recordedId ≠ "" → HasCreation found st) :
    Heeds .failures (fun _ st c => Sole found st c) log st (p.attend found) := by
  refine heeds_attend_live hlive (fun _ _ => trivial) (fun l mid marked hput => ?_)
    (fun l mid marked l' mid' g hput hg hrecorded => ?_) fun _ _ _ => trivial
  · obtain ⟨-, -, ⟨finalizers, version, rfl⟩, -⟩ := hput.stored hstored rfl
    refine heeds_survey (fun _ c hc _ => ?_) fun l' d space object h => ?_
    · cases c <;> trivial
    · cases h with
      | job topic ids ps uri args _ _ hargs habsent =>
        intro hthere
        have hnone : mid.jobs.get? ⟨args.space, args.jobName⟩ = none := habsent.resolve_right id
        have hkey : found.jobKey .create = ⟨args.space, args.jobName⟩ := jobKey_of_args hargs
        unfold HasCreation at hthere
        rw [hkey, hnone] at hthere
        cases hthere
      | _ => trivial
  · obtain ⟨-, -, ⟨finalizers, version, rfl⟩, schedulers, rfl⟩ := hput.stored hstored rfl
    by_cases hcomplete : ∃ ids uri report, g = .complete ids uri report
    · obtain ⟨ids, uri, report, rfl⟩ := hcomplete
      exact hasCreation_of_complete hg
    · have hid : (p.settled (remarked found finalizers version) (g.record p)).recordedId =
          found.recordedId :=
        recordedId_of_incomplete fun ids uri report hg => hcomplete ⟨ids, uri, report, hg⟩
      rw [hid] at hrecorded
      exact hasCreation_of_survey hg (hjob hrecorded)

/-! ## Histories -/

/-- No job was created. -/
def Uncreated (log : List Exchange) : Prop :=
  ∀ space object answer, ⟨.create .job space object, answer⟩ ∉ log

theorem Uncreated.append {l : List Exchange} (h : Uncreated log) (hl : Uncreated l) :
    Uncreated (log ++ l) := by
  intro space object answer hmem
  exact (List.mem_append.1 hmem).elim (h space object answer) (hl space object answer)

/-- The scheduler under `key` is stored and live, and what it records comes from a job that is
there. -/
structure Backed (key : Key) (s : Scheduler) (st : Stores) : Prop
    extends Scheduler.Living key s st where
  job : s.recordedId ≠ "" → HasCreation s st

variable {key : Key} {text : String} {pre : List Exchange} {q : Program (Except Error Unit)}

namespace Backed

/-- Wherever a pass gets, what is recorded is backed by the job, and while the job is there none is
created. -/
theorem reaches (h : Backed key s st) (htext : Key.parse text = .ok key)
    (hpass : Reaches .failures st (p.reconcile text) pre mid q) :
    (∃ s', Backed key s' mid ∧ s'.bare = s.bare) ∧
      (HasCreation s st → HasCreation s mid ∧ Uncreated pre ∧
        ∀ space object next, q ≠ .call (.create .job space object) next) := by
  have hliving := h.toLiving
  obtain ⟨⟨hstored, rfl, hlive⟩, hjob⟩ := h
  have hheeds : Heeds .failures (fun _ st c => Sole s st c) [] st (p.reconcile text) :=
    heeds_reconcile_stored htext hstored trivial (sole_attend hlive hstored hjob)
  obtain ⟨s', hs', hbare, hjob', huncreated⟩ := hliving.keeps
    (I := fun log s' mid => (s'.recordedId ≠ "" → HasCreation s mid) ∧
      (HasCreation s st → HasCreation s mid ∧ Uncreated log))
    hheeds hpass (fun {log c reply mid mid' s₁ s₂} hc hgives hstatus ⟨hjob₁, huncreated⟩ => by
      have hkept : HasCreation s mid → HasCreation s mid' := by
        refine hgives.isSome (d := .job) ?_
        rintro space name rfl
        exact hc
      refine ⟨fun hrecorded => hkept ?_, fun hstart => ?_⟩
      · rcases hstatus with hsame | ⟨desired, rfl, hwritten⟩
        · rw [Scheduler.recordedId_of_status hsame] at hrecorded
          exact hjob₁ hrecorded
        · rw [Scheduler.recordedId_of_status hwritten] at hrecorded
          exact hc hrecorded
      · obtain ⟨hthere, hnone⟩ := huncreated hstart
        refine ⟨hkept hthere, hnone.append fun space object answer hmem => ?_⟩
        cases List.mem_singleton.1 hmem
        exact hc hthere)
    ⟨hjob, fun hstart => ⟨hstart, fun _ _ _ h => nomatch h⟩⟩
  refine ⟨⟨s', ⟨hs', fun hrecorded => (hasCreation_congr hbare).2 (hjob' hrecorded)⟩, hbare⟩,
    fun hstart => ⟨(huncreated hstart).1, (huncreated hstart).2, ?_⟩⟩
  rintro space object next rfl
  exact (hheeds.reaches hpass).1 (huncreated hstart).1

end Backed

variable {st₀ st₁ st₂ : Stores} {s₀ s₁ : Scheduler} {log₁ log₂ : List Exchange}

theorem backed_of_history (h : Backed key s₀ st₀)
    (hlife : History .failures key (Stores.Retains key (s₀.jobKey .create)) st₀ log st) :
    (∃ s, Backed key s st ∧ s.bare = s₀.bare) ∧
      (HasCreation s₀ st₀ → HasCreation s₀ st ∧ Uncreated log) := by
  refine hlife.keeps (I := fun log st => (∃ s, Backed key s st ∧ s.bare = s₀.bare) ∧
    (HasCreation s₀ st₀ → HasCreation s₀ st ∧ Uncreated log)) ?_ ?_ ?_
  · exact ⟨⟨s₀, h, rfl⟩, fun hstart => ⟨hstart, fun _ _ _ h => nomatch h⟩⟩
  · rintro log l mid st' text r p htext hpass ⟨⟨s, hs, hbare⟩, huncreated⟩
    obtain ⟨⟨s', hs', hbare'⟩, hpassed⟩ := hs.reaches htext hpass
    refine ⟨⟨s', hs', hbare'.trans hbare⟩, fun hstart => ?_⟩
    obtain ⟨hthere, hnone⟩ := huncreated hstart
    obtain ⟨hthere', hnone', -⟩ := hpassed ((hasCreation_congr hbare).2 hthere)
    exact ⟨(hasCreation_congr hbare).1 hthere', hnone.append hnone'⟩
  · rintro log mid st' ⟨hspares, hretains⟩ ⟨⟨s, hs, hbare⟩, huncreated⟩
    refine ⟨⟨s, ⟨hs.spared hspares, fun hrecorded => ?_⟩, hbare⟩,
      fun hstart => ⟨hretains (huncreated hstart).1, (huncreated hstart).2⟩⟩
    exact (hasCreation_congr hbare).2 (hretains ((hasCreation_congr hbare).1 (hs.job hrecorded)))

/-- Once the name of its notification is recorded, no pass over a live scheduler creates the job
again, whatever calls fail and whatever others do, as long as they leave the scheduler alone and do
not remove the job. -/
theorem created_once (hstored : st₀.schedulers.get? key = some s₀)
    (hkey : Key.of s₀.metadata = key) (hlive : s₀.metadata.deleting = false)
    (hjob : s₀.recordedId ≠ "" → (st₀.jobs.get? (s₀.jobKey .create)).isSome)
    (hbefore : History .failures key (Stores.Retains key (s₀.jobKey .create)) st₀ log₁ st₁)
    (hs₁ : st₁.schedulers.get? key = some s₁) (hrecorded : s₁.recordedId ≠ "")
    (hafter : History .failures key (Stores.Retains key (s₀.jobKey .create)) st₁ log₂ st₂)
    (htext : Key.parse text = .ok key)
    (hpass : Reaches .failures st₂ (p.reconcile text) pre mid q) :
    Uncreated (log₂ ++ pre) ∧
      ∀ space object next, q ≠ .call (.create .job space object) next := by
  obtain ⟨⟨s, hs, hbare⟩, -⟩ := backed_of_history ⟨⟨hstored, hkey, hlive⟩, hjob⟩ hbefore
  obtain rfl : s₁ = s := Option.some.inj (hs₁.symm.trans hs.stored)
  rw [← Scheduler.jobKey_of_bare hbare] at hafter
  obtain ⟨⟨s₂, hs₂, hbare₂⟩, hkept⟩ := backed_of_history hs hafter
  obtain ⟨hthere, hnone⟩ := hkept (hs.job hrecorded)
  obtain ⟨-, hpassed⟩ := hs₂.reaches htext hpass
  obtain ⟨-, hnone', hnext⟩ := hpassed ((hasCreation_congr hbare₂).2 hthere)
  exact ⟨hnone.append hnone', hnext⟩

/-! ## A sample history -/

theorem retains_report {d : Dependent} {f : d.Object → d.Object} (k k' : Key) :
    Stores.Retains key k st (st.report d k' f) := by
  refine ⟨spares_report k', fun hthere => ?_⟩
  unfold Stores.report
  split
  · next object hobject =>
    show (((st.setDependents d _).dependents .job).get? k).isSome
    by_cases hd : d = .job
    · subst hd
      rw [Stores.dependents_setDependents]
      by_cases hk : k = k'
      · rw [hk, Store.get?_put]
        rfl
      · rwa [Store.get?_put_of_ne hk]
    · rwa [Stores.dependents_setDependents_of_ne _ (Ne.symm hd)]
  · exact hthere

theorem retains_pods (k : Key) (st : Stores) (pods : List Pod) :
    Stores.Retains key k st { st with pods } :=
  ⟨rfl, id⟩

theorem spares_jobs (key : Key) (st : Stores) (jobs : Store Job) :
    Stores.Spares key st { st with jobs } :=
  rfl

/-- The stores of the sample once its notification is recorded. -/
def notificationRecorded : Stores := creating |> ended .create (.succeeded "9" "") |> passed

/-- It comes to that without a job being removed. -/
theorem history_recorded : ∃ log, History .failures .sample
    (Stores.Retains .sample (Scheduler.sample.jobKey .create)) (World.sample .sample).stores log
      notificationRecorded := by
  have hstart : History .failures .sample
      (Stores.Retains .sample (Scheduler.sample.jobKey .create)) (World.sample .sample).stores []
        (World.sample .sample).stores := .start
  obtain ⟨_, h₁⟩ := history_passed hstart
  have htopic : Stores.Retains .sample (Scheduler.sample.jobKey .create)
      (passed (World.sample .sample).stores)
      ((passed (World.sample .sample).stores).report .topic .sample wellTopic) :=
    retains_report _ _
  obtain ⟨_, h₂⟩ := history_passed (h₁.other htopic)
  have hsubscription : Stores.Retains .sample (Scheduler.sample.jobKey .create) topicRecorded
      (topicRecorded.report .pullSubscription .sample wellSubscription) :=
    retains_report _ _
  obtain ⟨_, h₃⟩ := history_passed (h₂.other hsubscription)
  have hjob : Stores.Retains .sample (Scheduler.sample.jobKey .create) creating
      (creating.report .job ⟨"media", Notification.jobName "7" .create⟩ completeJob) :=
    retains_report _ _
  have hpods : Stores.Retains .sample (Scheduler.sample.jobKey .create)
      (creating.report .job ⟨"media", Notification.jobName "7" .create⟩ completeJob)
      (ended .create (.succeeded "9" "") creating) :=
    retains_pods _ _ _
  exact history_passed ((h₃.other hjob).other hpods)

theorem recorded_notificationRecorded : ∃ s₁,
    notificationRecorded.schedulers.get? .sample = some s₁ ∧ s₁.recordedId = "9" := by
  have hfound : (notificationRecorded.schedulers.get? .sample).map (·.recordedId) = some "9" := by
    decide +kernel
  exact Option.map_eq_some_iff.1 hfound

theorem sample_created_once :
    ∃ log₁ s₁ pre mid r,
      (World.sample .sample).stores.schedulers.get? .sample = some .sample ∧
      History .failures .sample (Stores.Retains .sample (Scheduler.sample.jobKey .create))
        (World.sample .sample).stores log₁ notificationRecorded ∧
      notificationRecorded.schedulers.get? .sample = some s₁ ∧ s₁.recordedId = "9" ∧
      Ends .failures notificationRecorded
        ((Pass.sample "2020-01-01T00:00:00Z").reconcile "media/photos") pre mid r ∧
      Uncreated pre := by
  obtain ⟨log₁, hbefore⟩ := history_recorded
  obtain ⟨s₁, hs₁, hid⟩ := recorded_notificationRecorded
  have hstored : (World.sample .sample).stores.schedulers.get? .sample = some .sample := rfl
  have htext : Key.parse "media/photos" = .ok .sample := rfl
  have hpass := Stores.ends_run (t := .failures)
    ((Pass.sample "2020-01-01T00:00:00Z").reconcile "media/photos") notificationRecorded
  have hempty : Scheduler.sample.recordedId ≠ "" →
      ((World.sample .sample).stores.jobs.get? (Scheduler.sample.jobKey .create)).isSome :=
    fun h => absurd rfl h
  have hrecorded : s₁.recordedId ≠ "" := by
    rw [hid]
    decide
  obtain ⟨huncreated, -⟩ :=
    created_once hstored rfl rfl hempty hbefore hs₁ hrecorded .start htext hpass
  exact ⟨log₁, s₁, _, _, _, hstored, hbefore, hs₁, hid, hpass, huncreated⟩

/-! ## The job is removed -/

/-- The call creates a job under `k`. -/
def createsJob (k : Key) : Call → Bool
  | .create .job _ object => Key.of object.metadata = k
  | _ => false

/-- A recorded notification is created again once others have removed the job. -/
theorem created_again :
    ¬ ∀ {key : Key} {s₀ s₁ : Scheduler} {st₀ st₁ st₂ mid : Stores} {log₁ log₂ pre : List Exchange}
      {p : Pass} {text : String} {q : Program (Except Error Unit)},
      Fresh key s₀ st₀ → s₀.metadata.deleting = false →
      History .failures key (Stores.Spares key) st₀ log₁ st₁ →
      st₁.schedulers.get? key = some s₁ → s₁.recordedId ≠ "" →
      History .failures key (Stores.Spares key) st₁ log₂ st₂ → Key.parse text = .ok key →
      Reaches .failures st₂ (p.reconcile text) pre mid q →
      ∀ space object next, q = .call (.create .job space object) next →
        Key.of object.metadata ≠ s₀.jobKey .create := by
  intro hclaim
  obtain ⟨log₁, hretained⟩ := history_recorded
  have hbefore := hretained.mono fun h => h.1
  obtain ⟨s₁, hs₁, hid⟩ := recorded_notificationRecorded
  have hafter : History .failures .sample (Stores.Spares .sample) notificationRecorded []
      { notificationRecorded with jobs := [] } := .other .start (spares_jobs _ _ _)
  have hcreates : ((((Pass.sample "2020-01-01T00:00:00Z").reconcile "media/photos").run
      Stores.answer { notificationRecorded with jobs := [] }).exchanges.any
        (createsJob (Scheduler.sample.jobKey .create) ·.call)) = true := by decide +kernel
  obtain ⟨pre, mid, c, next, hcreates, hreached⟩ := reaches_any (t := .failures) hcreates
  have hrecorded : s₁.recordedId ≠ "" := by
    rw [hid]
    decide
  cases c with
  | create d space object =>
    cases d with
    | job =>
      exact hclaim fresh_sample rfl hbefore hs₁ hrecorded hafter rfl hreached space object next rfl
        (of_decide_eq_true hcreates)
    | _ => cases hcreates
  | _ => cases hcreates

end Pass

end EventWiring
