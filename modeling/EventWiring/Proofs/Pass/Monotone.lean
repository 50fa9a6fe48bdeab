import EventWiring.Proofs.Pass.Recreation

/-!
# Stages that are reached stay reached

Every pass begins by throwing all conditions back and finds out anew how far the wiring gets. Yet a
stage that it reached before it reaches again, under the name that the status records, as long as
the objects of that stage are left alone from the moment its condition is true (`Stores.Respects`).
So over the passes over a live scheduler the conditions that are true become ever more, and once
all are true nothing changes any more (`stays_reached`).
-/

namespace EventWiring

open Program (Exchange Ends Obeys Reaches ends_ask_bind ends_bind)
open Notification (podSelector)

/-- The condition of the stage is true. -/
def Scheduler.Says (s : Scheduler) (stage : Stage) : Prop :=
  (s.status.getD .blank).conditions.isTrue stage.condition = true

instance (s : Scheduler) (stage : Stage) : Decidable (s.Says stage) :=
  inferInstanceAs (Decidable (_ = true))

namespace Stores

/-- What the stage of the scheduler rests on is the same. -/
def SameFor (s : Scheduler) (st st' : Stores) : Stage → Prop
  | .topic => st'.topics.get? (Key.of s.metadata) = st.topics.get? (Key.of s.metadata)
  | .pullSubscription =>
    st'.pullSubscriptions.get? (Key.of s.metadata) = st.pullSubscriptions.get? (Key.of s.metadata)
  | .notification => st'.jobs.get? (s.jobKey .create) = st.jobs.get? (s.jobKey .create) ∧
      st'.listPods s.space (podSelector (s.metadata.uid.getD "") .create) =
        st.listPods s.space (podSelector (s.metadata.uid.getD "") .create)

/-- Others leave the scheduler under `key` live, with its identity and its status, and what a stage
rests on whose condition is true; they change whatever else they like. -/
structure Respects (key : Key) (st st' : Stores) : Prop where
  scheduler : ∀ s, st.schedulers.get? key = some s → s.metadata.deleting = false →
    ∃ s', st'.schedulers.get? key = some s' ∧ s'.metadata.identity = s.metadata.identity ∧
      Key.of s'.metadata = Key.of s.metadata ∧ s'.metadata.deleting = false ∧ s'.status = s.status
  stages : ∀ s, st.schedulers.get? key = some s → ∀ stage, s.Says stage → st.SameFor s st' stage

end Stores

namespace Pass

variable {t : Trouble} {key : Key} {st st' mid : Stores} {log : List Exchange} {p q : Pass}
  {s s' : Scheduler} {g g' : Progress} {name text : String} {r : Except Error Unit}

/-! ## What stands -/

theorem Progress.isTrue_verdict {stage : Stage} :
    (g.verdict stage).status = Condition.isTrue ↔ g.verdict stage = .holds := by
  cases g <;> cases stage <;>
    simp [verdict, Verdict.holds, Verdict.undecided, Verdict.fails, Condition.isTrue,
      Condition.isFalse, Condition.isUnknown]

/-- The conditions that are true are those of the stages that were found to hold. -/
theorem says_settled {stage : Stage} (h : s'.status = (p.settled s (g.record p)).status) :
    s'.Says stage ↔ g.verdict stage = .holds := by
  obtain ⟨status, hstatus, htells⟩ := g.recording.tells_settled p s
  unfold Scheduler.Says
  rw [h, hstatus, Option.getD_some, htells.isTrue_iff, Progress.isTrue_verdict]

theorem owner_iff : (∃ owner, s.ownerReference = .ok owner) ↔
    s.metadata.identity.name.isSome ∧ s.metadata.identity.uid.isSome := by
  unfold Scheduler.ownerReference Metadata.identity
  cases s.metadata.name <;> cases s.metadata.uid <;> simp

/-- What stands goes on standing while the objects of its stages are the same. -/
theorem Progress.Stands.of_same (h : g.Stands st s name)
    (hidentity : s'.metadata.identity = s.metadata.identity)
    (hkey : Key.of s'.metadata = Key.of s.metadata)
    (hsame : ∀ stage, g.verdict stage = .holds → st.SameFor s st' stage) :
    g.Stands st' s' name := by
  have hspace : s'.space = s.space := congrArg Key.space hkey
  have huid : s'.metadata.uid = s.metadata.uid := congrArg Identity.uid hidentity
  have hjobKey : s'.jobKey .create = s.jobKey .create := by
    rw [Scheduler.jobKey, hspace, huid]
    rfl
  constructor
  · intro ids hids
    obtain ⟨topic, hstored, htells⟩ := h.topic ids hids
    have hkept := hsame .topic (verdict_eq_holds.2 (Option.isSome_of_mem hids))
    exact ⟨topic, by rw [hkey]; exact hkept.trans hstored, htells⟩
  · intro uri huri
    obtain ⟨ps, hstored, htells⟩ := h.sink uri huri
    have hkept := hsame .pullSubscription (verdict_eq_holds.2 (Option.isSome_of_mem huri))
    exact ⟨ps, by rw [hkey]; exact hkept.trans hstored, by rw [hkey]; exact htells⟩
  · intro report hreport
    obtain ⟨howner, job, hstored, hsucceeded, hpods⟩ := h.job report hreport
    obtain ⟨hjob, hlisted⟩ :=
      hsame .notification (verdict_eq_holds.2 (Option.isSome_of_mem hreport))
    refine ⟨?_, job, ?_, hsucceeded, ?_⟩
    · rw [owner_iff, hidentity]
      exact owner_iff.1 howner
    · rw [hjobKey]
      exact hjob.trans hstored
    · rw [hspace, huid, hlisted]
      exact hpods

/-- What stands goes on standing while nothing is deleted. -/
theorem Progress.Stands.of_kept (h : g.Stands st s name)
    (hkept : ∀ d k object, (st.dependents d).get? k = some object →
      (st'.dependents d).get? k = some object) (hpods : st'.pods = st.pods) :
    g.Stands st' s name := by
  refine ⟨fun ids hids => ?_, fun uri huri => ?_, fun report hreport => ?_⟩
  · obtain ⟨topic, hstored, htells⟩ := h.topic ids hids
    exact ⟨topic, hkept .topic _ topic hstored, htells⟩
  · obtain ⟨ps, hstored, htells⟩ := h.sink uri huri
    exact ⟨ps, hkept .pullSubscription _ ps hstored, htells⟩
  · obtain ⟨howner, job, hstored, hsucceeded, hreports⟩ := h.job report hreport
    refine ⟨howner, job, hkept .job _ job hstored, hsucceeded, ?_⟩
    rw [Stores.listPods, hpods]
    exact hreports

/-! ## One pass -/

/-- A pass over a live scheduler deletes nothing. -/
theorem kept_of_attend (hlive : s.metadata.deleting = false) {x : Program (Except Error Unit)}
    (h : Reaches t st (p.attend s) log mid x) :
    (∀ d k object, (st.dependents d).get? k = some object →
      (mid.dependents d).get? k = some object) ∧ mid.pods = st.pods := by
  have hobeys : Obeys (fun _ c => ∀ d space name, c ≠ .delete d space name) [] (p.attend s) := by
    refine obeys_attend_live hlive (fun _ _ _ _ _ h => (nomatch h))
      (fun _ _ _ _ _ _ h => (nomatch h)) (fun _ _ _ => ?_) fun _ _ _ _ _ h => (nomatch h)
    refine obeys_survey (fun _ c hc => ?_) fun _ _ _ _ _ _ _ _ h => (nomatch h)
    rintro d space name rfl
    cases hc
  refine h.keeps (I := fun mid => (∀ d k object, (st.dependents d).get? k = some object →
    (mid.dependents d).get? k = some object) ∧ mid.pods = st.pods) hobeys
    (fun hc hgives hmid => ?_) ⟨fun _ _ _ => id, rfl⟩
  refine ⟨fun d k object hobject => ?_, hgives.pods.trans hmid.2⟩
  exact (hgives.kept (hmid.1 d k object hobject)).resolve_right fun h => hc _ _ _ h.1

/-- What a pass over a live scheduler comes to when nothing goes wrong. -/
structure Found (p : Pass) (key : Key) (s : Scheduler) (st : Stores) (g : Progress)
    (s' : Scheduler) (st' : Stores) (r : Except Error Unit) : Prop where
  survey : ∃ schedulers l mid,
    Ends .none { st with schedulers } (p.survey s s.expectedTopic) l mid g
  living : s'.Living key st'
  bare : s'.bare = s.bare
  status : s'.status = (p.settled s (g.record p)).status
  result : r = g.result.map fun _ => ()
  kept : ∀ d k object, (st.dependents d).get? k = some object →
    (st'.dependents d).get? k = some object
  pods : st'.pods = st.pods

theorem found_of_pass (h : s.Living key st) (htext : Key.parse text = .ok key)
    (hpass : Ends .none st (p.reconcile text) log st' r) :
    ∃ g s', Found p key s st g s' st' r := by
  obtain ⟨s', hs', hbare⟩ := h.reaches hpass
  obtain ⟨hstored, rfl, hlive⟩ := h
  obtain ⟨e, c, -, hfails⟩ | ⟨rest, rfl, hattend⟩ := ends_reconcile_stored htext hstored hpass
  · exact hfails.elim
  obtain ⟨hkept, hpods⟩ := kept_of_attend hlive hattend
  obtain ⟨e, c, -, hfails⟩ | ⟨schedulers, l, mid, g, hsurvey, hresult, left, hleft, hstatus⟩ :=
    ends_attend_live hstored hlive hattend
  · exact hfails.elim
  obtain rfl : s' = left := Option.some.inj (hs'.stored.symm.trans hleft)
  exact ⟨g, s', ⟨schedulers, l, mid, hsurvey⟩, hs', hbare, hstatus, hresult, hkept, hpods⟩

/-! ## A run of passes -/

/-- The status of the scheduler is what a pass that came to `g` left, and all that `g` found still
stands. -/
structure Attained (key : Key) (g : Progress) (s : Scheduler) (st : Stores) : Prop where
  living : s.Living key st
  status : ∃ (p : Pass) (s' : Scheduler), s.status = (p.settled s' (g.record p)).status
  stands : g.Stands st s s.expectedTopic

/-- Under the name that the new status records, what was found stands after the pass. -/
theorem Found.attained (h : Found p key s st g s' st' r) : Attained key g s' st' := by
  obtain ⟨schedulers, l, mid, hsurvey⟩ := h.survey
  have hname : s'.expectedTopic = s.expectedTopic :=
    topicName_settled p hsurvey.trace h.status (Scheduler.uid_of_bare h.bare)
  have hidentity : s'.metadata.identity = s.metadata.identity := by
    show s'.bare.metadata.identity = s.bare.metadata.identity
    rw [h.bare]
  have hfound := stands_of_survey (fun _ => id) hsurvey
  have hstands : g.Stands st s s.expectedTopic := ⟨hfound.topic, hfound.sink, hfound.job⟩
  refine ⟨h.living, ⟨p, s, h.status⟩, hname ▸ ?_⟩
  exact (hstands.of_kept h.kept h.pods).of_same hidentity (Scheduler.key_of_bare h.bare)
    fun stage _ => by cases stage <;> first | rfl | exact ⟨rfl, rfl⟩

namespace Attained

theorem says_iff (h : Attained key g s st) {stage : Stage} :
    s.Says stage ↔ g.verdict stage = .holds := by
  obtain ⟨p, s', hstatus⟩ := h.status
  exact says_settled hstatus

theorem respected (h : Attained key g s st) (hrespects : st.Respects key st') :
    ∃ s', Attained key g s' st' ∧ s'.status = s.status := by
  obtain ⟨s', hs', hidentity, hkey, hlive, hstatus⟩ :=
    hrespects.scheduler s h.living.stored h.living.live
  obtain ⟨p, s₀, hsettled⟩ := h.status
  have hname : s'.expectedTopic = s.expectedTopic := by
    have huid : s'.metadata.uid = s.metadata.uid := congrArg Identity.uid hidentity
    simp only [Scheduler.expectedTopic, topicName, hstatus, huid]
  refine ⟨s', ⟨⟨hs', hkey.trans h.living.key, hlive⟩, ⟨p, s₀, hstatus.trans hsettled⟩, ?_⟩, hstatus⟩
  exact hname ▸ h.stands.of_same hidentity hkey fun stage hholds =>
    hrespects.stages s h.living.stored stage (h.says_iff.2 hholds)

/-- The next pass finds all that was found, and where that was everything it has nothing to
change. -/
theorem pass (h : Attained key g s st) (htext : Key.parse text = .ok key)
    (hpass : Ends .none st (p.reconcile text) log st' r) :
    ∃ g' s', Attained key g' s' st' ∧ g.Upholds g' ∧
      ((∀ stage, g.verdict stage = .holds) → r = .ok () ∧ s'.status = s.status) := by
  obtain ⟨g', s', hfound⟩ := found_of_pass h.living htext hpass
  obtain ⟨schedulers, l, mid, hsurvey⟩ := hfound.survey
  have hstands : g.Stands { st with schedulers } s s.expectedTopic :=
    ⟨h.stands.topic, h.stands.sink, h.stands.job⟩
  have hupholds : g.Upholds g' := upheld_of_survey hstands hsurvey
  refine ⟨g', s', hfound.attained, hupholds, fun hall => ?_⟩
  obtain ⟨ids, uri, report, rfl⟩ := Progress.complete_of_holds hall
  obtain rfl := hupholds.complete
  obtain ⟨q, s₀, hsettled⟩ := h.status
  exact ⟨hfound.result, hfound.status.trans ((Progress.recording _).settled_again q p hsettled)⟩

/-- Over a whole history, what was found is found again and again. -/
theorem history (h : Attained key g s st)
    (hhistory : History .none key (Stores.Respects key) st log st') :
    ∃ g' s', Attained key g' s' st' ∧ g.Upholds g' ∧
      ((∀ stage, g.verdict stage = .holds) → s'.status = s.status) := by
  refine hhistory.keeps (I := fun _ mid => ∃ g' s', Attained key g' s' mid ∧ g.Upholds g' ∧
    ((∀ stage, g.verdict stage = .holds) → s'.status = s.status))
    ⟨g, s, h, .refl g, fun _ => rfl⟩ ?_ ?_
  · rintro log l mid st' text r p htext hpass ⟨g₁, s₁, h₁, hupholds, hsame⟩
    obtain ⟨g₂, s₂, h₂, hupholds', hsame'⟩ := h₁.pass htext hpass
    refine ⟨g₂, s₂, h₂, hupholds.trans hupholds', fun hall => ?_⟩
    exact (hsame' fun stage => hupholds.verdict (hall stage)).2.trans (hsame hall)
  · rintro log mid st' hrespects ⟨g₁, s₁, h₁, hupholds, hsame⟩
    obtain ⟨s₂, h₂, hstatus⟩ := h₁.respected hrespects
    exact ⟨g₁, s₂, h₂, hupholds, fun hall => hstatus.trans (hsame hall)⟩

end Attained

/-- After a pass over a live scheduler, whatever passes follow in which nothing goes wrong, and
whatever others do between them to what no true condition rests on: every condition that is true
stays true, and once all are true every pass succeeds and leaves the status as it is. -/
theorem stays_reached {s₀ : Scheduler} {st₀ st₁ st₂ st₃ : Stores} {p₁ p₂ : Pass}
    {l₁ l₂ log : List Exchange} {text₁ text₂ : String} {r₁ r₂ : Except Error Unit}
    (hstored : st₀.schedulers.get? key = some s₀) (hkey : Key.of s₀.metadata = key)
    (hlive : s₀.metadata.deleting = false) (htext₁ : Key.parse text₁ = .ok key)
    (hfirst : Ends .none st₀ (p₁.reconcile text₁) l₁ st₁ r₁)
    (hbetween : History .none key (Stores.Respects key) st₁ log st₂)
    (htext₂ : Key.parse text₂ = .ok key)
    (hlater : Ends .none st₂ (p₂.reconcile text₂) l₂ st₃ r₂) :
    ∃ s₁ s₃, st₁.schedulers.get? key = some s₁ ∧ st₃.schedulers.get? key = some s₃ ∧
      (∀ stage, s₁.Says stage → s₃.Says stage) ∧
      ((∀ stage, s₁.Says stage) → r₂ = .ok () ∧ s₃.status = s₁.status) := by
  obtain ⟨g₁, s₁, hfound⟩ := found_of_pass ⟨hstored, hkey, hlive⟩ htext₁ hfirst
  have h₁ := hfound.attained
  obtain ⟨g₂, s₂, h₂, hupholds, hsame⟩ := h₁.history hbetween
  obtain ⟨g₃, s₃, h₃, hupholds', hsame'⟩ := h₂.pass htext₂ hlater
  refine ⟨s₁, s₃, h₁.living.stored, h₃.living.stored, fun stage hsays => ?_, fun hall => ?_⟩
  · exact h₃.says_iff.2 ((hupholds.trans hupholds').verdict (h₁.says_iff.1 hsays))
  · have hholds : ∀ stage, g₁.verdict stage = .holds := fun stage => h₁.says_iff.1 (hall stage)
    obtain ⟨hr, hstatus⟩ := hsame' fun stage => hupholds.verdict (hholds stage)
    exact ⟨hr, hstatus.trans (hsame hholds)⟩

theorem respects_pods {pods : List Pod} (h : ∀ s, st.schedulers.get? key = some s →
      Stores.listPods { st with pods } s.space (podSelector (s.metadata.uid.getD "") .create) =
        st.listPods s.space (podSelector (s.metadata.uid.getD "") .create)) :
    Stores.Respects key st { st with pods } where
  scheduler s hs hlive := ⟨s, hs, rfl, rfl, hlive, rfl⟩
  stages s hs stage _ := by
    cases stage with
    | notification => exact ⟨rfl, h s hs⟩
    | _ => exact rfl

/-- The pod of a job that deletes a notification comes along. -/
def deletedMeanwhile : Stores :=
  { notificationRecorded with
    pods := donePod .delete (.succeeded "" "") :: notificationRecorded.pods }

theorem respects_deletedMeanwhile :
    Stores.Respects .sample notificationRecorded deletedMeanwhile := by
  refine respects_pods fun s hs => ?_
  have hfound : (notificationRecorded.schedulers.get? .sample).map
      (fun s => (s.space, s.metadata.uid)) = some ("media", some "7") := by decide +kernel
  rw [hs, Option.map_some, Option.some.injEq, Prod.mk.injEq] at hfound
  rw [hfound.1, hfound.2]
  decide +kernel

theorem sample_stays_reached :
    ∃ l₁ l₂ log r₁ st₃ s₀ s₁ s₃,
      (ended .create (.succeeded "9" "") creating).schedulers.get? .sample = some s₀ ∧
      Key.of s₀.metadata = .sample ∧ s₀.metadata.deleting = false ∧
      Ends .none (ended .create (.succeeded "9" "") creating)
        ((Pass.sample "2020-01-01T00:00:00Z").reconcile "media/photos") l₁ notificationRecorded r₁ ∧
      History .none .sample (Stores.Respects .sample) notificationRecorded log deletedMeanwhile ∧
      Ends .none deletedMeanwhile ((Pass.sample "2020-01-01T00:00:00Z").reconcile "media/photos")
        l₂ st₃ (.ok ()) ∧
      notificationRecorded.schedulers.get? .sample = some s₁ ∧ (∀ stage, s₁.Says stage) ∧
      st₃.schedulers.get? .sample = some s₃ ∧ s₃.status = s₁.status := by
  obtain ⟨s₀, hs₀, hkey, hlive⟩ : ∃ s : Scheduler,
      s.Living .sample (ended .create (.succeeded "9" "") creating) :=
    Scheduler.Living.of_look (by decide +kernel)
  have hready : (notificationRecorded.schedulers.get? .sample).map
      (fun s => (decide (s.Says .topic), decide (s.Says .pullSubscription),
        decide (s.Says .notification))) = some (true, true, true) := by decide +kernel
  have htext : Key.parse "media/photos" = .ok .sample := rfl
  obtain ⟨l₁, r₁, hfirst⟩ : ∃ l r, Ends .none (ended .create (.succeeded "9" "") creating)
      ((Pass.sample "2020-01-01T00:00:00Z").reconcile "media/photos") l notificationRecorded r :=
    ends_passed _
  obtain ⟨l₂, r₂, hlater⟩ := ends_passed (t := .none) deletedMeanwhile
  have hbetween : History .none .sample (Stores.Respects .sample) notificationRecorded []
      deletedMeanwhile := .other .start respects_deletedMeanwhile
  obtain ⟨s₁, s₃, hs₁, hs₃, -, hstays⟩ :=
    stays_reached hs₀ hkey hlive htext hfirst hbetween htext hlater
  rw [hs₁] at hready
  simp only [Option.map_some, Option.some.injEq, Prod.mk.injEq, decide_eq_true_iff] at hready
  obtain ⟨htopic, hsubscription, hnotification⟩ := hready
  have hall : ∀ stage, s₁.Says stage
    | .topic => htopic
    | .pullSubscription => hsubscription
    | .notification => hnotification
  obtain ⟨rfl, hstatus⟩ := hstays hall
  exact ⟨l₁, l₂, [], r₁, _, s₀, s₁, s₃, hs₀, hkey, hlive, hfirst, hbetween, hlater, hs₁, hall, hs₃,
    hstatus⟩

end Pass

end EventWiring
