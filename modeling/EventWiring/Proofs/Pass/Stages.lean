import EventWiring.Proofs.Pass.Order
import EventWiring.Proofs.Pass.Writes
import EventWiring.Proofs.World.Reach

/-!
# How the stages come out

On stores in memory, whatever goes wrong, a stage comes out in one of a few ways, each with its own
exchanges and its own effect on what is stored: `Ensured` tells them for an object that is got or
created, `JobRun` for a job that is run, `MarkerPut` and `StatusPut` for the two writes of a pass to
its scheduler. An object that a pass creates is never one that the next stage can build on, so that
a stage that is reached has only read (`reached_topic`, `reached_subscription`).
-/

namespace EventWiring

/-- The call is one of those by which a scheduler is wired up. -/
def Call.wires : Call → Bool
  | create _ _ _ => true
  | c => c.looks

open Program (Exchange Ends Heeds Obeys ends_pure ends_ask ends_ask_bind ends_bind heeds_ask_bind)
open Notification (Action Args Report)

namespace Pass

variable {t : Trouble} {st st' : Stores} {log : List Exchange} {p : Pass} {s : Scheduler}

theorem wires_survey {name : String} : Obeys (fun _ c => c.wires) log (p.survey s name) := by
  refine obeys_survey (fun _ c hc => ?_) fun _ _ _ _ _ => rfl
  cases c <;> first | rfl | cases hc

/-- Wiring up leaves the schedulers alone. -/
theorem schedulers_survey {name : String} {g : Progress}
    (h : Ends t st (p.survey s name) log st' g) : st'.schedulers = st.schedulers := by
  refine h.keeps (I := fun mid => mid.schedulers = st.schedulers) wires_survey ?_ rfl
  intro c reply mid mid' hc hgives hmid
  rw [← hmid]
  refine hgives.schedulers ?_
  cases c <;> first | rfl | cases hc

/-! ## Objects -/

section Ensured

variable (t) (st) (d : Dependent) (space name : String) (desired : Except Error d.Object)

/-- A read of an object finds what is stored, or may find anything. -/
def Finds (found : Option d.Object) : Prop :=
  (st.dependents d).get? ⟨space, name⟩ = found ∨ t.stale d

inductive Ensured : List Exchange → Stores → Except Error d.Object → Prop
  | found (existing : d.Object) : Finds t st d space name (some existing) →
    Ensured [⟨.get d space name, .ok (some existing)⟩] st (.ok existing)
  | unread (e : Error) : t.fails (.get d space name) →
    Ensured [⟨.get d space name, .error e⟩] st (.error e)
  | undesired (e : Error) : Finds t st d space name none → desired = .error e →
    Ensured [⟨.get d space name, .ok none⟩] st (.error e)
  | created (object : d.Object) : Finds t st d space name none → desired = .ok object →
    (st.dependents d).get? (Key.of (d.metadata object)) = none →
    Ensured [⟨.get d space name, .ok none⟩, ⟨.create d space object, .ok object⟩]
      (st.setDependents d ((st.dependents d).put (Key.of (d.metadata object)) object))
      (.ok object)
  | refused (object : d.Object) (e : Error) : Finds t st d space name none →
    desired = .ok object →
    (t.fails (.create d space object) ∨
      (st.dependents d).get? (Key.of (d.metadata object)) ≠ none) →
    Ensured [⟨.get d space name, .ok none⟩, ⟨.create d space object, .error e⟩] st (.error e)

end Ensured

variable {d : Dependent} {space name : String} {desired : Except Error d.Object}

theorem ends_ensure {r : Except Error d.Object}
    (h : Ends t st (ensure d space name desired) log st' r) :
    Ensured t st d space name desired log st' r := by
  obtain ⟨reply, st₁, rest, rfl, hgives, hrest⟩ := ends_ask_bind.1 h
  obtain ⟨rfl, hfails, hread⟩ := hgives.get
  rcases reply with e | (_ | existing)
  · obtain ⟨rfl, rfl, rfl⟩ := ends_pure.1 hrest
    exact .unread e (hfails e rfl)
  · have habsent : Finds t st₁ d space name none := (hread none rfl).imp_left Eq.symm
    rcases desired with e | object
    · obtain ⟨rfl, rfl, rfl⟩ := ends_pure.1 hrest
      exact .undesired e habsent rfl
    · obtain ⟨hcreate, rfl⟩ := ends_ask.1 hrest
      obtain ⟨e, rfl, rfl, hrefused⟩ | ⟨rfl, hnone, rfl⟩ := hcreate.create
      · exact .refused object e habsent rfl hrefused
      · exact .created object habsent rfl hnone
  · obtain ⟨rfl, rfl, rfl⟩ := ends_pure.1 hrest
    exact .found existing ((hread _ rfl).imp_left Eq.symm)

theorem Ensured.found_or_desired {r : Except Error d.Object} {object : d.Object}
    (h : Ensured t st d space name desired log st' r) (hr : r = .ok object) :
    (log = [⟨.get d space name, .ok (some object)⟩] ∧ st' = st) ∨ desired = .ok object := by
  cases h with
  | found existing =>
    cases hr
    exact .inl ⟨rfl, rfl⟩
  | created desiredObject _ hdesired =>
    cases hr
    exact .inr hdesired
  | _ => cases hr

/-- Where nothing goes wrong, what is stored is found, and what is not is created. -/
theorem Ensured.current {r : Except Error d.Object}
    (h : Ensured .none st d space name desired log st' r)
    (hkey : ∀ object, desired = .ok object → Key.of (d.metadata object) = ⟨space, name⟩) :
    (∃ existing, (st.dependents d).get? ⟨space, name⟩ = some existing ∧ r = .ok existing) ∨
      (st.dependents d).get? ⟨space, name⟩ = none ∧ r = desired := by
  cases h with
  | found existing hfinds => exact .inl ⟨existing, hfinds.resolve_right id, rfl⟩
  | unread e hfails => exact hfails.elim
  | undesired e hfinds hdesired => exact .inr ⟨hfinds.resolve_right id, hdesired.symm⟩
  | created object hfinds hdesired => exact .inr ⟨hfinds.resolve_right id, hdesired.symm⟩
  | refused object e hfinds hdesired hrefused =>
    rw [hkey object hdesired, hfinds.resolve_right id] at hrefused
    exact absurd rfl (hrefused.resolve_left id)

/-! ## The topic and the pull subscription -/

/-- The topic is ready and tells its project and the name that is expected of it. -/
def TopicFits (topic : Topic) (name : String) : Prop :=
  topic.ready = true ∧ ∃ status, topic.status = some status ∧ status.projectId.getD "" ≠ "" ∧
    status.topicId = some name

/-- The pull subscription is ready and tells a sink that is a URI. -/
def SinkFits (ps : PullSubscription) : Prop := ps.ready = true ∧ Uri.check ps.sinkUri = .ok ()

/-- Identifiers that are missing count as empty. -/
theorem topicFits_iff {topic : Topic} (hname : name ≠ "") :
    TopicFits topic name ↔ topic.ready = true ∧
      (topic.status.getD .blank).projectId.getD "" ≠ "" ∧
      (topic.status.getD .blank).topicId.getD "" = name := by
  unfold TopicFits
  cases topic.status with
  | none => simp [TopicStatus.blank]
  | some status =>
    have hid : status.topicId = some name ↔ status.topicId.getD "" = name := by
      cases status.topicId with
      | none => simpa using Ne.symm hname
      | some id => simp
    simp [hid]

theorem fits_of_topicIds {topic : Topic} {ids : TopicIds} (h : topicIds topic name = .ok ids) :
    TopicFits topic name := by
  rw [topicFits_iff (topicIds_ok h).2]
  simp only [topicIds] at h
  split at h
  · cases h
  next hready =>
  split at h
  · cases h
  next hproject =>
  split at h
  · cases h
  split at h
  · cases h
  next hid => exact ⟨by simpa using hready, hproject, Decidable.not_not.1 hid⟩

theorem fits_of_sinkOf {ps : PullSubscription} {key : Key} {uri : String}
    (h : sinkOf ps key = .ok uri) : SinkFits ps := by
  unfold sinkOf at h
  split at h
  · cases h
  next hready =>
  split at h
  · next hcheck => exact ⟨by simpa using hready, hcheck⟩
  · cases h

theorem not_ready_of_topic {topic : Topic} (h : s.topic name = .ok topic) :
    topic.ready = false := by
  obtain ⟨metadata, -, rfl⟩ := map_eq_ok.1 h
  rfl

theorem not_ready_of_pullSubscription {ps : PullSubscription}
    (h : s.pullSubscription name = .ok ps) : ps.ready = false := by
  obtain ⟨metadata, -, rfl⟩ := map_eq_ok.1 h
  rfl

/-- A topic that is reached was read, and nothing was written. -/
theorem reached_topic {ids : TopicIds} (h : Ends t st (reachTopic s name) log st' (.ok ids)) :
    ∃ topic : Topic, log = [⟨.get .topic s.space s.displayName, .ok (some topic)⟩] ∧ st' = st ∧
      topicIds topic name = .ok ids := by
  obtain ⟨l, r, mid, l', hensure, hrest, rfl⟩ := ends_bind.1 h
  rcases r with e | topic
  · cases (ends_pure.1 hrest).2.2
  obtain ⟨rfl, rfl, hids⟩ := ends_pure.1 hrest
  obtain ⟨rfl, rfl⟩ | hdesired := (ends_ensure hensure).found_or_desired rfl
  · exact ⟨topic, rfl, rfl, hids.symm⟩
  · have hready := (fits_of_topicIds hids.symm).1
    rw [not_ready_of_topic hdesired] at hready
    cases hready

theorem reached_subscription {uri : String}
    (h : Ends t st (reachSubscription s name) log st' (.ok uri)) :
    ∃ ps : PullSubscription,
      log = [⟨.get .pullSubscription s.space s.displayName, .ok (some ps)⟩] ∧ st' = st ∧
      sinkOf ps (Key.of s.metadata) = .ok uri := by
  obtain ⟨l, r, mid, l', hensure, hrest, rfl⟩ := ends_bind.1 h
  rcases r with e | ps
  · cases (ends_pure.1 hrest).2.2
  obtain ⟨rfl, rfl, huri⟩ := ends_pure.1 hrest
  obtain ⟨rfl, rfl⟩ | hdesired := (ends_ensure hensure).found_or_desired rfl
  · exact ⟨ps, rfl, rfl, huri.symm⟩
  · have hready := (fits_of_sinkOf huri.symm).1
    rw [not_ready_of_pullSubscription hdesired] at hready
    cases hready

/-! ## Jobs -/

section JobRun

variable (t) (st) (args : Args)

/-- What is answered when a job is looked up. -/
abbrev lookup (answer : Except Error (Option Job)) : Exchange :=
  ⟨.get .job args.space args.jobName, answer⟩

inductive JobRun : List Exchange → Stores → Except Error Report → Prop
  | unread (e : Error) : t.fails (.get .job args.space args.jobName) →
    JobRun [lookup args (.error e)] st (.error (.other e.message))
  | created : Finds t st .job args.space args.jobName none →
    st.jobs.get? ⟨args.space, args.jobName⟩ = none →
    JobRun [lookup args (.ok none), ⟨.create .job args.space args.job, .ok args.job⟩]
      { st with jobs := st.jobs.put ⟨args.space, args.jobName⟩ args.job }
      (.error (.jobNotCompleted args.jobName))
  | refused (e e' : Error) : Finds t st .job args.space args.jobName none →
    (t.fails (.create .job args.space args.job) ∨
      st.jobs.get? ⟨args.space, args.jobName⟩ ≠ none) →
    JobRun [lookup args (.ok none), ⟨.create .job args.space args.job, .error e⟩] st (.error e')
  | unfit (job : Job) (e : Error) : Finds t st .job args.space args.jobName (some job) →
    job.phase.outcome args.jobName = .error e →
    JobRun [lookup args (.ok (some job))] st (.error e)
  | unlisted (job : Job) (e : Error) : Finds t st .job args.space args.jobName (some job) →
    job.phase = .succeeded → t.fails (.listPods args.space args.podSelector) →
    JobRun [lookup args (.ok (some job)), ⟨.listPods args.space args.podSelector, .error e⟩] st
      (.error e)
  | reported (job : Job) : Finds t st .job args.space args.jobName (some job) →
    job.phase = .succeeded →
    JobRun [lookup args (.ok (some job)), ⟨.listPods args.space args.podSelector,
        .ok (st.listPods args.space args.podSelector)⟩] st
      (reportOf (st.listPods args.space args.podSelector))

end JobRun

variable {args : Args} {r : Except Error Report}

theorem ends_runJob (h : Ends t st (runJob args) log st' r) : JobRun t st args log st' r := by
  obtain ⟨l, phase, mid, l', hjob, hrest, rfl⟩ := ends_bind.1 h
  obtain ⟨reply, st₁, rest, rfl, hgives, hphase⟩ := ends_ask_bind.1 hjob
  obtain ⟨rfl, hfails, hread⟩ := hgives.get
  have hfinds : ∀ found, reply = .ok found → Finds t st₁ .job args.space args.jobName found :=
    fun found h => (hread found h).imp_left Eq.symm
  rcases reply with e | (_ | job)
  · obtain ⟨rfl, rfl, rfl⟩ := ends_pure.1 hphase
    obtain ⟨rfl, rfl, rfl⟩ := ends_pure.1 hrest
    exact .unread e (hfails e rfl)
  · obtain ⟨reply, st₂, later, rfl, hcreate, hcreated⟩ := ends_ask_bind.1 hphase
    obtain ⟨e, rfl, rfl, hrefused⟩ | ⟨rfl, hnone, rfl⟩ := hcreate.create
    · obtain ⟨e', houtcome, rfl, rfl⟩ : ∃ e', phase.outcome args.jobName = .error e' ∧
          later = [] ∧ mid = st₂ := by
        split at hcreated <;>
        · obtain ⟨rfl, rfl, rfl⟩ := ends_pure.1 hcreated
          exact ⟨_, rfl, rfl, rfl⟩
      rw [houtcome] at hrest
      obtain ⟨rfl, rfl, rfl⟩ := ends_pure.1 hrest
      exact .refused e e' (hfinds none rfl) hrefused
    · obtain ⟨rfl, rfl, rfl⟩ := ends_pure.1 hcreated
      obtain ⟨rfl, rfl, rfl⟩ := ends_pure.1 hrest
      exact .created (hfinds none rfl) hnone
  · obtain ⟨rfl, rfl, rfl⟩ := ends_pure.1 hphase
    cases houtcome : job.phase.outcome args.jobName with
    | error e =>
      rw [houtcome] at hrest
      obtain ⟨rfl, rfl, rfl⟩ := ends_pure.1 hrest
      exact .unfit job e (hfinds _ rfl) houtcome
    | ok u =>
      cases u
      have hsucceeded := outcome_ok houtcome
      rw [houtcome] at hrest
      obtain ⟨reply, st₂, later, rfl, hlist, hlisted⟩ := ends_ask_bind.1 hrest
      obtain ⟨rfl, hfails, hpods⟩ := hlist.listPods
      rcases reply with e | pods
      · obtain ⟨rfl, rfl, rfl⟩ := ends_pure.1 hlisted
        exact .unlisted job e (hfinds _ rfl) hsucceeded (hfails e rfl)
      · obtain rfl := hpods pods rfl
        obtain ⟨rfl, rfl, rfl⟩ := ends_pure.1 hlisted
        exact .reported job (hfinds _ rfl) hsucceeded

theorem notificationArgs_of_owner {owner : OwnerReference} (howner : s.ownerReference = .ok owner)
    (p : Pass) (action : Action) (projectId : String) (topicId notificationId : Option String) :
    ∃ args, p.notificationArgs s action projectId topicId notificationId = .ok args ∧
      args.uid = owner.uid ∧ args.space = s.space ∧ args.action = action :=
  ⟨_, notificationArgs_eq_ok.2 ⟨owner, howner, rfl⟩, rfl, rfl, rfl⟩

/-! ## The scheduler itself -/

/-- The scheduler with other finalizers, at another version. -/
def remarked (s : Scheduler) (finalizers : Option (List String)) (version : Option String) :
    Scheduler :=
  { s with metadata.finalizers := finalizers, metadata.resourceVersion := version }

section Scheduler

variable (t) (st) (found : Scheduler)

/-- How it comes out to put the marker on. -/
inductive MarkerPut : List Exchange → Stores → Except Error Scheduler → Prop
  | there : Scheduler.marker ∈ found.metadata.markers → MarkerPut [] st (.ok found)
  | refused (patch : FinalizerPatch) (e : Error) : found.addMarker? = some patch →
    (t.fails (.patchScheduler found.space found.displayName patch) ∨
      st.schedulers.get? (Key.of found.metadata) = none) →
    MarkerPut [⟨.patchScheduler found.space found.displayName patch, .error e⟩] st (.error e)
  | put (patch : FinalizerPatch) (stored : Scheduler) : found.addMarker? = some patch →
    st.schedulers.get? (Key.of found.metadata) = some stored →
    MarkerPut
      [⟨.patchScheduler found.space found.displayName patch, .ok (Stores.patched stored patch)⟩]
      { st with
        schedulers := st.schedulers.put (Key.of found.metadata) (Stores.patched stored patch) }
      (.ok (remarked found (Stores.patched stored patch).metadata.finalizers
        (Stores.patched stored patch).metadata.resourceVersion))

variable (s : Scheduler) (result : Except Error Ending)

/-- How it comes out to store what changed. -/
inductive StatusPut : Stores → Except Error Unit → Prop
  | unchanged : found.status = s.status → found.metadata = s.metadata →
    StatusPut st (result.map fun _ => ())
  | refused (e : Error) : (t.fails (.updateStatus s) ∨
      ∀ stored, st.schedulers.get? (Key.of s.metadata) = some stored →
        stored.metadata.resourceVersion ≠ s.metadata.resourceVersion) →
    StatusPut st (.error e)
  | put (stored : Scheduler) : st.schedulers.get? (Key.of s.metadata) = some stored →
    StatusPut
      { st with
        schedulers := st.schedulers.put (Key.of s.metadata)
          (Stores.bumped { stored with status := s.status }) }
      (result.map fun _ => ())

end Scheduler

variable {found : Scheduler}

theorem ends_ensureMarker {r : Except Error Scheduler}
    (h : Ends t st (ensureMarker found) log st' r) : MarkerPut t st found log st' r := by
  unfold ensureMarker at h
  cases hpatch : found.addMarker? with
  | none =>
    rw [hpatch] at h
    obtain ⟨rfl, rfl, rfl⟩ := ends_pure.1 h
    exact .there (Scheduler.addMarker?_eq_none.1 hpatch)
  | some patch =>
    rw [hpatch] at h
    obtain ⟨reply, st₁, rest, rfl, hgives, hrest⟩ := ends_ask_bind.1 h
    obtain ⟨e, rfl, rfl, hrefused⟩ | ⟨stored, _, hstored, rfl, rfl, rfl⟩ := hgives.patchScheduler
    · obtain ⟨rfl, rfl, rfl⟩ := ends_pure.1 hrest
      exact .refused patch e hpatch hrefused
    · obtain ⟨rfl, rfl, rfl⟩ := ends_pure.1 hrest
      exact .put patch stored hpatch hstored

/-- What the pass carries on with is stored then, with the marker on. -/
theorem MarkerPut.stored {r : Except Error Scheduler} (h : MarkerPut t st found log st' r)
    (hstored : st.schedulers.get? (Key.of found.metadata) = some found) (hr : r = .ok s) :
    st'.schedulers.get? (Key.of found.metadata) = some s ∧
      Scheduler.marker ∈ s.metadata.markers ∧
      (∃ finalizers version, s = remarked found finalizers version) ∧
      ∃ schedulers, st' = { st with schedulers } := by
  cases h with
  | there hmarker =>
    cases hr
    exact ⟨hstored, hmarker, ⟨_, _, rfl⟩, _, rfl⟩
  | refused => cases hr
  | put patch stored hpatch hput =>
    obtain rfl : found = stored := Option.some.inj (hstored.symm.trans hput)
    cases hr
    refine ⟨Store.get?_put _ _ _, ?_, ⟨_, _, rfl⟩, _, rfl⟩
    show Scheduler.marker ∈ patch.finalizers
    rw [Scheduler.finalizers_of_addMarker? hpatch]
    simp

theorem ends_conclude {result : Except Error Ending} {r : Except Error Unit}
    (h : Ends t st (conclude found s result) log st' r) : StatusPut t st found s result st' r := by
  by_cases hsame : found.status = s.status ∧ found.metadata = s.metadata
  · rw [conclude, if_pos hsame] at h
    obtain ⟨rfl, rfl, rfl⟩ := ends_pure.1 h
    exact .unchanged hsame.1 hsame.2
  rw [conclude_changed hsame] at h
  obtain ⟨l, written, mid, l', hstore, hrest, rfl⟩ := ends_bind.1 h
  obtain ⟨reply, st₁, later, rfl, hgives, hreply⟩ := ends_ask_bind.1 hstore
  obtain ⟨e, rfl, rfl, hrefused⟩ | ⟨stored, updated, hstored, rfl, rfl, rfl⟩ :=
    hgives.updateStatus
  · obtain ⟨rfl, rfl, rfl⟩ := ends_pure.1 hreply
    obtain ⟨heard, st₂, last, rfl, htold, hend⟩ := ends_ask_bind.1 hrest
    obtain ⟨rfl, rfl, rfl⟩ := ends_pure.1 hend
    rw [htold.publish]
    exact .refused e hrefused
  · obtain ⟨rfl, rfl⟩ : written = .ok () ∧ mid = { st with
        schedulers := st.schedulers.put (Key.of s.metadata)
          (Stores.bumped { stored with status := s.status }) } := by
      simp only at hreply
      split at hreply
      · obtain ⟨heard, st₂, last, rfl, htold, hend⟩ := ends_ask_bind.1 hreply
        obtain ⟨-, rfl, rfl⟩ := ends_pure.1 hend
        exact ⟨rfl, htold.publish⟩
      · obtain ⟨-, rfl, rfl⟩ := ends_pure.1 hreply
        exact ⟨rfl, rfl⟩
    obtain ⟨-, rfl, rfl⟩ := ends_pure.1 hrest
    exact .put stored hstored

/-- The status that was to be stored is stored, unless the write fails. -/
theorem StatusPut.failed_or_left {x : Except Error Ending} {r : Except Error Unit}
    {stored : Scheduler} (h : StatusPut t st found s x st' r)
    (hstored : st.schedulers.get? (Key.of s.metadata) = some stored)
    (hstatus : stored.status = found.status)
    (hversion : stored.metadata.resourceVersion = s.metadata.resourceVersion) :
    (∃ e, r = .error e ∧ t.fails (.updateStatus s)) ∨ r = x.map (fun _ => ()) ∧
      ∃ left, st'.schedulers.get? (Key.of s.metadata) = some left ∧ left.status = s.status := by
  cases h with
  | unchanged hsame => exact .inr ⟨rfl, stored, hstored, hstatus.trans hsame⟩
  | refused e hrefused =>
    exact .inl ⟨e, rfl, hrefused.resolve_right fun hstale => hstale stored hstored hversion⟩
  | put => exact .inr ⟨rfl, _, Store.get?_put _ _ _, rfl⟩

theorem StatusPut.left {x : Except Error Ending} {r : Except Error Unit} {stored : Scheduler}
    (h : StatusPut t st found s x st' r)
    (hstored : st.schedulers.get? (Key.of s.metadata) = some stored)
    (hstatus : stored.status = found.status)
    (hversion : stored.metadata.resourceVersion = s.metadata.resourceVersion)
    (hfails : ¬ t.fails (.updateStatus s)) :
    r = x.map (fun _ => ()) ∧
      ∃ left, st'.schedulers.get? (Key.of s.metadata) = some left ∧ left.status = s.status :=
  (h.failed_or_left hstored hstatus hversion).resolve_left fun ⟨_, _, h⟩ => hfails h

/-- The work of a pass over a live scheduler: the marker is seen to, and then the wiring. -/
theorem ends_work_live {x : Except Error Ending × Scheduler}
    (hstored : st.schedulers.get? (Key.of found.metadata) = some found)
    (hlive : found.metadata.deleting = false) (h : Ends t st (p.work found) log st' x) :
    (∃ patch e, t.fails (.patchScheduler found.space found.displayName patch) ∧
        x = (.error e, found) ∧ st' = st) ∨
      ∃ schedulers finalizers version l g,
        st'.schedulers.get? (Key.of found.metadata) = some (remarked found finalizers version) ∧
        Ends t { st with schedulers }
          (p.survey found (topicName found (found.status.getD .blank))) l st' g ∧
        x = (g.result, p.settled (remarked found finalizers version) (g.record p)) := by
  rw [work_of_live p hlive] at h
  obtain ⟨l, marked, mid, l', hmarker, hrest, rfl⟩ := ends_bind.1 h
  have hput := ends_ensureMarker hmarker
  rcases marked with e | marked
  · obtain ⟨rfl, rfl, rfl⟩ := ends_pure.1 hrest
    cases hput with
    | refused patch _ _ hrefused =>
      rw [hstored] at hrefused
      exact .inl ⟨patch, e, hrefused.resolve_right nofun, rfl, rfl⟩
  · obtain ⟨hkept, -, ⟨finalizers, version, rfl⟩, schedulers, rfl⟩ := hput.stored hstored rfl
    obtain ⟨l₁, g, mid₁, l₁', hsurvey, hsettled, rfl⟩ := ends_bind.1 hrest
    obtain ⟨rfl, rfl, rfl⟩ := ends_pure.1 hsettled
    have hschedulers : st'.schedulers = schedulers := schedulers_survey hsurvey
    rw [← hschedulers] at hkept
    exact .inr ⟨schedulers, finalizers, version, l₁, g, hkept, hsurvey, rfl⟩

/-- A pass whose marker could not be put on has nothing to store. -/
theorem finish_refused (found : Scheduler) (e : Error) :
    finish found (.error e, found) = pure (.error e) :=
  if_pos ⟨rfl, rfl⟩

/-- A pass over a live scheduler ends as the wiring does, and leaves the status that follows from
what was found, unless a write to the scheduler fails. -/
theorem ends_attend_live {r : Except Error Unit}
    (hstored : st.schedulers.get? (Key.of found.metadata) = some found)
    (hlive : found.metadata.deleting = false) (h : Ends t st (p.attend found) log st' r) :
    (∃ e c, r = .error e ∧ t.fails c) ∨ ∃ schedulers l mid g,
      Ends t { st with schedulers }
        (p.survey found (topicName found (found.status.getD .blank))) l mid g ∧
      r = g.result.map (fun _ => ()) ∧
      ∃ left, st'.schedulers.get? (Key.of found.metadata) = some left ∧
        left.status = (p.settled found (g.record p)).status := by
  obtain ⟨l, y, mid, l', hwork, hfinish, rfl⟩ := ends_bind.1 h
  obtain ⟨patch, e, hfails, rfl, rfl⟩ |
      ⟨schedulers, finalizers, version, l₁, g, hmarked, hsurvey, rfl⟩ :=
    ends_work_live hstored hlive hwork
  · rw [finish_refused] at hfinish
    exact .inl ⟨e, _, (ends_pure.1 hfinish).2.2, hfails⟩
  rw [finish_eq g.result_ne_finalized] at hfinish
  obtain ⟨e, hresult, hfails⟩ | hleft := (ends_conclude hfinish).failed_or_left hmarked rfl rfl
  · exact .inl ⟨e, _, hresult, hfails⟩
  · exact .inr ⟨schedulers, l₁, mid, g, hsurvey, hleft⟩

/-- A pass over a scheduler that is stored attends to it, unless it cannot be read. -/
theorem ends_reconcile_stored {text : String} {r : Except Error Unit}
    (hkey : Key.parse text = .ok (Key.of found.metadata))
    (hstored : st.schedulers.get? (Key.of found.metadata) = some found)
    (h : Ends t st (p.reconcile text) log st' r) :
    (∃ e c, r = .error e ∧ t.fails c) ∨
      ∃ rest, log = ⟨.getScheduler found.space found.displayName, .ok (some found)⟩ :: rest ∧
        Ends t st (p.attend found) rest st' r := by
  rw [reconcile_eq p hkey] at h
  obtain ⟨reply, st₁, rest, rfl, hgives, hrest⟩ := ends_ask_bind.1 h
  obtain ⟨rfl, hfails, hread⟩ := hgives.getScheduler
  rcases reply with e | read
  · exact .inl ⟨e, _, (ends_pure.1 hrest).2.2, hfails e rfl⟩
  · obtain rfl : read = some found := (hread read rfl).trans hstored
    exact .inr ⟨rest, rfl, hrest⟩

/-- A pass over a scheduler that is stored works on it. -/
theorem heeds_reconcile_stored {P : List Exchange → Stores → Call → Prop} {text : String}
    (hkey : Key.parse text = .ok (Key.of found.metadata))
    (hstored : st.schedulers.get? (Key.of found.metadata) = some found)
    (hread : P [] st (.getScheduler found.space found.displayName))
    (hattend : Heeds t P [⟨.getScheduler found.space found.displayName, .ok (some found)⟩] st
      (p.attend found)) : Heeds t P [] st (p.reconcile text) := by
  rw [reconcile_eq p hkey]
  refine heeds_ask_bind hread fun reply st' hgives => ?_
  obtain ⟨rfl, -, hfound⟩ := hgives.getScheduler
  rcases reply with e | (_ | read)
  · trivial
  · trivial
  · obtain rfl : found = read := Option.some.inj (hstored.symm.trans (hfound _ rfl).symm)
    exact hattend

end Pass

end EventWiring
