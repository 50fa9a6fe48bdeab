import EventWiring.Proofs.Pass.Stages

/-!
# The calls of a pass over a live scheduler

When an object is missing, what a pass has read before tells how it creates it (`Creating`). What
holds of every such creation, of the reads before, of the patch that puts the marker on and of the
status that follows from a finding holds of every call of the pass (`heeds_attend_live`).
-/

namespace EventWiring.Pass

open Program (Exchange Ends Heeds Obeys Trace ends_pure ends_ask_bind heeds_ask_bind)
open Notification (Args)

variable {t : Trouble} {st st' : Stores} {log : List Exchange} {p : Pass} {found s : Scheduler}
  {name : String} {P : List Exchange → Stores → Call → Prop}

section Creating

variable (t) (st) (p) (s) (name)

/-- What was read when an object turns out to be missing, and what is created then. -/
inductive Creating : List Exchange → (d : Dependent) → d.Object → Prop
  | topic (object : Topic) : s.topic name = .ok object →
    Creating [⟨.get .topic s.space s.displayName, .ok none⟩] .topic object
  | pullSubscription (topic : Topic) (ids : TopicIds) (object : PullSubscription) :
    topicIds topic name = .ok ids → s.pullSubscription name = .ok object →
    Creating [⟨.get .topic s.space s.displayName, .ok (some topic)⟩,
      ⟨.get .pullSubscription s.space s.displayName, .ok none⟩] .pullSubscription object
  | job (topic : Topic) (ids : TopicIds) (ps : PullSubscription) (uri : String) (args : Args) :
    topicIds topic name = .ok ids → sinkOf ps (Key.of s.metadata) = .ok uri →
    p.notificationArgs s .create ids.projectId (some ids.topicId) none = .ok args →
    Finds t st .job args.space args.jobName none →
    Creating [⟨.get .topic s.space s.displayName, .ok (some topic)⟩,
      ⟨.get .pullSubscription s.space s.displayName, .ok (some ps)⟩, lookup args (.ok none)]
      .job args.job

end Creating

/-- A pass looks before it creates. -/
theorem Creating.looks {l : List Exchange} {d : Dependent} {object : d.Object}
    (h : Creating t st p s name l d object) : ∀ x ∈ l, x.call.looks = true := by
  cases h <;> simp [Call.looks]

theorem heeds_ensure {d : Dependent} {space name : String} {desired : Except Error d.Object}
    (hlook : P log st (.get d space name))
    (hcreate : ∀ object, desired = .ok object →
      P (log ++ [⟨.get d space name, .ok none⟩]) st (.create d space object)) :
    Heeds t P log st (ensure d space name desired) := by
  refine heeds_ask_bind hlook fun reply st' hgives => ?_
  obtain ⟨rfl, -⟩ := hgives.get
  rcases reply with e | (_ | existing)
  · trivial
  · rcases desired with e | object
    · trivial
    · exact ⟨hcreate object rfl, fun _ _ _ => trivial⟩
  · trivial

/-- A job that succeeded was found. -/
theorem found_of_ensureJob {args : Args} {phase : Notification.Phase}
    (h : Ends t st (ensureJob args) log st' phase) (hphase : phase = .succeeded) :
    st' = st ∧ ∃ job : Job, log = [lookup args (.ok (some job))] := by
  obtain ⟨reply, st₁, rest, rfl, hgives, hrest⟩ := ends_ask_bind.1 h
  obtain ⟨rfl, -⟩ := hgives.get
  rcases reply with e | (_ | job)
  · obtain ⟨-, -, rfl⟩ := ends_pure.1 hrest
    cases hphase
  · obtain ⟨reply, st₂, later, rfl, -, hcreated⟩ := ends_ask_bind.1 hrest
    split at hcreated <;>
    · obtain ⟨-, -, rfl⟩ := ends_pure.1 hcreated
      cases hphase
  · obtain ⟨rfl, rfl, -⟩ := ends_pure.1 hrest
    exact ⟨rfl, job, rfl⟩

theorem heeds_runJob {args : Args}
    (hlook : ∀ l (c : Call), c.looks → (∀ x ∈ l, x.call.looks) → P (log ++ l) st c)
    (hcreate : Finds t st .job args.space args.jobName none →
      P (log ++ [lookup args (.ok none)]) st (.create .job args.space args.job)) :
    Heeds t P log st (runJob args) := by
  have hfirst : P log st (.get .job args.space args.jobName) := by
    have hnow := hlook [] (.get .job args.space args.jobName) rfl (List.forall_mem_nil _)
    rwa [List.append_nil] at hnow
  have hjob : Heeds t P log st (ensureJob args) := by
    refine heeds_ask_bind hfirst fun reply st' hgives => ?_
    obtain ⟨rfl, -, hread⟩ := hgives.get
    rcases reply with e | (_ | existing)
    · trivial
    · refine heeds_ask_bind (hcreate ((hread none rfl).imp_left Eq.symm)) fun reply _ _ => ?_
      split <;> trivial
    · trivial
  refine hjob.bind fun l mid phase hl => ?_
  split
  · trivial
  next houtcome =>
    obtain ⟨rfl, job, rfl⟩ := found_of_ensureJob hl (outcome_ok houtcome)
    refine heeds_ask_bind (hlook _ _ rfl (List.forall_mem_singleton.2 rfl)) fun reply _ _ => ?_
    split <;> trivial

/-- The stages one after the other: a stage that is reached has read what it needs. -/
theorem heeds_survey
    (hlook : ∀ l (c : Call), c.looks → (∀ x ∈ l, x.call.looks) → P (log ++ l) st c)
    (hcreate : ∀ l d space object, Creating t st p s name l d object →
      P (log ++ l) st (.create d space object)) :
    Heeds t P log st (p.survey s name) := by
  have htopic : Heeds t P log st (reachTopic s name) := by
    have hnow := hlook [] (.get .topic s.space s.displayName) rfl (List.forall_mem_nil _)
    rw [List.append_nil] at hnow
    refine (heeds_ensure hnow fun object hdesired => ?_).bind fun _ _ _ _ => ?_
    · exact hcreate _ _ _ _ (.topic object hdesired)
    · split <;> trivial
  refine htopic.bind fun l mid topic hl => ?_
  rcases topic with b | ids
  · trivial
  obtain ⟨topic, rfl, rfl, hids⟩ := reached_topic hl
  have hsubscription : Heeds t P (log ++ [⟨.get .topic s.space s.displayName, .ok (some topic)⟩]) mid
      (reachSubscription s name) := by
    have hnow := hlook [⟨.get .topic s.space s.displayName, .ok (some topic)⟩]
      (.get .pullSubscription s.space s.displayName) rfl (List.forall_mem_singleton.2 rfl)
    refine (heeds_ensure hnow fun object hdesired => ?_).bind fun _ _ _ _ => ?_
    · rw [List.append_assoc]
      exact hcreate _ _ _ _ (.pullSubscription topic ids object hids hdesired)
    · split <;> trivial
  refine hsubscription.bind fun l mid subscription hl => ?_
  rcases subscription with b | uri
  · trivial
  obtain ⟨ps, rfl, rfl, huri⟩ := reached_subscription hl
  have hcreation : Heeds t P (log ++ [⟨.get .topic s.space s.displayName, .ok (some topic)⟩] ++
      [⟨.get .pullSubscription s.space s.displayName, .ok (some ps)⟩]) mid
      (p.createNotification s ids.known) := by
    unfold createNotification
    split
    · trivial
    next args hargs =>
      refine heeds_runJob (fun l c hc hl => ?_) fun habsent => ?_
      · rw [List.append_assoc, List.append_assoc]
        refine hlook _ c hc fun x hx => ?_
        rcases List.mem_append.1 hx with hx | hx
        · rw [List.mem_singleton.1 hx]
          rfl
        · rcases List.mem_append.1 hx with hx | hx
          · rw [List.mem_singleton.1 hx]
            rfl
          · exact hl x hx
      · rw [List.append_assoc, List.append_assoc]
        exact hcreate _ _ _ _ (.job topic ids ps uri args hids huri hargs habsent)
  refine (hcreation.bind fun _ _ report _ => ?_).bind fun _ _ report _ => ?_
  · split <;> trivial
  · rcases report with b | report <;> trivial

theorem heeds_conclude {result : Except Error Ending}
    (htell : ∀ log st e, P log st (.publish e)) (hupdate : P log st (.updateStatus s)) :
    Heeds t P log st (conclude found s result) := by
  unfold conclude
  split
  · trivial
  have hstore : Heeds t P log st (storeStatus found s) := by
    refine heeds_ask_bind hupdate fun reply _ _ => ?_
    split
    · trivial
    · split
      · exact heeds_ask_bind (htell _ _ _) fun _ _ _ => trivial
      · trivial
  refine hstore.bind fun l mid written _ => ?_
  split
  · trivial
  · exact heeds_ask_bind (htell _ _ _) fun _ _ _ => trivial

/-- Every call of a pass over a live scheduler: the marker, the survey and what is stored of it. -/
theorem heeds_attend_live (hlive : found.metadata.deleting = false)
    (hpatch : ∀ patch, found.addMarker? = some patch →
      P log st (.patchScheduler found.space found.displayName patch))
    (hsurvey : ∀ l mid marked, MarkerPut t st found l mid (.ok marked) → Heeds t P (log ++ l) mid
      (p.survey marked (topicName marked (marked.status.getD .blank))))
    (hupdate : ∀ l mid marked l' mid' g, MarkerPut t st found l mid (.ok marked) →
      Ends t mid (p.survey marked (topicName marked (marked.status.getD .blank))) l' mid' g →
      P (log ++ l ++ l') mid' (.updateStatus (p.settled marked (g.record p))))
    (htell : ∀ log st e, P log st (.publish e)) :
    Heeds t P log st (p.attend found) := by
  unfold attend
  rw [work_of_live p hlive, Program.bind_assoc]
  have hmarker : Heeds t P log st (ensureMarker found) := by
    unfold ensureMarker
    split
    · trivial
    next patch hsome =>
      refine heeds_ask_bind (hpatch patch hsome) fun reply _ _ => ?_
      split <;> trivial
  refine hmarker.bind fun l mid r hr => ?_
  have hput := ends_ensureMarker hr
  rcases r with e | marked
  · rw [Program.pure_bind, finish_refused]
    trivial
  simp only [Program.bind_assoc]
  refine (hsurvey l mid marked hput).bind fun l' mid' g hg => ?_
  rw [Program.pure_bind, finish_eq g.result_ne_finalized]
  exact heeds_conclude htell (hupdate l mid marked l' mid' g hput hg)

/-- Whatever it is answered, a pass goes on with the scheduler that it found, marked. -/
theorem remarked_of_ensureMarker {marked : Scheduler}
    (h : Trace (ensureMarker s) log (.ok marked)) :
    ∃ finalizers version, marked = remarked s finalizers version := by
  unfold ensureMarker at h
  split at h
  · cases (Program.trace_pure.1 h).2
    exact ⟨_, _, rfl⟩
  next patch hpatch =>
    obtain ⟨reply, rest, rfl, hreply⟩ := Program.trace_ask_bind.1 h
    rcases reply with e | patched
    · cases (Program.trace_pure.1 hreply).2
    · cases (Program.trace_pure.1 hreply).2
      exact ⟨_, _, rfl⟩

/-- What is wanted depends on neither the marker nor the version. -/
theorem Wanted.of_remarked {finalizers : Option (List String)} {version : Option String}
    {d : Dependent} {object : d.Object}
    (h : p.Wanted (remarked s finalizers version) name d object) : p.Wanted s name d object := by
  cases h with
  | topic _ hobject => exact .topic _ hobject
  | pullSubscription _ hobject => exact .pullSubscription _ hobject
  | job ids args hargs => exact .job ids args hargs

/-- Every call of a pass over a live scheduler where it does not matter what is stored. -/
theorem obeys_attend_live {Q : List Exchange → Call → Prop} (hlive : s.metadata.deleting = false)
    (htell : ∀ log e, Q log (.publish e))
    (hpatch : ∀ log patch, s.addMarker? = some patch →
      Q log (.patchScheduler s.space s.displayName patch))
    (hsurvey : ∀ log finalizers version, Obeys Q log
      (p.survey (remarked s finalizers version) (topicName s (s.status.getD .blank))))
    (hupdate : ∀ log new, Q log (.updateStatus new)) : Obeys Q log (p.attend s) := by
  unfold attend
  rw [work_of_live p hlive, Program.bind_assoc]
  refine (obeys_ensureMarker (hpatch log)).bind fun l r hr => ?_
  rcases r with e | marked
  · rw [Program.pure_bind]
    exact obeys_finish htell fun _ => hupdate _ _
  obtain ⟨finalizers, version, rfl⟩ := remarked_of_ensureMarker hr
  simp only [Program.bind_assoc]
  exact (hsurvey _ finalizers version).bind fun _ _ _ => obeys_finish htell fun _ => hupdate _ _

end EventWiring.Pass
