import EventWiring.Proofs.Pass.Standing
import EventWiring.Proofs.Pass.Work

/-!
# What a pass that fails remembers

A pass writes its status even when it fails, with the identifiers that it has come to know by then
and all others as they were. Over a live scheduler it comes to know those of the objects that fit
(`Remembers`); over one that is being deleted it forgets those of what it knows to be gone
(`Forgets`). The calls of the pass tell which (`identifiers_survive`).
-/

namespace EventWiring

open Program (Exchange Obeys Trace)
open Notification (Args Report)

/-- The kind of what is found or made by a call. -/
def Call.dependent? : Call → Option Dependent
  | get d _ _ => some d
  | create d _ _ => some d
  | _ => none

theorem Call.dependent?_of_patches {c : Call} (h : c.patches = true) : c.dependent? = none := by
  cases c <;> first | rfl | cases h

namespace Pass

variable {p : Pass} {s found : Scheduler} {name : String} {log l l' : List Exchange} {d : Dependent}
  {status : SchedulerStatus}

/-! ## Objects that are obtained -/

/-- The object is found where the scheduler has its own, or made for it. -/
def Obtained (log : List Exchange) (d : Dependent) (s : Scheduler) (object : d.Object) : Prop :=
  ⟨.get d s.space s.displayName, .ok (some object)⟩ ∈ log ∨
    ∃ desired, ⟨.create d s.space desired, .ok object⟩ ∈ log

variable {object : d.Object}

@[simp] theorem obtained_nil : ¬ Obtained [] d s object := by
  simp [Obtained]

@[simp] theorem obtained_get {reply : Except Error (Option d.Object)} :
    Obtained (⟨.get d s.space s.displayName, reply⟩ :: log) d s object ↔
      reply = .ok (some object) ∨ Obtained log d s object := by
  unfold Obtained
  constructor
  · rintro (hget | ⟨desired, hcreate⟩)
    · rcases List.mem_cons.1 hget with hget | hget
      · cases hget
        exact .inl rfl
      · exact .inr (.inl hget)
    · rcases List.mem_cons.1 hcreate with hcreate | hcreate
      · cases hcreate
      · exact .inr (.inr ⟨desired, hcreate⟩)
  · rintro (rfl | hget | ⟨desired, hcreate⟩)
    · exact .inl List.mem_cons_self
    · exact .inl (List.mem_cons_of_mem _ hget)
    · exact .inr ⟨desired, List.mem_cons_of_mem _ hcreate⟩

@[simp] theorem obtained_create {desired : d.Object} {reply : Except Error d.Object} :
    Obtained (⟨.create d s.space desired, reply⟩ :: log) d s object ↔
      reply = .ok object ∨ Obtained log d s object := by
  unfold Obtained
  constructor
  · rintro (hget | ⟨other, hcreate⟩)
    · rcases List.mem_cons.1 hget with hget | hget
      · cases hget
      · exact .inr (.inl hget)
    · rcases List.mem_cons.1 hcreate with hcreate | hcreate
      · cases hcreate
        exact .inl rfl
      · exact .inr (.inr ⟨other, hcreate⟩)
  · rintro (rfl | hget | ⟨other, hcreate⟩)
    · exact .inr ⟨desired, List.mem_cons_self⟩
    · exact .inl (List.mem_cons_of_mem _ hget)
    · exact .inr ⟨other, List.mem_cons_of_mem _ hcreate⟩

theorem obtained_append :
    Obtained (l ++ l') d s object ↔ Obtained l d s object ∨ Obtained l' d s object := by
  simp only [Obtained, List.mem_append, exists_or]
  exact or_or_or_comm

/-- Calls about other things obtain nothing. -/
theorem not_obtained (h : ∀ x ∈ log, x.call.dependent? ≠ some d) : ¬ Obtained log d s object := by
  rintro (hget | ⟨desired, hcreate⟩)
  · exact h _ hget rfl
  · exact h _ hcreate rfl

variable (object) in
theorem obtained_ensure {desired : Except Error d.Object} {r : Except Error d.Object}
    (h : Trace (ensure d s.space s.displayName desired) log r) :
    Obtained log d s object ↔ r = .ok object := by
  obtain ⟨reply, rest, rfl, hreply⟩ := Program.trace_ask_bind.1 h
  rcases reply with e | (_ | existing)
  · obtain ⟨rfl, rfl⟩ := Program.trace_pure.1 hreply
    simp
  · rcases desired with e | wanted
    · obtain ⟨rfl, rfl⟩ := Program.trace_pure.1 hreply
      simp
    · obtain ⟨made, rest, rfl, hmade⟩ := Program.trace_call.1 hreply
      obtain ⟨rfl, rfl⟩ := Program.trace_pure.1 hmade
      rw [obtained_get, obtained_create]
      simp
  · obtain ⟨rfl, rfl⟩ := Program.trace_pure.1 hreply
    rw [obtained_get]
    simp

/-- What a stage finds rests on the object that it obtains. -/
theorem obtained_stage {α : Type} {desired : Except Error d.Object}
    {next : Except Error d.Object → Program (Except Setback α)} {r : Except Setback α}
    (h : Trace (ensure d s.space s.displayName desired >>= next) log r)
    (hfailed : ∀ e, ∃ b, next (.error e) = pure (.error b)) (find : d.Object → Except Setback α)
    (hfound : ∀ object, next (.ok object) = pure (find object)) :
    (∀ a, r = .ok a ↔ ∃ object, Obtained log d s object ∧ find object = .ok a) ∧
      ∀ x ∈ log, x.call.dependent? = some d := by
  obtain ⟨l, reply, l', hensure, hrest, rfl⟩ := Program.trace_bind.1 h
  have hobtained := fun object => obtained_ensure object hensure
  have habout : ∀ x ∈ l, x.call.dependent? = some d :=
    hensure.obeys (P := (·.dependent? = some d)) (obeys_ensure rfl fun _ _ => rfl)
  rcases reply with e | object
  · obtain ⟨b, hb⟩ := hfailed e
    rw [hb] at hrest
    obtain ⟨rfl, rfl⟩ := Program.trace_pure.1 hrest
    rw [List.append_nil]
    exact ⟨by simp [hobtained], habout⟩
  · rw [hfound object] at hrest
    obtain ⟨rfl, rfl⟩ := Program.trace_pure.1 hrest
    rw [List.append_nil]
    exact ⟨by simp [hobtained], habout⟩

theorem dependent_runJob {args : Args} {r : Except Error Report} (h : Trace (runJob args) log r)
    (hd : d ≠ .job) : ∀ x ∈ log, x.call.dependent? ≠ some d :=
  have hjob : some .job ≠ some d := fun h => hd (Option.some.inj h).symm
  h.obeys (P := (·.dependent? ≠ some d))
    (obeys_runJob hjob hjob fun _ => nofun)

/-! ## Wiring up -/

theorem topicIds_eq_ok {topic : Topic} {ids : TopicIds} (hname : name ≠ "") :
    topicIds topic name = .ok ids ↔ TopicFits topic name ∧
      ids = ⟨name, (topic.status.getD .blank).projectId.getD ""⟩ := by
  constructor
  · intro h
    refine ⟨fits_of_topicIds h, ?_⟩
    have hid := (topicIds_ok h).1
    simp only [topicIds] at h
    split at h
    · cases h
    split at h
    · cases h
    split at h
    · cases h
    split at h
    · cases h
    cases h
    exact congrArg (TopicIds.mk · _) hid
  · rintro ⟨hfits, rfl⟩
    obtain ⟨hready, hproject, hid⟩ := (topicFits_iff hname).1 hfits
    simp [topicIds, hready, hproject, hid, hname]

/-- A topic that fits tells its project. -/
theorem TopicFits.project {topic : Topic} (h : TopicFits topic name) :
    some ((topic.status.getD .blank).projectId.getD "") =
      (topic.status.getD .blank).projectId := by
  obtain ⟨-, status, hstatus, hproject, -⟩ := h
  rw [hstatus, Option.getD_some]
  cases hid : status.projectId with
  | none => exact absurd (congrArg (Option.getD · "") hid) hproject
  | some id => rfl

theorem sinkOf_eq_ok {ps : PullSubscription} {key : Key} {uri : String} :
    sinkOf ps key = .ok uri ↔ SinkFits ps ∧ uri = ps.sinkUri := by
  constructor
  · intro h
    refine ⟨fits_of_sinkOf h, ?_⟩
    unfold sinkOf at h
    split at h
    · cases h
    split at h
    · cases h
      rfl
    · cases h
  · rintro ⟨⟨hready, hcheck⟩, rfl⟩
    simp [sinkOf, hready, hcheck]

theorem obtained_reachTopic {r : Except Setback TopicIds} (h : Trace (reachTopic s name) log r) :
    (∀ ids, r = .ok ids ↔ ∃ topic, Obtained log .topic s topic ∧ topicIds topic name = .ok ids) ∧
      ∀ x ∈ log, x.call.dependent? = some .topic :=
  obtained_stage h (fun _ => ⟨_, rfl⟩) (topicIds · name) fun _ => rfl

theorem obtained_reachSubscription {r : Except Setback String}
    (h : Trace (reachSubscription s name) log r) :
    (∀ uri, r = .ok uri ↔ ∃ ps, Obtained log .pullSubscription s ps ∧
        sinkOf ps (Key.of s.metadata) = .ok uri) ∧
      ∀ x ∈ log, x.call.dependent? = some .pullSubscription :=
  obtained_stage h (fun _ => ⟨_, rfl⟩) (sinkOf · (Key.of s.metadata)) fun _ => rfl

theorem dependent_reachNotification {r : Except Setback Report}
    (h : Trace (p.reachNotification s status) log r) (hd : d ≠ .job) :
    ∀ x ∈ log, x.call.dependent? ≠ some d := by
  obtain ⟨l, report, l', hcreate, hrest, rfl⟩ := Program.trace_bind.1 h
  have hnil : l' = [] := by
    rcases report with e | report <;> exact (Program.trace_pure.1 hrest).1
  rw [hnil, List.append_nil]
  unfold createNotification at hcreate
  split at hcreate
  · obtain ⟨rfl, -⟩ := Program.trace_pure.1 hcreate
    intro x hx
    cases hx
  · exact dependent_runJob hcreate hd

/-- What a survey finds rests on the objects that it obtains. -/
theorem obtained_survey {g : Progress} (h : Trace (p.survey s name) log g) :
    (∀ ids, g.ids? = some ids ↔
      ∃ topic, Obtained log .topic s topic ∧ topicIds topic name = .ok ids) ∧
    (∀ uri, g.uri? = some uri ↔
      ∃ ps, Obtained log .pullSubscription s ps ∧ sinkOf ps (Key.of s.metadata) = .ok uri) := by
  obtain ⟨l, topic, l', htopic, hrest, rfl⟩ := Program.trace_bind.1 h
  obtain ⟨hids, habout⟩ := obtained_reachTopic htopic
  have hnosink : ∀ ps, ¬ Obtained l .pullSubscription s ps := fun ps =>
    not_obtained fun x hx hsink => by cases (habout x hx).symm.trans hsink
  rcases topic with b | ids
  · obtain ⟨rfl, rfl⟩ := Program.trace_pure.1 hrest
    simp only [List.append_nil, hnosink, ← hids, false_and, exists_false]
    exact ⟨fun ids => by simp [Progress.ids?], fun uri => by simp [Progress.uri?]⟩
  obtain ⟨l₁, subscription, l₁', hsubscription, hrest₁, rfl⟩ := Program.trace_bind.1 hrest
  obtain ⟨huri, habout₁⟩ := obtained_reachSubscription hsubscription
  have hnotopic : ∀ topic, ¬ Obtained l₁ .topic s topic := fun topic =>
    not_obtained fun x hx htopic => by cases (habout₁ x hx).symm.trans htopic
  rcases subscription with b | uri
  · obtain ⟨rfl, rfl⟩ := Program.trace_pure.1 hrest₁
    simp only [List.append_nil, obtained_append, hnosink, hnotopic, or_false, false_or, ← hids,
      ← huri]
    exact ⟨fun ids => by simp [Progress.ids?], fun uri => by simp [Progress.uri?]⟩
  obtain ⟨l₂, report, l₂', hnotification, hrest₂, rfl⟩ := Program.trace_bind.1 hrest₁
  have hneither : ∀ d, d ≠ .job → ∀ object, ¬ Obtained l₂ d s object := fun d hd object =>
    not_obtained (dependent_reachNotification hnotification hd)
  have hnotopic₂ := hneither .topic (by decide)
  have hnosink₂ := hneither .pullSubscription (by decide)
  have hend : l₂' = [] ∧ g.ids? = some ids ∧ g.uri? = some uri := by
    rcases report with b | report <;>
    · obtain ⟨rfl, rfl⟩ := Program.trace_pure.1 hrest₂
      exact ⟨rfl, rfl, rfl⟩
  obtain ⟨rfl, hgids, hguri⟩ := hend
  simp only [List.append_nil, obtained_append, hnosink, hnotopic, hnotopic₂, hnosink₂, or_false,
    false_or, ← hids, ← huri, hgids, hguri]
  exact ⟨fun ids => by simp, fun uri => by simp⟩

variable {before after : SchedulerStatus}

/-- What is left of the identifiers in `before` when a pass over a live scheduler fails: those of a
topic and of a sink that fit are known afterwards, and the others are kept. -/
structure Remembers (log : List Exchange) (s : Scheduler) (before after : SchedulerStatus) :
    Prop where
  notification : after.notificationId = before.notificationId
  topic : ∀ topic : Topic, Obtained log .topic s topic → TopicFits topic (topicName s before) →
    after.topicId = some (topicName s before) ∧
      after.projectId = (topic.status.getD .blank).projectId
  noTopic : (∀ topic : Topic, Obtained log .topic s topic →
      ¬ TopicFits topic (topicName s before)) →
    after.topicId = before.topicId ∧ after.projectId = before.projectId
  sink : ∀ ps : PullSubscription, Obtained log .pullSubscription s ps → SinkFits ps →
    after.sinkUri = some ps.sinkUri
  noSink : (∀ ps : PullSubscription, Obtained log .pullSubscription s ps → ¬ SinkFits ps) →
    after.sinkUri = before.sinkUri

theorem identifiers_eq_iff {a b : SchedulerStatus} :
    identifiers a = identifiers b ↔ a.topicId = b.topicId ∧ a.projectId = b.projectId ∧
      a.notificationId = b.notificationId ∧ a.sinkUri = b.sinkUri := by
  simp [identifiers]

/-- The status with the identifiers that were found. -/
def Progress.learned (g : Progress) (status : SchedulerStatus) : SchedulerStatus :=
  { status with
    topicId := (g.ids?.map (·.topicId)).or status.topicId
    projectId := (g.ids?.map (·.projectId)).or status.projectId
    sinkUri := g.uri?.or status.sinkUri }

theorem Progress.identifiers_of_failed {g : Progress} {e : Error} (h : g.result = .error e) :
    identifiers (g.record p status) = g.learned (identifiers status) := by
  cases g with
  | complete ids uri report => cases h
  | _ => rfl

theorem remembers_survey {g : Progress} {e : Error}
    (h : Trace (p.survey s (topicName s before)) log g) (hfailed : g.result = .error e)
    (hstatus : identifiers status = identifiers before)
    (hafter : identifiers after = identifiers (g.record p status)) :
    Remembers log s before after := by
  obtain ⟨hids, huri⟩ := obtained_survey h
  have hname := topicName_ne s before
  rw [Progress.identifiers_of_failed hfailed, hstatus] at hafter
  have htopicId : after.topicId = (g.ids?.map (·.topicId)).or before.topicId :=
    congrArg SchedulerStatus.topicId hafter
  have hprojectId : after.projectId = (g.ids?.map (·.projectId)).or before.projectId :=
    congrArg SchedulerStatus.projectId hafter
  have hsinkUri : after.sinkUri = g.uri?.or before.sinkUri :=
    congrArg SchedulerStatus.sinkUri hafter
  constructor
  case notification =>
    have hnotificationId := congrArg SchedulerStatus.notificationId hafter
    exact hnotificationId
  case topic =>
    intro topic hobtained hfits
    have hfound := (hids _).2 ⟨topic, hobtained, (topicIds_eq_ok hname).2 ⟨hfits, rfl⟩⟩
    rw [hfound] at htopicId hprojectId
    exact ⟨htopicId, hprojectId.trans hfits.project⟩
  case noTopic =>
    intro hnone
    have hmissing : g.ids? = none := Option.eq_none_iff_forall_not_mem.2 fun ids hfound => by
      obtain ⟨topic, hobtained, hok⟩ := (hids ids).1 hfound
      exact hnone topic hobtained ((topicIds_eq_ok hname).1 hok).1
    rw [hmissing] at htopicId hprojectId
    exact ⟨htopicId, hprojectId⟩
  case sink =>
    intro ps hobtained hfits
    have hfound := (huri _).2 ⟨ps, hobtained, sinkOf_eq_ok.2 ⟨hfits, rfl⟩⟩
    rw [hfound] at hsinkUri
    exact hsinkUri
  case noSink =>
    intro hnone
    have hmissing : g.uri? = none := Option.eq_none_iff_forall_not_mem.2 fun uri hfound => by
      obtain ⟨ps, hobtained, hok⟩ := (huri uri).1 hfound
      exact hnone ps hobtained (sinkOf_eq_ok.1 hok).1
    rw [hmissing] at hsinkUri
    exact hsinkUri

/-! ## Undoing the wiring -/

/-- A notification was recorded, and its deletion is confirmed. -/
def Undone (p : Pass) (s : Scheduler) (log : List Exchange) : Prop :=
  (s.status.getD .blank).notificationId.getD "" ≠ "" ∧
    ∃ args, p.deletionArgs s (s.status.getD .blank) = .ok args ∧ Confirmed args log

/-- What is left of the identifiers in `before` after a pass over a scheduler that is being deleted:
those of the notification and the topic are cleared once these are gone. -/
structure Forgets (p : Pass) (log : List Exchange) (s : Scheduler)
    (before after : SchedulerStatus) : Prop where
  notification : Undone p s log → after.notificationId = none
  noNotification : ¬ Undone p s log → after.notificationId = before.notificationId
  topic : DependentGone .topic s log → after.topicId = none
  noTopic : ¬ DependentGone .topic s log → after.topicId = before.topicId
  project : after.projectId = before.projectId
  sink : after.sinkUri = before.sinkUri

/-- Once the pods are listed, what they report is the result. -/
theorem result_of_listed {args : Args} {r : Except Error Report} {pods : List Pod}
    (h : Trace (runJob args) log r)
    (hlisted : ⟨.listPods args.space args.podSelector, .ok pods⟩ ∈ log) : r = reportOf pods := by
  obtain ⟨l, phase, l', hjob, hrest, rfl⟩ := Program.trace_bind.1 h
  have hearlier : ⟨.listPods args.space args.podSelector, .ok pods⟩ ∉ l := by
    intro hmem
    have hcounted : Call.listPods args.space args.podSelector ∈ counted l :=
      List.mem_filter.2 ⟨List.mem_map.2 ⟨_, hmem, rfl⟩, rfl⟩
    cases List.mem_singleton.1 ((trace_ensureJob hjob).1.subset hcounted)
  replace hlisted := (List.mem_append.1 hlisted).resolve_left hearlier
  split at hrest
  · obtain ⟨rfl, -⟩ := Program.trace_pure.1 hrest
    cases hlisted
  · obtain ⟨reply, rest, rfl, hreply⟩ := Program.trace_ask_bind.1 hrest
    rcases reply with e | found
    · obtain ⟨rfl, -⟩ := Program.trace_pure.1 hreply
      cases List.mem_singleton.1 hlisted
    · obtain ⟨rfl, rfl⟩ := Program.trace_pure.1 hreply
      cases List.mem_singleton.1 hlisted
      rfl

/-- A deletion that is confirmed has not failed. -/
theorem ok_of_undone {u : Except Error Unit}
    (h : Trace (p.undoNotification s (s.status.getD .blank)) log u) (hundone : Undone p s log) :
    u = .ok () := by
  obtain ⟨hrecorded, args, hargs, job, pods, pod, report, -, -, -, hlisted, hselect, hreport,
    hsuccess⟩ := hundone
  unfold undoNotification at h
  rw [if_neg hrecorded, hargs] at h
  obtain ⟨l, r, l', hjob, hrest, rfl⟩ := Program.trace_bind.1 h
  have hended : l' = [] ∧ ∀ report, r = .ok report → u = .ok () := by
    rcases r with e | report
    · exact ⟨(Program.trace_pure.1 hrest).1, nofun⟩
    · exact ⟨(Program.trace_pure.1 hrest).1, fun _ _ => (Program.trace_pure.1 hrest).2⟩
  obtain ⟨rfl, hok⟩ := hended
  rw [List.append_nil] at hlisted
  exact hok report
    ((result_of_listed hjob hlisted).trans (reportOf_of_success hselect hreport hsuccess))

variable (p) (status) in
/-- The topic is forgotten if it is gone, whatever happens to what is removed after it. -/
theorem record_removeObjects {r : Removal} (h : Trace (removeObjects s) log r) :
    (¬ DependentGone .topic s log ∧ r.record p status = forget status) ∨
      (DependentGone .topic s log ∧
        r.record p status = { forget status with topicId := none }) := by
  obtain ⟨reply, rest, rfl, htopic⟩ := Program.trace_ask_bind.1 h
  rcases reply with e | b
  · obtain ⟨rfl, rfl⟩ := Program.trace_pure.1 htopic
    refine .inl ⟨?_, rfl⟩
    rintro ⟨b, hmem⟩
    cases List.mem_singleton.1 hmem
  refine .inr ⟨⟨b, List.mem_cons_self⟩, ?_⟩
  obtain ⟨reply, rest, rfl, hsubscription⟩ := Program.trace_ask_bind.1 htopic
  rcases reply with e | _
  · obtain ⟨-, rfl⟩ := Program.trace_pure.1 hsubscription
    rfl
  · obtain ⟨l, marker, l', -, hrest, rfl⟩ := Program.trace_bind.1 hsubscription
    rcases marker with e | ⟨⟩ <;>
    · obtain ⟨-, rfl⟩ := Program.trace_pure.1 hrest
      rfl

/-- No topic is deleted while the notification is. -/
theorem topic_kept_of_undoNotification {u : Except Error Unit}
    (h : Trace (p.undoNotification s (s.status.getD .blank)) log u) :
    ¬ DependentGone .topic s log := by
  have hkept : ∀ x ∈ log, ∀ d space name, x.call ≠ .delete d space name := by
    refine h.obeys (P := fun c => ∀ d space name, c ≠ .delete d space name)
      (obeys_undoNotification (fun _ c hc d space name => ?_) fun _ _ _ _ _ _ => nofun)
    rintro rfl
    cases hc
  exact fun ⟨_, hmem⟩ => hkept _ hmem _ _ _ rfl

theorem forget_eq (status : SchedulerStatus) :
    forget status = { status with
      notificationId :=
        if status.notificationId.getD "" = "" then status.notificationId else none } := by
  unfold forget
  split <;> rfl

/-- Once the notification is gone it is forgotten, if there was one. -/
theorem notificationId_of_gone (h : NotificationGone p s log)
    (hstatus : status.notificationId = (s.status.getD .blank).notificationId) :
    (Undone p s log → (forget status).notificationId = none) ∧ (¬ Undone p s log →
      (forget status).notificationId = (s.status.getD .blank).notificationId) := by
  rw [forget_eq, hstatus]
  constructor
  · rintro ⟨hrecorded, -⟩
    exact if_neg hrecorded
  · intro hnot
    have hempty : (s.status.getD .blank).notificationId.getD "" = "" :=
      Decidable.byContradiction fun hne => hnot ⟨hne, h.resolve_left hne⟩
    exact if_pos hempty

theorem forgets_dismantle {r : Removal} (h : Trace (p.dismantle s (s.status.getD .blank)) log r)
    (hstatus : identifiers status = identifiers (s.status.getD .blank))
    (hafter : identifiers after = identifiers (r.record p status)) :
    Forgets p log s (s.status.getD .blank) after := by
  obtain ⟨l, u, l', hundo, hrest, rfl⟩ := Program.trace_bind.1 h
  have htopicKept := topic_kept_of_undoNotification hundo
  rcases u with e | ⟨⟩
  · -- the notification is left, and so is everything
    obtain ⟨rfl, rfl⟩ := Program.trace_pure.1 hrest
    have hsame := (hafter.trans (identifiers_markSetback p status _ _)).trans hstatus
    obtain ⟨htopic, hproject, hid, hsink⟩ := identifiers_eq_iff.1 hsame
    rw [List.append_nil]
    refine ⟨fun hundone => ?_, fun _ => hid, fun hgone => absurd hgone htopicKept, fun _ => htopic,
      hproject, hsink⟩
    cases ok_of_undone hundo hundone
  have hgone : NotificationGone p s (l ++ l') :=
    (gone_of_undoNotification hundo).mono fun x hx => List.mem_append_left _ hx
  obtain ⟨htopic, hproject, hid, hsink⟩ := identifiers_eq_iff.1 hstatus
  obtain ⟨hforgotten, hremembered⟩ := notificationId_of_gone hgone hid
  have htopicGone : DependentGone .topic s (l ++ l') ↔ DependentGone .topic s l' := by
    simp only [DependentGone, List.mem_append, exists_or]
    exact or_iff_right htopicKept
  rw [forget_eq] at hforgotten hremembered
  obtain ⟨hkept, hrecord⟩ | ⟨hdeleted, hrecord⟩ := record_removeObjects p status hrest
  · rw [hrecord, forget_eq] at hafter
    obtain ⟨htopic', hproject', hid', hsink'⟩ := identifiers_eq_iff.1 hafter
    exact ⟨fun h => hid'.trans (hforgotten h), fun h => hid'.trans (hremembered h),
      fun h => absurd (htopicGone.1 h) hkept, fun _ => htopic'.trans htopic,
      hproject'.trans hproject, hsink'.trans hsink⟩
  · rw [hrecord, forget_eq] at hafter
    obtain ⟨htopic', hproject', hid', hsink'⟩ := identifiers_eq_iff.1 hafter
    exact ⟨fun h => hid'.trans (hforgotten h), fun h => hid'.trans (hremembered h),
      fun _ => htopic', fun h => absurd (htopicGone.2 hdeleted) h, hproject'.trans hproject,
      hsink'.trans hsink⟩

/-! ## The whole pass -/

variable {σ : Type} {answer : (c : Call) → σ → c.Answer × σ} {w : σ}

theorem Remembers.congr {log' : List Exchange} {s' : Scheduler} (h : Remembers log s before after)
    (hname : topicName s' before = topicName s before)
    (hsame : ∀ d object, Obtained log' d s' object ↔ Obtained log d s object) :
    Remembers log' s' before after where
  notification := h.notification
  topic topic hobtained hfits := by
    rw [hname] at hfits ⊢
    exact h.topic topic ((hsame .topic topic).1 hobtained) hfits
  noTopic hnone := h.noTopic fun topic hobtained => by
    rw [← hname]
    exact hnone topic ((hsame .topic topic).2 hobtained)
  sink ps hobtained := h.sink ps ((hsame .pullSubscription ps).1 hobtained)
  noSink hnone := h.noSink fun ps hobtained => hnone ps ((hsame .pullSubscription ps).2 hobtained)

theorem remembers_work {e : Error} (hpast : PastMarker answer w found)
    (hlive : found.metadata.deleting = false)
    (hfailed : ((p.work found).run answer w).result.1 = .error e) :
    ∃ status, ((p.work found).run answer w).result.2.status = some status ∧
      Remembers ((p.work found).run answer w).exchanges found (found.status.getD .blank)
        status := by
  obtain ⟨finalizers, version, l, l', g, hsurvey, hpatches, hworked, hresult⟩ :=
    work_run_live (p := p) hpast hlive
  rw [hresult] at hfailed
  rw [hworked, hresult]
  let marked := remarked found finalizers version
  have hremembers : Remembers l' marked (marked.status.getD .blank)
      ((p.settled marked (g.record p)).status.getD .blank) :=
    remembers_survey hsurvey hfailed (p.identifiers_startingStatus marked)
      (p.identifiers_settled marked (g.record p))
  refine ⟨_, rfl, hremembers.congr rfl fun d object => ?_⟩
  have hpatch : ¬ Obtained l d found object := not_obtained fun x hx => by
    rw [Call.dependent?_of_patches (hpatches x hx)]
    nofun
  rw [obtained_append, or_iff_right hpatch]
  rfl

theorem mem_announced {e : Event} {heard : Option Publication} {x : Exchange}
    (h : ∀ e, x.call ≠ .publish e) : x ∈ ⟨.publish e, heard⟩ :: log ↔ x ∈ log := by
  refine ⟨fun hx => (List.mem_cons.1 hx).resolve_left ?_, List.mem_cons_of_mem _⟩
  rintro rfl
  exact h e rfl

/-- What was announced before does not matter. -/
theorem Forgets.announced {e : Event} {heard : Option Publication}
    (h : Forgets p log s before after) :
    Forgets p (⟨.publish e, heard⟩ :: log) s before after := by
  have hundone : Undone p s (⟨.publish e, heard⟩ :: log) ↔ Undone p s log := by
    simp [Undone, Confirmed, mem_announced, -List.mem_cons]
  have hgone : DependentGone .topic s (⟨.publish e, heard⟩ :: log) ↔
      DependentGone .topic s log := by
    simp [DependentGone, mem_announced, -List.mem_cons]
  exact ⟨fun h' => h.notification (hundone.1 h'), fun h' => h.noNotification (mt hundone.2 h'),
    fun h' => h.topic (hgone.1 h'), fun h' => h.noTopic (mt hgone.2 h'), h.project, h.sink⟩

theorem forgets_work (hdeleting : found.metadata.deleting = true) :
    ∃ status, ((p.work found).run answer w).result.2.status = some status ∧
      Forgets p ((p.work found).run answer w).exchanges found (found.status.getD .blank)
        status := by
  obtain ⟨heard, l, r, hdismantle, hworked, hresult⟩ :=
    removal_of_work hdeleting (Program.run_trace answer (p.work found) w)
  rw [hworked, hresult]
  have hforgets : Forgets p l found (found.status.getD .blank)
      ((p.settled found (r.record p)).status.getD .blank) :=
    forgets_dismantle hdismantle (p.identifiers_startingStatus found)
      (p.identifiers_settled found (r.record p))
  exact ⟨_, rfl, hforgets.announced⟩

/-- The identifiers survive a pass that fails: its status, and whatever it stores, has those that it
came to know, and it has forgotten none but those of what it knows to be gone. -/
theorem identifiers_survive {key : String} {k : Key} {e : Error} (hkey : Key.parse key = .ok k)
    (hfound : (answer (.getScheduler k.space k.name) w).1 = .ok (some found))
    (hpast : PastMarker answer (answer (.getScheduler k.space k.name) w).2 found)
    (hfailed : ((p.work found).run answer
      (answer (.getScheduler k.space k.name) w).2).result.1 = .error e) :
    let worked := (p.work found).run answer (answer (.getScheduler k.space k.name) w).2
    let pass := (p.reconcile key).run answer w
    ∃ status rest, worked.result.2.status = some status ∧
      pass.exchanges =
        ⟨.getScheduler k.space k.name, .ok (some found)⟩ :: (worked.exchanges ++ rest) ∧
      (∀ x ∈ rest, x.call = .updateStatus worked.result.2 ∨ ∃ e, x.call = .publish e) ∧
      (found.metadata.deleting = false →
        Remembers worked.exchanges found (found.status.getD .blank) status) ∧
      (found.metadata.deleting = true →
        Forgets p worked.exchanges found (found.status.getD .blank) status) := by
  intro worked pass
  obtain ⟨rest, hexchanges, hrest⟩ := exchanges_of_reconcile (p := p) hkey hfound
  cases hdeleting : found.metadata.deleting with
  | false =>
    obtain ⟨status, hstatus, hremembers⟩ := remembers_work hpast hdeleting hfailed
    exact ⟨status, rest, hstatus, hexchanges, hrest, fun _ => hremembers, nofun⟩
  | true =>
    obtain ⟨status, hstatus, hforgets⟩ := forgets_work hdeleting
    exact ⟨status, rest, hstatus, hexchanges, hrest, nofun, fun _ => hforgets⟩

/-- A scheduler that was wired up before. -/
def wired : Scheduler :=
  { Scheduler.sample with
    status := some ⟨[], some "scheduler-7", some "media-1", some "9", some "https://sink.example"⟩ }

theorem wired_identifiers_survive :
    let p := Pass.sample "2020-01-01T00:00:00Z"
    let worked := (World.sample wired).run (p.work wired)
    let pass := (World.sample wired).run (p.reconcile "media/photos")
    Key.parse "media/photos" = .ok .sample ∧
      (World.answer (.getScheduler "media" "photos") (.sample wired)).1 = .ok (some wired) ∧
      PastMarker World.answer (.sample wired) wired ∧
      worked.result.1 = .error .topicNotReady ∧
      ∃ status rest, worked.result.2.status = some status ∧
        pass.exchanges =
          ⟨.getScheduler "media" "photos", .ok (some wired)⟩ :: (worked.exchanges ++ rest) ∧
        (∀ x ∈ rest, x.call = .updateStatus worked.result.2 ∨ ∃ e, x.call = .publish e) ∧
        (wired.metadata.deleting = false →
          Remembers worked.exchanges wired (wired.status.getD .blank) status) ∧
        (wired.metadata.deleting = true →
          Forgets p worked.exchanges wired (wired.status.getD .blank) status) := by
  have hpast : PastMarker World.answer (.sample wired) wired := by
    rintro - patch ⟨⟩
    exact ⟨_, rfl⟩
  refine ⟨rfl, rfl, hpast, rfl, ?_⟩
  exact @identifiers_survive (.sample "2020-01-01T00:00:00Z") wired World World.answer
    (.sample wired) "media/photos" .sample .topicNotReady rfl rfl hpast rfl

end Pass

end EventWiring
