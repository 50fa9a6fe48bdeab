import EventWiring.Proofs.Api.Request
import EventWiring.Proofs.Json.Fields
import EventWiring.Proofs.Pass.Progress

/-!
# What a status write leaves

A status is written as a merge patch. The patch names every field of the status, so that nothing
of the old one lives on under it, and of the metadata it sets the version alone. What the server
then keeps reads as the stored scheduler with the new status (`statusPatch_replaces`), which is
also what the stores in memory keep.
-/

namespace EventWiring

open Json (Decoder Fields Members)

theorem Condition.ofJson_toJson (c : Condition) : Condition.decoder.ofJson c.toJson = some c := by
  refine (Decoder.ofJson_record_eq_some (by decide)).2
    ⟨(c.type, c.status, c.reason, c.message, c.lastTransitionTime, ()), ?_, rfl⟩
  simp [Fields.Takes, Members.values_append, Members.values_cons, Members.values_member?,
    Decoder.fills_singleton]

theorem Conditions.ofJson_toJson (cs : Conditions) :
    Conditions.decoder.ofJson cs.toJson = some cs := by
  show (cs.map Condition.toJson).mapM Condition.decoder.ofJson = some cs
  induction cs with
  | nil => rfl
  | cons c cs ih => simp [List.mapM_cons, Condition.ofJson_toJson, ih]

/-- A status that is merged into any other takes its place, whatever was set there. -/
theorem SchedulerStatus.ofJson_mergePatch (s : SchedulerStatus) {old : Json}
    (hold : old.members.Distinct) : decoder.ofJson (Json.mergePatch s.toJson old) = some s := by
  let merged := Json.mergeMembers s.toJson.members old.members
  have hobject : Json.mergePatch s.toJson old = .object merged := by
    simp [merged, toJson, Json.mergePatch, Json.members]
  have hvalues : ∀ name p, (name, p) ∈ s.toJson.members →
      merged.values name = Members.written (old.members.get? name) p := by
    intro name p hp
    have hnames : (s.toJson.members.map (·.1)).Nodup := by simp [toJson, Json.members]
    exact Members.values_mergeMembers hnames hp (hold.values_length name)
  have htext : ∀ name (s? : Option String),
      (name, Json.orNull (s?.map .string)) ∈ s.toJson.members →
      Decoder.string.option.Fills false (.blank none) (merged.values name) s? := by
    intro name s? hp
    rw [hvalues name _ hp, Members.written_orNull_string]
    exact Decoder.fills_text false s?
  have hconditions : merged.values "conditions" = [s.conditions.toJson] :=
    hvalues "conditions" s.conditions.toJson (by simp [toJson, Json.members])
  rw [hobject]
  refine (Decoder.ofJson_record_eq_some (by decide)).2
    ⟨(s.conditions, s.topicId, s.projectId, s.notificationId, s.sinkUri, ()),
      ⟨?_, htext _ _ ?_, htext _ _ ?_, htext _ _ ?_, htext _ _ ?_, trivial⟩, rfl⟩
  · rw [hconditions]
    exact Decoder.fills_singleton.2 (Conditions.ofJson_toJson s.conditions)
  all_goals simp [toJson, Json.members]

/-- A patch of the version leaves all other metadata as they are. -/
theorem Metadata.ofJson_mergePatch {m : Metadata} {old : Json} (hold : old.members.Distinct)
    (hm : decoder.ofJson old = some m) (version : Option String) :
    decoder.ofJson (Json.mergePatch
      (.object [("resourceVersion", Json.orNull (version.map .string))]) old) =
        some { m with resourceVersion := version } := by
  cases old with
  | object ms =>
    let merged := Json.mergeMembers [("resourceVersion", Json.orNull (version.map .string))] ms
    have hversion : merged.values "resourceVersion" = (version.map .string).toList := by
      rw [← Members.written_orNull_string (Members.get? "resourceVersion" ms)]
      exact Members.values_mergeMembers (by simp) List.mem_cons_self (hold.values_length _)
    have hothers : ∀ name, name ≠ "resourceVersion" →
        merged.values name = Members.values name ms := by
      intro name hname
      have hnot : name ∉ [("resourceVersion", Json.orNull (version.map .string))].map (·.1) := by
        simpa using hname
      exact Members.values_mergeMembers_of_not_mem hnot
    obtain ⟨g, hg, rfl⟩ := (Decoder.ofJson_lenient_eq_some (by decide)).1 hm
    obtain ⟨annotations, created, grace, deleted, finalizers, generateName, generation, labels,
      fields, name, space, owners, old, link, uid, ⟨⟩⟩ := g
    have hmerged : Json.mergePatch
        (.object [("resourceVersion", Json.orNull (version.map .string))]) (.object ms) =
          .object merged := by
      simp [merged, Json.mergePatch, Json.members]
    rw [hmerged]
    refine (Decoder.ofJson_lenient_eq_some (by decide)).2
      ⟨(annotations, created, grace, deleted, finalizers, generateName, generation, labels, fields,
        name, space, owners, version, link, uid, ()), ?_, rfl⟩
    simp only [Fields.optional, Fields.Takes] at hg ⊢
    simp [hversion, hothers, hg]
  | _ => cases hm

namespace Api

variable {ms : Members} {stored : Scheduler}

/-- The status that the patch writes is read back, whatever stood in its place. -/
theorem fills_status_written (status : Option SchedulerStatus) {old : Option Json}
    (hold : (old.getD .null).members.Distinct) :
    SchedulerStatus.decoder.option.Fills false (.blank none)
      (Members.written old (Json.orNull (status.map SchedulerStatus.toJson))) status := by
  cases status with
  | none => exact Decoder.fills_nil.2 rfl
  | some status =>
    have hread := status.ofJson_mergePatch hold
    have hwritten : Members.written old (Json.orNull ((some status).map SchedulerStatus.toJson)) =
        [Json.mergePatch status.toJson (old.getD .null)] := rfl
    rw [hwritten]
    refine Decoder.fills_singleton.2 ?_
    cases hj : Json.mergePatch status.toJson (old.getD .null) with
    | null => rw [hj] at hread; cases hread
    | _ =>
      rw [hj] at hread
      exact congrArg (Option.map some) hread

/-- What stands at the server after a status write reads as the stored scheduler with the status
and the version of the working copy; all else that was stored there stays. The write is requested
whenever the working copy has a name and its target can be sent, as it can with all names that a
server allows, and nothing else is requested. The stores in memory keep the same scheduler at its
next version. -/
theorem statusPatch_replaces (s : Scheduler) (hms : ms.Distinct)
    (hnested : ∀ m ∈ ms, m.2.members.Distinct)
    (hstored : Scheduler.decoder.ofJson (.object (ms.erase "status")) = some stored) :
    let left : Scheduler := { stored with
      metadata.resourceVersion := s.metadata.resourceVersion
      status := s.status }
    Scheduler.decoder.ofJson (Json.mergePatch (Request.statusPatch s) (.object ms)) = some left ∧
      (∀ request, Request.updateStatus s = .ok request ↔
        s.displayName ≠ "" ∧ (Request.statusTarget s).defect? = none ∧
          request = ⟨.patch, Request.statusTarget s, some (Request.statusPatch s)⟩) ∧
      (Sendable s.space → Sendable s.displayName → (Request.statusTarget s).defect? = none) ∧
      ∀ (st : Stores) (previous : Option SchedulerStatus),
        st.schedulers.get? (Key.of s.metadata) = some { stored with status := previous } →
        stored.metadata.resourceVersion = s.metadata.resourceVersion →
        st.updateStatus s = (.ok (Stores.bumped left), { st with
          schedulers := st.schedulers.put (Key.of s.metadata) (Stores.bumped left) }) := by
  intro left
  refine ⟨?_, fun _ => Request.updateStatus_ok_iff, Request.defect?_statusTarget, ?_⟩
  · let version := Json.orNull (s.metadata.resourceVersion.map .string)
    let status := Json.orNull (s.status.map SchedulerStatus.toJson)
    let merged := Json.mergeMembers
      [("metadata", .object [("resourceVersion", version)]), ("status", status)] ms
    have hnames : ([("metadata", .object [("resourceVersion", version)]), ("status", status)].map
        (·.1) : List String).Nodup := by simp
    have hmerged : Json.mergePatch (Request.statusPatch s) (.object ms) = .object merged := by
      simp [merged, version, status, Request.statusPatch, Json.mergePatch, Json.members]
    obtain ⟨⟨metadata, spec, previous, ⟨⟩⟩, ⟨hmetadata, hspec, -⟩, rfl⟩ :=
      (Decoder.ofJson_record_eq_some (by decide)).1 hstored
    rw [Members.values_erase_of_ne (by decide)] at hmetadata hspec
    obtain ⟨-, h⟩ | ⟨v, hv, hread⟩ := hmetadata.strict
    · cases h
    have hget : ms.get? "metadata" = some v := by
      rw [Members.get?_eq_head?, hv, List.head?_cons]
    have hv_mem : ("metadata", v) ∈ ms := Members.mem_values.1 (hv ▸ List.mem_cons_self)
    have hmetadata' : merged.values "metadata" =
        [Json.mergePatch (.object [("resourceVersion", version)]) v] := by
      rw [Members.values_mergeMembers hnames List.mem_cons_self (hms.values_length _), hget]
      rfl
    have hspec' : merged.values "spec" = ms.values "spec" :=
      Members.values_mergeMembers_of_not_mem (by simp)
    have hstatus' : merged.values "status" = Members.written (ms.get? "status") status :=
      Members.values_mergeMembers hnames (by simp) (hms.values_length _)
    have hold : ((ms.get? "status").getD .null).members.Distinct := by
      cases hstatus : ms.get? "status" with
      | none => exact List.nodup_nil
      | some old => exact hnested ("status", old) (Members.mem_of_get? hstatus)
    rw [hmerged]
    refine (Decoder.ofJson_record_eq_some (by decide)).2
      ⟨(left.metadata, left.spec, left.status, ()), ⟨?_, ?_, ?_, trivial⟩, rfl⟩
    · rw [hmetadata']
      exact Decoder.fills_singleton.2
        (Metadata.ofJson_mergePatch (hnested _ hv_mem) hread s.metadata.resourceVersion)
    · rw [hspec']
      exact hspec
    · rw [hstatus']
      exact fills_status_written s.status hold
  · intro st previous hget hversion
    have hsame : ({ stored with status := s.status } : Scheduler) = left := by
      simp [left, ← hversion]
    simp only [Stores.updateStatus, hget, hversion, ne_eq, not_true_eq_false, if_false]
    rw [← hsame]

/-- A status that says why the topic was not ready. -/
def unreachedStatus : SchedulerStatus :=
  ⟨[⟨"TopicReady", "False", some "TopicNotReady", some "no answer", none⟩,
    ⟨"Ready", "False", some "TopicNotReady", none, none⟩],
    some "scheduler-7", some "media", some "9", none⟩

/-- The scheduler of `Scheduler.sample` as a server keeps it that knows more of it, with that
status. -/
def storedMembers : Members :=
  ("generation", Json.int 2) ::
    (Scheduler.sample.toJson.members ++ [("status", unreachedStatus.toJson)])

/-- A working copy whose status has fewer conditions, no reasons and no identifiers. -/
def clearedCopy : Scheduler :=
  { Scheduler.sample with
    status := some ⟨[⟨"Ready", "Unknown", none, none, none⟩], none, none, none, none⟩ }

theorem sample_statusPatch_replaces :
    let st : Stores := { Stores.empty with
      schedulers := [(.sample, { Scheduler.sample with status := some unreachedStatus })] }
    storedMembers.Distinct ∧ (∀ m ∈ storedMembers, m.2.members.Distinct) ∧
      Scheduler.decoder.ofJson (.object (storedMembers.erase "status")) = some .sample ∧
      Scheduler.decoder.ofJson
        (Json.mergePatch (Request.statusPatch clearedCopy) (.object storedMembers)) =
          some clearedCopy ∧
      Request.updateStatus clearedCopy =
        .ok ⟨.patch,
          ⟨"/apis/events.cloud.run/v1alpha1/namespaces/media/schedulers/photos/status?"⟩,
          some (Request.statusPatch clearedCopy)⟩ ∧
      st.updateStatus clearedCopy = (.ok (Stores.bumped clearedCopy),
        { st with schedulers := [(.sample, Stores.bumped clearedCopy)] }) := by
  intro st
  have hms : storedMembers.Distinct := by decide
  have hnested : ∀ m ∈ storedMembers, m.2.members.Distinct := by decide
  have hstored : Scheduler.decoder.ofJson (.object (storedMembers.erase "status")) =
      some .sample := by
    decide +kernel
  obtain ⟨hserver, hrequest, hsendable, hmemory⟩ :=
    statusPatch_replaces clearedCopy hms hnested hstored
  have htarget : (Request.statusTarget clearedCopy).defect? = none :=
    hsendable ⟨by decide, by decide⟩ ⟨by decide, by decide⟩
  refine ⟨hms, hnested, hstored, hserver, ?_, hmemory st (some unreachedStatus) rfl rfl⟩
  exact (hrequest _).2 ⟨by decide, htarget, rfl⟩

end Api

end EventWiring
