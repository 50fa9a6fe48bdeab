import EventWiring.Proofs.Json.Restored
import EventWiring.Resource.PullSubscription
import EventWiring.Resource.Scheduler
import EventWiring.Resource.Topic

/-!
# Resources that come back

What is written of a spec or a status is read as the same spec or status (`payloads_round_trip`).
Each record follows from the records of its fields, and the status of a scheduler, which is written
with nulls, comes back without them too.
-/

namespace EventWiring

open Json (Decoder)
open Json.Decoder (restores_record restores_string)

/-! ## Maps of texts -/

namespace Text

variable {key value : String} {es fs : Entries}

theorem Entries.insert_last (h : ∀ e ∈ es, e.1 < key) :
    Entries.insert key value es = es ++ [(key, value)] := by
  induction es with
  | nil => rfl
  | cons e es ih =>
    obtain ⟨k, v⟩ := e
    obtain ⟨hk, hes⟩ := List.forall_mem_cons.1 h
    have hlt : ¬ key < k := String.lt_asymm hk
    have hne : key ≠ k := fun heq => String.lt_irrefl k (heq ▸ hk)
    rw [Entries.insert, if_neg hlt, if_neg hne, ih hes, List.cons_append]

/-- Entries that are inserted in their order come to stand in that order. -/
theorem Entries.foldl_insert (h : (es ++ fs).Pairwise (·.1 < ·.1)) :
    fs.foldl (fun es e => Entries.insert e.1 e.2 es) es = es ++ fs := by
  induction fs generalizing es with
  | nil => exact (List.append_nil es).symm
  | cons f fs ih =>
    have hlast : ∀ e ∈ es, e.1 < f.1 := fun e he =>
      (List.pairwise_append.1 h).2.2 e he f List.mem_cons_self
    rw [List.append_cons] at h
    rw [List.foldl_cons, Entries.insert_last hlast, ih h, ← List.append_cons]

end Text

namespace TextMap

theorem entries_foldl (es : Text.Entries) (m : TextMap) :
    (es.foldl (fun m e => m.insert e.1 e.2) m).entries =
      es.foldl (fun es e => Text.Entries.insert e.1 e.2 es) m.entries := by
  induction es generalizing m with
  | nil => rfl
  | cons e es ih => exact ih _

theorem foldl_entries (m : TextMap) : m.entries.foldl (fun m e => m.insert e.1 e.2) empty = m := by
  have h : (m.entries.foldl (fun m e => m.insert e.1 e.2) empty).entries = m.entries :=
    (entries_foldl m.entries empty).trans (Text.Entries.foldl_insert m.ordered)
  cases hfold : m.entries.foldl (fun m e => m.insert e.1 e.2) empty with
  | mk entries ordered =>
    rw [hfold] at h
    cases h
    rfl

theorem restores : decoder.Restores toJson :=
  Decoder.restores_entries Decoder.restores_string foldl_entries

end TextMap

/-! ## What schedulers, topics and pull subscriptions share -/

theorem SecretKey.restores : decoder.Restores toJson :=
  restores_record (by decide) fun s => ⟨(s.name, s.key, ()),
    .required restores_string (.required restores_string .nil), rfl⟩

theorem SinkReference.restores : decoder.Restores toJson :=
  restores_record (by decide) fun r => ⟨(r.apiVersion, r.kind, r.name, r.space?, ()),
    .required restores_string (.required restores_string (.required restores_string
      (.omitted_last restores_string))), rfl⟩

theorem Destination.restores : decoder.Restores toJson :=
  restores_record (by decide) fun d => ⟨(d.reference, d.uri, ()),
    .omitted SinkReference.restores (.omitted_last restores_string), rfl⟩

theorem EventOverrides.restores : decoder.Restores toJson :=
  restores_record (by decide) fun o => ⟨(o.extensions, ()), .required TextMap.restores .nil, rfl⟩

theorem Condition.restores : decoder.Restores toJson := by
  refine restores_record (by decide) fun c =>
    ⟨(c.type, c.status, c.reason, c.message, c.lastTransitionTime, ()), ?_, rfl⟩
  rw [List.append_assoc, List.append_assoc]
  exact .required restores_string (.required restores_string (.omitted restores_string
    (.omitted restores_string (.omitted_last restores_string))))

theorem Conditions.restores : decoder.Restores toJson := Decoder.restores_list Condition.restores

/-! ## Schedulers -/

theorem SchedulerSpec.restores : decoder.Restores toJson := by
  refine restores_record (by decide) fun s =>
    ⟨(s.bucket, s.project, s.secret, s.sink, s.ceOverrides, ()), ?_, rfl⟩
  simp only [List.append_assoc, List.cons_append, List.nil_append]
  exact .required restores_string (.omitted restores_string (.omitted SecretKey.restores
    (.required Destination.restores (.omitted_last EventOverrides.restores))))

theorem SchedulerStatus.restores : decoder.Restores toJson :=
  restores_record (by decide) fun s =>
    ⟨(s.conditions, s.topicId, s.projectId, s.notificationId, s.sinkUri, ()),
      .required Conditions.restores (.nulled restores_string (.nulled restores_string
        (.nulled restores_string (.nulled restores_string .nil)))), rfl⟩

/-! ## Topics -/

theorem PropagationPolicy.restores : decoder.Restores toJson :=
  Decoder.restores_enumeration fun p => by cases p <;> rfl

theorem TopicSpec.restores : decoder.Restores toJson := by
  refine restores_record (by decide) fun s =>
    ⟨(s.secret, s.project, s.topic, s.propagationPolicy, ()), ?_, rfl⟩
  rw [List.append_assoc]
  exact .omitted SecretKey.restores (.omitted restores_string (.required restores_string
    (.required PropagationPolicy.restores .nil)))

theorem TopicStatus.restores : decoder.Restores toJson := by
  refine restores_record (by decide) fun s =>
    ⟨(s.conditions, s.projectId, s.topicId, s.address, ()), ?_, rfl⟩
  rw [List.append_assoc, List.append_assoc]
  exact .required Conditions.restores (.omitted restores_string (.omitted restores_string
    (.omitted_last restores_string)))

/-! ## Pull subscriptions -/

theorem PullSubscriptionSpec.restores : decoder.Restores toJson := by
  refine restores_record (by decide) fun s =>
    ⟨(s.secret, s.project, s.topic, s.sink, s.ceOverrides, ()), ?_, rfl⟩
  simp only [List.append_assoc, List.cons_append, List.nil_append]
  exact .omitted SecretKey.restores (.omitted restores_string (.required restores_string
    (.required Destination.restores (.omitted_last EventOverrides.restores))))

theorem PullSubscriptionStatus.restores : decoder.Restores toJson := by
  refine restores_record (by decide) fun s =>
    ⟨(s.conditions, s.sinkUri, s.projectId, s.subscriptionId, ()), ?_, rfl⟩
  rw [List.append_assoc, List.append_assoc]
  exact .required Conditions.restores (.omitted restores_string (.omitted restores_string
    (.omitted_last restores_string)))

/-! ## A status without its nulls -/

theorem Condition.withoutNulls_toJson (c : Condition) : c.toJson.withoutNulls = c.toJson := by
  simp only [toJson, Json.withoutNulls, Json.withoutNullMembers_append,
    Json.withoutNullMembers_text?]
  rfl

theorem Conditions.withoutNulls_toJson (cs : Conditions) : cs.toJson.withoutNulls = cs.toJson :=
  congrArg Json.array (Json.withoutNullItems_map Condition.withoutNulls_toJson cs)

theorem SchedulerStatus.withoutNulls_toJson (s : SchedulerStatus) :
    s.toJson.withoutNulls = .object (("conditions", s.conditions.toJson) ::
      (Json.member? "topicId" (s.topicId.map .string) ++
        (Json.member? "projectId" (s.projectId.map .string) ++
          (Json.member? "notificationId" (s.notificationId.map .string) ++
            Json.member? "sinkUri" (s.sinkUri.map .string))))) := by
  have hconditions : Json.withoutNullMembers [("conditions", s.conditions.toJson)] =
      [("conditions", s.conditions.toJson)] :=
    congrArg (fun j => [("conditions", j)]) s.conditions.withoutNulls_toJson
  have hparts : s.toJson = .object ([("conditions", s.conditions.toJson)] ++
      ([("topicId", Json.orNull (s.topicId.map .string))] ++
        ([("projectId", Json.orNull (s.projectId.map .string))] ++
          ([("notificationId", Json.orNull (s.notificationId.map .string))] ++
            [("sinkUri", Json.orNull (s.sinkUri.map .string))])))) := rfl
  rw [hparts, Json.withoutNulls]
  simp only [Json.withoutNullMembers_append, Json.withoutNullMembers_orNull, hconditions]
  rfl

theorem SchedulerStatus.restores_withoutNulls :
    decoder.Restores fun s => s.toJson.withoutNulls := by
  simp only [withoutNulls_toJson]
  exact restores_record (by decide) fun s =>
    ⟨(s.conditions, s.topicId, s.projectId, s.notificationId, s.sinkUri, ()),
      .required Conditions.restores (.omitted restores_string (.omitted restores_string
        (.omitted restores_string (.omitted_last restores_string)))), rfl⟩

/-- Every spec and status comes back from its text, and so do the parts they are made of. -/
theorem payloads_round_trip :
    SchedulerSpec.decoder.RoundTrips SchedulerSpec.toJson ∧
    SchedulerStatus.decoder.RoundTrips SchedulerStatus.toJson ∧
    SchedulerStatus.decoder.RoundTrips (fun s => s.toJson.withoutNulls) ∧
    TopicSpec.decoder.RoundTrips TopicSpec.toJson ∧
    TopicStatus.decoder.RoundTrips TopicStatus.toJson ∧
    PullSubscriptionSpec.decoder.RoundTrips PullSubscriptionSpec.toJson ∧
    PullSubscriptionStatus.decoder.RoundTrips PullSubscriptionStatus.toJson ∧
    Condition.decoder.RoundTrips Condition.toJson ∧
    Destination.decoder.RoundTrips Destination.toJson ∧
    SinkReference.decoder.RoundTrips SinkReference.toJson ∧
    SecretKey.decoder.RoundTrips SecretKey.toJson ∧
    EventOverrides.decoder.RoundTrips EventOverrides.toJson :=
  ⟨SchedulerSpec.restores.roundTrips, SchedulerStatus.restores.roundTrips,
    SchedulerStatus.restores_withoutNulls.roundTrips, TopicSpec.restores.roundTrips,
    TopicStatus.restores.roundTrips, PullSubscriptionSpec.restores.roundTrips,
    PullSubscriptionStatus.restores.roundTrips, Condition.restores.roundTrips,
    Destination.restores.roundTrips, SinkReference.restores.roundTrips,
    SecretKey.restores.roundTrips, EventOverrides.restores.roundTrips⟩

end EventWiring
