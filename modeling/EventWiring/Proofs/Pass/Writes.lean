import EventWiring.Proofs.Finalizer
import EventWiring.Proofs.Pass.Again
import EventWiring.Proofs.Pass.Status

/-!
# What a pass writes

The two writes of a pass to its scheduler, as stores in memory take or refuse them: the marker goes
on first (`ensureMarker_cases`), and the status is stored last (`Kept`). Neither touches the body of
the scheduler, which is all that the calls of a pass depend on.
-/

namespace EventWiring

open Program (Rests rests_pure rests_publish rests_refused run_ask_bind)

/-! ## Writes that are taken -/

namespace Stores

theorem setDependents_self (st : Stores) (d : Dependent) :
    st.setDependents d (st.dependents d) = st := by
  cases d <;> rfl

/-- Deleting what is gone changes nothing. -/
theorem delete_absent {st : Stores} {d : Dependent} {key : Key}
    (h : (st.dependents d).get? key = none) : st.delete d key = (false, st) := by
  unfold delete
  rw [h, Store.erase_eq_self h, setDependents_self]
  rfl

@[simp] theorem dependents_withSchedulers (st : Stores) (schedulers : Store Scheduler)
    (d : Dependent) : { st with schedulers }.dependents d = st.dependents d := by
  cases d <;> rfl

variable {st : Stores} {stored : Scheduler} {key : Key}

/-- A stored scheduler once the patch is taken. -/
def patched (stored : Scheduler) (patch : FinalizerPatch) : Scheduler :=
  bumped { stored with metadata.finalizers := some patch.finalizers }

theorem patchScheduler_stored (h : st.schedulers.get? key = some stored) (patch : FinalizerPatch) :
    st.patchScheduler key patch = (.ok (patched stored patch),
      { st with schedulers := st.schedulers.put key (patched stored patch) }) := by
  unfold patchScheduler
  simp only [h]
  rfl

theorem updateStatus_stored {desired : Scheduler} (hkey : Key.of desired.metadata = key)
    (h : st.schedulers.get? key = some stored)
    (hversion : stored.metadata.resourceVersion = desired.metadata.resourceVersion) :
    st.updateStatus desired =
      (.ok (bumped { stored with status := desired.status }),
        { st with
          schedulers := st.schedulers.put key
            (bumped { stored with status := desired.status }) }) := by
  unfold updateStatus
  rw [hkey]
  simp only [h, hversion, ne_eq, not_true_eq_false, if_false]

end Stores

namespace Pass

variable {f : Faults} {st : Stores} {p : Pass} {found s stored : Scheduler} {key : Key}
  {result : Except Error Ending}

theorem storeStatus_refused {e : Error} (h : f.refusal? (.updateStatus s) = some e) :
    (storeStatus found s).run f.answer st =
      ⟨.error e, [⟨.updateStatus s, .error e⟩], st⟩ := by
  unfold storeStatus
  rw [run_ask_bind (Faults.answer_refused h st)]
  rfl

theorem storeStatus_accepted {st' : Stores} {updated : Scheduler}
    (h : f.answer (.updateStatus s) st = (.ok updated, st')) :
    ((storeStatus found s).run f.answer st).result = .ok () ∧
      ((storeStatus found s).run f.answer st).state = st' := by
  unfold storeStatus
  rw [run_ask_bind h]
  simp only
  split <;> exact ⟨rfl, rfl⟩

theorem conclude_changed (h : ¬ (found.status = s.status ∧ found.metadata = s.metadata)) :
    conclude found s result = storeStatus found s >>= fun written =>
      match written with
      | .ok () => pure (result.map fun _ => ())
      | .error e =>
        Program.ask (.publish (.updateFailed s e.message)) >>= fun _ => pure (.error e) := by
  unfold conclude
  exact (if_neg h).trans rfl

/-- What concluding a pass does to the stores: nothing, because nothing changed or because the
write is refused, or else the one write. -/
theorem conclude_cases (found : Scheduler) (result : Except Error Ending)
    (hkey : Key.of s.metadata = key)
    (hstored : st.schedulers.get? key = some stored)
    (hversion : stored.metadata.resourceVersion = s.metadata.resourceVersion) :
    ((conclude found s result).run f.answer st = ⟨result.map fun _ => (), [], st⟩ ∧
        found.status = s.status ∧ found.metadata = s.metadata) ∨
      (((conclude found s result).run f.answer st).state = st ∧
        (f.failure? .updateStatus).isSome) ∨
      (((conclude found s result).run f.answer st).result = result.map (fun _ => ()) ∧
        ((conclude found s result).run f.answer st).state = { st with
          schedulers := st.schedulers.put key
            (Stores.bumped { stored with status := s.status }) }) := by
  by_cases hsame : found.status = s.status ∧ found.metadata = s.metadata
  · refine .inl ⟨?_, hsame⟩
    rw [conclude, if_pos hsame]
    rfl
  refine .inr ?_
  rw [conclude_changed hsame, Program.state_bind, Program.result_bind]
  cases hupdate : f.refusal? (.updateStatus s) with
  | some e =>
    refine .inl ⟨?_, Option.isSome_of_mem hupdate⟩
    rw [storeStatus_refused hupdate]
    rfl
  | none =>
    have hanswer := (Faults.answer_accepted hupdate st).trans
      (Stores.updateStatus_stored hkey hstored hversion)
    obtain ⟨hresult, hstate⟩ : ((storeStatus found s).run f.answer st).result = .ok () ∧ _ :=
      storeStatus_accepted hanswer
    rw [hresult, hstate]
    exact .inr ⟨rfl, rfl⟩

/-- Where nothing changed, or the write is refused, concluding leaves the stores as they are. -/
theorem rests_conclude
    (h : (found.status = s.status ∧ found.metadata = s.metadata) ∨
      (f.failure? .updateStatus).isSome) :
    ∃ r, Rests f f.Idle st (conclude found s result) r ∧
      ((∀ site, f.failure? site = none) → r = result.map fun _ => ()) := by
  by_cases hsame : found.status = s.status ∧ found.metadata = s.metadata
  · refine ⟨result.map fun _ => (), ?_, fun _ => rfl⟩
    rw [conclude, if_pos hsame]
    exact rests_pure _
  have hrefused := h.resolve_left hsame
  obtain ⟨e, he⟩ := Option.isSome_iff_exists.1 hrefused
  have hupdate : f.refusal? (.updateStatus s) = some e := he
  refine ⟨.error e, ?_, fun hnone => ?_⟩
  · rw [conclude_changed hsame]
    have hstore : Rests f f.Idle st (storeStatus found s) (.error e) :=
      (rests_refused hupdate).bind (rests_pure _)
    exact hstore.bind (rests_publish (fun hw => nomatch hw) (rests_pure _))
  · rw [hnone] at he
    cases he

/-! ## The marker -/

/-- What a scheduler is besides what a pass writes. -/
def body (s : Scheduler) : Scheduler :=
  { s with
    metadata.finalizers := none
    metadata.resourceVersion := none
    status := none }

/-- What does not look at what a pass writes is the same for the same body. -/
theorem body_congr {α : Sort _} (look : Scheduler → α) (hlook : ∀ s, look (body s) = look s)
    {s s' : Scheduler} (h : body s' = body s) : look s' = look s := by
  rw [← hlook s', h, hlook s]

theorem key_congr {s s' : Scheduler} (h : body s' = body s) :
    Key.of s'.metadata = Key.of s.metadata :=
  body_congr (fun s => Key.of s.metadata) (fun _ => rfl) h

theorem deleting_congr {s s' : Scheduler} (h : body s' = body s) :
    s'.metadata.deleting = s.metadata.deleting :=
  body_congr (·.metadata.deleting) (fun _ => rfl) h

theorem ensureMarker_cases (hkey : Key.of found.metadata = key)
    (hstored : st.schedulers.get? key = some found) :
    (∃ e, Rests f f.Idle st (ensureMarker found) (.error e)) ∨
      ∃ s, ((ensureMarker found).run f.answer st).result = .ok s ∧
        ((ensureMarker found).run f.answer st).state =
          { st with schedulers := st.schedulers.put key s } ∧
        Scheduler.marker ∈ s.metadata.markers ∧ body s = body found ∧ s.status = found.status := by
  unfold ensureMarker
  cases hpatch : found.addMarker? with
  | none =>
    refine .inr ⟨found, rfl, ?_, Scheduler.addMarker?_eq_none.1 hpatch, rfl, rfl⟩
    rw [Store.put_eq_self hstored]
    rfl
  | some patch =>
    cases hrefusal : f.refusal? (.patchScheduler found.space found.displayName patch) with
    | some e => exact .inl ⟨e, (rests_refused hrefusal).bind (rests_pure _)⟩
    | none =>
      have hanswer := (Faults.answer_accepted hrefusal st).trans
        (Stores.patchScheduler_stored (hkey ▸ hstored) patch)
      subst hkey
      refine .inr ⟨Stores.patched found patch, ?_, ?_, ?_, rfl, rfl⟩
      · simp only [run_ask_bind hanswer]
        rfl
      · simp only [run_ask_bind hanswer]
        rfl
      · show Scheduler.marker ∈ patch.finalizers
        rw [Scheduler.finalizers_of_addMarker? hpatch]
        simp

/-! ## The status -/

/-- What concluding a pass leaves of the stores: the scheduler as it was or with the status that the
pass computes. What the finding comes to the next time is there already, or is refused. -/
structure Kept (f : Faults) (p : Pass) (key : Key)
    (record : Pass → SchedulerStatus → SchedulerStatus)
    (st : Stores) (s : Scheduler) (st' : Stores) (s' : Scheduler) : Prop where
  stored : st'.schedulers.get? key = some s'
  dependents : ∀ d, st'.dependents d = st.dependents d
  pods : st'.pods = st.pods
  body : body s' = body s
  finalizers : s'.metadata.finalizers = s.metadata.finalizers
  status : s'.status = s.status ∨ s'.status = (p.settled s (record p)).status
  again : ∀ q, (Pass.settled q s' (record q)).status = s'.status ∨ (f.failure? .updateStatus).isSome

theorem kept_of_conclude {record : Pass → SchedulerStatus → SchedulerStatus} {v : Stage → Verdict}
    (h : Recording record v) (hkey : Key.of s.metadata = key)
    (hstored : st.schedulers.get? key = some s) (hfound : found.status = s.status)
    {ended : Program.Run Stores (Except Error Unit)}
    (hended : (conclude found (p.settled s (record p)) result).run f.answer st = ended) :
    ∃ s', Kept f p key record st s ended.state s' ∧
      ((∀ site, f.failure? site = none) → ended.result = result.map fun _ => ()) := by
  subst hended
  obtain ⟨hunchanged, hsame, -⟩ | ⟨hstate, hfails⟩ | ⟨hresult, hstate⟩ :=
    conclude_cases (f := f) (s := p.settled s (record p)) found result hkey hstored rfl
  · rw [hunchanged]
    have hagain : ∀ q, (Pass.settled q s (record q)).status = s.status := fun q =>
      h.settled_again p q (hfound.symm.trans hsame)
    exact ⟨s, ⟨hstored, fun _ => rfl, rfl, rfl, rfl, .inl rfl, fun q => .inl (hagain q)⟩,
      fun _ => rfl⟩
  · rw [hstate]
    refine ⟨s, ⟨hstored, fun _ => rfl, rfl, rfl, rfl, .inl rfl, fun _ => .inr hfails⟩,
      fun hnone => ?_⟩
    rw [hnone] at hfails
    cases hfails
  · rw [hstate]
    obtain ⟨s', hs'⟩ : ∃ s', s' = Stores.bumped { s with
        status := (p.settled s (record p)).status } := ⟨_, rfl⟩
    have hstatus : s'.status = (p.settled s (record p)).status :=
      (congrArg Scheduler.status hs').trans rfl
    have hbody : body s' = body s := (congrArg body hs').trans rfl
    have hfinalizers : s'.metadata.finalizers = s.metadata.finalizers :=
      (congrArg (·.metadata.finalizers) hs').trans rfl
    rw [← hs']
    exact ⟨s', ⟨Store.get?_put _ _ _, fun d => Stores.dependents_withSchedulers _ _ d, rfl, hbody,
      hfinalizers, .inr hstatus, fun q => .inl (h.settled_again p q hstatus)⟩, fun _ => hresult⟩

end Pass

end EventWiring
