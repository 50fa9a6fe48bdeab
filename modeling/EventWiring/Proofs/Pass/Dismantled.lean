import EventWiring.Proofs.Pass.Outcome
import EventWiring.Proofs.Pass.Writes

/-!
# What a pass over a scheduler that is being deleted leaves

Nothing is left to delete but what failed to be deleted (`Clears`), the notification stays undone
once it is, and the pass stops again where it stopped (`Dismantled`).
-/

namespace EventWiring

open Program (Rests rests_ask rests_pure rests_publish rests_refused run_ask_bind)

namespace Pass

variable {f : Faults} {st : Stores} {p : Pass} {found s : Scheduler} {key : Key}

/-- Run on `st`, the program `remove s` takes away no objects but dependents in `ds`, and the marker
last of all. Where all that is gone, it does again what it did. -/
structure Clears (f : Faults) (key : Key) (ds : List Dependent) (st : Stores)
    (remove : Scheduler → Program Removal) (s s₁ : Scheduler) : Prop where
  schedulers : ((remove s).run f.answer st).state.schedulers = st.schedulers.put key s₁
  pods : ((remove s).run f.answer st).state.pods = st.pods
  others : ∀ d, d ∉ ds → ((remove s).run f.answer st).state.dependents d = st.dependents d
  body : body s₁ = body s
  status : s₁.status = s.status
  incomplete : ((remove s).run f.answer st).result ≠ .complete → s₁ = s
  notification : ∀ e, ((remove s).run f.answer st).result ≠ .notificationLeft e
  again : ∀ (st' : Stores) (s' : Scheduler),
    (∀ d ∈ ds, st'.dependents d = ((remove s).run f.answer st).state.dependents d) →
    Pass.body s' = Pass.body s → s'.metadata.finalizers = s₁.metadata.finalizers →
    Rests f (fun _ => True) st' (remove s') ((remove s).run f.answer st).result

/-- A removal that changes nothing clears, if it rests again. -/
theorem clears_of_rests {ds : List Dependent} {remove : Scheduler → Program Removal} {r : Removal}
    (hstored : st.schedulers.get? key = some s) (hr : ∀ e, r ≠ .notificationLeft e)
    (h : ∀ (st' : Stores) (s' : Scheduler), (∀ d ∈ ds, st'.dependents d = st.dependents d) →
      body s' = body s → s'.metadata.finalizers = s.metadata.finalizers →
      Rests f (fun _ => True) st' (remove s') r) : Clears f key ds st remove s s := by
  obtain ⟨hresult, hstate, -⟩ := h st s (fun _ _ => rfl) rfl rfl
  refine ⟨?_, ?_, fun d _ => ?_, rfl, rfl, fun _ => rfl, ?_, ?_⟩
  · rw [hstate, Store.put_eq_self hstored]
  · rw [hstate]
  · rw [hstate]
  · rwa [hresult]
  · rwa [hresult, hstate]

theorem rests_release_of_none {P : Call → Prop} (h : s.removeMarker? = none) :
    Rests f P st (release s) .complete := by
  unfold release releaseMarker
  rw [h]
  exact rests_pure _

theorem rests_release_refused {patch : FinalizerPatch} {e : Error}
    (hpatch : s.removeMarker? = some patch) (h : f.failure? .patchScheduler = some e) :
    Rests f (fun _ => True) st (release s) (.markerLeft e) := by
  unfold release releaseMarker
  rw [hpatch]
  have hrefusal : f.refusal? (.patchScheduler s.space s.displayName patch) = some e := h
  exact (((rests_refused hrefusal).mono fun _ _ => trivial).bind (rests_pure _)).bind (rests_pure _)

theorem clears_release (hkey : Key.of s.metadata = key)
    (hstored : st.schedulers.get? key = some s)
    (hcount : s.metadata.markers.count Scheduler.marker ≤ 1) :
    ∃ s₁, Clears f key [] st release s s₁ := by
  cases hpatch : s.removeMarker? with
  | none =>
    refine ⟨s, clears_of_rests (r := .complete) hstored nofun fun st' s' _ _ hs' => ?_⟩
    refine rests_release_of_none ?_
    rw [Scheduler.removeMarker?_eq_none] at hpatch ⊢
    rwa [Metadata.markers, hs']
  | some patch =>
    have hmarkers := (Scheduler.removeMarker?_eq_some hpatch).1
    cases hfails : f.failure? .patchScheduler with
    | some e =>
      refine ⟨s, clears_of_rests (r := .markerLeft e) hstored nofun fun st' s' _ _ hs' => ?_⟩
      have hhead : s'.removeMarker? ≠ none := by
        rw [ne_eq, Scheduler.removeMarker?_eq_none, Metadata.markers, hs']
        simp only [Metadata.markers] at hmarkers
        simp [hmarkers]
      obtain ⟨patch', hpatch'⟩ := Option.ne_none_iff_exists'.1 hhead
      exact rests_release_refused hpatch' hfails
    | none =>
      -- the marker goes, and with it the only one
      have hrefusal : f.refusal? (.patchScheduler s.space s.displayName patch) = none := hfails
      have hanswer := (Faults.answer_accepted hrefusal st).trans
        (Stores.patchScheduler_stored (hkey ▸ hstored) patch)
      subst hkey
      have hrun : (release s).run f.answer st = ⟨.complete,
          [⟨.patchScheduler s.space s.displayName patch, .ok (Stores.patched s patch)⟩],
          { st with
            schedulers := st.schedulers.put (Key.of s.metadata) (Stores.patched s patch) }⟩ := by
        unfold release releaseMarker
        rw [hpatch]
        exact run_ask_bind hanswer
      refine ⟨Stores.patched s patch, ?_, ?_, fun d _ => ?_, rfl, rfl, fun h => ?_, fun e => ?_,
        fun st' s' _ _ hs' => ?_⟩
      · rw [hrun]
      · rw [hrun]
      · rw [hrun]
        exact Stores.dependents_withSchedulers _ _ d
      · rw [hrun] at h
        exact absurd rfl h
      · rw [hrun]
        exact nofun
      · rw [hrun]
        refine rests_release_of_none ?_
        rw [Scheduler.removeMarker?_eq_none, Metadata.markers, hs']
        show patch.finalizers.head? ≠ _
        rw [hmarkers, List.count_cons_self] at hcount
        have hgone : Scheduler.marker ∉ patch.finalizers :=
          List.count_eq_zero.1 (by omega)
        exact fun h => hgone (List.mem_of_mem_head? h)

theorem clears_removing {d : Dependent} {left : Error → Removal}
    {remove : Scheduler → Program Removal} {ds : List Dependent} (hkey : Key.of s.metadata = key)
    (hstored : st.schedulers.get? key = some s) (hd : d ∉ ds)
    (hleft : ∀ e e', left e ≠ .notificationLeft e')
    (hremove : ∀ st : Stores, st.schedulers.get? key = some s →
      ∃ s₁, Clears f key ds st remove s s₁) :
    ∃ s₁, Clears f key (d :: ds) st (removing d left remove) s s₁ := by
  cases hfails : f.failure? (.delete d) with
  | some e =>
    refine ⟨s, clears_of_rests (r := left e) hstored (hleft e) fun st' s' _ _ _ => ?_⟩
    have hrefusal : f.refusal? (.delete d s'.space s'.displayName) = some e := hfails
    exact ((rests_refused hrefusal).mono fun _ _ => trivial).bind (rests_pure _)
  | none =>
    subst hkey
    have hrefusal : f.refusal? (.delete d s.space s.displayName) = none := hfails
    obtain ⟨st₁, hst₁⟩ : ∃ st₁, st₁ =
      st.setDependents d ((st.dependents d).erase (Key.of s.metadata)) := ⟨_, rfl⟩
    have hanswer : f.answer (.delete d s.space s.displayName) st =
        (.ok ((st.dependents d).get? (Key.of s.metadata)).isSome, st₁) := by
      rw [hst₁]
      exact Faults.answer_accepted hrefusal st
    have hschedulers : st₁.schedulers = st.schedulers := by
      rw [hst₁, Stores.schedulers_setDependents]
    obtain ⟨s₁, hc⟩ := hremove st₁ (by rw [hschedulers]; exact hstored)
    have hresult : ((removing d left remove s).run f.answer st).result =
        ((remove s).run f.answer st₁).result := by
      unfold removing
      rw [run_ask_bind hanswer]
    have hstate : ((removing d left remove s).run f.answer st).state =
        ((remove s).run f.answer st₁).state := by
      unfold removing
      rw [run_ask_bind hanswer]
    refine ⟨s₁, ?_, ?_, fun e he => ?_, hc.body, hc.status, ?_, ?_, fun st' s' hst' hbody hs' => ?_⟩
    · rw [hstate, hc.schedulers, hschedulers]
    · rw [hstate, hc.pods, hst₁, Stores.pods_setDependents]
    · rw [List.mem_cons, not_or] at he
      rw [hstate, hc.others e he.2, hst₁, Stores.dependents_setDependents_of_ne _ he.1]
    · rw [hresult]
      exact hc.incomplete
    · rw [hresult]
      exact hc.notification
    · rw [hresult]
      rw [hstate] at hst'
      have hgone : (st'.dependents d).get? (Key.of s'.metadata) = none := by
        rw [key_congr hbody, hst' d List.mem_cons_self, hc.others d hd, hst₁,
          Stores.dependents_setDependents, Store.get?_erase]
      have hrefusal' : f.refusal? (.delete d s'.space s'.displayName) = none := hfails
      have hanswer' : f.answer (.delete d s'.space s'.displayName) st' = (.ok false, st') := by
        rw [Faults.answer_accepted hrefusal']
        exact congrArg (fun x : Bool × Stores => (Except.ok x.1, x.2)) (Stores.delete_absent hgone)
      exact (rests_ask hanswer' trivial).bind
        (hc.again st' s' (fun e he => hst' e (List.mem_cons_of_mem d he)) hbody hs')

theorem clears_removeObjects (hkey : Key.of s.metadata = key)
    (hstored : st.schedulers.get? key = some s)
    (hcount : s.metadata.markers.count Scheduler.marker ≤ 1) :
    ∃ s₁, Clears f key [.topic, .pullSubscription] st removeObjects s s₁ := by
  unfold removeObjects
  refine clears_removing hkey hstored (by decide) (fun e e' h => by cases h) fun st hstored => ?_
  refine clears_removing hkey hstored (by decide) (fun e e' h => by cases h) fun st hstored => ?_
  exact clears_release hkey hstored hcount

theorem undoNotification_of_empty {status : SchedulerStatus}
    (h : status.notificationId.getD "" = "") (p : Pass) (s : Scheduler) :
    p.undoNotification s status = pure (.ok ()) := by
  unfold undoNotification
  simp only [h, if_true]

theorem undoNotification_congr {s s' : Scheduler} {status status' : SchedulerStatus}
    (hbody : body s' = body s) (hids : identifiers status' = identifiers status) (p : Pass) :
    p.undoNotification s' status' = p.undoNotification s status := by
  have hlook : ∀ s status, p.undoNotification (body s) (identifiers status) =
      p.undoNotification s status := fun _ _ => rfl
  rw [← hlook s', hbody, hids, hlook s]

/-- Where a pass over a scheduler that is being deleted leads: what was left stays left. -/
structure Dismantled (f : Faults) (p : Pass) (st : Stores) (key : Key) (s : Scheduler)
    (r : Removal) : Prop where
  addressed : Key.of s.metadata = key
  stored : st.schedulers.get? key = some s
  deleting : s.metadata.deleting = true
  rests : Rests f (fun _ => True) st (p.dismantle s (s.status.getD .blank)) r
  status : r ≠ .complete →
    ∀ q, (Pass.settled q s (r.record q)).status = s.status ∨ (f.failure? .updateStatus).isSome

theorem Dismantled.again {r : Removal} (h : Dismantled f p st key s r) (clock : Clock) :
    ∃ r', Rests f (fun _ => True) st (attend { p with clock } s) r' ∧
      ((∀ site, f.failure? site = none) → r' = r.result.map fun _ => ()) := by
  obtain ⟨q, hq⟩ : ∃ q : Pass, q = { p with clock } := ⟨_, rfl⟩
  rw [← hq]
  have hdismantle : Rests f (fun _ => True) st (q.dismantle s (s.status.getD .blank)) r := by
    rw [hq]
    exact h.rests
  have hwork : Rests f (fun _ => True) st (q.work s) (r.result, q.settled s (r.record q)) := by
    rw [work_of_deleting _ h.deleting]
    exact rests_publish trivial (hdismantle.bind (rests_pure _))
  by_cases hr : r = .complete
  · subst hr
    exact ⟨.ok (), hwork.bind (rests_pure _), fun _ => rfl⟩
  · have hsame := (h.status hr q).imp_left fun hs =>
      (⟨hs.symm, rfl⟩ : s.status = _ ∧ s.metadata = (q.settled s (r.record q)).metadata)
    obtain ⟨r', hr', hresult⟩ := rests_conclude hsame
    refine ⟨r', hwork.bind ?_, hresult⟩
    rw [finish_eq (r.result_ne_finalized hr)]
    exact hr'.mono fun _ _ => trivial

/-- Once the notification is undone it stays undone: it is still recorded and its job still has
succeeded, or it is recorded no more. -/
theorem rests_undoNotification {st' : Stores} {s' : Scheduler} {r : Removal}
    {undone : Program.Run Stores (Except Error Unit)}
    (hrun : (p.undoNotification s (s.status.getD .blank)).run f.answer st = undone)
    (hr : (∃ e, undone.result = .error e ∧ r = .notificationLeft e) ∨
      undone.result = .ok () ∧ ∀ e, r ≠ .notificationLeft e)
    (hjobs : st'.jobs = undone.state.jobs) (hpods : st'.pods = st.pods) (hbody : body s' = body s)
    (hstatus : s'.status = s.status ∨ s'.status = (p.settled s (r.record p)).status) :
    Rests f (fun _ => True) st' (p.undoNotification s' (s'.status.getD .blank)) undone.result := by
  have hsettles := settles_undoNotification f st p s (s.status.getD .blank)
  have hagain : Rests f (fun _ => True) st' (p.undoNotification s (s.status.getD .blank))
      undone.result := by
    subst hrun
    refine (hsettles.again st' (fun d hd => ?_) hpods).mono fun _ _ => trivial
    rw [List.mem_singleton.1 hd]
    exact hjobs
  rcases hstatus with h | h
  · rw [h, undoNotification_congr hbody rfl]
    exact hagain
  rcases hr with ⟨e, -, rfl⟩ | ⟨hok, hr⟩
  · have hsame : p.undoNotification s' (s'.status.getD .blank) =
        p.undoNotification s (s.status.getD .blank) := by
      rw [h]
      exact undoNotification_congr hbody (identifiers_notificationLeft p s e) p
    rw [hsame]
    exact hagain
  · have hempty : (s'.status.getD .blank).notificationId.getD "" = "" := by
      rw [h]
      cases r with
      | notificationLeft e => exact absurd rfl (hr e)
      | _ => exact notificationId_forget _
    rw [undoNotification_of_empty hempty, hok]
    exact rests_pure _

theorem dismantle_again (hkey : Key.of s.metadata = key)
    (hstored : st.schedulers.get? key = some s)
    (hcount : s.metadata.markers.count Scheduler.marker ≤ 1) {run : Program.Run Stores Removal}
    (hrun : (p.dismantle s (s.status.getD .blank)).run f.answer st = run) :
    ∃ s₁, run.state.schedulers.get? key = some s₁ ∧ body s₁ = body s ∧ s₁.status = s.status ∧
      (run.result ≠ .complete → s₁ = s) ∧
      ∀ (st' : Stores) (s' : Scheduler), (∀ d, st'.dependents d = run.state.dependents d) →
        st'.pods = run.state.pods → body s' = body s →
        s'.metadata.finalizers = s₁.metadata.finalizers →
        (s'.status = s.status ∨ s'.status = (p.settled s (run.result.record p)).status) →
        Rests f (fun _ => True) st' (p.dismantle s' (s'.status.getD .blank)) run.result := by
  have hsettles := settles_undoNotification f st p s (s.status.getD .blank)
  obtain ⟨undone, hundone⟩ : ∃ undone,
    (p.undoNotification s (s.status.getD .blank)).run f.answer st = undone := ⟨_, rfl⟩
  have hschedulers : undone.state.schedulers = st.schedulers := hundone ▸ hsettles.schedulers
  have hpods : undone.state.pods = st.pods := hundone ▸ hsettles.pods
  cases hresult : undone.result with
  | error e =>
    have hended : run.result = .notificationLeft e ∧ run.state = undone.state := by
      rw [← hrun]
      unfold dismantle
      rw [Program.result_bind, Program.state_bind, hundone, hresult]
      exact ⟨rfl, rfl⟩
    obtain ⟨hremoval, hstate⟩ := hended
    refine ⟨s, by rw [hstate, hschedulers, hstored], rfl, rfl, fun _ => rfl,
      fun st' s' hst' hpods' hbody _ hstatus => ?_⟩
    rw [hstate] at hst' hpods'
    have hundo := rests_undoNotification hundone (.inl ⟨e, hresult, hremoval⟩) (hst' .job)
      (hpods'.trans hpods) hbody hstatus
    rw [hresult] at hundo
    rw [hremoval]
    exact hundo.bind (rests_pure _)
  | ok _ =>
    obtain ⟨s₁, hc⟩ := clears_removeObjects (f := f) hkey (hschedulers ▸ hstored) hcount
    have hended : run.result = ((removeObjects s).run f.answer undone.state).result ∧
        run.state = ((removeObjects s).run f.answer undone.state).state := by
      rw [← hrun]
      unfold dismantle
      rw [Program.result_bind, Program.state_bind, hundone, hresult]
      exact ⟨rfl, rfl⟩
    obtain ⟨hremoval, hstate⟩ := hended
    have hnotification := hremoval ▸ hc.notification
    refine ⟨s₁, ?_, hc.body, hc.status, ?_, fun st' s' hst' hpods' hbody hs' hstatus => ?_⟩
    · rw [hstate, hc.schedulers]
      exact Store.get?_put _ _ _
    · rw [hremoval]
      exact hc.incomplete
    · have hjobs : st'.dependents .job = undone.state.dependents .job := by
        rw [hst', hstate]
        exact hc.others .job (by decide)
      have hpods'' : st'.pods = st.pods := by rw [hpods', hstate, hc.pods, hpods]
      have hundo := rests_undoNotification hundone (.inr ⟨hresult, hnotification⟩) hjobs hpods''
        hbody hstatus
      rw [hresult] at hundo
      rw [hremoval]
      exact hundo.bind (hc.again st' s' (fun d _ => by rw [hst', hstate]) hbody hs')

theorem work_run_of_deleting {run : Program.Run Stores Removal}
    (hdeleting : found.metadata.deleting = true)
    (hrun : (p.dismantle found (found.status.getD .blank)).run f.answer st = run) :
    ((p.work found).run f.answer st).result =
        (run.result.result, p.settled found (run.result.record p)) ∧
      ((p.work found).run f.answer st).state = run.state := by
  have hpublish : f.answer (.publish (.deleteRequested found)) st = (none, st) :=
    Faults.answer_accepted rfl st
  rw [work_of_deleting p hdeleting, run_ask_bind hpublish, ← hrun]
  exact ⟨Program.result_bind _ _ _ _, Program.state_bind _ _ _ _⟩

theorem dismantled_of_deleting (hkey : Key.of found.metadata = key)
    (hstored : st.schedulers.get? key = some found) (hdeleting : found.metadata.deleting = true)
    (hcount : found.metadata.markers.count Scheduler.marker ≤ 1) :
    ∃ s r, Dismantled f p ((p.attend found).run f.answer st).state key s r ∧
      ((∀ site, f.failure? site = none) →
        ((p.attend found).run f.answer st).result = r.result.map fun _ => ()) := by
  obtain ⟨run, hrun⟩ : ∃ run,
    (p.dismantle found (found.status.getD .blank)).run f.answer st = run := ⟨_, rfl⟩
  obtain ⟨s₁, hkept, hbody, hstatus, hsame, hagain⟩ := dismantle_again hkey hstored hcount hrun
  obtain ⟨hresult, hstate⟩ := work_run_of_deleting (p := p) hdeleting hrun
  by_cases hr : run.result = .complete
  · have hattend : ((p.attend found).run f.answer st).result = .ok () ∧
        ((p.attend found).run f.answer st).state = run.state := by
      unfold attend
      rw [Program.result_bind, Program.state_bind, hresult, hstate, hr]
      exact ⟨rfl, rfl⟩
    rw [hattend.2]
    refine ⟨s₁, run.result, ⟨(key_congr hbody).trans hkey, hkept,
      (deleting_congr hbody).trans hdeleting, ?_, fun h => absurd hr h⟩, fun _ => ?_⟩
    · exact hagain run.state s₁ (fun _ => rfl) rfl hbody rfl (.inl hstatus)
    · rw [hattend.1, hr]
      rfl
  obtain rfl := hsame hr
  have hattend := attend_run (show (p.work s₁).run f.answer st = _ from rfl)
    (by rw [hresult]; exact run.result.result_ne_finalized hr)
  rw [hattend]
  simp only [hresult, hstate]
  obtain ⟨s', hs', hended⟩ := kept_of_conclude (f := f) (p := p) run.result.recording hkey hkept
    (show s₁.status = s₁.status from rfl) rfl
  refine ⟨s', run.result, ⟨(key_congr hs'.body).trans hkey, hs'.stored,
    (deleting_congr hs'.body).trans hdeleting, ?_, fun _ => hs'.again⟩, hended⟩
  exact hagain _ s' hs'.dependents hs'.pods hs'.body hs'.finalizers hs'.status

end Pass

end EventWiring
