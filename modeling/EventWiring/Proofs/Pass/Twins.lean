import EventWiring.Proofs.Pass.Stages

/-!
# What a pass makes of what its scheduler remembers

Two worlds are twins when they differ in nothing but what their schedulers remember. A program that
calls on dependents and pods alone cannot tell twins apart (`World.Twins.run`), and of the status of
its scheduler a pass uses the name of the topic and nothing else. It therefore does the same in both
worlds, and says the same in the end (`reconcile_twins`).
-/

namespace EventWiring

open Program (Exchange Obeys)

variable {α : Type}

/-! ## Twins -/

/-- The scheduler without its status. -/
def Scheduler.unaware (s : Scheduler) : Scheduler := { s with status := none }

theorem Scheduler.eq_of_unaware {s s' : Scheduler} (h : s.unaware = s'.unaware) :
    s' = { s with status := s'.status } := by
  cases s
  cases s'
  simp_all [unaware]

/-- The sample, remembering things that are not so. -/
def Scheduler.mistaken : Scheduler :=
  { Scheduler.sample with
    status := some
      { SchedulerStatus.blank with
        conditions := [⟨"Ready", "True", none, none, none⟩, ⟨"Ready", "False", none, none, none⟩]
        notificationId := some "9" } }

namespace World

/-- The worlds differ in nothing but what their schedulers remember. -/
structure Twins (w w' : World) : Prop where
  schedulers : ∀ key, (w.stores.schedulers.get? key).map Scheduler.unaware =
    (w'.stores.schedulers.get? key).map Scheduler.unaware
  dependents : ∀ d, w.stores.dependents d = w'.stores.dependents d
  pods : w.stores.pods = w'.stores.pods
  failing : w.faults.failing = w'.faults.failing
  broken : w.faults.broken = w'.faults.broken
  hidden : w.faults.hidden = w'.faults.hidden
  seen : ∀ key, (w.faults.seen.get? key).map (·.map Scheduler.unaware) =
    (w'.faults.seen.get? key).map (·.map Scheduler.unaware)

namespace Twins

variable {w w' : World}

theorem failure? (h : w.Twins w') (site : Site) :
    w.faults.failure? site = w'.faults.failure? site := by
  unfold Faults.failure?
  rw [h.failing, h.broken]

theorem fault (h : w.Twins w') {c : Call} (hc : c.wires = true) :
    w.faults.answer? c = w'.faults.answer? c := by
  unfold Faults.answer?
  congr 1
  · cases c.site? with
    | none => rfl
    | some site => exact congrArg _ (h.failure? site)
  · cases c with
    | get d space name =>
      show (if d ∈ w.faults.hidden then _ else _) = if d ∈ w'.faults.hidden then _ else _
      rw [h.hidden]
    | create => rfl
    | listPods => rfl
    | _ => cases hc

/-- The stores answer alike, and become alike. -/
theorem served (h : w.Twins w') {c : Call} (hc : c.wires = true) :
    (Stores.answer c w.stores).1 = (Stores.answer c w'.stores).1 ∧
      World.Twins { w with stores := (Stores.answer c w.stores).2 }
        { w' with stores := (Stores.answer c w'.stores).2 } := by
  cases c with
  | get d space name =>
    refine ⟨?_, h⟩
    show Except.ok ((w.stores.dependents d).get? _) = Except.ok ((w'.stores.dependents d).get? _)
    rw [h.dependents]
  | listPods space selector =>
    refine ⟨?_, h⟩
    show Except.ok (List.filter _ w.stores.pods) = Except.ok (List.filter _ w'.stores.pods)
    rw [h.pods]
  | create d space object =>
    show (w.stores.create d object).1 = (w'.stores.create d object).1 ∧
      World.Twins { w with stores := (w.stores.create d object).2 }
        { w' with stores := (w'.stores.create d object).2 }
    unfold Stores.create
    simp only [h.dependents]
    cases (w'.stores.dependents d).get? (Key.of (d.metadata object)) with
    | some existing => exact ⟨rfl, h⟩
    | none =>
      refine ⟨rfl, { h with dependents := fun e => ?_, pods := ?_, schedulers := fun key => ?_ }⟩
      · simpa using h.schedulers key
      · by_cases he : e = d
        · subst he
          simp
        · simp only [Stores.dependents_setDependents_of_ne _ he]
          exact h.dependents e
      · simpa using h.pods
  | _ => cases hc

/-- Whatever is about dependents or pods is answered alike. -/
theorem answer (h : w.Twins w') {c : Call} (hc : c.wires = true) :
    (World.answer c w).1 = (World.answer c w').1 ∧
      (World.answer c w).2.Twins (World.answer c w').2 := by
  have hsite : c.site?.isSome := by cases c <;> first | rfl | cases hc
  rw [answer_eq hsite, answer_eq hsite, h.fault hc]
  cases w'.faults.answer? c with
  | some reply => exact ⟨rfl, h⟩
  | none => exact h.served hc

/-- A program that calls on dependents and pods alone does the same in both worlds. -/
theorem run (h : w.Twins w') {p : Program α} {log : List Exchange}
    (hp : Obeys (fun _ c => c.wires = true) log p) :
    (w.run p).result = (w'.run p).result ∧ (w.run p).exchanges = (w'.run p).exchanges ∧
      (w.run p).state.Twins (w'.run p).state := by
  induction p generalizing w w' log with
  | done a => exact ⟨rfl, rfl, h⟩
  | call c next ih =>
    obtain ⟨hreply, htwins⟩ := h.answer hp.1
    obtain ⟨hresult, hexchanges, hstate⟩ := ih (World.answer c w).1 htwins (hp.2 _)
    unfold World.run at hresult hexchanges hstate ⊢
    simp only [Program.run, ← hreply]
    exact ⟨hresult, congrArg _ hexchanges, hstate⟩

end Twins

theorem twins_sample {s s' : Scheduler} (h : s.unaware = s'.unaware) :
    (World.sample s).Twins (World.sample s') where
  schedulers key := by
    have hstores : ∀ s, (World.sample s).stores.schedulers = [(Key.of s.metadata, s)] :=
      fun _ => rfl
    have hmetadata : s.metadata = s'.metadata := by
      show s.unaware.metadata = s'.unaware.metadata
      rw [h]
    simp only [hstores, Store.get?_cons, Store.get?_nil, hmetadata]
    split
    · exact congrArg some h
    · rfl
  dependents d := by cases d <;> rfl
  pods := rfl
  failing := rfl
  broken := rfl
  hidden := rfl
  seen _ := rfl

/-! ## Calls about schedulers -/

/-- What a read of a scheduler tells, unless it fails. -/
def sight (w : World) (k : Key) : Option Scheduler :=
  (w.faults.seen.get? k).getD (w.stores.schedulers.get? k)

variable {w w' : World} {space name : String} {k : Key}

theorem sight_eq (hseen : w.faults.seen = []) : w.sight k = w.stores.schedulers.get? k := by
  unfold sight
  rw [hseen]
  rfl

theorem answer_getScheduler (space name : String) (w : World) :
    answer (.getScheduler space name) w = (match w.faults.failure? .getScheduler with
      | some e => .error e
      | none => .ok (w.sight ⟨space, name⟩), w) := by
  have hfault : w.faults.answer? (.getScheduler space name) =
      ((w.faults.failure? .getScheduler).map Except.error).or
        ((w.faults.seen.get? ⟨space, name⟩).map Except.ok) := rfl
  rw [answer_eq rfl, hfault]
  unfold sight
  cases w.faults.failure? .getScheduler with
  | some e => rfl
  | none => cases w.faults.seen.get? ⟨space, name⟩ <;> rfl

theorem answer_patchScheduler (space name : String) (patch : FinalizerPatch) (w : World) :
    answer (.patchScheduler space name patch) w =
      match w.faults.failure? .patchScheduler with
      | some e => (.error e, w)
      | none => ((w.stores.patchScheduler ⟨space, name⟩ patch).1,
          { w with stores := (w.stores.patchScheduler ⟨space, name⟩ patch).2 }) := by
  have hfault : w.faults.answer? (.patchScheduler space name patch) =
      ((w.faults.failure? .patchScheduler).map Except.error).or none := rfl
  rw [answer_eq rfl, hfault]
  cases w.faults.failure? .patchScheduler <;> rfl

namespace Twins

/-- Twins show schedulers that differ in what they remember. -/
theorem shown {found found' : Scheduler} (h : w.Twins w') (hfound : w.sight k = some found)
    (hfound' : w'.sight k = some found') : found.unaware = found'.unaware := by
  have hseen := h.seen k
  have hstored := h.schedulers k
  unfold sight at hfound hfound'
  cases hs : w.faults.seen.get? k <;> cases hs' : w'.faults.seen.get? k <;> simp_all

/-- What one of them takes, the other takes, and both give it the same metadata. -/
theorem patched {patch : FinalizerPatch} {new : Scheduler} (h : w.Twins w')
    (hok : (World.answer (.patchScheduler space name patch) w).1 = .ok new) :
    ∃ new', (World.answer (.patchScheduler space name patch) w').1 = .ok new' ∧
      new'.metadata = new.metadata ∧
      (World.answer (.patchScheduler space name patch) w).2.Twins
        (World.answer (.patchScheduler space name patch) w').2 := by
  have hstored := h.schedulers ⟨space, name⟩
  rw [answer_patchScheduler] at hok ⊢
  rw [answer_patchScheduler, ← h.failure?]
  cases hfailure : w.faults.failure? .patchScheduler with
  | some e =>
    rw [hfailure] at hok
    cases hok
  | none =>
    rw [hfailure] at hok
    cases hs : w.stores.schedulers.get? ⟨space, name⟩ with
    | none =>
      simp only [Stores.patchScheduler, hs] at hok
      cases hok
    | some stored =>
      rw [hs] at hstored
      obtain ⟨stored', hs', hunaware⟩ := Option.map_eq_some_iff.1 hstored.symm
      rw [Scheduler.eq_of_unaware hunaware.symm] at hs'
      simp only [Stores.patchScheduler_stored hs] at hok ⊢
      simp only [Stores.patchScheduler_stored hs']
      cases hok
      refine ⟨_, rfl, rfl, { h with schedulers := fun key => ?_, dependents := fun d => ?_ }⟩
      · by_cases hkey : key = ⟨space, name⟩
        · subst hkey
          simp only [Store.get?_put]
          rfl
        · simp only [Store.get?_put_of_ne hkey]
          exact h.schedulers key
      · simp only [Stores.dependents_withSchedulers]
        exact h.dependents d

end Twins

end World

/-! ## Passes -/

namespace Pass

open World (Twins)

variable {w w' : World} {p : Pass} {found : Scheduler} {status' : Option SchedulerStatus}

theorem run_ensureMarker {s patched : Scheduler} {patch : FinalizerPatch}
    (hpatch : s.addMarker? = some patch)
    (hok : (World.answer (.patchScheduler s.space s.displayName patch) w).1 = .ok patched) :
    w.run (ensureMarker s) =
      ⟨.ok (remarked s patched.metadata.finalizers patched.metadata.resourceVersion),
        [⟨.patchScheduler s.space s.displayName patch, .ok patched⟩],
        (World.answer (.patchScheduler s.space s.displayName patch) w).2⟩ := by
  unfold ensureMarker World.run
  rw [hpatch]
  simp only [Program.ask_bind, Program.run, hok]
  rfl

/-- Twins put the same marker on. -/
theorem twins_ensureMarker (status' : Option SchedulerStatus) (h : w.Twins w')
    (hmarker : ∀ patch, found.addMarker? = some patch → ∃ patched,
      (World.answer (.patchScheduler found.space found.displayName patch) w).1 = .ok patched) :
    ∃ finalizers version,
      (w.run (ensureMarker found)).result = .ok (remarked found finalizers version) ∧
      (w'.run (ensureMarker { found with status := status' })).result =
        .ok (remarked { found with status := status' } finalizers version) ∧
      (w.run (ensureMarker found)).exchanges.map (·.call) =
        (w'.run (ensureMarker { found with status := status' })).exchanges.map (·.call) ∧
      (w.run (ensureMarker found)).state.Twins
        (w'.run (ensureMarker { found with status := status' })).state := by
  have hsame : ({ found with status := status' } : Scheduler).addMarker? = found.addMarker? := rfl
  cases hpatch : found.addMarker? with
  | none =>
    unfold ensureMarker
    rw [hsame, hpatch]
    exact ⟨_, _, rfl, rfl, rfl, h⟩
  | some patch =>
    obtain ⟨patched, hok⟩ := hmarker patch hpatch
    obtain ⟨patched', hok', hmetadata, htwins⟩ := h.patched hok
    rw [run_ensureMarker hpatch hok, run_ensureMarker (hsame.trans hpatch) hok', hmetadata]
    exact ⟨_, _, rfl, rfl, rfl, htwins⟩

/-- The work of a pass once the marker is on. -/
theorem run_work {finalizers : Option (List String)} {version : Option String} {name : String}
    {survey : Program.Run World Progress} (hlive : found.metadata.deleting = false)
    (hmarked : (w.run (ensureMarker found)).result = .ok (remarked found finalizers version))
    (hname : topicName found (found.status.getD .blank) = name)
    (hsurvey : (w.run (ensureMarker found)).state.run (p.survey found name) = survey) :
    (w.run (p.work found)).result = (survey.result.result,
        p.settled (remarked found finalizers version) (survey.result.record p)) ∧
      (w.run (p.work found)).exchanges =
        (w.run (ensureMarker found)).exchanges ++ survey.exchanges := by
  subst hsurvey hname
  unfold World.run at hmarked ⊢
  rw [work_of_live p hlive, Program.result_bind, Program.exchanges_bind]
  simp only [hmarked, Program.result_bind, Program.exchanges_bind]
  refine ⟨rfl, ?_⟩
  show _ ++ (_ ++ []) = _
  rw [List.append_nil]
  rfl

/-- The work of a pass, done in twins. -/
structure Shared (p : Pass) (found : Scheduler) (status' : Option SchedulerStatus)
    (worked worked' : Program.Run World (Except Error Ending × Scheduler)) (g : Progress) : Prop where
  settled : ∃ finalizers version,
    worked.result = (g.result, p.settled (remarked found finalizers version) (g.record p)) ∧
    worked'.result = (g.result, p.settled
      (remarked { found with status := status' } finalizers version) (g.record p))
  calls : worked.exchanges.map (·.call) = worked'.exchanges.map (·.call)

/-- Of the status of its scheduler the work of a pass uses the name of the topic and no more. -/
theorem twins_work (h : w.Twins w') (hlive : found.metadata.deleting = false)
    (hname : topicName found (status'.getD .blank) = topicName found (found.status.getD .blank))
    (hmarker : ∀ patch, found.addMarker? = some patch → ∃ patched,
      (World.answer (.patchScheduler found.space found.displayName patch) w).1 = .ok patched) :
    ∃ g, Shared p found status' (w.run (p.work found))
      (w'.run (p.work { found with status := status' })) g := by
  obtain ⟨finalizers, version, hmarked, hmarked', hcalls, htwins⟩ :=
    twins_ensureMarker status' h hmarker
  have hwires : Obeys (fun _ c => c.wires) []
      (p.survey found (topicName found (found.status.getD .blank))) := wires_survey
  obtain ⟨hfound, hexchanges, -⟩ := htwins.run hwires
  obtain ⟨hresult, hlog⟩ := run_work (p := p) hlive hmarked rfl rfl
  have hlive' : ({ found with status := status' } : Scheduler).metadata.deleting = false := hlive
  obtain ⟨hresult', hlog'⟩ := run_work (p := p) hlive' hmarked' hname rfl
  refine ⟨_, ⟨finalizers, version, hresult, hresult'.trans ?_⟩, ?_⟩
  · rw [hfound]
    rfl
  · rw [hlog, hlog', List.map_append, List.map_append, hcalls, hexchanges]
    rfl

/-! ## The whole pass -/

/-- The call creates something, puts the marker on, or looks at what a job reports. -/
def acts : Call → Bool
  | .create _ _ _ => true
  | .patchScheduler _ _ _ => true
  | .listPods _ _ => true
  | _ => false

/-- The calls that act, in their order. -/
def deeds (log : List Exchange) : List Call := (log.map (·.call)).filter acts

theorem deeds_conclude {s : Scheduler} {result : Except Error Ending} {log : List Exchange}
    {r : Except Error Unit} (h : Program.Trace (conclude found s result) log r) :
    deeds log = [] := by
  have hobeys : Obeys (fun _ c => acts c = false) [] (conclude found s result) :=
    obeys_conclude (fun _ _ => rfl) rfl
  unfold deeds
  rw [List.filter_eq_nil_iff]
  intro c hc
  obtain ⟨x, hx, rfl⟩ := List.mem_map.1 hc
  rw [h.obeys hobeys x hx]
  exact Bool.false_ne_true

variable {key : String} {k : Key}

theorem reconcile_run_unread {e : Error} (hkey : Key.parse key = .ok k)
    (hfailure : w.faults.failure? .getScheduler = some e) :
    w.run (p.reconcile key) = ⟨.error e, [⟨.getScheduler k.space k.name, .error e⟩], w⟩ := by
  unfold World.run
  rw [reconcile_eq p hkey, Program.ask_bind]
  simp only [Program.run, World.answer_getScheduler, hfailure]
  rfl

/-- The pass works on what it reads, and concludes. -/
theorem reconcile_run_read (hkey : Key.parse key = .ok k) (hfound : w.sight k = some found)
    (hfailure : w.faults.failure? .getScheduler = none)
    (hconverging : (w.run (p.work found)).result.1 ≠ .ok .finalized) :
    let worked := w.run (p.work found)
    let ended := worked.state.run (conclude found worked.result.2 worked.result.1)
    w.run (p.reconcile key) = ⟨ended.result, ⟨.getScheduler k.space k.name, .ok (some found)⟩ ::
      (worked.exchanges ++ ended.exchanges), ended.state⟩ := by
  intro worked ended
  have hread : World.answer (.getScheduler k.space k.name) w = (.ok (some found), w) := by
    rw [World.answer_getScheduler, hfailure, ← hfound]
  have hrun := reconcile_run (p := p) hkey (congrArg Prod.fst hread)
  rw [hread, attend_run rfl hconverging] at hrun
  exact hrun

/-- All that a pass does it does in its work. -/
theorem deeds_reconcile (hkey : Key.parse key = .ok k) (hfound : w.sight k = some found)
    (hconverging : (w.run (p.work found)).result.1 ≠ .ok .finalized) :
    deeds (w.run (p.reconcile key)).exchanges =
      if (w.faults.failure? .getScheduler).isSome then []
      else deeds (w.run (p.work found)).exchanges := by
  cases hfailure : w.faults.failure? .getScheduler with
  | some e =>
    rw [reconcile_run_unread hkey hfailure]
    rfl
  | none =>
    rw [reconcile_run_read hkey hfound hfailure hconverging]
    have hconclude := deeds_conclude (Program.run_trace World.answer (conclude found
      (w.run (p.work found)).result.2 (w.run (p.work found)).result.1) (w.run (p.work found)).state)
    unfold deeds at hconclude ⊢
    simp only [List.map_cons, List.map_append]
    rw [List.filter_cons_of_neg Bool.false_ne_true, List.filter_append]
    exact (congrArg _ hconclude).trans (List.append_nil _)

/-- Where reads of schedulers are current and the status can be written, the status that the work
of a pass computes is stored in the end. -/
theorem stored_reconcile (hkey : Key.parse key = .ok k) (hfound : w.sight k = some found)
    (hk : Key.of found.metadata = k) (hlive : found.metadata.deleting = false)
    (hseen : w.faults.seen = []) (hread : w.faults.failure? .getScheduler = none)
    (hupdate : w.faults.failure? .updateStatus = none)
    (hconverging : (w.run (p.work found)).result.1 ≠ .ok .finalized) :
    ∃ left, (w.run (p.reconcile key)).state.stores.schedulers.get? k = some left ∧
      left.status = (w.run (p.work found)).result.2.status := by
  rw [reconcile_run_read hkey hfound hread hconverging]
  rw [World.sight_eq hseen, ← hk] at hfound
  have hwork := ends_work_live hfound hlive (World.ends_run hseen (p.work found))
  have hfaults := World.faults_run (p.work found) w
  generalize w.run (p.work found) = worked at hwork hfaults ⊢
  obtain ⟨stored, hstored, hstatus, hmetadata, hkept⟩ : ∃ stored,
      worked.state.stores.schedulers.get? (Key.of worked.result.2.metadata) = some stored ∧
        stored.status = found.status ∧ stored.metadata = worked.result.2.metadata ∧
        Key.of worked.result.2.metadata = k := by
    obtain ⟨_, e, -, hworked, hstores⟩ | ⟨_, finalizers, version, _, g, hstored, -, hworked⟩ := hwork
    · rw [hworked, hstores]
      exact ⟨found, hfound, rfl, rfl, hk⟩
    · rw [hworked]
      exact ⟨_, hstored, rfl, rfl, hk⟩
  have hended := World.ends_run (w := worked.state) (hfaults ▸ hseen)
    (conclude found worked.result.2 worked.result.1)
  generalize worked.state.run (conclude found worked.result.2 worked.result.1) = ended at hended ⊢
  have hupdates : ¬ worked.state.faults.trouble.fails (.updateStatus worked.result.2) := by
    show ¬ (worked.state.faults.failure? .updateStatus).isSome = true
    rw [hfaults, hupdate]
    exact Bool.false_ne_true
  obtain ⟨-, left, hleft⟩ := (ends_conclude hended).left hstored hstatus (by rw [hmetadata]) hupdates
  rw [hkept] at hleft
  exact ⟨left, hleft⟩

/-- Once the wiring is complete, none of the identifiers is what it was before. -/
theorem identifiers_complete (s s' : Scheduler) {g : Progress} (h : g.result = .ok .converged) :
    identifiers (g.record p (p.startingStatus s)) =
      identifiers (g.record p (p.startingStatus s')) := by
  cases g with
  | complete ids uri report =>
    simp only [identifiers, Progress.record, recordReport, recordSink, recordTopic, markReady,
      SchedulerStatus.markReady]
  | _ => cases h

/-- Of the status of its scheduler a pass uses the name of the topic and no more: in worlds that
differ in nothing but such statuses it makes the same deeds, comes to the same result and leaves
conditions that say the same; once the wiring is complete, also the same identifiers. -/
theorem reconcile_twins {found' : Scheduler} (h : w.Twins w') (hkey : Key.parse key = .ok k)
    (hfound : w.sight k = some found) (hfound' : w'.sight k = some found')
    (hlive : found.metadata.deleting = false)
    (hid : (found.status.getD .blank).topicId.getD "" =
      (found'.status.getD .blank).topicId.getD "")
    (hmarker : ∀ patch, found.addMarker? = some patch → ∃ patched,
      (World.answer (.patchScheduler found.space found.displayName patch) w).1 = .ok patched) :
    let worked := w.run (p.work found)
    let worked' := w'.run (p.work found')
    let pass := w.run (p.reconcile key)
    let pass' := w'.run (p.reconcile key)
    deeds pass.exchanges = deeds pass'.exchanges ∧
      worked.result.1 = worked'.result.1 ∧
      (∀ e, w.faults.failure? .getScheduler = some e →
        pass.result = .error e ∧ pass'.result = .error e) ∧
      ∃ status status', worked.result.2.status = some status ∧
        worked'.result.2.status = some status' ∧
        (∀ t ∈ Conditions.managed Stage.conditions, ∃ v,
          status.conditions.verdict? t = some v ∧ status'.conditions.verdict? t = some v) ∧
        (worked.result.1 = .ok .converged → identifiers status = identifiers status') ∧
        (w.faults.failure? .getScheduler = none → w.faults.failure? .updateStatus = none →
          w.faults.seen = [] → w'.faults.seen = [] → Key.of found.metadata = k →
          ∃ left left', pass.state.stores.schedulers.get? k = some left ∧
            pass'.state.stores.schedulers.get? k = some left' ∧
            left.status = some status ∧ left'.status = some status') := by
  intro worked worked' pass pass'
  obtain ⟨status', rfl⟩ : ∃ status', found' = { found with status := status' } :=
    ⟨_, Scheduler.eq_of_unaware (h.shown hfound hfound')⟩
  have hname : topicName found (status'.getD .blank) =
      topicName found (found.status.getD .blank) := by
    unfold topicName
    rw [hid]
  obtain ⟨g, ⟨finalizers, version, hworked, hworked'⟩, hcalls⟩ :=
    twins_work (p := p) h hlive hname hmarker
  have hresult : worked.result.1 = g.result := congrArg Prod.fst hworked
  have hresult' : worked'.result.1 = g.result := congrArg Prod.fst hworked'
  have hconverging : worked.result.1 ≠ .ok .finalized := hresult ▸ g.result_ne_finalized
  have hconverging' : worked'.result.1 ≠ .ok .finalized := hresult' ▸ g.result_ne_finalized
  obtain ⟨status, hstatus, htells⟩ :=
    g.recording.tells_settled p (remarked found finalizers version)
  obtain ⟨status₂, hstatus₂, htells₂⟩ := g.recording.tells_settled p
    (remarked { found with status := status' } finalizers version)
  have hleft : worked.result.2.status = some status :=
    (congrArg (·.2.status) hworked).trans hstatus
  have hleft' : worked'.result.2.status = some status₂ :=
    (congrArg (·.2.status) hworked').trans hstatus₂
  have hsites := h.failure?
  refine ⟨?_, hresult.trans hresult'.symm, fun e he => ⟨?_, ?_⟩, status, status₂, hleft, hleft',
    fun t ht => ?_, fun hconverged => ?_, fun hread hupdate hseen hseen' hk => ?_⟩
  · have hdeeds : deeds worked.exchanges = deeds worked'.exchanges :=
      congrArg (List.filter acts) hcalls
    refine (deeds_reconcile hkey hfound hconverging).trans (.trans ?_
      (deeds_reconcile hkey hfound' hconverging').symm)
    rw [hsites, hdeeds]
  · exact congrArg Program.Run.result (reconcile_run_unread hkey he)
  · exact congrArg Program.Run.result (reconcile_run_unread hkey (hsites _ ▸ he))
  · have hverdict := htells.verdict?_eq htells₂ ht
    obtain ⟨c, hc⟩ := Option.isSome_iff_exists.1 (Conditions.get?_isSome.2 (htells.mem_types ht))
    have hv : status.conditions.verdict? t = some c.verdict := by
      rw [Conditions.verdict?, hc]
      rfl
    exact ⟨c.verdict, hv, hverdict ▸ hv⟩
  · have hids := identifiers_complete (p := p) (remarked found finalizers version)
      (remarked { found with status := status' } finalizers version) (hresult ▸ hconverged)
    refine .trans ?_ (hids.trans ?_)
    · rw [← identifiers_settled p _ fun status => g.record p status, hstatus]
      rfl
    · rw [← identifiers_settled p _ fun status => g.record p status, hstatus₂]
      rfl
  · obtain ⟨left, hstored, hsame⟩ :=
      stored_reconcile hkey hfound hk hlive hseen hread hupdate hconverging
    obtain ⟨left', hstored', hsame'⟩ := stored_reconcile hkey hfound' hk hlive hseen'
      (hsites _ ▸ hread) (hsites _ ▸ hupdate) hconverging'
    exact ⟨left, left', hstored, hstored', hsame.trans hleft, hsame'.trans hleft'⟩

theorem sample_reconcile_twins :
    (World.sample .sample).Twins (World.sample .mistaken) ∧
      Key.parse "media/photos" = .ok ⟨"media", "photos"⟩ ∧
      (World.sample .sample).sight ⟨"media", "photos"⟩ = some .sample ∧
      (World.sample .mistaken).sight ⟨"media", "photos"⟩ = some .mistaken ∧
      ∃ pass pass' left left',
        pass = (World.sample .sample).run
          ((Pass.sample "2020-01-01T00:00:00Z").reconcile "media/photos") ∧
        pass' = (World.sample .mistaken).run
          ((Pass.sample "2020-01-01T00:00:00Z").reconcile "media/photos") ∧
        deeds pass.exchanges = deeds pass'.exchanges ∧
        pass.state.stores.schedulers.get? ⟨"media", "photos"⟩ = some left ∧
        pass'.state.stores.schedulers.get? ⟨"media", "photos"⟩ = some left' ∧
        ∀ t ∈ Conditions.managed Stage.conditions,
          (left.status.getD .blank).conditions.verdict? t =
            (left'.status.getD .blank).conditions.verdict? t := by
  have htwins : (World.sample .sample).Twins (World.sample .mistaken) :=
    World.twins_sample rfl
  have hkey : Key.parse "media/photos" = .ok ⟨"media", "photos"⟩ := rfl
  have hsight : (World.sample .sample).sight ⟨"media", "photos"⟩ = some .sample := rfl
  have hsight' : (World.sample .mistaken).sight ⟨"media", "photos"⟩ =
    some .mistaken := rfl
  obtain ⟨hdeeds, -, -, status, status', -, -, hverdicts, -, hstored⟩ :=
    reconcile_twins (p := .sample "2020-01-01T00:00:00Z") htwins hkey hsight hsight' rfl rfl
      (by rintro patch ⟨⟩; exact ⟨_, rfl⟩)
  obtain ⟨left, left', hleft, hleft', hstatus, hstatus'⟩ := hstored rfl rfl rfl rfl rfl
  refine ⟨htwins, hkey, hsight, hsight', _, _, left, left', rfl, rfl, hdeeds, hleft, hleft',
    fun t ht => ?_⟩
  obtain ⟨v, hv, hv'⟩ := hverdicts t ht
  rw [hstatus, hstatus']
  exact hv.trans hv'.symm

end Pass

end EventWiring
