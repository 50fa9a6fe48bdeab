import EventWiring.Proofs.Pass.Progress
import EventWiring.Proofs.World.Mute

/-!
# Doing it again

What a stage asks for it finds the next time. `Settles f ds st p`: run on `st`, the program `p`
changes no objects but dependents in `ds`, and run again where these and the pods are as it left
them it yields the same, with no write that is not refused.
-/

namespace EventWiring

open Program (Exchange)

variable {α β : Type}

/-- The call leaves the stores as they are because it only reads or is refused. -/
def Faults.Idle (f : Faults) (c : Call) : Prop := c.writes → (f.refusal? c).isSome

theorem Stores.create_absent {st : Stores} {d : Dependent} {object : d.Object} {key : Key}
    (hkey : Key.of (d.metadata object) = key) (h : (st.dependents d).get? key = none) :
    st.create d object = (.ok object, st.setDependents d ((st.dependents d).put key object)) := by
  unfold create
  rw [hkey]
  simp only [h]

namespace Program

/-- On these stores the program yields `a`, leaves them as they are and makes calls in `P` only. -/
structure Rests (f : Faults) (P : Call → Prop) (st : Stores) (p : Program α) (a : α) : Prop where
  result : (p.run f.answer st).result = a
  state : (p.run f.answer st).state = st
  calls : ∀ x ∈ (p.run f.answer st).exchanges, P x.call

variable {f : Faults} {P Q : Call → Prop} {st : Stores}

theorem rests_pure (a : α) : Rests f P st (pure a) a := ⟨rfl, rfl, fun _ hx => nomatch hx⟩

theorem rests_ask {c : Call} {reply : c.Answer} (h : f.answer c st = (reply, st)) (hc : P c) :
    Rests f P st (ask c) reply where
  result := congrArg Prod.fst h
  state := congrArg Prod.snd h
  calls x hx := by
    obtain rfl := List.mem_singleton.1 hx
    exact hc

theorem Rests.bind {p : Program α} {g : α → Program β} {a : α} {b : β} (hp : Rests f P st p a)
    (hg : Rests f P st (g a) b) : Rests f P st (p >>= g) b := by
  obtain ⟨rfl, hstate, hcalls⟩ := hp
  refine ⟨?_, ?_, fun x hx => ?_⟩
  · rw [result_bind, hstate]
    exact hg.result
  · rw [state_bind, hstate]
    exact hg.state
  · rw [exchanges_bind, hstate] at hx
    exact (List.mem_append.1 hx).elim (hcalls x) (hg.calls x)

theorem Rests.mono {p : Program α} {a : α} (h : Rests f P st p a) (hPQ : ∀ c, P c → Q c) :
    Rests f Q st p a :=
  ⟨h.result, h.state, fun x hx => hPQ _ (h.calls x hx)⟩

theorem rests_refused {c : Call} {e : Error} (h : f.refusal? c = some e) :
    Rests f f.Idle st (ask c) (c.failed e) :=
  rests_ask (Faults.answer_refused h st) fun _ => by rw [h]; rfl

theorem rests_publish {e : Event} {p : Program α} {a : α} (he : P (.publish e))
    (h : Rests f P st p a) : Rests f P st (ask (.publish e) >>= fun _ => p) a := by
  have hanswer : f.answer (.publish e) st = (none, st) := Faults.answer_accepted rfl st
  exact (rests_ask hanswer he).bind h

/-! ## Settling -/

structure Settles (f : Faults) (ds : List Dependent) (st : Stores) (p : Program α) : Prop where
  others : ∀ d, d ∉ ds → (p.run f.answer st).state.dependents d = st.dependents d
  schedulers : (p.run f.answer st).state.schedulers = st.schedulers
  pods : (p.run f.answer st).state.pods = st.pods
  again : ∀ st' : Stores,
    (∀ d ∈ ds, st'.dependents d = (p.run f.answer st).state.dependents d) → st'.pods = st.pods →
    Rests f f.Idle st' p (p.run f.answer st).result

variable {ds : List Dependent}

theorem settles_pure (a : α) : Settles f ds st (pure a) :=
  ⟨fun _ _ => rfl, rfl, rfl, fun _ _ _ => rests_pure a⟩

/-- What comes later does not disturb what settled before, when it is about other dependents. -/
theorem Settles.bind {p : Program α} {g : α → Program β} (hp : Settles f ds st p)
    (es : List Dependent)
    (hg : Settles f es (p.run f.answer st).state (g (p.run f.answer st).result))
    (hdisjoint : ∀ d ∈ ds, d ∉ es) : Settles f (ds ++ es) st (p >>= g) where
  others d hd := by
    rw [List.mem_append, not_or] at hd
    rw [state_bind]
    exact (hg.others d hd.2).trans (hp.others d hd.1)
  schedulers := by
    rw [state_bind]
    exact hg.schedulers.trans hp.schedulers
  pods := by
    rw [state_bind]
    exact hg.pods.trans hp.pods
  again st' hst' hpods := by
    rw [state_bind] at hst'
    rw [result_bind]
    refine (hp.again st' (fun d hd => ?_) hpods).bind (hg.again st' (fun d hd => ?_) ?_)
    · exact (hst' d (List.mem_append_left _ hd)).trans (hg.others d (hdisjoint d hd))
    · exact hst' d (List.mem_append_right _ hd)
    · exact hpods.trans hp.pods.symm

/-- What comes later changes nothing. -/
theorem Settles.andThen {p : Program α} {g : α → Program β} (hp : Settles f ds st p)
    (hg : Settles f [] (p.run f.answer st).state (g (p.run f.answer st).result)) :
    Settles f ds st (p >>= g) := by
  have h := hp.bind [] hg fun _ _ => List.not_mem_nil
  rwa [List.append_nil] at h

/-- A program that changes nothing settles if it rests where the dependents are the same. -/
theorem settles_of_rests {p : Program α} {a : α} (h : ∀ st' : Stores,
    (∀ d ∈ ds, st'.dependents d = st.dependents d) → st'.pods = st.pods →
    Rests f f.Idle st' p a) : Settles f ds st p := by
  obtain ⟨hresult, hstate, -⟩ := h st (fun _ _ => rfl) rfl
  refine ⟨fun d _ => by rw [hstate], by rw [hstate], by rw [hstate], ?_⟩
  rw [hstate, hresult]
  exact h

end Program

namespace Pass

open Program Notification

variable {f : Faults} {st : Stores}

theorem rests_get {d : Dependent} {space name : String}
    (h : f.refusal? (.get d space name) = none) :
    Rests f f.Idle st (ask (.get d space name)) (.ok ((st.dependents d).get? ⟨space, name⟩)) :=
  rests_ask (Faults.answer_accepted h st) fun hw => nomatch hw

/-- An object that is not there is created, and found the next time. -/
theorem settles_create {d : Dependent} {space name : String} {object : d.Object}
    {next : (Call.get d space name).Answer → Program α}
    {after : (Call.create d space object).Answer → Program α} {a : α}
    (hkey : Key.of (d.metadata object) = ⟨space, name⟩)
    (hget : f.refusal? (.get d space name) = none)
    (hcreate : f.refusal? (.create d space object) = none)
    (habsent : (st.dependents d).get? ⟨space, name⟩ = none)
    (hnext : next (.ok none) = ask (.create d space object) >>= after)
    (hafter : after (.ok object) = pure a) (hagain : next (.ok (some object)) = pure a) :
    Settles f [d] st (ask (.get d space name) >>= next) := by
  have hget' : f.answer (.get d space name) st = (.ok none, st) := by
    rw [Faults.answer_accepted hget]
    exact Prod.ext (congrArg Except.ok habsent) rfl
  have hcreate' : f.answer (.create d space object) st =
      (.ok object, st.setDependents d ((st.dependents d).put ⟨space, name⟩ object)) := by
    rw [Faults.answer_accepted hcreate]
    exact Stores.create_absent hkey habsent
  have hcreated : (next (.ok none)).run f.answer st = ⟨a, [⟨.create d space object, .ok object⟩],
      st.setDependents d ((st.dependents d).put ⟨space, name⟩ object)⟩ := by
    rw [hnext, run_ask_bind hcreate', hafter]
    rfl
  have hrun : (ask (.get d space name) >>= next).run f.answer st =
      ⟨a, [⟨.get d space name, .ok none⟩, ⟨.create d space object, .ok object⟩],
        st.setDependents d ((st.dependents d).put ⟨space, name⟩ object)⟩ := by
    rw [run_ask_bind hget', hcreated]
  refine ⟨fun e he => ?_, ?_, ?_, fun st' hst' _ => ?_⟩
  · rw [hrun]
    exact Stores.dependents_setDependents_of_ne _ (mt List.mem_singleton.2 he) _
  · rw [hrun]
    exact Stores.schedulers_setDependents _ _ _
  · rw [hrun]
    exact Stores.pods_setDependents _ _ _
  · rw [hrun] at hst' ⊢
    refine (rests_get hget).bind ?_
    rw [hst' d (List.mem_singleton_self d), Stores.dependents_setDependents, Store.get?_put, hagain]
    exact rests_pure _

/-- Reading is settled, if what follows is. -/
theorem settles_get {d : Dependent} {space name : String}
    {next : (Call.get d space name).Answer → Program α} {a : α}
    (hget : f.refusal? (.get d space name) = none)
    (h : ∀ st', Rests f f.Idle st' (next (.ok ((st.dependents d).get? ⟨space, name⟩))) a) :
    Settles f [d] st (ask (.get d space name) >>= next) := by
  refine settles_of_rests (a := a) fun st' hst' _ => (rests_get hget).bind ?_
  rw [hst' d (List.mem_singleton_self d)]
  exact h st'

theorem settles_ensure {d : Dependent} {space name : String} {desired : Except Error d.Object}
    (hkey : ∀ o, desired = .ok o → Key.of (d.metadata o) = ⟨space, name⟩) :
    Settles f [d] st (ensure d space name desired) := by
  unfold ensure
  cases hget : f.refusal? (.get d space name) with
  | some e => exact settles_of_rests fun st' _ _ => (rests_refused hget).bind (rests_pure _)
  | none =>
    cases hfound : (st.dependents d).get? ⟨space, name⟩ with
    | some existing =>
      refine settles_get (a := .ok existing) hget fun st' => ?_
      rw [hfound]
      exact rests_pure _
    | none =>
      rcases desired with e | object
      · refine settles_get (a := .error e) hget fun st' => ?_
        rw [hfound]
        exact rests_pure _
      cases hcreate : f.refusal? (.create d space object) with
      | some e =>
        refine settles_get (a := .error e) hget fun st' => ?_
        rw [hfound]
        exact rests_refused hcreate
      | none =>
        exact settles_create (hkey object rfl) hget hcreate hfound (bind_pure _).symm rfl rfl

/-! ## Jobs -/

theorem rests_listPods {args : Args}
    (h : f.refusal? (.listPods args.space args.podSelector) = none) :
    Rests f f.Idle st (ask (.listPods args.space args.podSelector))
      (.ok (st.listPods args.space args.podSelector)) :=
  rests_ask (Faults.answer_accepted h st) fun hw => nomatch hw

/-- The next time another phase may tell how the job stands, but it comes to the same. -/
theorem settles_ensureJob (args : Args) :
    Settles f [.job] st (ensureJob args >>= fun phase => pure (phase.outcome args.jobName)) := by
  show Settles f [.job] st (ask (.get .job args.space args.jobName) >>= fun r => _)
  cases hget : f.refusal? (.get .job args.space args.jobName) with
  | some e => exact settles_of_rests fun st' _ _ => (rests_refused hget).bind (rests_pure _)
  | none =>
    cases hfound : (st.dependents .job).get? ⟨args.space, args.jobName⟩ with
    | some existing =>
      refine settles_get (a := existing.phase.outcome args.jobName) hget fun st' => ?_
      rw [hfound]
      exact rests_pure _
    | none =>
      cases hcreate : f.refusal? (.create .job args.space args.job) with
      | some e =>
        -- what the failure comes to depends on the error, but not on the stores
        cases e <;>
        · apply settles_get hget
          intro st'
          rw [hfound]
          exact (rests_refused hcreate).bind (rests_pure _)
      | none =>
        exact settles_create (d := .job) rfl hget hcreate hfound rfl rfl rfl

/-- What the pods of a job report. -/
def askReport (args : Args) : Program (Except Error Report) := do
  match ← ask (.listPods args.space args.podSelector) with
  | .error e => return .error e
  | .ok pods => return reportOf pods

theorem settles_askReport (args : Args) : Settles f [] st (askReport args) := by
  cases hlist : f.refusal? (.listPods args.space args.podSelector) with
  | some e => exact settles_of_rests fun st' _ _ => (rests_refused hlist).bind (rests_pure _)
  | none =>
    refine settles_of_rests (a := reportOf (st.listPods args.space args.podSelector))
      fun st' _ hpods => (rests_listPods hlist).bind ?_
    have hsame : st'.listPods args.space args.podSelector = st.listPods _ _ :=
      congrArg (List.filter _) hpods
    rw [hsame]
    exact rests_pure _

/-- The report of a job, if it has one. -/
def askReportIf (args : Args) : Except Error Unit → Program (Except Error Report)
  | .error e => pure (.error e)
  | .ok () => askReport args

theorem settles_runJob (args : Args) : Settles f [.job] st (runJob args) := by
  have hsplit : runJob args =
      (ensureJob args >>= fun phase => pure (phase.outcome args.jobName)) >>= askReportIf args := by
    rw [bind_assoc]
    rfl
  rw [hsplit]
  refine (settles_ensureJob args).andThen ?_
  unfold askReportIf
  split
  · exact settles_pure _
  · exact settles_askReport args

theorem settles_createNotification (p : Pass) (s : Scheduler) (status : SchedulerStatus) :
    Settles f [.job] st (p.createNotification s status) := by
  unfold createNotification
  split
  · exact settles_pure _
  · exact settles_runJob _

theorem settles_undoNotification (f : Faults) (st : Stores) (p : Pass) (s : Scheduler)
    (status : SchedulerStatus) :
    Settles f [.job] st (p.undoNotification s status) := by
  unfold undoNotification
  split
  · exact settles_pure _
  split
  · exact settles_pure _
  · refine (settles_runJob _).andThen ?_
    split <;> exact settles_pure _

/-! ## Stages -/

/-- An owned object lies under the key of its owner. -/
theorem key_owned {α : Type} {s : Scheduler} {make : Metadata → α} (metadata : α → Metadata)
    (hmake : ∀ m, metadata (make m) = m) {o : α} (h : s.ownedMetadata.map make = .ok o) :
    Key.of (metadata o) = ⟨s.space, s.displayName⟩ := by
  obtain ⟨m, hm, rfl⟩ := map_eq_ok.1 h
  obtain ⟨owner, -, rfl⟩ := map_eq_ok.1 hm
  rw [hmake]
  rfl

theorem settles_reachTopic (s : Scheduler) (name : String) :
    Settles f [.topic] st (reachTopic s name) := by
  refine Settles.andThen (settles_ensure fun o ho => ?_) ?_
  · exact key_owned Topic.metadata (fun _ => rfl) ho
  · split <;> exact settles_pure _

theorem settles_reachSubscription (s : Scheduler) (name : String) :
    Settles f [.pullSubscription] st (reachSubscription s name) := by
  refine Settles.andThen (settles_ensure fun o ho => ?_) ?_
  · exact key_owned PullSubscription.metadata (fun _ => rfl) ho
  · split <;> exact settles_pure _

theorem settles_reachNotification (p : Pass) (s : Scheduler) (status : SchedulerStatus) :
    Settles f [.job] st (p.reachNotification s status) := by
  refine (p.settles_createNotification s status).andThen ?_
  split <;> exact settles_pure _

theorem settles_survey (f : Faults) (st : Stores) (p : Pass) (s : Scheduler) (name : String) :
    Settles f Dependent.all st (p.survey s name) := by
  refine (settles_reachTopic s name).bind [.pullSubscription, .job] ?_ (by decide)
  split
  · exact settles_pure _
  refine (settles_reachSubscription s name).bind [.job] ?_ (by decide)
  split
  · exact settles_pure _
  refine (p.settles_reachNotification s _).andThen ?_
  split <;> exact settles_pure _

end Pass

end EventWiring
