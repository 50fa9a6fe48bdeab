import EventWiring.Proofs.Pass.Status

/-!
# How a pass over a live scheduler ends

The status that a pass computes has one of four shapes, and the result of the pass goes with it
(`Progress.agrees`). What follows is at most one status write, whose refusal takes the place of the
result (`Concluded`). Nothing is assumed about who answers the calls.
-/

namespace EventWiring.Pass

open Program (Exchange Trace)

variable {p : Pass}

/-! ## Shapes -/

/-- Where the wiring stops, if it does. -/
inductive Shape where
  | topicFails
  | subscriptionFails
  | notificationFails
  | complete
deriving DecidableEq, Repr

namespace Shape

/-- The statuses of the conditions of the stages. -/
def statuses : Shape → Stage → String
  | topicFails, .topic => Condition.isFalse
  | topicFails, _ => Condition.isUnknown
  | subscriptionFails, .topic => Condition.isTrue
  | subscriptionFails, .pullSubscription => Condition.isFalse
  | subscriptionFails, .notification => Condition.isUnknown
  | notificationFails, .notification => Condition.isFalse
  | notificationFails, _ => Condition.isTrue
  | complete, _ => Condition.isTrue

/-- The stage whose condition is false. -/
def culprit? : Shape → Option Stage
  | topicFails => some .topic
  | subscriptionFails => some .pullSubscription
  | notificationFails => some .notification
  | complete => none

theorem eq_of_statuses {a b : Shape} (h : ∀ stage, a.statuses stage = b.statuses stage) :
    a = b := by
  have htopic := h .topic
  have hsubscription := h .pullSubscription
  have hnotification := h .notification
  revert htopic hsubscription hnotification
  cases a <;> cases b <;> decide

end Shape

/-- Each stage has a condition, and its status is the one of the shape. -/
def Shaped (cs : Conditions) (shape : Shape) : Prop :=
  ∀ stage, (cs.get? stage.condition).map (·.status) = some (shape.statuses stage)

/-- The result and the conditions of a pass tell of the same shape, and of no other. -/
structure Agrees (result : Except Error Ending) (cs : Conditions) (shape : Shape) : Prop where
  shaped : ∀ other, Shaped cs other ↔ other = shape
  failed : ∀ stage, shape.culprit? = some stage → ∃ e reason message, result = .error e ∧
    cs.verdict? stage.condition = some (.fails reason message) ∧
    cs.verdict? Condition.ready = some (.fails reason message)
  pending : ∀ stage, shape.statuses stage = Condition.isUnknown →
    cs.verdict? stage.condition = some .undecided
  complete : shape = .complete →
    result = .ok .converged ∧ cs.verdict? Condition.ready = some .holds

namespace Progress

def shape : Progress → Shape
  | noTopic _ => .topicFails
  | noSubscription _ _ => .subscriptionFails
  | noNotification _ _ _ => .notificationFails
  | complete _ _ _ => .complete

theorem status_verdict (g : Progress) (stage : Stage) :
    (g.verdict stage).status = g.shape.statuses stage := by
  cases g <;> cases stage <;> rfl

theorem undecided_of_unknown (g : Progress) {stage : Stage}
    (h : (g.verdict stage).status = Condition.isUnknown) : g.verdict stage = .undecided := by
  have htrue : Condition.isTrue ≠ Condition.isUnknown := by decide
  have hfalse : Condition.isFalse ≠ Condition.isUnknown := by decide
  cases g <;> cases stage <;> first | rfl | exact absurd h htrue | exact absurd h hfalse

theorem shaped_iff (g : Progress) {cs : Conditions} (h : cs.Tells g.verdict) (shape : Shape) :
    Shaped cs shape ↔ shape = g.shape := by
  have hstatus : ∀ stage, (cs.get? stage.condition).map (·.status) =
      some (g.shape.statuses stage) := fun stage => by
    rw [← g.status_verdict, ← Option.map_some, ← h.stage, Conditions.verdict?, Option.map_map]
    rfl
  constructor
  · intro hshaped
    refine Shape.eq_of_statuses fun stage => ?_
    exact Option.some.inj ((hshaped stage).symm.trans (hstatus stage))
  · rintro rfl
    exact hstatus

theorem agrees (g : Progress) {cs : Conditions} (h : cs.Tells g.verdict) :
    Agrees g.result cs g.shape where
  shaped := g.shaped_iff h
  failed stage hstage := by
    cases g with
    | noTopic b =>
      obtain rfl : Stage.topic = stage := Option.some.inj hstage
      exact ⟨b.error, b.reason, b.message, rfl, h.stage _, h.ready⟩
    | noSubscription ids b =>
      obtain rfl : Stage.pullSubscription = stage := Option.some.inj hstage
      exact ⟨b.error, b.reason, b.message, rfl, h.stage _, h.ready⟩
    | noNotification ids uri b =>
      obtain rfl : Stage.notification = stage := Option.some.inj hstage
      exact ⟨b.error, b.reason, b.message, rfl, h.stage _, h.ready⟩
    | complete ids uri report => cases hstage
  pending stage hstage := by
    rw [← g.status_verdict] at hstage
    rw [h.stage, g.undecided_of_unknown hstage]
  complete hshape := by
    cases g with
    | complete ids uri report => exact ⟨rfl, h.ready⟩
    | _ => cases hshape

theorem result_ne_finalized (g : Progress) : g.result ≠ .ok .finalized := by
  cases g <;> simp [result]

theorem result_eq_ok (g : Progress) :
    g.result.map (fun _ => ()) = .ok () ↔ g.shape = .complete := by
  cases g <;> simp [result, shape, Except.map]

end Progress

/-! ## What follows the work -/

/-- The exchanges after the work of a pass, and its result: a status that changed is written once,
and a refusal to write it counts. -/
inductive Concluded (found s : Scheduler) (result : Except Error Ending) :
    List Exchange → Except Error Unit → Prop
  | unchanged : found.status = s.status → found.metadata = s.metadata →
    Concluded found s result [] (result.map fun _ => ())
  | written (stored : Scheduler) (later : List Exchange) :
    ¬ (found.status = s.status ∧ found.metadata = s.metadata) →
    (∀ x ∈ later, ∃ e, x.call = .publish e) →
    Concluded found s result (⟨.updateStatus s, .ok stored⟩ :: later) (result.map fun _ => ())
  | refused (e : Error) (later : List Exchange) :
    ¬ (found.status = s.status ∧ found.metadata = s.metadata) →
    (∀ x ∈ later, ∃ e, x.call = .publish e) →
    Concluded found s result (⟨.updateStatus s, .error e⟩ :: later) (.error e)

theorem concluded_of_trace {found s : Scheduler} {result : Except Error Ending}
    {log : List Exchange} {r : Except Error Unit} (h : Trace (conclude found s result) log r) :
    Concluded found s result log r := by
  unfold conclude at h
  split at h
  · next hsame =>
    obtain ⟨rfl, rfl⟩ := Program.trace_pure.1 h
    exact .unchanged hsame.1 hsame.2
  · next hchanged =>
    obtain ⟨l, written, l', hstore, hresult, rfl⟩ := Program.trace_bind.1 h
    unfold storeStatus at hstore
    obtain ⟨reply, rest, rfl, hreply⟩ := Program.trace_ask_bind.1 hstore
    rcases reply with e | stored
    · obtain ⟨rfl, rfl⟩ := Program.trace_pure.1 hreply
      obtain ⟨_, later, rfl, htold⟩ := Program.trace_ask_bind.1 hresult
      obtain ⟨rfl, rfl⟩ := Program.trace_pure.1 htold
      exact .refused e _ hchanged (by simp)
    · have hquiet : (∀ x ∈ rest, ∃ e, x.call = .publish e) ∧ written = .ok () := by
        simp only at hreply
        split at hreply
        · obtain ⟨_, later, rfl, htold⟩ := Program.trace_ask_bind.1 hreply
          obtain ⟨rfl, rfl⟩ := Program.trace_pure.1 htold
          exact ⟨by simp, rfl⟩
        · obtain ⟨rfl, rfl⟩ := Program.trace_pure.1 hreply
          exact ⟨by simp, rfl⟩
      obtain ⟨hrest, rfl⟩ := hquiet
      obtain ⟨rfl, rfl⟩ := Program.trace_pure.1 hresult
      rw [List.append_nil]
      exact .written stored rest hchanged hrest

/-- The pass succeeds once its work does and no write is refused. -/
theorem Concluded.ok_iff {found s : Scheduler} {result : Except Error Ending} {log : List Exchange}
    {r : Except Error Unit} (h : Concluded found s result log r) :
    r = .ok () ↔ result.map (fun _ => ()) = .ok () ∧ ∀ e, ⟨.updateStatus s, .error e⟩ ∉ log := by
  cases h with
  | unchanged => simp
  | written stored later hchanged hlater =>
    have hnot : ∀ e, (⟨.updateStatus s, .error e⟩ : Exchange) ∉
        (⟨.updateStatus s, .ok stored⟩ : Exchange) :: later := fun e he => by
      rcases List.mem_cons.1 he with he | he
      · cases he
      · obtain ⟨_, hcall⟩ := hlater _ he
        cases hcall
    exact ⟨fun h => ⟨h, hnot⟩, And.left⟩
  | refused e later hchanged hlater =>
    constructor
    · intro h
      cases h
    · rintro ⟨-, hnot⟩
      exact absurd List.mem_cons_self (hnot e)

/-! ## The whole pass -/

variable {σ : Type} {answer : (c : Call) → σ → c.Answer × σ} {found : Scheduler} {w : σ}

theorem ensureMarker_run
    (hmarker : ∀ patch, found.addMarker? = some patch → ∃ patched,
      (answer (.patchScheduler found.space found.displayName patch) w).1 = .ok patched) :
    ∃ s, ((ensureMarker found).run answer w).result = .ok s := by
  unfold ensureMarker
  cases hpatch : found.addMarker? with
  | none => exact ⟨found, rfl⟩
  | some patch =>
    obtain ⟨patched, hpatched⟩ := hmarker patch hpatch
    simp only [Program.ask_bind, Program.run, hpatched]
    exact ⟨_, rfl⟩

theorem work_run_of_live (hlive : found.metadata.deleting = false)
    (hmarker : ∀ patch, found.addMarker? = some patch → ∃ patched,
      (answer (.patchScheduler found.space found.displayName patch) w).1 = .ok patched) :
    ∃ (s : Scheduler) (g : Progress),
      ((p.work found).run answer w).result = (g.result, p.settled s (g.record p)) := by
  obtain ⟨s, hs⟩ := ensureMarker_run hmarker
  rw [work_of_live p hlive, Program.run_bind]
  simp only [hs, Program.run_bind]
  exact ⟨s, _, rfl⟩

theorem attend_run {worked : Program.Run σ (Except Error Ending × Scheduler)}
    (hworked : (p.work found).run answer w = worked) (h : worked.result.1 ≠ .ok .finalized) :
    (p.attend found).run answer w =
      let ended := (conclude found worked.result.2 worked.result.1).run answer worked.state
      ⟨ended.result, worked.exchanges ++ ended.exchanges, ended.state⟩ := by
  unfold attend
  rw [Program.run_bind, hworked]
  simp only [finish_eq h]

theorem reconcile_run {key : String} {k : Key} (hkey : Key.parse key = .ok k)
    (hfound : (answer (.getScheduler k.space k.name) w).1 = .ok (some found)) :
    (p.reconcile key).run answer w =
      let attended := (p.attend found).run answer (answer (.getScheduler k.space k.name) w).2
      ⟨attended.result, ⟨.getScheduler k.space k.name, .ok (some found)⟩ :: attended.exchanges,
        attended.state⟩ := by
  rw [reconcile_eq p hkey, Program.ask_bind]
  simp only [Program.run, hfound]

/-- Outcome and status agree on every pass over a live scheduler. -/
theorem reconcile_live_agrees {key : String} {k : Key} (hkey : Key.parse key = .ok k)
    (hfound : (answer (.getScheduler k.space k.name) w).1 = .ok (some found))
    (hlive : found.metadata.deleting = false)
    (hmarker : ∀ patch, found.addMarker? = some patch → ∃ patched,
      (answer (.patchScheduler found.space found.displayName patch)
        (answer (.getScheduler k.space k.name) w).2).1 = .ok patched) :
    let worked := (p.work found).run answer (answer (.getScheduler k.space k.name) w).2
    let pass := (p.reconcile key).run answer w
    ∃ status shape rest,
      worked.result.2.status = some status ∧
      Agrees worked.result.1 status.conditions shape ∧
      pass.exchanges =
        ⟨.getScheduler k.space k.name, .ok (some found)⟩ :: (worked.exchanges ++ rest) ∧
      Concluded found worked.result.2 worked.result.1 rest pass.result ∧
      (pass.result = .ok () ↔
        shape = .complete ∧ ∀ e, ⟨.updateStatus worked.result.2, .error e⟩ ∉ rest) := by
  intro worked pass
  obtain ⟨s, g, hworked⟩ := work_run_of_live (p := p) hlive hmarker
  obtain ⟨status, hstatus, htells⟩ := g.recording.tells_settled p s
  have hresult : worked.result.1 = g.result := congrArg Prod.fst hworked
  have hsettled : worked.result.2 = p.settled s (g.record p) := congrArg Prod.snd hworked
  have hended := concluded_of_trace (Program.run_trace answer
    (conclude found worked.result.2 worked.result.1) worked.state)
  have hpass := reconcile_run (p := p) hkey hfound
  rw [attend_run (show _ = worked from rfl) (hresult ▸ g.result_ne_finalized)] at hpass
  refine ⟨status, g.shape, _, hsettled ▸ hstatus, hresult ▸ g.agrees htells,
    congrArg Program.Run.exchanges hpass, ?_, ?_⟩
  · rw [show pass.result = _ from congrArg Program.Run.result hpass]
    exact hended
  · rw [show pass.result = _ from congrArg Program.Run.result hpass]
    refine hended.ok_iff.trans ?_
    rw [hresult, g.result_eq_ok]

theorem sample_reconcile_agrees :
    let p := Pass.sample "2020-01-01T00:00:00Z"
    let worked := (World.sample .sample).run (p.work .sample)
    let pass := (World.sample .sample).run (p.reconcile "media/photos")
    Key.parse "media/photos" = .ok ⟨"media", "photos"⟩ ∧
      (World.answer (.getScheduler "media" "photos") (.sample .sample)).1 = .ok (some .sample) ∧
      Scheduler.sample.metadata.deleting = false ∧
      ∃ status shape rest,
        worked.result.2.status = some status ∧
        Agrees worked.result.1 status.conditions shape ∧
        pass.exchanges =
          ⟨.getScheduler "media" "photos", .ok (some .sample)⟩ :: (worked.exchanges ++ rest) ∧
        Concluded .sample worked.result.2 worked.result.1 rest pass.result ∧
        (pass.result = .ok () ↔
          shape = .complete ∧ ∀ e, ⟨.updateStatus worked.result.2, .error e⟩ ∉ rest) := by
  intro p worked pass
  refine ⟨rfl, rfl, rfl, ?_⟩
  refine @reconcile_live_agrees p World World.answer .sample (.sample .sample) "media/photos"
    ⟨"media", "photos"⟩ rfl rfl rfl ?_
  rintro patch ⟨⟩
  exact ⟨_, rfl⟩

end EventWiring.Pass
