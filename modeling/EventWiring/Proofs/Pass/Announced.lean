import EventWiring.Proofs.Pass.Released
import EventWiring.Proofs.Pass.Work
import EventWiring.Proofs.World.History
import EventWiring.Proofs.World.Listener

/-!
# What becomes ready is announced once

A pass that stores a status tells whether the scheduler has become ready by it. Nothing but that
write changes the status of the scheduler while the pass is under way, so it is announced exactly
when the stored status goes from not ready to ready (`Pass.announces_of_reconcile`), and never for a
scheduler that is being deleted, whose conditions are all thrown back. A run is any sequence of
passes and of other changes to the world; what its passes do does not depend on who listens
(`ready_announced_once`).
-/

namespace EventWiring

open Program (Exchange Ends Obeys Reaches Trace ends_pure ends_ask_bind ends_bind)

/-- The event says that a scheduler is ready. -/
def Event.tellsReady (e : Event) : Bool := e.reason = "SchedulerReady"

namespace Call

def event? : Call → Option Event
  | publish e => some e
  | _ => none

/-- The call neither stores a status nor says that a scheduler is ready. -/
def quiet : Call → Bool
  | updateStatus _ => false
  | publish e => !e.tellsReady
  | _ => true

end Call

/-- The events that say that a scheduler is ready. -/
def announcements (log : List Exchange) : List Event :=
  log.filterMap fun x => x.call.event?.filter (·.tellsReady)

/-- A status was stored. -/
def StatusStored (log : List Exchange) : Prop :=
  ∃ s updated, (⟨.updateStatus s, .ok updated⟩ : Exchange) ∈ log

/-- The status that is stored under the key is that of a ready scheduler. -/
def Stores.ready (st : Stores) (key : Key) : Bool := (st.schedulers.get? key).any (·.ready)

variable {t : Trouble} {st st' : Stores} {key : Key} {log pre : List Exchange} {s s' : Scheduler}

theorem Scheduler.ready_congr (h : s'.status = s.status) : s'.ready = s.ready := by
  rw [ready, ready, h]

theorem Stores.ready_stored (h : st.schedulers.get? key = some s) : st.ready key = s.ready := by
  rw [ready, h]
  rfl

section Quiet

variable (h : ∀ x ∈ pre, x.call.quiet = true)
include h

theorem announcements_of_quiet : announcements pre = [] := by
  refine List.filterMap_eq_nil_iff.2 fun x hx => ?_
  have hquiet := h x hx
  revert hquiet
  cases x.call with
  | publish e => simp [Call.quiet, Call.event?]
  | _ => exact fun _ => rfl

theorem unstored_of_quiet : ¬ StatusStored pre := by
  rintro ⟨s, updated, hx⟩
  cases h _ hx

theorem announcements_quiet_append : announcements (pre ++ log) = announcements log := by
  rw [announcements, List.filterMap_append]
  exact congrArg (· ++ announcements log) (announcements_of_quiet h)

theorem statusStored_quiet_append : StatusStored (pre ++ log) ↔ StatusStored log := by
  constructor
  · rintro ⟨s, updated, hx⟩
    rcases List.mem_append.1 hx with hx | hx
    · exact absurd ⟨s, updated, hx⟩ (unstored_of_quiet h)
    · exact ⟨s, updated, hx⟩
  · rintro ⟨s, updated, hx⟩
    exact ⟨s, updated, List.mem_append_right _ hx⟩

end Quiet

/-- While no status is stored, the scheduler keeps the one it has. -/
theorem Program.Reaches.status_kept {α : Type} {p q : Program α}
    (h : Reaches t st p log st' q) (hs : st.schedulers.get? key = some s)
    (hlog : ∀ x ∈ log, x.call.quiet = true) :
    ∃ s', st'.schedulers.get? key = some s' ∧ s'.status = s.status := by
  induction h generalizing s with
  | here => exact ⟨s, hs, rfl⟩
  | step hgives _ ih =>
    obtain ⟨hc, hlog⟩ := List.forall_mem_cons.1 hlog
    obtain ⟨s₁, hs₁, -, hkept | ⟨desired, rfl, -⟩⟩ := hgives.scheduler hs
    · obtain ⟨s', hs', hstatus⟩ := ih hs₁ hlog
      exact ⟨s', hs', hstatus.trans hkept⟩
    · cases hc

namespace Pass

variable {p : Pass} {found s : Scheduler} {x : Except Error Ending × Scheduler}

/-! ## The work -/

theorem quiet_work (h : Trace (p.work found) log x) : ∀ x ∈ log, x.call.quiet = true := by
  have hlook : ∀ c : Call, c.looks = true → c.quiet = true := fun c hc => by
    cases c <;> first | rfl | cases hc
  have hobeys : Obeys (fun _ c => c.quiet = true) [] (p.work found) :=
    obeys_work hlook (fun _ _ _ => rfl) (fun _ _ _ => rfl) (fun _ _ _ => rfl) rfl
  exact h.obeys hobeys

/-- The work goes on with the scheduler that was found, but for its status and its marker. -/
theorem bare_of_work {x : Except Error Ending × Scheduler} (h : Trace (p.work found) log x) :
    x.2.bare = found.bare := by
  cases hdeleting : found.metadata.deleting with
  | true =>
    obtain ⟨_, _, _, -, -, rfl⟩ := removal_of_work hdeleting h
    rfl
  | false =>
    rw [work_of_live p hdeleting] at h
    obtain ⟨_, marked, _, hmarker, hrest, rfl⟩ := Program.trace_bind.1 h
    rcases marked with e | marked
    · obtain ⟨-, rfl⟩ := Program.trace_pure.1 hrest
      rfl
    · obtain ⟨finalizers, version, rfl⟩ := remarked_of_ensureMarker hmarker
      obtain ⟨_, _, _, -, hsettled, rfl⟩ := Program.trace_bind.1 hrest
      obtain ⟨-, rfl⟩ := Program.trace_pure.1 hsettled
      rfl

/-- A removal makes no scheduler ready. -/
theorem not_ready_of_removal (r : Removal) : (p.settled found (r.record p)).ready = false := by
  obtain ⟨status, hstatus, htells⟩ := r.recording.tells_settled p found
  have htopic : ¬ status.conditions.isTrue Stage.topic.condition = true := by
    have hundecided : r.verdict .topic = .undecided := by cases r <;> rfl
    rw [htells.isTrue_iff, hundecided]
    decide
  rw [Scheduler.ready, hstatus]
  exact Bool.eq_false_iff.2 fun hready =>
    htopic (List.all_eq_true.1 hready _ List.mem_cons_self)

theorem live_of_ready (h : Trace (p.work found) log x) (hready : x.2.ready = true) :
    found.metadata.deleting = false := by
  refine Bool.eq_false_iff.2 fun hdeleting => ?_
  obtain ⟨_, _, r, -, -, rfl⟩ := removal_of_work hdeleting h
  rw [not_ready_of_removal] at hready
  cases hready

/-! ## What follows it -/

/-- A status that is stored is announced if the scheduler was not found ready and is ready now. -/
theorem told_of_storeStatus {written : Except Error Unit}
    (h : Ends t st (storeStatus found s) log st' written) :
    (∃ e, written = .error e ∧ st' = st ∧ log = [⟨.updateStatus s, .error e⟩]) ∨
      ∃ updated, written = .ok () ∧
        st'.schedulers.get? (Key.of s.metadata) = some updated ∧ updated.status = s.status ∧
        StatusStored log ∧
        announcements log = if s.ready && !found.ready then [.ready updated] else [] := by
  obtain ⟨reply, st₁, later, rfl, hgives, hreply⟩ := ends_ask_bind.1 h
  obtain ⟨e, rfl, rfl, -⟩ | ⟨stored, updated, -, rfl, rfl, rfl⟩ := hgives.updateStatus
  · obtain ⟨rfl, rfl, rfl⟩ := ends_pure.1 hreply
    exact .inl ⟨e, rfl, rfl, rfl⟩
  refine .inr ⟨Stores.bumped { stored with status := s.status }, ?_⟩
  by_cases hbecomes : (s.ready && !found.ready) = true
  · simp only [if_pos hbecomes] at hreply ⊢
    obtain ⟨heard, st₂, last, rfl, htold, hend⟩ := ends_ask_bind.1 hreply
    obtain ⟨rfl, rfl, rfl⟩ := ends_pure.1 hend
    rw [htold.publish]
    exact ⟨rfl, Store.get?_put _ _ _, rfl, ⟨s, _, List.mem_cons_self⟩, rfl⟩
  · simp only [if_neg hbecomes] at hreply ⊢
    obtain ⟨rfl, rfl, rfl⟩ := ends_pure.1 hreply
    exact ⟨rfl, Store.get?_put _ _ _, rfl, ⟨s, _, List.mem_cons_self⟩, rfl⟩

/-- After the work either nothing is stored and nothing announced, or the status is stored. -/
theorem told_of_conclude {result : Except Error Ending} {r : Except Error Unit}
    (h : Ends t st (conclude found s result) log st' r) :
    (st' = st ∧ announcements log = [] ∧ ¬ StatusStored log) ∨
      ∃ updated, st'.schedulers.get? (Key.of s.metadata) = some updated ∧
        updated.status = s.status ∧ StatusStored log ∧
        announcements log = if s.ready && !found.ready then [.ready updated] else [] := by
  by_cases hsame : found.status = s.status ∧ found.metadata = s.metadata
  · rw [conclude, if_pos hsame] at h
    obtain ⟨rfl, rfl, -⟩ := ends_pure.1 h
    refine .inl ⟨rfl, rfl, ?_⟩
    rintro ⟨s', updated, hx⟩
    exact List.not_mem_nil hx
  rw [conclude_changed hsame] at h
  obtain ⟨l, written, mid, l', hstore, hrest, rfl⟩ := ends_bind.1 h
  obtain ⟨e, rfl, rfl, rfl⟩ | ⟨updated, rfl, hupdated, hstatus, hstored, htold⟩ :=
    told_of_storeStatus hstore
  · obtain ⟨heard, st₂, last, rfl, hheard, hend⟩ := ends_ask_bind.1 hrest
    obtain ⟨rfl, rfl, -⟩ := ends_pure.1 hend
    refine .inl ⟨hheard.publish, rfl, ?_⟩
    rintro ⟨s', updated, hx⟩
    rcases List.mem_cons.1 hx with hx | hx
    · cases hx
    · cases List.mem_singleton.1 hx
  · obtain ⟨rfl, rfl, -⟩ := ends_pure.1 hrest
    rw [List.append_nil]
    exact .inr ⟨updated, hupdated, hstatus, hstored, htold⟩

end Pass

/-! ## A pass -/

/-- What a pass over the scheduler under the key announces while it takes the stores from `st` to
`st'`: that a write made the stored status ready. Nothing else makes it so. -/
structure Announces (key? : Option Key) (st : Stores) (log : List Exchange) (st' : Stores) :
    Prop where
  becomes : announcements log ≠ [] ↔ StatusStored log ∧
    ∃ key, key? = some key ∧ st.ready key = false ∧ st'.ready key = true
  event : announcements log ≠ [] → ∃ key updated, key? = some key ∧
    st'.schedulers.get? key = some updated ∧ announcements log = [.ready updated]
  live : announcements log ≠ [] → ∀ key s, key? = some key → st.schedulers.get? key = some s →
    s.metadata.deleting = false
  kept : ¬ StatusStored log → ∀ key, key? = some key → st'.ready key = st.ready key

theorem Announces.silent {key? : Option Key} (hnone : announcements log = [])
    (hunstored : ¬ StatusStored log)
    (hkept : ∀ key, key? = some key → st'.ready key = st.ready key) :
    Announces key? st log st' where
  becomes := iff_of_false (fun h => h hnone) fun h => hunstored h.1
  event h := absurd hnone h
  live h := absurd hnone h
  kept _ := hkept

theorem Announces.stored {found updated : Scheduler} (hfound : st.schedulers.get? key = some found)
    (hupdated : st'.schedulers.get? key = some updated) (hstored : StatusStored log)
    (htold : announcements log = if updated.ready && !found.ready then [.ready updated] else [])
    (hlive : updated.ready = true → found.metadata.deleting = false) :
    Announces (some key) st log st' := by
  have hbefore := Stores.ready_stored hfound
  have hafter := Stores.ready_stored hupdated
  by_cases hbecomes : (updated.ready && !found.ready) = true
  · rw [if_pos hbecomes] at htold
    obtain ⟨hready, hnot⟩ := Bool.and_eq_true_iff.1 hbecomes
    refine ⟨iff_of_true (htold ▸ List.cons_ne_nil _ _) ⟨hstored, key, rfl, ?_, ?_⟩,
      fun _ => ⟨key, updated, rfl, hupdated, htold⟩, ?_, fun h => absurd hstored h⟩
    · rw [hbefore, ← Bool.not_eq_true', hnot]
    · rw [hafter, hready]
    · rintro - _ s ⟨⟩ hs
      obtain rfl := Option.some.inj (hfound.symm.trans hs)
      exact hlive hready
  · rw [if_neg hbecomes] at htold
    refine ⟨iff_of_false (fun h => h htold) ?_, fun h => absurd htold h, fun h => absurd htold h,
      fun h => absurd hstored h⟩
    rintro ⟨-, _, ⟨⟩, hnot, hready⟩
    rw [hbefore] at hnot
    rw [hafter] at hready
    exact hbecomes (by rw [hnot, hready]; rfl)

namespace Pass

variable {p : Pass} {found s : Scheduler} {r : Except Error Unit}

theorem announces_of_attend (hfound : st.schedulers.get? key = some found)
    (hkey : Key.of found.metadata = key) (hpre : ∀ x ∈ pre, x.call.quiet = true)
    (h : Ends t st (p.attend found) log st' r) : Announces (some key) st (pre ++ log) st' := by
  obtain ⟨l, x, mid, l', hwork, hfinish, rfl⟩ := ends_bind.1 h
  have hquiet : ∀ y ∈ pre ++ l, y.call.quiet = true := fun y hy =>
    (List.mem_append.1 hy).elim (hpre y) (quiet_work hwork.trace y)
  obtain ⟨s₁, hs₁, hstatus₁⟩ := hwork.status_kept hfound (quiet_work hwork.trace)
  have hkept : ∀ k, some key = some k → mid.ready k = st.ready k := by
    rintro k ⟨⟩
    rw [Stores.ready_stored hs₁, Stores.ready_stored hfound, Scheduler.ready_congr hstatus₁]
  rw [← List.append_assoc]
  by_cases hfinalized : x.1 = .ok .finalized
  · obtain ⟨result, s⟩ := x
    subst hfinalized
    obtain ⟨rfl, rfl, -⟩ := ends_pure.1 hfinish
    rw [List.append_nil]
    exact .silent (announcements_of_quiet hquiet) (unstored_of_quiet hquiet) hkept
  rw [finish_eq hfinalized] at hfinish
  obtain ⟨rfl, hnone, hunstored⟩ | ⟨updated, hupdated, hstatus, hstored, htold⟩ :=
    told_of_conclude hfinish
  · refine .silent ?_ ?_ hkept
    · rw [announcements_quiet_append hquiet, hnone]
    · rwa [statusStored_quiet_append hquiet]
  rw [Scheduler.key_of_bare (bare_of_work hwork.trace), hkey] at hupdated
  have hready := Scheduler.ready_congr hstatus
  refine .stored hfound hupdated ((statusStored_quiet_append hquiet).2 hstored) ?_ fun h => ?_
  · rw [announcements_quiet_append hquiet, htold, hready]
  · exact live_of_ready hwork.trace (hready ▸ h)

/-- A pass over the scheduler that is stored under its own key. -/
theorem announces_of_reconcile {text : String}
    (hkeyed : ∀ key s, st.schedulers.get? key = some s → Key.of s.metadata = key)
    (h : Ends t st (p.reconcile text) log st' r) :
    Announces (Key.parse text).toOption st log st' := by
  cases hparse : Key.parse text with
  | error e =>
    rw [reconcile, hparse] at h
    obtain ⟨rfl, rfl, -⟩ := ends_pure.1 h
    exact .silent rfl (fun ⟨_, _, hx⟩ => List.not_mem_nil hx) nofun
  | ok key =>
    rw [reconcile_eq p hparse] at h
    obtain ⟨reply, st₁, rest, rfl, hgives, hrest⟩ := ends_ask_bind.1 h
    obtain ⟨rfl, -, hread⟩ := hgives.getScheduler
    have hquiet : ∀ x ∈ [(⟨.getScheduler key.space key.name, reply⟩ : Exchange)],
        x.call.quiet = true := fun x hx => by
      rw [List.mem_singleton.1 hx]
      rfl
    rcases reply with e | (_ | found)
    · obtain ⟨rfl, rfl, -⟩ := ends_pure.1 hrest
      exact .silent rfl (unstored_of_quiet hquiet) fun _ _ => rfl
    · obtain ⟨rfl, rfl, -⟩ := ends_pure.1 hrest
      exact .silent rfl (unstored_of_quiet hquiet) fun _ _ => rfl
    · have hfound := (hread _ rfl).symm
      exact announces_of_attend hfound (hkeyed _ _ hfound) hquiet hrest

end Pass

/-! ## A run of passes -/

/-- What happens to a world: a pass, or a change that others make. -/
inductive Move where
  | pass (p : Pass) (text : String)
  | other (change : World → World)

/-- A pass of a run, with the worlds before and after it. -/
structure Turn where
  text : String
  before : World
  log : List Exchange
  result : Except Error Unit
  after : World

namespace Turn

def key? (turn : Turn) : Option Key := (Key.parse turn.text).toOption

def Announces (turn : Turn) : Prop :=
  EventWiring.Announces turn.key? turn.before.stores turn.log turn.after.stores

/-- Reads of schedulers find what is stored, and it is stored under its own key. -/
structure Current (turn : Turn) : Prop where
  seen : turn.before.faults.seen = []
  keyed : ∀ key s, turn.before.stores.schedulers.get? key = some s → Key.of s.metadata = key

/-- The turn without its events. -/
def unheard (turn : Turn) : Turn := { turn with log := dealings turn.log }

end Turn

variable {ρ ρ' : Type}

def Listener.turn (hear : Listener ρ) (p : Pass) (text : String) (w : World) (r : ρ) : Turn × ρ :=
  let run := (p.reconcile text).run hear.answer (w, r)
  (⟨text, w, run.exchanges, run.result, run.state.1⟩, run.state.2)

/-- The passes of a run. -/
def Listener.turns (hear : Listener ρ) : List Move → World → ρ → List Turn
  | [], _, _ => []
  | .pass p text :: moves, w, r =>
    let (turn, r) := hear.turn p text w r
    turn :: hear.turns moves turn.after r
  | .other change :: moves, w, r => hear.turns moves (change w) r

section Runs

variable (hear : Listener ρ) (hear' : Listener ρ') (moves : List Move) (w : World) (r : ρ) (r' : ρ')

variable {hear moves w r} in
theorem Listener.of_mem_turns {turn : Turn} (h : turn ∈ hear.turns moves w r) :
    ∃ p text w' r', turn = (hear.turn p text w' r').1 := by
  induction moves generalizing w r with
  | nil => cases h
  | cons move moves ih =>
    cases move with
    | other change => exact ih h
    | pass p text =>
      rcases List.mem_cons.1 h with rfl | h
      · exact ⟨p, text, w, r, rfl⟩
      · exact ih h

variable {hear moves w r} in
theorem Listener.announces_turn {turn : Turn} (h : turn ∈ hear.turns moves w r)
    (hcurrent : turn.Current) : turn.Announces := by
  obtain ⟨p, text, w', r', rfl⟩ := of_mem_turns h
  exact Pass.announces_of_reconcile hcurrent.keyed (hear.ends_run hcurrent.seen _ _)

theorem Listener.turn_alike (p : Pass) (text : String) :
    (hear.turn p text w r).1.unheard = (hear'.turn p text w r').1.unheard := by
  obtain ⟨hresult, hdealings, hafter⟩ :=
    Listener.run_alike hear hear' (p.deaf_reconcile text) w r r'
  unfold Turn.unheard turn
  simp only [hresult, hdealings, hafter]

/-- Whoever listens, the passes of a run do the same. -/
theorem Listener.turns_alike :
    (hear.turns moves w r).map (·.unheard) = (hear'.turns moves w r').map (·.unheard) := by
  induction moves generalizing w r r' with
  | nil => rfl
  | cons move moves ih =>
    cases move with
    | other change => exact ih _ _ _
    | pass p text =>
      have hturn := hear.turn_alike hear' w r r' p text
      have hafter := congrArg Turn.after hturn
      have hrest := ih (hear.turn p text w r).1.after (hear.turn p text w r).2
        (hear'.turn p text w r').2
      exact List.cons_eq_cons.2 ⟨hturn, hafter ▸ hrest⟩

end Runs

/-- A scheduler that has become ready is announced by the pass that stores it, so between two
announcements its stored status was not ready; and the passes do the same whoever listens. What a
world does by itself is what it does with its own recorder to listen. -/
theorem ready_announced_once (hear : Listener ρ) (moves : List Move) (w : World) (r : ρ)
    (hcurrent : ∀ turn ∈ hear.turns moves w r, turn.Current) :
    (∀ turn ∈ hear.turns moves w r, turn.Announces) ∧
      (∀ before turn between turn' after,
        hear.turns moves w r = before ++ turn :: (between ++ turn' :: after) →
        turn.key? = turn'.key? → announcements turn.log ≠ [] → announcements turn'.log ≠ [] →
        ∃ key, turn'.key? = some key ∧ turn.after.stores.ready key = true ∧
          turn'.before.stores.ready key = false) ∧
      (∀ {ρ' : Type} (hear' : Listener ρ') (r' : ρ'),
        (hear'.turns moves w r').map (·.unheard) = (hear.turns moves w r).map (·.unheard)) ∧
      ∀ (p : Pass) (text : String) (w : World),
        let own := Listener.recorder.turn p text w w.recorder
        w.run (p.reconcile text) =
          ⟨own.1.result, own.1.log, { own.1.after with recorder := own.2 }⟩ := by
  refine ⟨fun turn h => Listener.announces_turn h (hcurrent turn h), ?_, fun hear' r' =>
    hear'.turns_alike hear moves w r' r, fun p text => Listener.run_recorder (p.reconcile text)⟩
  intro before turn between turn' after hturns hkeys hfirst hsecond
  have hmem : turn ∈ hear.turns moves w r := by simp [hturns]
  have hmem' : turn' ∈ hear.turns moves w r := by simp [hturns]
  obtain ⟨-, key, hkey, -, hready⟩ :=
    (Listener.announces_turn hmem (hcurrent turn hmem)).becomes.1 hfirst
  obtain ⟨-, key', hkey', hnot, -⟩ :=
    (Listener.announces_turn hmem' (hcurrent turn' hmem')).becomes.1 hsecond
  obtain rfl : key = key' := Option.some.inj (hkey.symm.trans (hkeys.trans hkey'))
  exact ⟨key, hkey', hready, hnot⟩

/-! ## A sample run -/

section Sample

/-- Publishes nothing, but counts what it hears. -/
def Listener.counting : Listener Nat := fun _ heard => (none, heard + 1)

/-- The sample when all that it takes is there. -/
def World.wired : World :=
  { World.sample .sample with
    stores := Pass.creating |> Pass.ended .create (.succeeded "9" "") }

/-- Others change the topic of the sample. -/
def Move.topic (f : Topic → Topic) : Move :=
  .other fun w => { w with stores := w.stores.report .topic .sample f }

/-- The topic of the sample is lost from sight and comes back. -/
def Move.flicker : List Move :=
  let pass := Move.pass (.sample "2020-01-01T00:00:00Z") "media/photos"
  [pass, .topic fun topic => { topic with status := none }, pass, .topic Pass.wellTopic, pass]

theorem flicker_ready_announced_once :
    let turns := Listener.counting.turns Move.flicker .wired 0
    turns.map (fun turn => (announcements turn.log).length) = [1, 0, 1] ∧
      (∀ turn ∈ turns, turn.Current) ∧
      (∀ turn ∈ turns, turn.Announces) ∧
      (∀ before turn between turn' after,
        turns = before ++ turn :: (between ++ turn' :: after) →
        turn.key? = turn'.key? → announcements turn.log ≠ [] → announcements turn'.log ≠ [] →
        ∃ key, turn'.key? = some key ∧ turn.after.stores.ready key = true ∧
          turn'.before.stores.ready key = false) ∧
      (∀ {ρ' : Type} (hear' : Listener ρ') (r' : ρ'),
        (hear'.turns Move.flicker .wired r').map (·.unheard) = turns.map (·.unheard)) ∧
      ∀ (p : Pass) (text : String) (w : World),
        let own := Listener.recorder.turn p text w w.recorder
        w.run (p.reconcile text) =
          ⟨own.1.result, own.1.log, { own.1.after with recorder := own.2 }⟩ := by
  intro turns
  have hheard : turns.map (fun turn => (announcements turn.log).length) = [1, 0, 1] := by
    decide +kernel
  have hchecked : ∀ turn ∈ turns, turn.before.faults.seen = [] ∧
      ∀ e ∈ turn.before.stores.schedulers, Key.of e.2.metadata = e.1 := by
    decide +kernel
  have hcurrent : ∀ turn ∈ turns, turn.Current := fun turn hturn => by
    obtain ⟨hseen, hentries⟩ := hchecked turn hturn
    refine ⟨hseen, fun key s hs => ?_⟩
    obtain ⟨l, l', hsplit, -⟩ := List.lookup_eq_some_iff.1 hs
    exact hentries (key, s) (hsplit ▸ List.mem_append_right l List.mem_cons_self)
  exact ⟨hheard, hcurrent, ready_announced_once .counting Move.flicker .wired 0 hcurrent⟩

end Sample

end EventWiring
