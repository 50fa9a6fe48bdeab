import EventWiring.Pass.Reconcile
import EventWiring.World.World

/-!
# Stores that fail and nobody who listens

A pass never looks at what became of an event. In a world whose reads tell what is stored it
therefore does what it would do on the stores alone, some of whose calls fail (`World.run_mute`).
-/

namespace EventWiring

open Program (Exchange)

variable {α β : Type}

/-! ## Answers -/

namespace Faults

/-- How a call fails, if it does. -/
def refusal? (f : Faults) (c : Call) : Option Error := c.site?.bind f.failure?

/-- The answer of the stores, unless the call fails. -/
def answer (f : Faults) (c : Call) (st : Stores) : c.Answer × Stores :=
  match f.refusal? c with
  | some e => (c.failed e, st)
  | .none => Stores.answer c st

variable {f : Faults} {c : Call} {e : Error}

theorem answer_refused (h : f.refusal? c = some e) (st : Stores) :
    f.answer c st = (c.failed e, st) := by
  rw [answer, h]

theorem answer_accepted (h : f.refusal? c = .none) (st : Stores) :
    f.answer c st = Stores.answer c st := by
  rw [answer, h]

theorem refusal?_of_mended (h : ∀ site, f.failure? site = .none) (c : Call) :
    f.refusal? c = .none := by
  unfold refusal?
  cases c.site? with
  | none => rfl
  | some site => exact h site

end Faults

/-! ## Deafness -/

/-- The program does not look at what became of an event. -/
def Program.Deaf : Program α → Prop
  | done _ => True
  | call c next => (c.site? = none → ∀ r r', next r = next r') ∧ ∀ r, (next r).Deaf

namespace Program

theorem Deaf.bind {p : Program α} {f : α → Program β} (hp : p.Deaf) (hf : ∀ a, (f a).Deaf) :
    (p >>= f).Deaf := by
  induction p with
  | done a => exact hf a
  | call c next ih =>
    refine ⟨fun hc r r' => ?_, fun r => ih r (hp.2 r)⟩
    show next r >>= f = next r' >>= f
    rw [hp.1 hc r r']

theorem deaf_ask {c : Call} (h : c.site?.isSome) : (ask c).Deaf :=
  ⟨fun hc => absurd h (by simp [hc]), fun _ => trivial⟩

theorem deaf_ask_bind {c : Call} {f : c.Answer → Program α} (h : c.site?.isSome)
    (hf : ∀ r, (f r).Deaf) : (ask c >>= f).Deaf :=
  (deaf_ask h).bind hf

theorem deaf_publish (e : Event) {p : Program α} (h : p.Deaf) :
    (ask (.publish e) >>= fun _ => p).Deaf :=
  ⟨fun _ _ _ => rfl, fun _ => h⟩

end Program

namespace Pass

open Program Notification

variable (p : Pass)

theorem deaf_ensure (d : Dependent) (space name : String) (desired : Except Error d.Object) :
    (ensure d space name desired).Deaf := by
  refine deaf_ask_bind rfl fun r => ?_
  rcases r with e | (_ | existing)
  · trivial
  · rcases desired with e | object
    · trivial
    · exact deaf_ask rfl
  · trivial

theorem deaf_runJob (args : Args) : (runJob args).Deaf := by
  have hjob : (ensureJob args).Deaf := by
    refine deaf_ask_bind rfl fun r => ?_
    rcases r with e | (_ | job)
    · trivial
    · refine deaf_ask_bind rfl fun r => ?_
      split <;> trivial
    · trivial
  refine hjob.bind fun phase => ?_
  split
  · trivial
  · refine deaf_ask_bind rfl fun r => ?_
    split <;> trivial

theorem deaf_createNotification (s : Scheduler) (status : SchedulerStatus) :
    (p.createNotification s status).Deaf := by
  unfold createNotification
  split
  · trivial
  · exact deaf_runJob _

theorem deaf_deleteNotification (s : Scheduler) (status : SchedulerStatus) :
    (p.deleteNotification s status).Deaf := by
  unfold deleteNotification
  simp only
  split
  · trivial
  split
  · trivial
  · refine (deaf_runJob _).bind fun r => ?_
    split <;> trivial

theorem deaf_converge (s : Scheduler) (status : SchedulerStatus) : (p.converge s status).Deaf := by
  have htopic : (reachTopic s (topicName s status)).Deaf :=
    (deaf_ensure _ _ _ _).bind fun r => by split <;> trivial
  refine htopic.bind fun r => ?_
  split
  · trivial
  have hsubscription : (reachSubscription s (topicName s status)).Deaf :=
    (deaf_ensure _ _ _ _).bind fun r => by split <;> trivial
  refine hsubscription.bind fun r => ?_
  split
  · trivial
  have hnotification : ∀ status, (p.reachNotification s status).Deaf := fun status =>
    (p.deaf_createNotification s status).bind fun r => by split <;> trivial
  refine (hnotification _).bind fun r => ?_
  split <;> trivial

theorem deaf_teardown (s : Scheduler) (status : SchedulerStatus) : (p.teardown s status).Deaf := by
  refine deaf_publish _ ((p.deaf_deleteNotification s status).bind fun r => ?_)
  split
  · trivial
  refine deaf_ask_bind rfl fun r => ?_
  split
  · trivial
  refine deaf_ask_bind rfl fun r => ?_
  split
  · trivial
  have hrelease : (releaseMarker s).Deaf := by
    unfold releaseMarker
    split
    · trivial
    · refine deaf_ask_bind rfl fun r => ?_
      split <;> trivial
  refine hrelease.bind fun r => ?_
  split <;> trivial

theorem deaf_work (s : Scheduler) : (p.work s).Deaf := by
  unfold work
  split
  · exact (p.deaf_teardown s _).bind fun r => trivial
  have hmarker : (ensureMarker s).Deaf := by
    unfold ensureMarker
    split
    · trivial
    · refine deaf_ask_bind rfl fun r => ?_
      split <;> trivial
  refine hmarker.bind fun r => ?_
  split
  · trivial
  · exact (p.deaf_converge _ _).bind fun r => trivial

theorem deaf_conclude (found s : Scheduler) (result : Except Error Ending) :
    (conclude found s result).Deaf := by
  unfold conclude
  split
  · trivial
  have hstore : (storeStatus found s).Deaf := by
    refine deaf_ask_bind rfl fun r => ?_
    split
    · trivial
    · simp only
      split
      · exact deaf_publish _ trivial
      · trivial
  refine hstore.bind fun r => ?_
  split
  · trivial
  · exact deaf_publish _ trivial

theorem deaf_reconcile (key : String) : (p.reconcile key).Deaf := by
  unfold reconcile
  split
  · trivial
  refine deaf_ask_bind rfl fun r => ?_
  rcases r with e | (_ | found)
  · trivial
  · trivial
  · refine (p.deaf_work found).bind fun r => ?_
    split
    split
    · trivial
    · exact deaf_conclude _ _ _

end Pass

/-! ## Truthful worlds -/

namespace World

/-- A call that does not fail is not answered with anything but what is stored. -/
def Honest (w : World) (c : Call) : Prop :=
  w.faults.refusal? c = none → ∀ reply, w.faults.misread? c = some reply →
    reply = (Stores.answer c w.stores).1

/-- Every read of the program that does not fail is answered with what is stored by then. -/
inductive Truthful : World → Program α → Prop where
  | done (w : World) (a : α) : Truthful w (.done a)
  | call {w : World} {c : Call} {next : c.Answer → Program α} : w.Honest c →
    Truthful (answer c w).2 (next (answer c w).1) → Truthful w (.call c next)

theorem honest_of_none {w : World} {c : Call} (h : w.faults.misread? c = none) : w.Honest c := by
  intro _ reply hreply
  rw [h] at hreply
  cases hreply

theorem answer_eq {w : World} {c : Call} (hc : c.site?.isSome) :
    answer c w = match w.faults.answer? c with
      | some reply => (reply, w)
      | none =>
        ((Stores.answer c w.stores).1, { w with stores := (Stores.answer c w.stores).2 }) := by
  cases c <;> first | rfl | cases hc

theorem stores_of_misread {f : Faults} {c : Call} {reply : c.Answer}
    (h : f.misread? c = some reply) (st : Stores) : (Stores.answer c st).2 = st := by
  cases c <;> first | rfl | cases h

/-- One call, as the stores answer it. -/
theorem answer_honest {w : World} {c : Call} (hc : c.site?.isSome) (h : w.Honest c) :
    answer c w = ((w.faults.answer c w.stores).1,
      { w with stores := (w.faults.answer c w.stores).2 }) := by
  have hfault : w.faults.answer? c =
      ((w.faults.refusal? c).map c.failed).or (w.faults.misread? c) := rfl
  rw [answer_eq hc, hfault]
  cases hrefusal : w.faults.refusal? c with
  | some e =>
    rw [Faults.answer_refused hrefusal]
    rfl
  | none =>
    rw [Faults.answer_accepted hrefusal]
    cases hread : w.faults.misread? c with
    | none => rfl
    | some reply =>
      rw [h hrefusal reply hread, stores_of_misread hread]
      rfl

/-- How a call is answered changes nothing for a program that does not listen. -/
theorem answer_mute {w : World} {c : Call} {next : c.Answer → Program α}
    (hp : (Program.call c next).Deaf) (h : w.Honest c) :
    next (answer c w).1 = next (w.faults.answer c w.stores).1 ∧
      (answer c w).2.stores = (w.faults.answer c w.stores).2 ∧
      (answer c w).2.faults = w.faults := by
  cases hc : c.site? with
  | some site =>
    have hanswer := answer_honest (by simp [hc]) h
    rw [hanswer]
    exact ⟨rfl, rfl, rfl⟩
  | none =>
    refine ⟨hp.1 hc _ _, ?_⟩
    cases c with
    | publish e =>
      show (w.publish e).2.stores = w.stores ∧ (w.publish e).2.faults = w.faults
      unfold publish
      split <;> exact ⟨rfl, rfl⟩
    | _ => cases hc

theorem faults_answer (c : Call) (w : World) : (answer c w).2.faults = w.faults := by
  cases c with
  | publish e =>
    show (w.publish e).2.faults = w.faults
    unfold publish
    split <;> rfl
  | _ =>
    rw [answer_eq rfl]
    split <;> rfl

/-- Where nothing is hidden or seen from another time, every program is answered truthfully. -/
theorem truthful_of_clear {w : World} (hhidden : w.faults.hidden = []) (hseen : w.faults.seen = [])
    (p : Program α) : w.Truthful p := by
  induction p generalizing w with
  | done a => exact .done w a
  | call c next ih =>
    refine .call (honest_of_none ?_) (ih _ ?_ ?_)
    · cases c with
      | getScheduler space name =>
        show (w.faults.seen.get? ⟨space, name⟩).map _ = none
        rw [hseen]
        rfl
      | get d space name =>
        show (if d ∈ w.faults.hidden then _ else _) = none
        rw [hhidden]
        rfl
      | _ => rfl
    · rw [faults_answer]
      exact hhidden
    · rw [faults_answer]
      exact hseen

/-- A program that does not listen does in a truthful world what it does on the stores. -/
theorem run_mute {p : Program α} {w : World} (hp : p.Deaf) (hw : w.Truthful p) :
    (w.run p).result = (p.run w.faults.answer w.stores).result ∧
      (w.run p).state.stores = (p.run w.faults.answer w.stores).state ∧
      (w.run p).state.faults = w.faults ∧
      (w.run p).exchanges.map (·.call) =
        (p.run w.faults.answer w.stores).exchanges.map (·.call) := by
  induction hw with
  | done w a => exact ⟨rfl, rfl, rfl, rfl⟩
  | @call w c next hhonest _ ih =>
    obtain ⟨hnext, hstores, hfaults⟩ := answer_mute hp hhonest
    obtain ⟨hresult, hstate, hkept, hcalls⟩ := ih (hp.2 _)
    have hrest : (next (answer c w).1).run (answer c w).2.faults.answer (answer c w).2.stores =
        (next (w.faults.answer c w.stores).1).run w.faults.answer
          (w.faults.answer c w.stores).2 := by
      rw [hfaults, hstores, hnext]
    rw [hrest] at hresult hstate hcalls
    exact ⟨hresult, hstate, hkept.trans hfaults, congrArg (c :: ·) hcalls⟩

end World

end EventWiring
