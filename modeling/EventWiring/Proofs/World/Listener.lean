import EventWiring.Proofs.World.Reach

/-!
# Whoever listens

Events go to a listener, who publishes them or does not, and all other calls go to the world. A
program that does not look at what became of its events does the same whoever listens
(`Listener.run_alike`). A world with its own recorder is one that is listened to
(`Listener.run_recorder`), and what it is called to do is a course over its stores
(`Listener.ends_run`).
-/

namespace EventWiring

open Program (Exchange Ends)

variable {α ρ ρ' : Type}

/-- Publishes an event, or does not. -/
abbrev Listener (ρ : Type) := Event → ρ → Option Publication × ρ

/-- What is exchanged with the stores. -/
def dealings (log : List Exchange) : List Exchange := log.filter (·.call.site?.isSome)

theorem dealings_cons {c : Call} (hc : c.site?.isSome) (reply : c.Answer) (log : List Exchange) :
    dealings (⟨c, reply⟩ :: log) = ⟨c, reply⟩ :: dealings log :=
  List.filter_cons_of_pos hc

theorem dealings_publish (e : Event) (publication : Option Publication) (log : List Exchange) :
    dealings (⟨.publish e, publication⟩ :: log) = dealings log :=
  rfl

/-- Two who answer alike in corresponding states run a program alike. -/
theorem Program.run_map {σ τ : Type} {answer : (c : Call) → σ → c.Answer × σ}
    {answer' : (c : Call) → τ → c.Answer × τ} {f : σ → τ}
    (h : ∀ c s, answer' c (f s) = ((answer c s).1, f (answer c s).2)) (p : Program α) (s : σ) :
    p.run answer' (f s) =
      ⟨(p.run answer s).result, (p.run answer s).exchanges, f (p.run answer s).state⟩ := by
  induction p generalizing s with
  | done a => rfl
  | call c next ih => simp only [run, h, ih]

namespace World

/-- The recorder has no part in what the stores answer. -/
theorem answer_recorder {c : Call} (hc : c.site?.isSome) (w : World) (r? : Option Recorder) :
    answer c { w with recorder := r? } =
      ((answer c w).1, { (answer c w).2 with recorder := r? }) := by
  rw [answer_eq hc, answer_eq hc]
  cases w.faults.answer? c <;> rfl

end World

namespace Listener

/-- The recorder of a world, if it has one. -/
def recorder : Listener (Option Recorder)
  | _, none => (none, none)
  | e, some r => ((r.publish e).1, some (r.publish e).2)

def answer (hear : Listener ρ) : (c : Call) → World × ρ → c.Answer × (World × ρ)
  | .publish e, (w, r) => ((hear e r).1, w, (hear e r).2)
  | c, (w, r) => ((World.answer c w).1, (World.answer c w).2, r)

variable (hear : Listener ρ) (hear' : Listener ρ')

theorem answer_stored {c : Call} (hc : c.site?.isSome) (w : World) (r : ρ) :
    hear.answer c (w, r) = ((World.answer c w).1, (World.answer c w).2, r) := by
  cases c <;> first | rfl | cases hc

/-- Whoever listens, a deaf program comes to the same result, deals with the stores in the same way
and leaves the same world. -/
theorem run_alike {p : Program α} (hp : p.Deaf) (w : World) (r : ρ) (r' : ρ') :
    (p.run hear.answer (w, r)).result = (p.run hear'.answer (w, r')).result ∧
      dealings (p.run hear.answer (w, r)).exchanges =
        dealings (p.run hear'.answer (w, r')).exchanges ∧
      (p.run hear.answer (w, r)).state.1 = (p.run hear'.answer (w, r')).state.1 := by
  induction p generalizing w r r' with
  | done a => exact ⟨rfl, rfl, rfl⟩
  | call c next ih =>
    cases hc : c.site? with
    | some site =>
      have hstored : c.site?.isSome := Option.isSome_of_mem hc
      have hrest := ih (World.answer c w).1 (hp.2 _) (World.answer c w).2 r r'
      simp only [Program.run, answer_stored _ hstored, dealings_cons hstored]
      exact ⟨hrest.1, congrArg _ hrest.2.1, hrest.2.2⟩
    | none =>
      cases c with
      | publish e =>
        have hnext : next (hear e r).1 = next (hear' e r').1 := hp.1 rfl _ _
        have hrest := ih (hear e r).1 (hp.2 _) w (hear e r).2 (hear' e r').2
        simp only [Program.run, answer, dealings_publish, ← hnext]
        exact hrest
      | _ => cases hc

/-- A world runs as it does with its own recorder to listen. -/
theorem run_recorder (p : Program α) (w : World) :
    w.run p =
      let run := p.run recorder.answer (w, w.recorder)
      ⟨run.result, run.exchanges, { run.state.1 with recorder := run.state.2 }⟩ := by
  let joined : World × Option Recorder → World := fun s => { s.1 with recorder := s.2 }
  refine Program.run_map (f := joined) (fun c s => ?_) p (w, w.recorder)
  obtain ⟨w, r?⟩ := s
  cases hc : c.site? with
  | some site =>
    have hstored : c.site?.isSome := Option.isSome_of_mem hc
    rw [answer_stored _ hstored]
    exact World.answer_recorder hstored w r?
  | none =>
    cases c with
    | publish e => cases r? <;> rfl
    | _ => cases hc

/-- A run that is listened to is a course over the stores of its world. -/
theorem ends_run {w : World} (hseen : w.faults.seen = []) (p : Program α) (r : ρ) :
    Ends w.faults.trouble w.stores p (p.run hear.answer (w, r)).exchanges
      (p.run hear.answer (w, r)).state.1.stores (p.run hear.answer (w, r)).result := by
  induction p generalizing w r with
  | done a => exact .here _ _
  | call c next ih =>
    cases hc : c.site? with
    | some site =>
      have hstored : c.site?.isSome := Option.isSome_of_mem hc
      have hfaults := World.faults_answer c w
      have hrest := ih (World.answer c w).1 (w := (World.answer c w).2) (by rw [hfaults, hseen]) r
      rw [hfaults] at hrest
      simp only [Program.run, answer_stored _ hstored]
      exact .step (World.gives_answer hseen c) hrest
    | none =>
      cases c with
      | publish e => exact .step (.heard e _) (ih _ hseen _)
      | _ => cases hc

end Listener

end EventWiring
