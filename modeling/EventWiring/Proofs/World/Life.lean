import Mathlib.Logic.Relation
import EventWiring.Proofs.Pass.Progress
import EventWiring.Proofs.World.History

/-!
# Lives

Others need not wait until a pass is over. `Program.Course` is how a program fares when others
change the stores between any two of its calls, and a `Life` is any sequence of passes that fare so,
each as far as it gets, and of changes by others. A pass begins by reading a copy of its scheduler,
which may be dated, and then attends to that copy (`Course.of_reconcile`). Runs in worlds are
courses (`World.course_run`), and histories are lives (`History.life`).
-/

namespace EventWiring

open Program (Exchange Obeys Reaches)

variable {α : Type}

/-- What passes have to reckon with. -/
structure Setting where
  trouble : Trouble
  /-- Reads of the scheduler may find what was there at another time, or never. -/
  dated : Prop
  /-- What others may do to the stores. -/
  others : Stores → Stores → Prop

namespace Setting

inductive Answers (w : Setting) (st : Stores) : (c : Call) → c.Answer → Stores → Prop
  | given {c : Call} {reply : c.Answer} {st' : Stores} :
    st.Gives w.trouble c reply st' → Answers w st c reply st'
  | dated {space name : String} (found : Option Scheduler) :
    w.dated → Answers w st (.getScheduler space name) (.ok found) st

/-- What others may come to do. -/
abbrev Drifts (w : Setting) : Stores → Stores → Prop := Relation.ReflTransGen w.others

variable {w : Setting} {st st' : Stores}

theorem Drifts.keeps {I : Stores → Prop} (h : w.Drifts st st')
    (hothers : ∀ {mid mid'}, w.others mid mid' → I mid → I mid') (hst : I st) : I st' := by
  induction h with
  | refl => exact hst
  | tail _ hchange ih => exact hothers hchange ih

namespace Answers

theorem gives {c : Call} {reply : c.Answer} (h : w.Answers st c reply st')
    (hc : ∀ space name, c ≠ .getScheduler space name) : st.Gives w.trouble c reply st' := by
  cases h with
  | given hgives => exact hgives
  | dated => exact absurd rfl (hc _ _)

theorem getScheduler {space name : String} {reply : Except Error (Option Scheduler)}
    (h : w.Answers st (.getScheduler space name) reply st') :
    st' = st ∧ ∀ found, reply = .ok found →
      found = st.schedulers.get? ⟨space, name⟩ ∨ w.dated := by
  cases h with
  | given hgives =>
    obtain ⟨hsame, -, hfound⟩ := hgives.getScheduler
    exact ⟨hsame, fun found h => .inl (hfound found h)⟩
  | dated _ hdated => exact ⟨rfl, fun _ _ => .inr hdated⟩

end Answers

end Setting

/-! ## Courses -/

namespace Program

inductive Course (w : Setting) : Stores → Program α → List Exchange → Stores → Program α → Prop
  | here (st : Stores) (p : Program α) : Course w st p [] st p
  | step {st st₁ st' : Stores} {c : Call} {next : c.Answer → Program α} {reply : c.Answer}
    {log : List Exchange} {q : Program α} :
    w.Answers st c reply st₁ → Course w st₁ (next reply) log st' q →
    Course w st (call c next) (⟨c, reply⟩ :: log) st' q
  | other {st st₁ st' : Stores} {p q : Program α} {log : List Exchange} :
    w.others st st₁ → Course w st₁ p log st' q → Course w st p log st' q

variable {w : Setting} {st st' : Stores} {p q : Program α} {log l : List Exchange}

/-- Where nobody interferes a program fares like that too. -/
theorem Reaches.course {t : Trouble} {dated : Prop} {others : Stores → Stores → Prop}
    (h : Reaches t st p log st' q) : Course ⟨t, dated, others⟩ st p log st' q := by
  induction h with
  | here => exact .here _ _
  | step hgives _ ih => exact .step (.given hgives) ih

namespace Course

/-- What every call that the program makes keeps, and others keep, is kept wherever it gets. -/
theorem keeps {P : List Exchange → Call → Prop} {I : List Exchange → Stores → Prop}
    (h : Course w st p l st' q) (hp : Obeys P log p)
    (hcall : ∀ {log : List Exchange} {c : Call} {reply : c.Answer} {mid mid' : Stores},
      P log c → w.Answers mid c reply mid' → I log mid → I (log ++ [⟨c, reply⟩]) mid')
    (hothers : ∀ {log : List Exchange} {mid mid' : Stores}, w.others mid mid' → I log mid →
      I log mid')
    (hst : I log st) : I (log ++ l) st' := by
  induction h generalizing log with
  | here => simpa using hst
  | step hanswers _ ih => simpa using ih (hp.2 _) (hcall hp.1 hanswers hst)
  | other hchange _ ih => exact ih hp (hothers hchange hst)

/-- What is left of a program makes calls that are allowed, too. -/
theorem obeys {P : List Exchange → Call → Prop} (h : Course w st p l st' q) (hp : Obeys P log p) :
    Obeys P (log ++ l) q := by
  induction h generalizing log with
  | here => simpa using hp
  | step _ _ ih => simpa using ih (hp.2 _)
  | other _ _ ih => exact ih hp

/-- A program that is done waits. -/
theorem of_pure {a : α} (h : Course w st (pure a) l st' q) :
    l = [] ∧ q = pure a ∧ w.Drifts st st' := by
  generalize hp : (pure a : Program α) = p at h
  induction h with
  | here => exact ⟨rfl, rfl, .refl⟩
  | step => cases hp
  | other hchange _ ih =>
    obtain ⟨rfl, rfl, hdrifts⟩ := ih hp
    exact ⟨rfl, rfl, .head hchange hdrifts⟩

/-- A program with a call to make waits until it is answered. -/
theorem of_ask_bind {c : Call} {f : c.Answer → Program α}
    (h : Course w st (ask c >>= f) l st' q) :
    (l = [] ∧ q = call c f ∧ w.Drifts st st') ∨
      ∃ mid reply mid' rest, l = ⟨c, reply⟩ :: rest ∧ w.Drifts st mid ∧
        w.Answers mid c reply mid' ∧ Course w mid' (f reply) rest st' q := by
  rw [ask_bind] at h
  generalize hp : call c f = p at h
  induction h with
  | here => exact .inl ⟨rfl, rfl, .refl⟩
  | step hanswers hrest =>
    cases hp
    exact .inr ⟨_, _, _, _, rfl, .refl, hanswers, hrest⟩
  | other hchange _ ih =>
    obtain ⟨rfl, rfl, hdrifts⟩ | ⟨mid, reply, mid', rest, rfl, hdrifts, hanswers, hrest⟩ := ih hp
    · exact .inl ⟨rfl, rfl, .head hchange hdrifts⟩
    · exact .inr ⟨mid, reply, mid', rest, rfl, .head hchange hdrifts, hanswers, hrest⟩

/-- A pass has found no scheduler so far, or attends to the copy that it read first of all. -/
theorem of_reconcile {p : Pass} {text : String} {key : Key} {q : Program (Except Error Unit)}
    (hkey : Key.parse text = .ok key) (h : Course w st (p.reconcile text) l st' q) :
    (w.Drifts st st' ∧ (∀ c, q.call? = some c → c = .getScheduler key.space key.name) ∧
        (l = [] ∨ ∃ reply : Except Error (Option Scheduler),
          l = [⟨.getScheduler key.space key.name, reply⟩])) ∨
      ∃ mid found rest,
        l = ⟨.getScheduler key.space key.name, .ok (some found)⟩ :: rest ∧ w.Drifts st mid ∧
        (mid.schedulers.get? key = some found ∨ w.dated) ∧
        Course w mid (p.attend found) rest st' q := by
  rw [Pass.reconcile_eq p hkey] at h
  obtain ⟨rfl, rfl, hdrifts⟩ | ⟨mid, reply, mid', rest, rfl, hdrifts, hread, hrest⟩ := h.of_ask_bind
  · exact .inl ⟨hdrifts, fun c hc => (Option.some.inj hc).symm, .inl rfl⟩
  obtain ⟨rfl, hfound⟩ := hread.getScheduler
  rcases reply with e | (_ | found)
  · obtain ⟨rfl, rfl, hlater⟩ := hrest.of_pure
    exact .inl ⟨hdrifts.trans hlater, fun _ hc => (nomatch hc), .inr ⟨_, rfl⟩⟩
  · obtain ⟨rfl, rfl, hlater⟩ := hrest.of_pure
    exact .inl ⟨hdrifts.trans hlater, fun _ hc => (nomatch hc), .inr ⟨_, rfl⟩⟩
  · exact .inr ⟨mid', found, rest, rfl, hdrifts, (hfound _ rfl).imp_left Eq.symm, hrest⟩

end Course

end Program

/-- A pass that was begun on `st` has read this scheduler, as it was stored by then. -/
def Setting.Reads (w : Setting) (key : Key) (st : Stores) (log : List Exchange) (s : Scheduler) :
    Prop :=
  ⟨.getScheduler key.space key.name, .ok (some s)⟩ ∈ log ∧
    ∃ read, w.Drifts st read ∧ read.schedulers.get? key = some s

/-! ## Lives -/

open Program (Course)

section

variable (w : Setting) (key : Key)

/-- Passes over the scheduler under `key`, which may be cut short, and what others do; `log` is what
the passes have exchanged. -/
inductive Life (st : Stores) : List Exchange → Stores → Prop
  | start : Life st [] st
  | pass {log l : List Exchange} {mid st' : Stores} {text : String}
    {q : Program (Except Error Unit)} (p : Pass) : Life st log mid → Key.parse text = .ok key →
    Course w mid (p.reconcile text) l st' q → Life st (log ++ l) st'
  | other {log : List Exchange} {mid st' : Stores} : Life st log mid → w.others mid st' →
    Life st log st'

end

theorem Life.keeps {w : Setting} {key : Key} {st st' : Stores} {log : List Exchange}
    {I : List Exchange → Stores → Prop} (h : Life w key st log st') (hst : I [] st)
    (hpass : ∀ {log l : List Exchange} {mid st' : Stores} {text : String}
      {q : Program (Except Error Unit)} (p : Pass), Key.parse text = .ok key →
      Course w mid (p.reconcile text) l st' q → I log mid → I (log ++ l) st')
    (hothers : ∀ {log : List Exchange} {mid mid' : Stores}, w.others mid mid' → I log mid →
      I log mid') : I log st' := by
  induction h with
  | start => exact hst
  | pass p _ hkey hcourse ih => exact hpass p hkey hcourse ih
  | other _ hchange ih => exact hothers hchange ih

theorem History.life {t : Trouble} {key : Key} {dated : Prop} {others : Stores → Stores → Prop}
    {st st' : Stores} {log : List Exchange} (h : History t key others st log st') :
    Life ⟨t, dated, others⟩ key st log st' := by
  induction h with
  | start => exact .start
  | pass p _ hkey hends ih => exact .pass p ih hkey hends.course
  | other _ hchange ih => exact .other ih hchange

/-! ## Worlds -/

namespace World

variable {others : Stores → Stores → Prop}

theorem answers_answer (w : World) (c : Call) :
    Setting.Answers ⟨w.faults.trouble, True, others⟩ w.stores c (answer c w).1
      (answer c w).2.stores := by
  cases c with
  | getScheduler space name =>
    cases hseen : w.faults.seen.get? ⟨space, name⟩ with
    | none =>
      refine .given (gives_of_unseen ?_)
      rintro _ _ ⟨⟩
      exact hseen
    | some found =>
      have hfault : w.faults.answer? (.getScheduler space name) =
          ((w.faults.refusal? (.getScheduler space name)).map
            (Call.failed · (.getScheduler space name))).or
          ((w.faults.seen.get? ⟨space, name⟩).map .ok) := rfl
      rw [answer_eq rfl, hfault, hseen]
      cases hrefusal : w.faults.refusal? (.getScheduler space name) with
      | some e => exact .given (.failed e (Option.isSome_of_mem hrefusal))
      | none => exact .dated found trivial
  | _ => exact .given (gives_of_unseen fun _ _ h => nomatch h)

/-- A run in a world is a course over its stores, whatever is seen of the scheduler. -/
theorem course_run (p : Program α) (w : World) :
    Course ⟨w.faults.trouble, True, others⟩ w.stores p (w.run p).exchanges
      (w.run p).state.stores (.done (w.run p).result) := by
  induction p generalizing w with
  | done a => exact .here _ _
  | call c next ih =>
    have hrest := ih (answer c w).1 (answer c w).2
    rw [faults_answer c w] at hrest
    exact .step (answers_answer w c) hrest

end World

end EventWiring
