import EventWiring.Program

/-!
# What a program asks

`Trace p log a`: answered as in `log`, the program `p` makes exactly the calls of `log` and yields
`a`. A trace does not say who answers, so that what holds of every trace holds of every run
(`Program.run_trace`). `Obeys P log p`: whatever `p` is answered after `log`, each call that it
makes is allowed by `P` after what was exchanged before.
-/

namespace EventWiring

/-- The call changes stores that take it. -/
def Call.writes : Call → Bool
  | patchScheduler _ _ _ => true
  | updateStatus _ => true
  | create _ _ _ => true
  | delete _ _ _ => true
  | _ => false

/-- The call looks at a dependent or at pods. -/
def Call.looks : Call → Bool
  | get _ _ _ => true
  | listPods _ _ => true
  | _ => false

/-- The call puts a marker on or takes it off. -/
def Call.patches : Call → Bool
  | patchScheduler _ _ _ => true
  | _ => false

namespace Program

variable {α β γ σ : Type}

theorem bind_assoc (p : Program α) (f : α → Program β) (g : β → Program γ) :
    p >>= f >>= g = p >>= fun a => f a >>= g := by
  induction p with
  | done a => rfl
  | call c next ih =>
    simp only [call_bind]
    congr 1
    funext reply
    exact ih reply

theorem bind_pure (p : Program α) : p >>= pure = p := by
  induction p with
  | done a => rfl
  | call c next ih =>
    simp only [call_bind]
    congr 1
    funext reply
    exact ih reply

@[simp] theorem ask_bind (c : Call) (f : c.Answer → Program α) : ask c >>= f = call c f := rfl

/-! ## Runs -/

section Runs

variable (answer : (c : Call) → σ → c.Answer × σ) (p : Program α) (f : α → Program β) (s : σ)

theorem run_ask_bind {answer : (c : Call) → σ → c.Answer × σ} {c : Call} {f : c.Answer → Program α}
    {reply : c.Answer} {s s' : σ} (h : answer c s = (reply, s')) :
    (ask c >>= f).run answer s =
      ⟨((f reply).run answer s').result, ⟨c, reply⟩ :: ((f reply).run answer s').exchanges,
        ((f reply).run answer s').state⟩ := by
  simp only [ask_bind, run, h]

theorem result_bind : ((p >>= f).run answer s).result =
    ((f (p.run answer s).result).run answer (p.run answer s).state).result := by
  rw [run_bind]

theorem state_bind : ((p >>= f).run answer s).state =
    ((f (p.run answer s).result).run answer (p.run answer s).state).state := by
  rw [run_bind]

theorem exchanges_bind : ((p >>= f).run answer s).exchanges = (p.run answer s).exchanges ++
    ((f (p.run answer s).result).run answer (p.run answer s).state).exchanges := by
  rw [run_bind]

end Runs

/-! ## Traces -/

inductive Trace : Program α → List Exchange → α → Prop where
  | done (a : α) : Trace (done a) [] a
  | call {c : Call} {next : c.Answer → Program α} (reply : c.Answer) {log : List Exchange} {a : α} :
      Trace (next reply) log a → Trace (call c next) (⟨c, reply⟩ :: log) a

@[simp] theorem trace_pure {a b : α} {log : List Exchange} :
    Trace (pure a) log b ↔ log = [] ∧ b = a := by
  constructor
  · rintro ⟨⟩
    exact ⟨rfl, rfl⟩
  · rintro ⟨rfl, rfl⟩
    exact .done b

@[simp] theorem trace_call {c : Call} {next : c.Answer → Program α} {log : List Exchange} {a : α} :
    Trace (call c next) log a ↔
      ∃ reply rest, log = ⟨c, reply⟩ :: rest ∧ Trace (next reply) rest a := by
  constructor
  · rintro (_ | ⟨reply, h⟩)
    exact ⟨reply, _, rfl, h⟩
  · rintro ⟨reply, rest, rfl, h⟩
    exact .call reply h

theorem trace_ask_bind {c : Call} {f : c.Answer → Program α} {log : List Exchange} {a : α} :
    Trace (ask c >>= f) log a ↔
      ∃ reply rest, log = ⟨c, reply⟩ :: rest ∧ Trace (f reply) rest a :=
  trace_call

theorem trace_bind {p : Program α} {f : α → Program β} {log : List Exchange} {b : β} :
    Trace (p >>= f) log b ↔ ∃ l a l', Trace p l a ∧ Trace (f a) l' b ∧ log = l ++ l' := by
  induction p generalizing log with
  | done a =>
    constructor
    · intro h
      exact ⟨[], a, log, .done a, h, rfl⟩
    · rintro ⟨_, _, _, ⟨⟩, h, rfl⟩
      exact h
  | call c next ih =>
    rw [call_bind, trace_call]
    constructor
    · rintro ⟨reply, rest, rfl, h⟩
      obtain ⟨l, a, l', hp, hf, rfl⟩ := (ih reply).1 h
      exact ⟨_, a, l', .call reply hp, hf, rfl⟩
    · rintro ⟨_, a, l', hp, hf, rfl⟩
      obtain ⟨reply, rest, rfl, h⟩ := trace_call.1 hp
      exact ⟨reply, rest ++ l', rfl, (ih reply).2 ⟨rest, a, l', h, hf, rfl⟩⟩

theorem run_trace (answer : (c : Call) → σ → c.Answer × σ) (p : Program α) (s : σ) :
    Trace p (p.run answer s).exchanges (p.run answer s).result := by
  induction p generalizing s with
  | done a => exact .done a
  | call c next ih => exact .call _ (ih _ _)

/-! ## Obedience -/

def Obeys (P : List Exchange → Call → Prop) : List Exchange → Program α → Prop
  | _, done _ => True
  | log, call c next => P log c ∧ ∀ reply, Obeys P (log ++ [⟨c, reply⟩]) (next reply)

variable {P Q : List Exchange → Call → Prop} {log : List Exchange}

theorem obeys_ask_bind {c : Call} {f : c.Answer → Program α} (hc : P log c)
    (hf : ∀ reply, Obeys P (log ++ [⟨c, reply⟩]) (f reply)) : Obeys P log (ask c >>= f) :=
  ⟨hc, hf⟩

/-- The call that a program makes next. -/
def call? : Program α → Option Call
  | done _ => none
  | call c _ => some c

theorem Obeys.of_call? {p : Program α} (h : Obeys P log p) {c : Call} (hc : p.call? = some c) :
    P log c := by
  cases p with
  | done a => cases hc
  | call d next =>
    cases hc
    exact h.1

theorem Obeys.bind {p : Program α} {f : α → Program β} (h : Obeys P log p)
    (hf : ∀ l a, Trace p l a → Obeys P (log ++ l) (f a)) : Obeys P log (p >>= f) := by
  induction p generalizing log with
  | done a => simpa using hf [] a (.done a)
  | call c next ih =>
    refine ⟨h.1, fun reply => ih reply (h.2 reply) fun l a hl => ?_⟩
    simpa using hf _ a (.call reply hl)

theorem Obeys.and {p : Program α} (h : Obeys P log p) (h' : Obeys Q log p) :
    Obeys (fun log c => P log c ∧ Q log c) log p := by
  induction p generalizing log with
  | done a => trivial
  | call c next ih => exact ⟨⟨h.1, h'.1⟩, fun reply => ih reply (h.2 reply) (h'.2 reply)⟩

/-- In a trace each call is allowed by what came before it. -/
theorem Obeys.trace {p : Program α} {l pre post : List Exchange} {x : Exchange} {a : α}
    (h : Obeys P log p) (ht : Trace p l a) (hl : l = pre ++ x :: post) : P (log ++ pre) x.call := by
  induction ht generalizing log pre with
  | done => simp at hl
  | call reply _ ih =>
    cases pre with
    | nil =>
      obtain ⟨rfl, -⟩ := List.cons.inj hl
      simpa using h.1
    | cons y pre =>
      obtain ⟨rfl, rfl⟩ := List.cons.inj hl
      simpa using ih (h.2 reply) rfl

/-- What every call of a program has, every call of a trace has. -/
theorem Trace.obeys {P : Call → Prop} {p : Program α} {a : α} (h : Trace p log a)
    (hp : Obeys (fun _ c => P c) [] p) : ∀ x ∈ log, P x.call := by
  intro x hx
  obtain ⟨pre, post, hlog⟩ := List.append_of_mem hx
  exact hp.trace h hlog

end Program

end EventWiring
