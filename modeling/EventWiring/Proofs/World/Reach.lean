import EventWiring.Proofs.Program.Trace
import EventWiring.Proofs.World.Mute
import EventWiring.Proofs.World.Server

/-!
# Programs on stores in memory

`Stores.Gives t st c reply st'`: stores that hold `st` answer the call `c` with `reply` and hold
`st'` afterwards, where `t` tells what may go wrong. `Program.Reaches t st p log st' q`: begun on
`st`, the program `p` has exchanged `log`, the stores hold `st'`, and `q` is left to do. What holds
wherever a program gets holds of every run of it in a world (`World.ends_run`).
-/

namespace EventWiring

open Program (Exchange Obeys Trace)

variable {α β : Type}

/-- What may go wrong with calls. -/
structure Trouble where
  fails : Call → Prop
  /-- Reads of the dependent may find what was there at another time, or never. -/
  stale : Dependent → Prop

namespace Trouble

def none : Trouble := ⟨fun _ => False, fun _ => False⟩

/-- Any call may fail, but every read tells what is stored. -/
def failures : Trouble := ⟨fun _ => True, fun _ => False⟩

end Trouble

/-! ## Answers -/

namespace Stores

inductive Gives (t : Trouble) (st : Stores) : (c : Call) → c.Answer → Stores → Prop
  | served (c : Call) : Gives t st c (answer c st).1 (answer c st).2
  | failed {c : Call} (e : Error) : t.fails c → Gives t st c (c.failed e) st
  | stale {d : Dependent} (space name : String) (found : Option d.Object) :
    t.stale d → Gives t st (.get d space name) (.ok found) st
  | heard (e : Event) (publication : Option Publication) :
    Gives t st (.publish e) publication st

namespace Gives

variable {t : Trouble} {st st' : Stores} {d : Dependent} {space name : String} {e : Error}

theorem getScheduler {reply : Except Error (Option Scheduler)}
    (h : Gives t st (.getScheduler space name) reply st') :
    st' = st ∧ (∀ e, reply = .error e → t.fails (.getScheduler space name)) ∧
      ∀ found, reply = .ok found → found = st.schedulers.get? ⟨space, name⟩ := by
  cases h with
  | served => exact ⟨rfl, nofun, fun _ h => (Except.ok.inj h).symm⟩
  | failed _ hf => exact ⟨rfl, fun _ _ => hf, fun _ h => nomatch h⟩

theorem get {reply : Except Error (Option d.Object)} (h : Gives t st (.get d space name) reply st') :
    st' = st ∧ (∀ e, reply = .error e → t.fails (.get d space name)) ∧
      ∀ found, reply = .ok found → found = (st.dependents d).get? ⟨space, name⟩ ∨ t.stale d := by
  cases h with
  | served => exact ⟨rfl, nofun, fun _ h => .inl (Except.ok.inj h).symm⟩
  | failed _ hf => exact ⟨rfl, fun _ _ => hf, nofun⟩
  | stale _ _ _ hd => exact ⟨rfl, nofun, fun _ _ => .inr hd⟩

theorem listPods {selector : String} {reply : Except Error (List Pod)}
    (h : Gives t st (.listPods space selector) reply st') :
    st' = st ∧ (∀ e, reply = .error e → t.fails (.listPods space selector)) ∧
      ∀ pods, reply = .ok pods → pods = st.listPods space selector := by
  cases h with
  | served => exact ⟨rfl, nofun, fun _ h => (Except.ok.inj h).symm⟩
  | failed _ hf => exact ⟨rfl, fun _ _ => hf, nofun⟩

/-- An object is created where there is none, and is answered as it was asked for. -/
theorem create {object : d.Object} {reply : Except Error d.Object}
    (h : Gives t st (.create d space object) reply st') :
    (∃ e, reply = .error e ∧ st' = st ∧
        (t.fails (.create d space object) ∨
          (st.dependents d).get? (Key.of (d.metadata object)) ≠ Option.none)) ∨
      reply = .ok object ∧ (st.dependents d).get? (Key.of (d.metadata object)) = Option.none ∧
        st' = st.setDependents d ((st.dependents d).put (Key.of (d.metadata object)) object) := by
  cases h with
  | failed e hf => exact .inl ⟨e, rfl, rfl, .inl hf⟩
  | served =>
    show (∃ e, (st.create d object).1 = _ ∧ (st.create d object).2 = _ ∧ _) ∨
      (st.create d object).1 = _ ∧ _ ∧ (st.create d object).2 = _
    unfold Stores.create
    simp only
    cases hfound : (st.dependents d).get? (Key.of (d.metadata object)) with
    | some existing => exact .inl ⟨_, rfl, rfl, .inr fun h => nomatch h⟩
    | none => exact .inr ⟨rfl, rfl, rfl⟩

theorem delete {reply : Except Error Bool} (h : Gives t st (.delete d space name) reply st') :
    (∃ e, reply = .error e ∧ st' = st ∧ t.fails (.delete d space name)) ∨
      (∃ b, reply = .ok b) ∧
        st' = st.setDependents d ((st.dependents d).erase ⟨space, name⟩) := by
  cases h with
  | served => exact .inr ⟨⟨_, rfl⟩, rfl⟩
  | failed e hf => exact .inl ⟨e, rfl, rfl, hf⟩

theorem patchScheduler {patch : FinalizerPatch} {reply : Except Error Scheduler}
    (h : Gives t st (.patchScheduler space name patch) reply st') :
    (∃ e, reply = .error e ∧ st' = st ∧
        (t.fails (.patchScheduler space name patch) ∨
          st.schedulers.get? ⟨space, name⟩ = Option.none)) ∨
      ∃ stored patched, st.schedulers.get? ⟨space, name⟩ = some stored ∧
        patched = bumped { stored with metadata.finalizers := some patch.finalizers } ∧
        reply = .ok patched ∧
        st' = { st with schedulers := st.schedulers.put ⟨space, name⟩ patched } := by
  cases h with
  | failed e hf => exact .inl ⟨e, rfl, rfl, .inl hf⟩
  | served =>
    show (∃ e, (st.patchScheduler _ patch).1 = _ ∧ (st.patchScheduler _ patch).2 = _ ∧ _) ∨
      ∃ stored patched, _ ∧ _ ∧ (st.patchScheduler _ patch).1 = _ ∧
        (st.patchScheduler _ patch).2 = _
    unfold Stores.patchScheduler
    cases hstored : st.schedulers.get? ⟨space, name⟩ with
    | none => exact .inl ⟨_, rfl, rfl, .inr rfl⟩
    | some stored => exact .inr ⟨stored, _, rfl, rfl, rfl, rfl⟩

/-- A status is stored over the version that it was computed from, or not at all. -/
theorem updateStatus {desired : Scheduler} {reply : Except Error Scheduler}
    (h : Gives t st (.updateStatus desired) reply st') :
    (∃ e, reply = .error e ∧ st' = st ∧
        (t.fails (.updateStatus desired) ∨
          ∀ stored, st.schedulers.get? (Key.of desired.metadata) = some stored →
            stored.metadata.resourceVersion ≠ desired.metadata.resourceVersion)) ∨
      ∃ stored updated, st.schedulers.get? (Key.of desired.metadata) = some stored ∧
        updated = bumped { stored with status := desired.status } ∧ reply = .ok updated ∧
        st' = { st with
          schedulers := st.schedulers.put (Key.of desired.metadata) updated } := by
  cases h with
  | failed e hf => exact .inl ⟨e, rfl, rfl, .inl hf⟩
  | served =>
    show (∃ e, (st.updateStatus desired).1 = _ ∧ (st.updateStatus desired).2 = _ ∧ _) ∨
      ∃ stored updated, _ ∧ _ ∧ (st.updateStatus desired).1 = _ ∧ (st.updateStatus desired).2 = _
    unfold Stores.updateStatus
    simp only
    cases hstored : st.schedulers.get? (Key.of desired.metadata) with
    | none => exact .inl ⟨_, rfl, rfl, .inr fun _ h => nomatch h⟩
    | some stored =>
      simp only
      split
      · next hne =>
        refine .inl ⟨_, rfl, rfl, .inr fun s hs => ?_⟩
        rwa [← Option.some.inj hs]
      · exact .inr ⟨stored, _, rfl, rfl, rfl, rfl⟩

theorem publish {event : Event} {reply : Option Publication}
    (h : Gives t st (.publish event) reply st') : st' = st := by
  cases h <;> rfl

/-- Only a call about a scheduler changes schedulers. -/
theorem schedulers {c : Call} {reply : c.Answer} (h : Gives t st c reply st')
    (hc : c.scheduler? = Option.none) : st'.schedulers = st.schedulers := by
  cases c with
  | get => rw [h.get.1]
  | listPods => rw [h.listPods.1]
  | publish => rw [h.publish]
  | create =>
    obtain ⟨-, -, rfl, -⟩ | ⟨-, -, rfl⟩ := h.create
    · rfl
    · exact schedulers_setDependents _ _ _
  | delete =>
    obtain ⟨-, -, rfl, -⟩ | ⟨-, rfl⟩ := h.delete
    · rfl
    · exact schedulers_setDependents _ _ _
  | _ => cases hc

end Gives

end Stores

/-! ## Courses of a program -/

namespace Program

inductive Reaches (t : Trouble) : Stores → Program α → List Exchange → Stores → Program α → Prop
  | here (st : Stores) (p : Program α) : Reaches t st p [] st p
  | step {st st₁ st' : Stores} {c : Call} {next : c.Answer → Program α} {reply : c.Answer}
    {log : List Exchange} {q : Program α} :
    st.Gives t c reply st₁ → Reaches t st₁ (next reply) log st' q →
    Reaches t st (call c next) (⟨c, reply⟩ :: log) st' q

/-- The program comes to its end, and yields `a`. -/
abbrev Ends (t : Trouble) (st : Stores) (p : Program α) (log : List Exchange) (st' : Stores)
    (a : α) : Prop :=
  Reaches t st p log st' (done a)

variable {t : Trouble} {st st' mid : Stores} {log : List Exchange} {a : α}

theorem Ends.trace {p : Program α} (h : Ends t st p log st' a) : Trace p log a := by
  induction p generalizing st log with
  | done b =>
    cases h
    exact .done a
  | call c next ih =>
    rcases h with _ | ⟨_, hrest⟩
    exact .call _ (ih _ hrest)

theorem ends_pure {b : α} :
    Ends t st (pure a) log st' b ↔ log = [] ∧ st' = st ∧ b = a := by
  constructor
  · rintro ⟨⟩
    exact ⟨rfl, rfl, rfl⟩
  · rintro ⟨rfl, rfl, rfl⟩
    exact .here _ _

theorem ends_ask {c : Call} {reply : c.Answer} :
    Ends t st (ask c) log st' reply ↔ st.Gives t c reply st' ∧ log = [⟨c, reply⟩] := by
  constructor
  · rintro (_ | ⟨hgives, ⟨⟩⟩)
    exact ⟨hgives, rfl⟩
  · rintro ⟨hgives, rfl⟩
    exact .step hgives (.here _ _)

theorem ends_ask_bind {c : Call} {f : c.Answer → Program α} :
    Ends t st (ask c >>= f) log st' a ↔ ∃ reply st₁ rest, log = ⟨c, reply⟩ :: rest ∧
      st.Gives t c reply st₁ ∧ Ends t st₁ (f reply) rest st' a := by
  constructor
  · rintro (_ | ⟨hgives, hrest⟩)
    exact ⟨_, _, _, rfl, hgives, hrest⟩
  · rintro ⟨reply, st₁, rest, rfl, hgives, hrest⟩
    exact .step hgives hrest

theorem ends_bind {p : Program α} {f : α → Program β} {b : β} :
    Ends t st (p >>= f) log st' b ↔ ∃ l a mid l', Ends t st p l mid a ∧
      Ends t mid (f a) l' st' b ∧ log = l ++ l' := by
  induction p generalizing st log with
  | done a =>
    constructor
    · intro h
      exact ⟨[], a, st, log, .here _ _, h, rfl⟩
    · rintro ⟨_, _, _, _, ⟨⟩, h, rfl⟩
      exact h
  | call c next ih =>
    rw [call_bind]
    constructor
    · rintro (_ | ⟨hgives, hrest⟩)
      obtain ⟨l, a, mid, l', hp, hf, rfl⟩ := (ih _).1 hrest
      exact ⟨_, a, mid, l', .step hgives hp, hf, rfl⟩
    · rintro ⟨_, a, mid, l', (_ | ⟨hgives, hp⟩), hf, rfl⟩
      exact .step hgives ((ih _).2 ⟨_, a, mid, l', hp, hf, rfl⟩)

/-- What every call of a program has, every call of a course to its end has. -/
theorem Ends.obeys {P : Call → Prop} {p : Program α} (h : Ends t st p log st' a)
    (hp : Obeys (fun _ c => P c) [] p) : ∀ x ∈ log, P x.call :=
  h.trace.obeys hp

/-- Before it ends a program gets to each of its calls. -/
theorem Reaches.split {p q : Program α} {pre post : List Exchange} {x : Exchange}
    (h : Reaches t st p log st' q) (hlog : log = pre ++ x :: post) :
    ∃ mid next, Reaches t st p pre mid (call x.call next) := by
  induction h generalizing pre with
  | here => simp at hlog
  | step hgives hrest ih =>
    cases pre with
    | nil =>
      obtain ⟨rfl, -⟩ := List.cons.inj hlog
      exact ⟨_, _, .here _ _⟩
    | cons y pre =>
      obtain ⟨hy, htail⟩ := List.cons.inj hlog
      subst hy
      obtain ⟨mid, next, hreached⟩ := ih htail
      exact ⟨mid, next, .step hgives hreached⟩

/-! ## Heed -/

/-- Wherever the program gets, `P` allows the call that it makes next after what was exchanged and
over what is stored by then. -/
def Heeds (t : Trouble) (P : List Exchange → Stores → Call → Prop) :
    List Exchange → Stores → Program α → Prop
  | _, _, done _ => True
  | log, st, call c next => P log st c ∧ ∀ reply st', st.Gives t c reply st' →
      Heeds t P (log ++ [⟨c, reply⟩]) st' (next reply)

variable {P : List Exchange → Stores → Call → Prop}

theorem heeds_ask_bind {c : Call} {f : c.Answer → Program α} (hc : P log st c)
    (hf : ∀ reply st', st.Gives t c reply st' → Heeds t P (log ++ [⟨c, reply⟩]) st' (f reply)) :
    Heeds t P log st (ask c >>= f) :=
  ⟨hc, hf⟩

theorem Heeds.bind {p : Program α} {f : α → Program β} (h : Heeds t P log st p)
    (hf : ∀ l mid a, Ends t st p l mid a → Heeds t P (log ++ l) mid (f a)) :
    Heeds t P log st (p >>= f) := by
  induction p generalizing log st with
  | done a => simpa using hf [] st a (.here _ _)
  | call c next ih =>
    refine ⟨h.1, fun reply st' hgives => ih reply (h.2 reply st' hgives) fun l mid a hl => ?_⟩
    simpa using hf _ mid a (.step hgives hl)

/-- A program whose calls are allowed over whatever is stored. -/
theorem heeds_of_obeys {Q : List Exchange → Call → Prop} {p : Program α} (h : Obeys Q log p)
    (hQ : ∀ log st c, Q log c → P log st c) : Heeds t P log st p := by
  induction p generalizing log st with
  | done a => trivial
  | call c next ih => exact ⟨hQ _ _ _ h.1, fun reply st' _ => ih reply (h.2 reply)⟩

theorem Heeds.reaches {p q : Program α} {l : List Exchange} (h : Heeds t P log st p)
    (hp : Reaches t st p l st' q) : Heeds t P (log ++ l) st' q := by
  induction hp generalizing log with
  | here => simpa using h
  | step hgives _ ih => simpa using ih (h.2 _ _ hgives)

/-- What each call that is allowed keeps is kept wherever the program gets. -/
theorem Heeds.keeps {I : List Exchange → Stores → Prop} {p q : Program α} {l : List Exchange}
    (h : Heeds t P log st p) (hp : Reaches t st p l st' q)
    (hkeeps : ∀ {log : List Exchange} {c : Call} {reply : c.Answer} {st st' : Stores},
      P log st c → st.Gives t c reply st' → I log st → I (log ++ [⟨c, reply⟩]) st')
    (hst : I log st) : I (log ++ l) st' := by
  induction hp generalizing log with
  | here => simpa using hst
  | step hgives _ ih => simpa using ih (h.2 _ _ hgives) (hkeeps h.1 hgives hst)

/-- The same where neither the exchanges nor what is stored count. -/
theorem Reaches.keeps {I : Stores → Prop} {P : Call → Prop} {p q : Program α}
    (h : Reaches t st p log st' q) (hp : Obeys (fun _ c => P c) [] p)
    (hkeeps : ∀ {c : Call} {reply : c.Answer} {st st' : Stores}, P c → st.Gives t c reply st' →
      I st → I st') (hst : I st) : I st' := by
  have hheeds : Heeds t (fun _ _ c => P c) [] st p := heeds_of_obeys hp fun _ _ _ hc => hc
  exact hheeds.keeps (I := fun _ mid => I mid) h (fun hc hgives => hkeeps hc hgives) hst

end Program

/-! ## Worlds -/

open Program (Ends)

/-- Run on stores in which nothing goes wrong, a program ends. -/
theorem Stores.ends_run {t : Trouble} (p : Program α) (st : Stores) :
    Ends t st p (p.run Stores.answer st).exchanges (p.run Stores.answer st).state
      (p.run Stores.answer st).result := by
  induction p generalizing st with
  | done a => exact .here _ _
  | call c next ih => exact .step (.served c) (ih _ _)

def Faults.trouble (f : Faults) : Trouble := ⟨fun c => (f.refusal? c).isSome, (· ∈ f.hidden)⟩

namespace World

/-- Only a read of a scheduler can be answered with what is not stored. -/
theorem gives_of_unseen {w : World} {c : Call} (hseen : ∀ space name,
    c = .getScheduler space name → w.faults.seen.get? ⟨space, name⟩ = none) :
    w.stores.Gives w.faults.trouble c (answer c w).1 (answer c w).2.stores := by
  cases hc : c.site? with
  | none =>
    cases c with
    | publish e =>
      have hstores : (w.publish e).2.stores = w.stores := by
        unfold publish
        split <;> rfl
      show w.stores.Gives _ (.publish e) (w.publish e).1 (w.publish e).2.stores
      rw [hstores]
      exact .heard e _
    | _ => cases hc
  | some site =>
    have hfault : w.faults.answer? c =
        ((w.faults.refusal? c).map c.failed).or (w.faults.misread? c) := rfl
    rw [answer_eq (by simp [hc]), hfault]
    cases hrefusal : w.faults.refusal? c with
    | some e => exact .failed e (Option.isSome_of_mem hrefusal)
    | none =>
      cases hread : w.faults.misread? c with
      | none => exact .served c
      | some reply =>
        cases c with
        | getScheduler space name =>
          have hnone : (w.faults.seen.get? ⟨space, name⟩).map Except.ok = some reply := hread
          rw [hseen space name rfl] at hnone
          cases hnone
        | get d space name =>
          have hhidden : (if d ∈ w.faults.hidden then some (.ok none) else none) = some reply :=
            hread
          split at hhidden
          · next hd =>
            cases hhidden
            exact .stale space name none hd
          · cases hhidden
        | _ => cases hread

theorem gives_answer {w : World} (hseen : w.faults.seen = []) (c : Call) :
    w.stores.Gives w.faults.trouble c (answer c w).1 (answer c w).2.stores := by
  refine gives_of_unseen fun space name _ => ?_
  rw [hseen]
  rfl

theorem faults_run (p : Program α) (w : World) : (w.run p).state.faults = w.faults := by
  induction p generalizing w with
  | done a => rfl
  | call c next ih => exact (ih _ _).trans (faults_answer c w)

/-- A run in a world is a course over its stores, with the failures and stale reads of its faults. -/
theorem ends_run {w : World} (hseen : w.faults.seen = []) (p : Program α) :
    Ends w.faults.trouble w.stores p (w.run p).exchanges (w.run p).state.stores
      (w.run p).result := by
  induction p generalizing w with
  | done a => exact .here _ _
  | call c next ih =>
    have hfaults := faults_answer c w
    have hrest := ih (answer c w).1 (w := (answer c w).2) (by rw [hfaults, hseen])
    rw [hfaults] at hrest
    exact .step (gives_answer hseen c) hrest

end World

end EventWiring
