import EventWiring.Pass.Reconcile
import EventWiring.Proofs.World.Reach

/-!
# Histories

Between the passes over a scheduler others report on its dependents, run pods and ask for its
deletion. A `History` is any sequence of both; what every pass and every change by others keeps
holds at its end (`History.keeps`). Of a scheduler a call changes at most the status and what comes
with its marker (`Gives.scheduler`), and a dependent is left alone by every call that does not
create or delete it (`Gives.untouched`). So a live scheduler stays live while others leave it alone
(`Scheduler.Living`).
-/

namespace EventWiring

open Program (Exchange Ends Heeds Reaches)

/-! ## What a call leaves alone -/

namespace Scheduler

/-- What no call changes about a scheduler. -/
def bare (s : Scheduler) : Scheduler :=
  { s with status := none, metadata.finalizers := none, metadata.resourceVersion := none }

variable {s s' : Scheduler}

theorem key_of_bare (h : s'.bare = s.bare) : Key.of s'.metadata = Key.of s.metadata := by
  show Key.of s'.bare.metadata = Key.of s.bare.metadata
  rw [h]

theorem deleting_of_bare (h : s'.bare = s.bare) :
    s'.metadata.deleting = s.metadata.deleting := by
  show s'.bare.metadata.deleting = s.bare.metadata.deleting
  rw [h]

end Scheduler

/-- The call creates or deletes the dependent under that key. -/
def Call.Touches (d : Dependent) (k : Key) : Call → Prop
  | create e _ object => e = d ∧ Key.of (e.metadata object) = k
  | delete e space name => e = d ∧ ⟨space, name⟩ = k
  | _ => False

/-- What becomes of a stored scheduler when the call is made: it is left alone, or rewritten. -/
inductive Call.Rewrites : Call → Scheduler → Scheduler → Prop
  | same (c : Call) (s : Scheduler) : Rewrites c s s
  | patched {space name : String} {patch : FinalizerPatch} (s : Scheduler) :
    Rewrites (.patchScheduler space name patch) s
      (Stores.bumped { s with metadata.finalizers := some patch.finalizers })
  | updated {desired : Scheduler} (s : Scheduler) :
    Rewrites (.updateStatus desired) s (Stores.bumped { s with status := desired.status })

namespace Stores.Gives

variable {t : Trouble} {st st' : Stores} {c : Call} {reply : c.Answer}

theorem rewrites {k : Key} {s : Scheduler} (h : st.Gives t c reply st')
    (hs : st.schedulers.get? k = some s) :
    ∃ s', st'.schedulers.get? k = some s' ∧ c.Rewrites s s' := by
  have hput : ∀ {k' : Key} {stored new : Scheduler}, st.schedulers.get? k' = some stored →
      c.Rewrites stored new →
      ∃ s', (st.schedulers.put k' new).get? k = some s' ∧ c.Rewrites s s' := by
    intro k' stored new hstored hnew
    by_cases hk : k = k'
    · subst hk
      obtain rfl : stored = s := Option.some.inj (hstored.symm.trans hs)
      exact ⟨new, Store.get?_put _ _ _, hnew⟩
    · exact ⟨s, (Store.get?_put_of_ne hk _ _).trans hs, .same c s⟩
  cases c with
  | getScheduler => exact ⟨s, h.getScheduler.1 ▸ hs, .same _ s⟩
  | patchScheduler =>
    obtain ⟨-, -, rfl, -⟩ | ⟨stored, _, hstored, rfl, -, rfl⟩ := h.patchScheduler
    · exact ⟨s, hs, .same _ s⟩
    · exact hput hstored (.patched stored)
  | updateStatus desired =>
    obtain ⟨-, -, rfl, -⟩ | ⟨stored, _, hstored, rfl, -, rfl⟩ := h.updateStatus
    · exact ⟨s, hs, .same _ s⟩
    · exact hput hstored (.updated stored)
  | _ => exact ⟨s, h.schedulers rfl ▸ hs, .same _ s⟩

/-- A scheduler that is stored stays what it is, and its status is what it was or is written. -/
theorem scheduler {k : Key} {s : Scheduler} (h : st.Gives t c reply st')
    (hs : st.schedulers.get? k = some s) :
    ∃ s', st'.schedulers.get? k = some s' ∧ s'.bare = s.bare ∧
      (s'.status = s.status ∨ ∃ desired, c = .updateStatus desired ∧ s'.status = desired.status) := by
  obtain ⟨s', hs', hwrites⟩ := h.rewrites hs
  cases hwrites with
  | same => exact ⟨s, hs', rfl, .inl rfl⟩
  | patched => exact ⟨_, hs', rfl, .inl rfl⟩
  | updated => exact ⟨_, hs', rfl, .inr ⟨_, rfl, rfl⟩⟩

theorem untouched {d : Dependent} {k : Key} (h : st.Gives t c reply st') (hc : ¬ c.Touches d k) :
    (st'.dependents d).get? k = (st.dependents d).get? k := by
  have hset : ∀ {e : Dependent} {store : Store e.Object},
      (∀ heq : e = d, (heq ▸ store).get? k = (st.dependents d).get? k) →
        ((st.setDependents e store).dependents d).get? k = (st.dependents d).get? k := by
    intro e store hstore
    by_cases he : e = d
    · subst he
      rw [dependents_setDependents]
      exact hstore rfl
    · rw [dependents_setDependents_of_ne _ (Ne.symm he)]
  cases c with
  | getScheduler => rw [h.getScheduler.1]
  | get => rw [h.get.1]
  | listPods => rw [h.listPods.1]
  | publish => rw [h.publish]
  | patchScheduler =>
    obtain ⟨-, -, rfl, -⟩ | ⟨_, _, -, -, -, rfl⟩ := h.patchScheduler
    · rfl
    · cases d <;> rfl
  | updateStatus =>
    obtain ⟨-, -, rfl, -⟩ | ⟨_, _, -, -, -, rfl⟩ := h.updateStatus
    · rfl
    · cases d <;> rfl
  | create e space object =>
    obtain ⟨-, -, rfl, -⟩ | ⟨-, -, rfl⟩ := h.create
    · rfl
    · refine hset ?_
      rintro rfl
      exact Store.get?_put_of_ne (fun hk => hc ⟨rfl, hk.symm⟩) _ _
  | delete e space name =>
    obtain ⟨-, -, rfl, -⟩ | ⟨-, rfl⟩ := h.delete
    · rfl
    · refine hset ?_
      rintro rfl
      exact Store.get?_erase_of_ne (fun hk => hc ⟨rfl, hk.symm⟩) _

/-- What is there stays as it is, or is deleted. -/
theorem kept {d : Dependent} {k : Key} {object : d.Object} (h : st.Gives t c reply st')
    (hobject : (st.dependents d).get? k = some object) :
    (st'.dependents d).get? k = some object ∨
      c = .delete d k.space k.name ∧ (st'.dependents d).get? k = none := by
  by_cases htouches : c.Touches d k
  · cases c with
    | create e space new =>
      obtain ⟨rfl, rfl⟩ := htouches
      obtain ⟨-, -, rfl, -⟩ | ⟨-, habsent, -⟩ := h.create
      · exact .inl hobject
      · exact absurd (hobject.symm.trans habsent) nofun
    | delete e space name =>
      obtain ⟨rfl, rfl⟩ := htouches
      obtain ⟨-, -, rfl, -⟩ | ⟨-, rfl⟩ := h.delete
      · exact .inl hobject
      · rw [dependents_setDependents, Store.get?_erase]
        exact .inr ⟨rfl, rfl⟩
    | _ => cases htouches
  · exact .inl ((h.untouched htouches).trans hobject)

/-- Pods are not for passes to change. -/
theorem pods (h : st.Gives t c reply st') : st'.pods = st.pods := by
  cases c with
  | getScheduler => rw [h.getScheduler.1]
  | get => rw [h.get.1]
  | listPods => rw [h.listPods.1]
  | publish => rw [h.publish]
  | patchScheduler =>
    obtain ⟨-, -, rfl, -⟩ | ⟨_, _, -, -, -, rfl⟩ := h.patchScheduler <;> rfl
  | updateStatus =>
    obtain ⟨-, -, rfl, -⟩ | ⟨_, _, -, -, -, rfl⟩ := h.updateStatus <;> rfl
  | create =>
    obtain ⟨-, -, rfl, -⟩ | ⟨-, -, rfl⟩ := h.create
    · rfl
    · exact pods_setDependents _ _ _
  | delete =>
    obtain ⟨-, -, rfl, -⟩ | ⟨-, rfl⟩ := h.delete
    · rfl
    · exact pods_setDependents _ _ _

end Stores.Gives

/-! ## Changes by others -/

/-- The object without what is reported on it. -/
def Dependent.unreported : (d : Dependent) → d.Object → d.Object
  | .topic, object => { object with status := none }
  | .pullSubscription, object => { object with status := none }
  | .job, object => { object with status := none }

/-- The scheduler once its deletion has been asked for. -/
def Scheduler.doomed (s : Scheduler) (time : Timestamp) (version : Option String) : Scheduler :=
  { s with metadata.deletionTimestamp := some time, metadata.resourceVersion := version }

namespace Stores

/-- What others do to the stores of the scheduler under `key`. -/
inductive Stirred (key : Key) (st : Stores) : Stores → Prop
  | reported (d : Dependent) (k : Key) (object new : d.Object) :
    (st.dependents d).get? k = some object → d.unreported new = d.unreported object →
    Stirred key st (st.setDependents d ((st.dependents d).put k new))
  | ran (pods : List Pod) : Stirred key st { st with pods }
  | doomed (s : Scheduler) (time : Timestamp) (version : Option String) :
    st.schedulers.get? key = some s → s.metadata.deleting = false →
    Stirred key st { st with schedulers := st.schedulers.put key (s.doomed time version) }

namespace Stirred

variable {key : Key} {st st' : Stores}

/-- Nothing but reports changes about dependents. -/
theorem unreported (h : st.Stirred key st') (d : Dependent) (k : Key) :
    ((st'.dependents d).get? k).map d.unreported = ((st.dependents d).get? k).map d.unreported := by
  cases h with
  | reported e k' object new hstored hsame =>
    by_cases he : e = d
    · subst he
      rw [dependents_setDependents]
      by_cases hk : k = k'
      · subst hk
        rw [Store.get?_put, hstored]
        exact congrArg some hsame
      · rw [Store.get?_put_of_ne hk]
    · rw [dependents_setDependents_of_ne _ (Ne.symm he)]
  | ran pods => cases d <;> rfl
  | doomed => cases d <;> rfl

/-- Nothing but its deletion is asked of the scheduler. -/
theorem scheduler (h : st.Stirred key st') :
    st'.schedulers.get? key = st.schedulers.get? key ∨
      ∃ s time version, st.schedulers.get? key = some s ∧ s.metadata.deleting = false ∧
        st'.schedulers.get? key = some (s.doomed time version) := by
  cases h with
  | reported => exact .inl (by rw [schedulers_setDependents])
  | ran => exact .inl rfl
  | doomed s time version hstored hlive =>
    exact .inr ⟨s, time, version, hstored, hlive, Store.get?_put _ _ _⟩

end Stirred

end Stores

/-! ## Histories -/

section

variable (t : Trouble) (key : Key) (others : Stores → Stores → Prop)

/-- Passes over the scheduler under `key`, and what others do between them; `log` is what the passes
have exchanged. -/
inductive History (st : Stores) : List Exchange → Stores → Prop
  | start : History st [] st
  | pass {log l : List Exchange} {mid st' : Stores} {text : String} {r : Except Error Unit}
    (p : Pass) : History st log mid → Key.parse text = .ok key →
    Ends t mid (p.reconcile text) l st' r → History st (log ++ l) st'
  | other {log : List Exchange} {mid st' : Stores} : History st log mid → others mid st' →
    History st log st'

end

theorem History.keeps {t : Trouble} {key : Key} {others : Stores → Stores → Prop}
    {st st' : Stores} {log : List Exchange} {I : List Exchange → Stores → Prop}
    (h : History t key others st log st') (hst : I [] st)
    (hpass : ∀ {log l : List Exchange} {mid st' : Stores} {text : String} {r : Except Error Unit}
      (p : Pass), Key.parse text = .ok key → Ends t mid (p.reconcile text) l st' r → I log mid →
        I (log ++ l) st')
    (hother : ∀ {log : List Exchange} {mid st' : Stores}, others mid st' → I log mid → I log st') :
    I log st' := by
  induction h with
  | start => exact hst
  | pass p _ hkey hends ih => exact hpass p hkey hends ih
  | other _ hchange ih => exact hother hchange ih

/-- A history in which others do less is one in which they may do more. -/
theorem History.mono {t : Trouble} {key : Key} {others others' : Stores → Stores → Prop}
    {st st' : Stores} {log : List Exchange} (h : History t key others st log st')
    (hothers : ∀ {st st'}, others st st' → others' st st') : History t key others' st log st' := by
  induction h with
  | start => exact .start
  | pass p _ hkey hends ih => exact .pass p ih hkey hends
  | other _ hchange ih => exact .other ih (hothers hchange)

/-! ## Live schedulers -/

/-- The scheduler under `key` is left alone, whatever else changes. -/
def Stores.Spares (key : Key) (st st' : Stores) : Prop :=
  st'.schedulers.get? key = st.schedulers.get? key

/-- The scheduler under `key` is stored and live. -/
structure Scheduler.Living (key : Key) (s : Scheduler) (st : Stores) : Prop where
  stored : st.schedulers.get? key = some s
  key : Key.of s.metadata = key
  live : s.metadata.deleting = false

namespace Scheduler.Living

variable {t : Trouble} {key : Key} {s s' : Scheduler} {st st' mid : Stores} {α : Type}

theorem kept (h : s.Living key st) (hs' : st'.schedulers.get? key = some s')
    (hbare : s'.bare = s.bare) : s'.Living key st' where
  stored := hs'
  key := (key_of_bare hbare).trans h.key
  live := (deleting_of_bare hbare).trans h.live

/-- A look at what is stored tells whether it is live. -/
theorem of_look (h : (st.schedulers.get? key).map
    (fun s => (Key.of s.metadata, s.metadata.deleting)) = some (key, false)) :
    ∃ s : Scheduler, s.Living key st := by
  obtain ⟨s, hs, hlook⟩ := Option.map_eq_some_iff.1 h
  obtain ⟨hkey, hlive⟩ := Prod.mk.inj hlook
  exact ⟨s, hs, hkey, hlive⟩

theorem spared (h : s.Living key st) (hspares : st.Spares key st') : s.Living key st' :=
  h.kept (hspares.trans h.stored) rfl

theorem reaches {p q : Program α} {log : List Exchange} (h : s.Living key st)
    (hp : Reaches t st p log mid q) :
    ∃ s' : Scheduler, s'.Living key mid ∧ s'.bare = s.bare := by
  induction hp generalizing s with
  | here => exact ⟨s, h, rfl⟩
  | step hgives _ ih =>
    obtain ⟨s₁, hs₁, hbare₁, -⟩ := hgives.scheduler h.stored
    obtain ⟨s₂, hs₂, hbare₂⟩ := ih (h.kept hs₁ hbare₁)
    exact ⟨s₂, hs₂, hbare₂.trans hbare₁⟩

/-- Wherever a program gets, the scheduler lives on, and what each call that is allowed keeps is
kept; only a write of the status changes the status. -/
theorem keeps {P : List Exchange → Stores → Call → Prop}
    {I : List Exchange → Scheduler → Stores → Prop} {p q : Program α} {log l : List Exchange}
    (h : s.Living key st) (hheeds : Heeds t P log st p) (hp : Reaches t st p l mid q)
    (hkeeps : ∀ {log : List Exchange} {c : Call} {reply : c.Answer} {mid mid' : Stores}
      {s₁ s₂ : Scheduler}, P log mid c → mid.Gives t c reply mid' →
      (s₂.status = s₁.status ∨ ∃ desired, c = .updateStatus desired ∧ s₂.status = desired.status) →
      I log s₁ mid → I (log ++ [⟨c, reply⟩]) s₂ mid')
    (hst : I log s st) : ∃ s', s'.Living key mid ∧ s'.bare = s.bare ∧ I (log ++ l) s' mid := by
  refine hheeds.keeps (I := fun log mid => ∃ s', s'.Living key mid ∧ s'.bare = s.bare ∧ I log s' mid)
    hp (fun hc hgives hmid => ?_) ⟨s, h, rfl, hst⟩
  obtain ⟨s₁, hs₁, hbare₁, hkept⟩ := hmid
  obtain ⟨s₂, hs₂, hbare₂, hstatus⟩ := hgives.scheduler hs₁.stored
  exact ⟨s₂, hs₁.kept hs₂ hbare₂, hbare₂.trans hbare₁, hkeeps hc hgives hstatus hkept⟩

end Scheduler.Living

/-! ## Histories in which nothing goes wrong -/

/-- The stores after a pass in which nothing goes wrong. -/
def Pass.after (p : Pass) (text : String) (st : Stores) : Stores :=
  ((p.reconcile text).run Stores.answer st).state

namespace Stores

/-- The stores after a report on the dependent under that key, if it is there. -/
def report (d : Dependent) (k : Key) (f : d.Object → d.Object) (st : Stores) : Stores :=
  match (st.dependents d).get? k with
  | some object => st.setDependents d ((st.dependents d).put k (f object))
  | none => st

/-- The stores after the deletion of the scheduler has been asked for. -/
def doom (key : Key) (time : Timestamp) (st : Stores) : Stores :=
  match st.schedulers.get? key with
  | some s =>
    if s.metadata.deleting then st
    else { st with
      schedulers := st.schedulers.put key (s.doomed time s.metadata.resourceVersion) }
  | none => st

end Stores

/-- It can come to these stores. -/
def Comes (t : Trouble) (key : Key) (st st' : Stores) : Prop :=
  ∃ log, History t key (Stores.Stirred key) st log st'

namespace Comes

variable {t : Trouble} {key : Key} {st mid : Stores}

theorem start (st : Stores) : Comes t key st st := ⟨[], .start⟩

theorem after {text : String} (p : Pass) (h : Comes t key st mid)
    (hkey : Key.parse text = .ok key) : Comes t key st (p.after text mid) := by
  obtain ⟨log, h⟩ := h
  exact ⟨_, .pass p h hkey (Stores.ends_run _ _)⟩

theorem report {d : Dependent} {f : d.Object → d.Object} (h : Comes t key st mid) (k : Key)
    (hf : ∀ object, d.unreported (f object) = d.unreported object) :
    Comes t key st (mid.report d k f) := by
  obtain ⟨log, h⟩ := h
  unfold Stores.report
  split
  · next object hobject => exact ⟨log, .other h (.reported d k object _ hobject (hf object))⟩
  · exact ⟨log, h⟩

theorem run (h : Comes t key st mid) (pods : List Pod) : Comes t key st { mid with pods } := by
  obtain ⟨log, h⟩ := h
  exact ⟨log, .other h (.ran pods)⟩

theorem doom (h : Comes t key st mid) (time : Timestamp) :
    Comes t key st (mid.doom key time) := by
  obtain ⟨log, h⟩ := h
  unfold Stores.doom
  split
  · next s hs =>
    split
    · exact ⟨log, h⟩
    · next hlive => exact ⟨log, .other h (.doomed s time _ hs (by simpa using hlive))⟩
  · exact ⟨log, h⟩

end Comes

end EventWiring
