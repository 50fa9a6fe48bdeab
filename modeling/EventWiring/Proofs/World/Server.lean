import EventWiring.Key
import EventWiring.Program

/-!
# A guarded server

A server keeps one scheduler and remembers all that it ever stored. A write that carries a version
is taken over that version only, and what it leaves gets a version that was never used; a write
that carries none is taken over anything. What a read finds may be as old as it likes, and any
call may fail, a write even after it was taken. Others write what they like, as long as it gets a
version.
-/

namespace EventWiring

namespace Call

/-- The scheduler that a call is about. -/
def scheduler? : Call → Option Key
  | getScheduler space name => some ⟨space, name⟩
  | patchScheduler space name _ => some ⟨space, name⟩
  | updateStatus s => some (Key.of s.metadata)
  | _ => none

/-- The version that a write of a scheduler carries, empty when it carries none. -/
def version? : Call → Option String
  | patchScheduler _ _ patch => some patch.resourceVersion
  | updateStatus s => some s.version
  | _ => none

/-- What a write makes of the scheduler that was stored; the rest is up to the server. -/
def Makes : Call → Scheduler → Scheduler → Prop
  | patchScheduler _ _ patch, old, new =>
    new.metadata.markers = patch.finalizers ∧ new.status = old.status
  | updateStatus s, old, new =>
    new.status = s.status ∧ new.metadata.markers = old.metadata.markers
  | _, _, _ => False

end Call

structure Server where
  current : Option Scheduler
  past : List Scheduler

namespace Server

def empty : Server := ⟨none, []⟩

def store (v : Server) (s : Scheduler) : Server := ⟨some s, s :: v.past⟩

/-- The version of the scheduler was never used. -/
def Fresh (v : Server) (s : Scheduler) : Prop :=
  s.version ≠ "" ∧ ∀ old ∈ v.past, old.version ≠ s.version

/-- The server takes a write of the scheduler under `k`, and puts `new` in the place of `old`. -/
structure Takes (k : Key) (v : Server) (c : Call) (old new : Scheduler) : Prop where
  addressed : c.scheduler? = some k
  stored : v.current = some old
  guarded : c.version? = some "" ∨ c.version? = some old.version
  makes : c.Makes old new
  fresh : v.Fresh new

/-- How the server that keeps the scheduler under `k` answers a call, and what it is afterwards. -/
inductive Answers (k : Key) (v : Server) : (c : Call) → c.Answer → Server → Prop
  | read (seen : Option Scheduler) :
    (∀ s, seen = some s → s ∈ v.past) → Answers k v (.getScheduler k.space k.name) (.ok seen) v
  | patched {space name : String} {patch : FinalizerPatch} {old new : Scheduler} :
    Takes k v (.patchScheduler space name patch) old new →
    Answers k v (.patchScheduler space name patch) (.ok new) (v.store new)
  | updated {desired old new : Scheduler} :
    Takes k v (.updateStatus desired) old new →
    Answers k v (.updateStatus desired) (.ok new) (v.store new)
  | lost {c : Call} {old new : Scheduler} (e : Error) :
    Takes k v c old new → Answers k v c (c.failed e) (v.store new)
  | refused {c : Call} (e : Error) : Answers k v c (c.failed e) v
  | elsewhere {c : Call} (reply : c.Answer) : c.scheduler? ≠ some k → Answers k v c reply v

/-- What others do to the scheduler. -/
inductive Changes (v : Server) : Server → Prop
  | write {s : Scheduler} : v.Fresh s → Changes v (v.store s)
  | remove : Changes v { v with current := none }

/-- What is stored was stored, and a version tells which of all that was. -/
structure Sound (v : Server) : Prop where
  current : ∀ s, v.current = some s → s ∈ v.past
  versioned : ∀ s ∈ v.past, s.version ≠ ""
  distinct : ∀ s ∈ v.past, ∀ s' ∈ v.past, s.version = s'.version → s = s'

variable {k : Key} {v v' : Server} {c : Call} {reply : c.Answer} {s found old new : Scheduler}

theorem sound_empty : Sound empty where
  current _ h := by cases h
  versioned _ h := by cases h
  distinct _ h := by cases h

theorem Sound.store (h : v.Sound) (hs : v.Fresh s) : (v.store s).Sound where
  current _ hcurrent := by
    cases hcurrent
    exact List.mem_cons_self
  versioned x hx := by
    rcases List.mem_cons.1 hx with rfl | hx
    · exact hs.1
    · exact h.versioned x hx
  distinct x hx y hy hxy := by
    rcases List.mem_cons.1 hx with rfl | holdx <;> rcases List.mem_cons.1 hy with rfl | holdy
    · rfl
    · exact absurd hxy.symm (hs.2 y holdy)
    · exact absurd hxy (hs.2 x holdx)
    · exact h.distinct x holdx y holdy hxy

theorem Sound.answers (h : v.Sound) (ha : Answers k v c reply v') : v'.Sound := by
  cases ha with
  | read | refused | elsewhere => exact h
  | patched ht | updated ht | lost _ ht => exact h.store ht.fresh

theorem Sound.changes (h : v.Sound) (hc : Changes v v') : v'.Sound := by
  cases hc with
  | write hs => exact h.store hs
  | remove =>
    refine ⟨fun _ hcurrent => ?_, h.versioned, h.distinct⟩
    cases hcurrent

/-- Nothing that was stored is forgotten. -/
theorem Answers.past (h : Answers k v c reply v') (hs : s ∈ v.past) : s ∈ v'.past := by
  cases h with
  | read | refused | elsewhere => exact hs
  | patched | updated | lost => exact List.mem_cons_of_mem _ hs

theorem Changes.past (h : Changes v v') (hs : s ∈ v.past) : s ∈ v'.past := by
  cases h with
  | write => exact List.mem_cons_of_mem _ hs
  | remove => exact hs

/-- A write that carries the version of something stored replaces just that. -/
theorem Takes.old_eq (h : Takes k v c old new) (hv : v.Sound) (hfound : found ∈ v.past)
    (hversion : c.version? = some found.version) : old = found := by
  have hold : old ∈ v.past := hv.current old h.stored
  rcases h.guarded with hnone | hguarded
  · have hempty : found.version = "" := Option.some.inj (hversion.symm.trans hnone)
    exact absurd hempty (hv.versioned found hfound)
  · have hsame : old.version = found.version := Option.some.inj (hguarded.symm.trans hversion)
    exact hv.distinct old hold found hfound hsame

/-- What a read found was stored. -/
theorem Answers.stored
    (h : Answers k v (.getScheduler k.space k.name) (.ok (some found)) v') : found ∈ v.past := by
  cases h with
  | read _ hseen => exact hseen found rfl
  | elsewhere _ hne => exact absurd rfl hne

/-- A patch that was answered was taken. -/
theorem Answers.takes {patch : FinalizerPatch}
    (h : Answers k v (.patchScheduler k.space k.name patch) (.ok new) v') :
    ∃ old, Takes k v (.patchScheduler k.space k.name patch) old new ∧ v' = v.store new := by
  cases h with
  | patched ht => exact ⟨_, ht, rfl⟩
  | elsewhere _ hne => exact absurd rfl hne

end Server

end EventWiring
