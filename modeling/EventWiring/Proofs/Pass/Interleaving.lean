import EventWiring.Proofs.Finalizer
import EventWiring.Proofs.Pass.Outcome
import EventWiring.Proofs.World.Server

/-!
# Passes side by side

Any number of passes over one scheduler run beside each other and beside whoever else writes it, one
call at a time in any order. However old the copy is that a pass works on, a write of the pass that
is taken replaces just what the pass has read. It need not carry the version that was read: a pass
that puts the marker on goes on under the version that this gave, and under that version the status
is still the one that it knows.
-/

namespace EventWiring.Pass

open Program (Exchange Obeys Trace)

variable {p : Pass} {k : Key} {log : List Exchange} {found s : Scheduler}

/-! ## What the writes of a pass rest on -/

/-- The pass began by reading this. -/
def Began (k : Key) (found : Scheduler) (log : List Exchange) : Prop :=
  ∃ rest, log = ⟨.getScheduler k.space k.name, .ok (some found)⟩ :: rest

theorem Began.append (h : Began k found log) (l : List Exchange) : Began k found (log ++ l) := by
  obtain ⟨rest, rfl⟩ := h
  exact ⟨rest ++ l, rfl⟩

theorem Began.mem (h : Began k found log) :
    ⟨.getScheduler k.space k.name, .ok (some found)⟩ ∈ log := by
  obtain ⟨rest, rfl⟩ := h
  exact List.mem_cons_self

/-- The version is the one that was read, or the one that came of patching what was read. -/
def Follows (found : Scheduler) (log : List Exchange) (version : String) : Prop :=
  version = found.version ∨ ∃ patch patched,
    ⟨.patchScheduler found.space found.displayName patch, .ok patched⟩ ∈ log ∧
      patch.resourceVersion = found.version ∧ version = patched.version

theorem Follows.mono {version : String} {log' : List Exchange} (h : Follows found log version)
    (hlog : ∀ x ∈ log, x ∈ log') : Follows found log' version := by
  rcases h with h | ⟨patch, patched, hmem, hpatch⟩
  · exact .inl h
  · exact .inr ⟨patch, patched, hlog _ hmem, hpatch⟩

/-- A patch carries the version that was read, and a status one that follows. -/
def Grounded (k : Key) (log : List Exchange) : Call → Prop
  | .patchScheduler space name patch => ∃ found, Began k found log ∧
      space = found.space ∧ name = found.displayName ∧ patch.resourceVersion = found.version
  | .updateStatus s => ∃ found, Began k found log ∧
      Key.of s.metadata = Key.of found.metadata ∧ Follows found log s.version
  | _ => True

theorem grounded_of_looks {c : Call} (h : c.looks = true) : Grounded k log c := by
  cases c <;> trivial

theorem grounded_dismantle {status : SchedulerStatus} (h : Began k s log) :
    Obeys (Grounded k) log (p.dismantle s status) := by
  have hundo : Obeys (Grounded k) log (p.undoNotification s status) :=
    obeys_undoNotification (fun _ _ => grounded_of_looks) fun _ _ _ => trivial
  refine hundo.bind fun l u _ => ?_
  rcases u with e | ⟨⟩
  · trivial
  refine Program.obeys_ask_bind trivial fun reply => ?_
  split
  · trivial
  refine Program.obeys_ask_bind trivial fun reply => ?_
  split
  · trivial
  · refine obeys_release fun patch hpatch =>
      ⟨s, ((h.append l).append _).append _, rfl, rfl, ?_⟩
    exact (Scheduler.removeMarker?_eq_some hpatch).2

theorem grounded_finish {x : Except Error Ending × Scheduler} (h : Began k found log)
    (hkey : Key.of x.2.metadata = Key.of found.metadata)
    (hversion : Follows found log x.2.version) : Obeys (Grounded k) log (finish found x) :=
  obeys_finish (fun _ _ => trivial) fun _ => ⟨found, h, hkey, hversion⟩

theorem grounded_ensureMarker (h : Began k s log) : Obeys (Grounded k) log (ensureMarker s) := by
  unfold ensureMarker
  split
  · trivial
  · next patch hpatch =>
    have hversion : patch.resourceVersion = s.version := by
      rw [Scheduler.addMarker?_eq_some hpatch]
    refine Program.obeys_ask_bind ⟨s, h, rfl, rfl, hversion⟩ fun reply => ?_
    split <;> trivial

/-- The pass goes on with the scheduler that it read, under a version that follows. -/
theorem follows_ensureMarker {marked : Scheduler} (h : Trace (ensureMarker s) log (.ok marked)) :
    Key.of marked.metadata = Key.of s.metadata ∧ Follows s log marked.version := by
  unfold ensureMarker at h
  split at h
  · obtain ⟨rfl, hmarked⟩ := Program.trace_pure.1 h
    cases hmarked
    exact ⟨rfl, .inl rfl⟩
  · next patch hpatch =>
    obtain ⟨reply, rest, rfl, hreply⟩ := Program.trace_ask_bind.1 h
    rcases reply with e | patched
    · cases (Program.trace_pure.1 hreply).2
    · cases (Program.trace_pure.1 hreply).2
      have hversion : patch.resourceVersion = s.version := by
        rw [Scheduler.addMarker?_eq_some hpatch]
      exact ⟨rfl, .inr ⟨patch, patched, List.mem_cons_self, hversion, rfl⟩⟩

theorem grounded_attend_live (hlive : found.metadata.deleting = false) (h : Began k found log) :
    Obeys (Grounded k) log (p.attend found) := by
  unfold attend
  rw [work_of_live p hlive, Program.bind_assoc]
  refine (grounded_ensureMarker h).bind fun l marked hmarked => ?_
  rcases marked with e | marked
  · exact grounded_finish (x := (.error e, found)) (h.append l) rfl (.inl rfl)
  obtain ⟨hkey, hfollows⟩ := follows_ensureMarker hmarked
  rw [Program.bind_assoc]
  have hsurvey : Obeys (Grounded k) (log ++ l)
      (p.survey marked (topicName marked (marked.status.getD .blank))) :=
    obeys_survey (fun _ _ => grounded_of_looks) fun _ _ _ _ _ => trivial
  refine hsurvey.bind fun l' g _ => ?_
  refine grounded_finish ((h.append l).append l') hkey (hfollows.mono fun x hx => ?_)
  exact List.mem_append_left _ (List.mem_append_right _ hx)

theorem grounded_attend_deleting (hdeleting : found.metadata.deleting = true)
    (h : Began k found log) : Obeys (Grounded k) log (p.attend found) := by
  unfold attend
  rw [work_of_deleting p hdeleting, Program.bind_assoc]
  refine Program.obeys_ask_bind trivial fun reply => ?_
  rw [Program.bind_assoc]
  refine (grounded_dismantle (h.append _)).bind fun l left _ => ?_
  refine grounded_finish ((h.append _).append l) rfl ?_
  exact .inl rfl

theorem grounded_reconcile {key : String} (hkey : Key.parse key = .ok k) :
    Obeys (Grounded k) [] (p.reconcile key) := by
  rw [reconcile_eq p hkey]
  refine Program.obeys_ask_bind trivial fun reply => ?_
  rcases reply with e | (_ | found)
  · trivial
  · trivial
  have hbegan : Began k found ([] ++ [⟨.getScheduler k.space k.name, .ok (some found)⟩]) :=
    ⟨[], rfl⟩
  cases hdeleting : found.metadata.deleting with
  | false => exact grounded_attend_live hdeleting hbegan
  | true => exact grounded_attend_deleting hdeleting hbegan

end EventWiring.Pass

namespace EventWiring

open Program (Exchange Obeys)
open Pass (Began Follows Grounded)

/-- The write puts its own in the place of what was read: a patch in that of the finalizers, and an
update in that of the status. -/
def Call.Replaces : Call → (found old new : Scheduler) → Prop
  | .patchScheduler _ _ patch, found, old, new =>
    old.metadata.finalizers = found.metadata.finalizers ∧ new.metadata.markers = patch.finalizers
  | .updateStatus s, found, old, new => old.status = found.status ∧ new.status = s.status
  | _, _, _, _ => False

/-- The scheduler of `Scheduler.sample` with the marker on. -/
def Scheduler.marked : Scheduler :=
  { Scheduler.sample with
    metadata.finalizers := some [Scheduler.marker]
    metadata.resourceVersion := some "2" }

/-! ## Passes under way -/

/-- A pass under way: what it exchanged, and what is left of it. -/
structure Running where
  log : List Exchange
  rest : Program (Except Error Unit)

/-- What a pass knows is known of the server, and its calls rest on that. -/
structure Running.Informed (k : Key) (v : Server) (run : Running) : Prop where
  grounded : Obeys (Grounded k) run.log run.rest
  read : ∀ found, ⟨.getScheduler k.space k.name, .ok (some found)⟩ ∈ run.log → found ∈ v.past
  patched : ∀ patch new, ⟨.patchScheduler k.space k.name patch, .ok new⟩ ∈ run.log →
    new ∈ v.past ∧ ∃ old ∈ v.past, new.status = old.status ∧
      (patch.resourceVersion = "" ∨ patch.resourceVersion = old.version)

namespace Running.Informed

variable {k : Key} {v v' : Server} {run : Running}

theorem start {p : Pass} {key : String} (hkey : Key.parse key = .ok k) :
    Informed k v ⟨[], p.reconcile key⟩ where
  grounded := Pass.grounded_reconcile hkey
  read _ h := by cases h
  patched _ _ h := by cases h

/-- What others do meanwhile takes nothing away. -/
theorem mono (h : Informed k v run) (hpast : ∀ s ∈ v.past, s ∈ v'.past) : Informed k v' run where
  grounded := h.grounded
  read found hfound := hpast _ (h.read found hfound)
  patched patch new hpatch := by
    obtain ⟨hnew, old, hold, hstatus⟩ := h.patched patch new hpatch
    exact ⟨hpast _ hnew, old, hpast _ hold, hstatus⟩

theorem advance {c : Call} {next : c.Answer → Program (Except Error Unit)} {reply : c.Answer}
    {log : List Exchange} (h : Informed k v ⟨log, .call c next⟩) (hv : v.Sound)
    (ha : v.Answers k c reply v') : Informed k v' ⟨log ++ [⟨c, reply⟩], next reply⟩ where
  grounded := h.grounded.2 reply
  read found hfound := by
    rcases List.mem_append.1 hfound with hfound | hfound
    · exact ha.past (h.read found hfound)
    · cases List.mem_singleton.1 hfound
      exact ha.past ha.stored
  patched patch new hpatch := by
    rcases List.mem_append.1 hpatch with hpatch | hpatch
    · exact (h.mono fun s hs => ha.past hs).patched patch new hpatch
    · cases List.mem_singleton.1 hpatch
      obtain ⟨old, ht, rfl⟩ := ha.takes
      refine ⟨List.mem_cons_self, old, List.mem_cons_of_mem _ (hv.current old ht.stored), ?_⟩
      exact ⟨ht.makes.2, ht.guarded.imp Option.some.inj Option.some.inj⟩

/-- A write of the pass that is taken replaces what the pass has read. -/
theorem replaces {c : Call} {old new : Scheduler} (h : Informed k v run) (hv : v.Sound)
    (hc : run.rest.call? = some c) (ht : v.Takes k c old new) :
    ∃ found, Began k found run.log ∧ c.Replaces found old new := by
  have hgrounded : Grounded k run.log c := h.grounded.of_call? hc
  cases c with
  | patchScheduler space name patch =>
    obtain ⟨found, hbegan, -, -, hversion⟩ := hgrounded
    have hold : old = found := ht.old_eq hv (h.read found hbegan.mem) (congrArg some hversion)
    exact ⟨found, hbegan, by rw [hold], ht.makes.1⟩
  | updateStatus s =>
    obtain ⟨found, hbegan, hkey, hfollows⟩ := hgrounded
    have hread : found ∈ v.past := h.read found hbegan.mem
    rcases hfollows with hversion | ⟨patch, patched, hpatch, hcarried, hversion⟩
    · have hold : old = found := ht.old_eq hv hread (congrArg some hversion)
      exact ⟨found, hbegan, by rw [hold], ht.makes.1⟩
    · obtain rfl : Key.of found.metadata = k := hkey.symm.trans (Option.some.inj ht.addressed)
      obtain ⟨hpatched, first, hfirst, hstatus, hguarded⟩ := h.patched patch patched hpatch
      have hold : old = patched := ht.old_eq hv hpatched (congrArg some hversion)
      -- The patch was taken over what the pass had read, and left the status as it was.
      have hsame : first = found := by
        rcases hguarded with hnone | hguarded
        · exact absurd (hcarried.symm.trans hnone) (hv.versioned found hread)
        · exact hv.distinct first hfirst found hread (hguarded.symm.trans hcarried)
      exact ⟨found, hbegan, by rw [hold, hstatus, hsame], ht.makes.1⟩
  | _ => exact ht.makes.elim

end Running.Informed

/-! ## Side by side -/

/-- The server that keeps the scheduler, and the passes over it that were started. -/
structure System where
  server : Server
  passes : List Running

namespace System

inductive Step (k : Key) : System → System → Prop
  | start {v : Server} {passes : List Running} (p : Pass) {key : String} :
    Key.parse key = .ok k → Step k ⟨v, passes⟩ ⟨v, ⟨[], p.reconcile key⟩ :: passes⟩
  | advance {v v' : Server} {before after : List Running} {log : List Exchange} {c : Call}
    {next : c.Answer → Program (Except Error Unit)} {reply : c.Answer} :
    v.Answers k c reply v' →
    Step k ⟨v, before ++ ⟨log, .call c next⟩ :: after⟩
      ⟨v', before ++ ⟨log ++ [⟨c, reply⟩], next reply⟩ :: after⟩
  | change {v v' : Server} {passes : List Running} :
    v.Changes v' → Step k ⟨v, passes⟩ ⟨v', passes⟩

inductive Reachable (k : Key) : System → Prop
  | empty : Reachable k ⟨.empty, []⟩
  | step {y y' : System} : Reachable k y → Step k y y' → Reachable k y'

structure Inv (k : Key) (y : System) : Prop where
  sound : y.server.Sound
  informed : ∀ run ∈ y.passes, run.Informed k y.server

variable {k : Key} {y y' : System}

theorem inv_empty : Inv k ⟨.empty, []⟩ where
  sound := Server.sound_empty
  informed _ h := by cases h

theorem Inv.step (h : Inv k y) (hs : Step k y y') : Inv k y' := by
  cases hs with
  | start p hkey =>
    refine ⟨h.sound, fun run hrun => ?_⟩
    rcases List.mem_cons.1 hrun with rfl | hrun
    · exact .start hkey
    · exact h.informed run hrun
  | @advance v v' before after log c next reply ha =>
    refine ⟨h.sound.answers ha, fun run hrun => ?_⟩
    have hothers : ∀ other ∈ before ++ ⟨log, .call c next⟩ :: after, other.Informed k v' :=
      fun other hother => (h.informed other hother).mono fun _ hs => ha.past hs
    rcases List.mem_append.1 hrun with hrun | hrun
    · exact hothers run (List.mem_append_left _ hrun)
    rcases List.mem_cons.1 hrun with rfl | hrun
    · exact (h.informed _ (List.mem_append_right _ List.mem_cons_self)).advance h.sound ha
    · exact hothers run (List.mem_append_right _ (List.mem_cons_of_mem _ hrun))
  | change hc =>
    refine ⟨h.sound.changes hc, fun run hrun => ?_⟩
    exact (h.informed run hrun).mono fun _ hs => hc.past hs

theorem Reachable.inv (h : Reachable k y) : Inv k y := by
  induction h with
  | empty => exact inv_empty
  | step _ hs ih => exact ih.step hs

/-- No update is lost: whatever passes and others do in whatever order, a write of a pass that the
server takes replaces what this pass has read. -/
theorem no_lost_update (h : Reachable k y) {run : Running} (hrun : run ∈ y.passes) {c : Call}
    (hc : run.rest.call? = some c) {old new : Scheduler} (ht : y.server.Takes k c old new) :
    ∃ found, Began k found run.log ∧ c.Replaces found old new :=
  (h.inv.informed run hrun).replaces h.inv.sound hc ht

/-- What a pass wants stored that has put the marker on and could not get the topic. -/
def sampleDesired (p : Pass) (e : Error) : Scheduler :=
  p.settled .marked (p.markSetback · .topic
    ⟨Pass.topicReason, "Failed to reconcile Topic: " ++ e.message, e⟩)

def sampleRun (p : Pass) (e : Error) : Running where
  log := [⟨.getScheduler "media" "photos", .ok (some .sample)⟩,
    ⟨.patchScheduler "media" "photos" ⟨[Scheduler.marker], "1"⟩, .ok .marked⟩,
    ⟨.get .topic "media" "photos", .error e⟩]
  rest := Pass.conclude .sample (sampleDesired p e) (.error e)

def sample (p : Pass) (e : Error) : System where
  server := (Server.empty.store .sample).store .marked
  passes := [sampleRun p e]

/-- The only pass under way is answered. -/
theorem Reachable.advance {v v' : Server} {log : List Exchange} (c : Call) (reply : c.Answer)
    {next : c.Answer → Program (Except Error Unit)}
    (h : Reachable k ⟨v, [⟨log, .call c next⟩]⟩) (ha : v.Answers k c reply v') :
    Reachable k ⟨v', [⟨log ++ [⟨c, reply⟩], next reply⟩]⟩ :=
  h.step (@Step.advance k v v' [] [] log c next reply ha)

theorem reachable_sample (p : Pass) (e : Error) :
    Reachable ⟨"media", "photos"⟩ (sample p e) := by
  have hkey : Key.parse "media/photos" = .ok ⟨"media", "photos"⟩ := rfl
  have hwritten : Reachable ⟨"media", "photos"⟩ ⟨Server.empty.store .sample, []⟩ :=
    .step .empty (.change (.write ⟨by decide, fun _ h => by cases h⟩))
  have hstarted := Reachable.step hwritten (.start p hkey)
  rw [Pass.reconcile_eq p hkey] at hstarted
  have hread := Reachable.advance (.getScheduler "media" "photos") (.ok (some .sample)) hstarted
    (.read (some .sample) fun _ h => Option.some.inj h ▸ List.mem_cons_self)
  have htaken : (Server.empty.store .sample).Takes ⟨"media", "photos"⟩
      (.patchScheduler "media" "photos" ⟨[Scheduler.marker], "1"⟩) .sample .marked :=
    { addressed := rfl
      stored := rfl
      guarded := .inr rfl
      makes := ⟨rfl, rfl⟩
      fresh := ⟨by decide, List.forall_mem_singleton.2 (by decide)⟩ }
  have hmarked := Reachable.advance (.patchScheduler "media" "photos" ⟨[Scheduler.marker], "1"⟩)
    (.ok .marked) hread (.patched htaken)
  have hfailed := Reachable.advance (.get .topic "media" "photos") (.error e) hmarked
    (.elsewhere _ nofun)
  exact hfailed

theorem sample_no_lost_update :
    let p := Pass.sample "2020-01-01T00:00:00Z"
    let run := sampleRun p .topicNotReady
    let desired := sampleDesired p .topicNotReady
    let new := { desired with metadata.resourceVersion := some "3" }
    Reachable ⟨"media", "photos"⟩ (sample p .topicNotReady) ∧
      run ∈ (sample p .topicNotReady).passes ∧
      run.rest.call? = some (.updateStatus desired) ∧
      (sample p .topicNotReady).server.Takes ⟨"media", "photos"⟩ (.updateStatus desired) .marked
        new ∧
      ∃ found, Began ⟨"media", "photos"⟩ found run.log ∧
        (Call.updateStatus desired).Replaces found .marked new := by
  intro p run desired new
  have hreachable := reachable_sample p .topicNotReady
  have hrun : run ∈ (sample p .topicNotReady).passes := List.mem_singleton_self run
  have hcall : run.rest.call? = some (.updateStatus desired) := rfl
  have htaken : (sample p .topicNotReady).server.Takes ⟨"media", "photos"⟩
      (.updateStatus desired) .marked new :=
    { addressed := rfl
      stored := rfl
      guarded := .inr rfl
      makes := ⟨rfl, rfl⟩
      fresh := ⟨by decide, by decide⟩ }
  exact ⟨hreachable, hrun, hcall, htaken, no_lost_update hreachable hrun hcall htaken⟩

end System

end EventWiring
