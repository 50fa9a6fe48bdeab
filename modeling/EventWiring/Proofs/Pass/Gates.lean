import EventWiring.Proofs.Pass.Survey

/-!
# What a pass over a live scheduler waits for

A pass creates an object only for a scheduler that carries the marker where it is stored, and only
once it has read that the stages before are reached (`Permitted`). The created object ends the
wiring: nothing but the status is written after it. Whoever changes dependents, and whatever reads
of them find, every call that a pass gets to is permitted (`heeds_reconcile`).
-/

namespace EventWiring.Pass

open Program (Exchange Ends Heeds Obeys Reaches ends_pure ends_ask_bind ends_bind)

variable {t : Trouble} {st st' mid : Stores} {log : List Exchange} {p : Pass}
  {found s : Scheduler}

/-! ## Permission -/

/-- Nothing was created and no status was written. -/
def Calm (log : List Exchange) : Prop :=
  ∀ x ∈ log, (∀ d space object, x.call ≠ .create d space object) ∧ ∀ s, x.call ≠ .updateStatus s

/-- The scheduler carries the marker where it is stored. -/
def Marked (found : Scheduler) (st : Stores) : Prop :=
  ∃ stored, st.schedulers.get? (Key.of found.metadata) = some stored ∧
    Scheduler.marker ∈ stored.metadata.markers

/-- A topic was read on which the next stage can build. -/
def TopicSeen (found : Scheduler) (log : List Exchange) : Prop :=
  ∃ topic : Topic, ⟨.get .topic found.space found.displayName, .ok (some topic)⟩ ∈ log ∧
    TopicFits topic (topicName found (found.status.getD .blank))

def SinkSeen (found : Scheduler) (log : List Exchange) : Prop :=
  ∃ ps : PullSubscription,
    ⟨.get .pullSubscription found.space found.displayName, .ok (some ps)⟩ ∈ log ∧ SinkFits ps

/-- What has to be known before a dependent is created. -/
def Known (found : Scheduler) (log : List Exchange) : Dependent → Prop
  | .topic => True
  | .pullSubscription => TopicSeen found log
  | .job => TopicSeen found log ∧ SinkSeen found log

/-- What a call needs to have come before it, and to be stored, in a pass over a live scheduler. -/
def Permitted (found : Scheduler) (log : List Exchange) (st : Stores) : Call → Prop
  | .create d _ _ => Calm log ∧ Marked found st ∧ Known found log d
  | .updateStatus _ => ∀ x ∈ log, ∀ s, x.call ≠ .updateStatus s
  | .delete _ _ _ => False
  | .publish _ => True
  | _ => Calm log

theorem calm_nil : Calm [] := fun _ h => nomatch h

theorem Calm.append {l : List Exchange} (h : Calm log) (hl : Calm l) : Calm (log ++ l) := by
  intro x hx
  exact (List.mem_append.1 hx).elim (h x) (hl x)

theorem calm_of_counted (h : counted log = []) : Calm log := by
  intro x hx
  have hcounts : ¬ counts x.call = true := fun hc => by
    have hmem : x.call ∈ counted log := List.mem_filter.2 ⟨List.mem_map_of_mem hx, hc⟩
    rw [h] at hmem
    cases hmem
  constructor
  · rintro d space object hcall
    exact hcounts (hcall ▸ rfl)
  · rintro s hcall
    exact hcounts (hcall ▸ rfl)

theorem calm_of_looks (h : ∀ x ∈ log, x.call.looks) : Calm log := by
  intro x hx
  have hlooks := h x hx
  constructor
  · rintro d space object hcall
    rw [hcall] at hlooks
    cases hlooks
  · rintro s hcall
    rw [hcall] at hlooks
    cases hlooks

/-! ## Every call is permitted -/

theorem permitted_of_looks {c : Call} (hc : c.looks) (h : Calm log) : Permitted found log st c := by
  cases c <;> first | exact h | cases hc

/-- What was read when an object is created is what has to be known. -/
theorem Creating.known {l : List Exchange} {d : Dependent} {object : d.Object}
    (h : Creating t st p found (topicName found (found.status.getD .blank)) l d object) :
    Known found (log ++ l) d := by
  cases h with
  | topic => trivial
  | pullSubscription topic ids _ hids => exact ⟨topic, by simp, fits_of_topicIds hids⟩
  | job topic ids ps uri args hids huri =>
    exact ⟨⟨topic, by simp, fits_of_topicIds hids⟩, ps, by simp, fits_of_sinkOf huri⟩

theorem MarkerPut.calm {r : Except Error Scheduler} (h : MarkerPut t st found log st' r) :
    Calm log := by
  cases h with
  | there => exact calm_nil
  | _ =>
    intro x hx
    obtain rfl := List.mem_singleton.1 hx
    exact ⟨fun _ _ _ hcall => (nomatch hcall), fun _ hcall => (nomatch hcall)⟩

theorem heeds_attend (hcalm : Calm log)
    (hstored : st.schedulers.get? (Key.of found.metadata) = some found)
    (hlive : found.metadata.deleting = false) :
    Heeds t (Permitted found) log st (p.attend found) := by
  refine heeds_attend_live hlive (fun _ _ => hcalm) (fun l mid marked hput => ?_)
    (fun l mid marked l' mid' g hput hg x hx s hcall => ?_) fun _ _ _ => trivial
  · obtain ⟨hs, hmarker, ⟨finalizers, version, rfl⟩, -⟩ := hput.stored hstored rfl
    have hcalm := hcalm.append hput.calm
    refine heeds_survey (fun l' c hc hl' => ?_) fun l' d space object h => ?_
    · exact permitted_of_looks hc (hcalm.append (calm_of_looks hl'))
    · have hknown : Known (remarked found finalizers version) (log ++ l ++ l') d := h.known
      exact ⟨hcalm.append (calm_of_looks h.looks), ⟨_, hs, hmarker⟩, hknown⟩
  · rcases List.mem_append.1 hx with hx | hx
    · exact (hcalm.append hput.calm x hx).2 s hcall
    · have hwires := hg.obeys wires_survey x hx
      rw [hcall] at hwires
      cases hwires

theorem heeds_reconcile {text : String} (hkey : Key.parse text = .ok (Key.of found.metadata))
    (hstored : st.schedulers.get? (Key.of found.metadata) = some found)
    (hlive : found.metadata.deleting = false) :
    Heeds t (Permitted found) [] st (p.reconcile text) :=
  heeds_reconcile_stored hkey hstored calm_nil
    (heeds_attend (calm_of_counted rfl) hstored hlive)

/-! ## Without the marker -/

/-- Once the marker was seen to, no patch is made. -/
theorem unpatched_rest {name : String} :
    Obeys (fun _ c => c.patches = false) log
      (p.survey s name >>= fun g => finish found (g.result, p.settled s (g.record p))) := by
  have hsurvey : Obeys (fun _ c => c.patches = false) log (p.survey s name) := by
    refine obeys_survey (fun _ c hc => ?_) fun _ _ _ _ _ => rfl
    cases c <;> first | rfl | cases hc
  exact hsurvey.bind fun _ _ _ => obeys_finish (fun _ _ => rfl) fun _ => rfl

/-- The marker could not be put on: this call was the last one, and there is nothing to store. -/
theorem ends_attend_refused {patch : FinalizerPatch} {e : Error} {r : Except Error Unit}
    (hlive : found.metadata.deleting = false) (h : Ends t st (p.attend found) log st' r)
    (hrefused : ⟨.patchScheduler found.space found.displayName patch, .error e⟩ ∈ log) :
    log = [⟨.patchScheduler found.space found.displayName patch, .error e⟩] ∧ st' = st ∧
      r = .error e := by
  unfold attend at h
  rw [work_of_live p hlive, Program.bind_assoc] at h
  obtain ⟨l, marker, mid, l', hmarker, hrest, rfl⟩ := ends_bind.1 h
  have hunpatched : ∀ s, marker = .ok s →
      ⟨.patchScheduler found.space found.displayName patch, .error e⟩ ∉ l' := by
    rintro s rfl hmem
    simp only [Program.bind_assoc, Program.pure_bind] at hrest
    cases hrest.obeys unpatched_rest _ hmem
  cases ends_ensureMarker hmarker with
  | there => exact absurd hrefused (hunpatched _ rfl)
  | refused patch' e' =>
    rw [Program.pure_bind, finish_refused] at hrest
    obtain ⟨rfl, rfl, rfl⟩ := ends_pure.1 hrest
    cases List.mem_singleton.1 hrefused
    exact ⟨rfl, rfl, rfl⟩
  | put patch' stored =>
    rcases List.mem_cons.1 hrefused with hhead | htail
    · cases hhead
    · exact absurd htail (hunpatched _ rfl)

/-! ## The whole pass -/

/-- A pass over a live scheduler gates its side effects: every call that it gets to is permitted by
what it has done and seen and by what is stored then, and when the marker cannot be put on it fails
and leaves everything as it was. -/
theorem reconcile_live_gated {text : String} (hkey : Key.parse text = .ok (Key.of found.metadata))
    (hstored : st.schedulers.get? (Key.of found.metadata) = some found)
    (hlive : found.metadata.deleting = false) :
    (∀ log mid c next, Reaches t st (p.reconcile text) log mid (.call c next) →
      Permitted found log mid c) ∧
    ∀ log st' r patch e, Ends t st (p.reconcile text) log st' r →
      ⟨.patchScheduler found.space found.displayName patch, .error e⟩ ∈ log →
        r = .error e ∧ st' = st ∧
          counted log = [.patchScheduler found.space found.displayName patch] := by
  refine ⟨fun log mid c next h => ?_, fun log st' r patch e h hrefused => ?_⟩
  · exact ((heeds_reconcile hkey hstored hlive).reaches h).1
  · rw [reconcile_eq p hkey] at h
    obtain ⟨reply, st₁, rest, rfl, hgives, hrest⟩ := ends_ask_bind.1 h
    obtain ⟨rfl, -, hread⟩ := hgives.getScheduler
    have hlater := (List.mem_cons.1 hrefused).resolve_left fun h => nomatch h
    rcases reply with e' | (_ | read)
    · obtain ⟨rfl, -⟩ := ends_pure.1 hrest
      exact absurd hlater List.not_mem_nil
    · obtain ⟨rfl, -⟩ := ends_pure.1 hrest
      exact absurd hlater List.not_mem_nil
    · obtain rfl : found = read := Option.some.inj (hstored.symm.trans (hread _ rfl).symm)
      obtain ⟨rfl, rfl, rfl⟩ := ends_attend_refused hlive hrest hlater
      exact ⟨rfl, rfl, rfl⟩

theorem sample_reconcile_gated :
    let p := Pass.sample "2020-01-01T00:00:00Z"
    let w := World.sample .sample
    Key.parse "media/photos" = .ok (Key.of Scheduler.sample.metadata) ∧
      w.stores.schedulers.get? (Key.of Scheduler.sample.metadata) = some .sample ∧
      Scheduler.sample.metadata.deleting = false ∧
      ∃ pre topic answer post mid, (w.run (p.reconcile "media/photos")).exchanges =
          pre ++ ⟨.create .topic "media" topic, answer⟩ :: post ∧
        Permitted .sample pre mid (.create .topic "media" topic) := by
  intro p w
  have hsplit : (w.run (p.reconcile "media/photos")).exchanges =
    [_, _, _] ++ ⟨.create .topic "media" _, _⟩ :: _ := rfl
  obtain ⟨mid, next, hreached⟩ := (World.ends_run (w := w) rfl _).split hsplit
  refine ⟨rfl, rfl, rfl, _, _, _, _, mid, hsplit, ?_⟩
  exact (reconcile_live_gated rfl rfl rfl).1 _ _ _ _ hreached

end EventWiring.Pass
