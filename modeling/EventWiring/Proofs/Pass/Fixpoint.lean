import EventWiring.Proofs.Pass.Dismantled
import EventWiring.Proofs.Pass.Reached

/-!
# One pass is enough

A second pass over what the first one left changes nothing, whether it left a scheduler that is
wired up as far as it goes (`Reached`) or one that is dismantled as far as it goes (`Dismantled`).
-/

namespace EventWiring

open Program (Rests rests_ask rests_pure rests_refused run_ask_bind)

namespace Pass

variable {f : Faults} {st : Stores} {p : Pass} {found s : Scheduler} {key : Key}

/-- A pass that cannot put the marker on leaves it at that. -/
theorem rests_attend_of_refused {e : Error} (hlive : found.metadata.deleting = false)
    (h : Rests f f.Idle st (ensureMarker found) (.error e)) (p : Pass) :
    Rests f f.Idle st (p.attend found) (.error e) := by
  have hwork : Rests f f.Idle st (p.work found) (.error e, found) := by
    rw [work_of_live p hlive]
    exact h.bind (rests_pure _)
  refine hwork.bind ?_
  rw [finish_eq (fun h => by cases h), conclude, if_pos ⟨rfl, rfl⟩]
  exact rests_pure _

theorem rests_reconcile_of_attend {text : String} {P : Call → Prop} {r : Except Error Unit}
    (hparse : Key.parse text = .ok key) (hstored : st.schedulers.get? key = some s)
    (hget : f.refusal? (.getScheduler key.space key.name) = none)
    (hP : P (.getScheduler key.space key.name)) (h : Rests f P st (p.attend s) r) :
    Rests f P st (p.reconcile text) r := by
  have hanswer : f.answer (.getScheduler key.space key.name) st = (.ok (some s), st) := by
    rw [Faults.answer_accepted hget, ← hstored]
    rfl
  rw [reconcile_eq p hparse]
  exact (rests_ask hanswer hP).bind h

/-- Where a first pass ended, a second one rests. -/
theorem rests_reconcile {text : String} (hparse : Key.parse text = .ok key)
    (hkey : Key.of found.metadata = key) (hstored : st.schedulers.get? key = some found)
    (hcount : found.metadata.markers.count Scheduler.marker ≤ 1) (clock : Clock) :
    ∃ r, Rests f (fun c => found.metadata.deleting = false → f.Idle c)
        ((p.reconcile text).run f.answer st).state (reconcile { p with clock } text) r ∧
      ((∀ site, f.failure? site = none) → r = ((p.reconcile text).run f.answer st).result) := by
  cases hget : f.refusal? (.getScheduler key.space key.name) with
  | some e =>
    have hrests : ∀ p : Pass, Rests f f.Idle st (p.reconcile text) (.error e) := fun p => by
      rw [reconcile_eq p hparse]
      exact (rests_refused hget).bind (rests_pure _)
    rw [(hrests p).result, (hrests p).state]
    exact ⟨.error e, (hrests _).mono fun _ h _ => h, fun _ => rfl⟩
  | none =>
    have hanswer : f.answer (.getScheduler key.space key.name) st = (.ok (some found), st) := by
      rw [Faults.answer_accepted hget, ← hstored]
      rfl
    have hidle : f.Idle (.getScheduler key.space key.name) := fun h => nomatch h
    have hfirst := hparse
    rw [reconcile_eq p hparse, run_ask_bind hanswer]
    cases hdeleting : found.metadata.deleting with
    | true =>
      obtain ⟨s, r, hdismantled, hresult⟩ :=
        dismantled_of_deleting (f := f) (p := p) hkey hstored hdeleting hcount
      obtain ⟨r', hrests, hresult'⟩ := hdismantled.again clock
      refine ⟨r', ?_, fun hnone => (hresult' hnone).trans (hresult hnone).symm⟩
      exact rests_reconcile_of_attend hparse hdismantled.stored hget nofun
        (hrests.mono fun _ _ => nofun)
    | false =>
      obtain ⟨e, hrefused⟩ | ⟨s, g, hreached, hresult⟩ :=
        reached_of_live (f := f) (p := p) hkey hstored hdeleting
      · have hrests := rests_attend_of_refused hdeleting hrefused
        rw [(hrests p).result, (hrests p).state]
        refine ⟨.error e, ?_, fun _ => rfl⟩
        exact rests_reconcile_of_attend hparse hstored hget (fun _ => hidle)
          ((hrests _).mono fun _ h _ => h)
      · obtain ⟨r, hrests, hresult'⟩ := hreached.again clock
        refine ⟨r, ?_, fun hnone => (hresult' hnone).trans (hresult hnone).symm⟩
        exact rests_reconcile_of_attend hparse hreached.stored hget (fun _ => hidle)
          (hrests.mono fun _ h _ => h)

/-- A pass is a fixpoint: where nothing changed in between and every read tells what is stored, a
second pass leaves the stores as the first left them. If no call fails it ends as the first did, and
over a live scheduler it writes nothing. -/
theorem reconcile_again (p : Pass) (clock : Clock) {w : World} {text : String} {found : Scheduler}
    (hparse : Key.parse text = .ok (Key.of found.metadata))
    (hstored : w.stores.schedulers.get? (Key.of found.metadata) = some found)
    (hcount : found.metadata.markers.count Scheduler.marker ≤ 1)
    (hfirst : w.Truthful (p.reconcile text))
    (hsecond : (w.run (p.reconcile text)).state.Truthful (reconcile { p with clock } text)) :
    let first := w.run (p.reconcile text)
    let second := first.state.run (reconcile { p with clock } text)
    second.state.stores = first.state.stores ∧
      ((∀ site, w.faults.failure? site = none) →
        second.result = first.result ∧
          (found.metadata.deleting = false → ∀ x ∈ second.exchanges, x.call.writes = false)) := by
  intro first second
  obtain ⟨hresult, hstores, hfaults, -⟩ := World.run_mute (p.deaf_reconcile text) hfirst
  obtain ⟨hresult', hstores', -, hcalls'⟩ := World.run_mute (deaf_reconcile _ text) hsecond
  obtain ⟨r, hrests, hsame⟩ :=
    rests_reconcile (f := w.faults) (p := p) hparse rfl hstored hcount clock
  rw [hfaults, hstores] at hresult' hstores' hcalls'
  refine ⟨?_, fun hnone => ⟨?_, fun hlive x hx => ?_⟩⟩
  · exact hstores'.trans (hrests.state.trans hstores.symm)
  · exact hresult'.trans (hrests.result.trans ((hsame hnone).trans hresult.symm))
  · have hmem : x.call ∈ second.exchanges.map (·.call) := List.mem_map_of_mem hx
    rw [show second.exchanges.map (·.call) = _ from hcalls'] at hmem
    obtain ⟨y, hy, hxy⟩ := List.mem_map.1 hmem
    have hidle := hrests.calls y hy hlive
    rw [hxy] at hidle
    cases hwrites : x.call.writes with
    | false => rfl
    | true =>
      have hrefused := hidle hwrites
      rw [Faults.refusal?_of_mended hnone] at hrefused
      cases hrefused

theorem sample_reconcile_again :
    Key.parse "media/photos" = .ok (Key.of Scheduler.sample.metadata) ∧
      (World.sample .sample).stores.schedulers.get? (Key.of Scheduler.sample.metadata) =
        some .sample ∧
      Scheduler.sample.metadata.markers.count Scheduler.marker ≤ 1 ∧
      let first := (World.sample .sample).run ((Pass.sample "12:00").reconcile "media/photos")
      let second := first.state.run
        (reconcile { Pass.sample "12:00" with clock := fun _ _ => "12:01" } "media/photos")
      second.state.stores = first.state.stores ∧
        ((∀ site, (World.sample .sample).faults.failure? site = none) →
          second.result = first.result ∧
            (Scheduler.sample.metadata.deleting = false →
              ∀ x ∈ second.exchanges, x.call.writes = false)) := by
  refine ⟨rfl, rfl, by decide, ?_⟩
  have hfirst : (World.sample .sample).Truthful ((Pass.sample "12:00").reconcile "media/photos") :=
    World.truthful_of_clear rfl rfl _
  have hfaults := (World.run_mute (deaf_reconcile _ _) hfirst).2.2.1
  have hsecond : ((World.sample .sample).run
      ((Pass.sample "12:00").reconcile "media/photos")).state.Truthful
      (reconcile { Pass.sample "12:00" with clock := fun _ _ => "12:01" } "media/photos") := by
    refine World.truthful_of_clear ?_ ?_ _
    · rw [hfaults]
      rfl
    · rw [hfaults]
      rfl
  exact reconcile_again _ _ rfl rfl (by decide) hfirst hsecond

end Pass

end EventWiring
