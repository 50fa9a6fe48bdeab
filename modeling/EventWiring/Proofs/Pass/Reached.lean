import EventWiring.Proofs.Pass.Outcome
import EventWiring.Proofs.Pass.Writes

/-!
# What a pass over a live scheduler leaves

A live scheduler has its marker after a pass, every stage finds what the pass found, and the status
that follows is the one that is stored already, or one that the stores refuse again (`Reached`).
-/

namespace EventWiring

open Program (Rests rests_pure)

namespace Pass

variable {f : Faults} {st : Stores} {p : Pass} {found s : Scheduler} {key : Key}

/-- Where a pass over a live scheduler leads: the stages are found as they were left, and the status
that follows is there already, or is refused. -/
structure Reached (f : Faults) (p : Pass) (st : Stores) (key : Key) (s : Scheduler) (g : Progress) :
    Prop where
  addressed : Key.of s.metadata = key
  stored : st.schedulers.get? key = some s
  marked : Scheduler.marker ∈ s.metadata.markers
  live : s.metadata.deleting = false
  survey : Rests f f.Idle st (p.survey s (topicName s (s.status.getD .blank))) g
  status : ∀ q,
    (Pass.settled q s (g.record q)).status = s.status ∨ (f.failure? .updateStatus).isSome

theorem Reached.again {g : Progress} (h : Reached f p st key s g) (clock : Clock) :
    ∃ r, Rests f f.Idle st (attend { p with clock } s) r ∧
      ((∀ site, f.failure? site = none) → r = g.result.map fun _ => ()) := by
  obtain ⟨q, hq⟩ : ∃ q : Pass, q = { p with clock } := ⟨_, rfl⟩
  rw [← hq]
  have hmarker : Rests f f.Idle st (ensureMarker s) (.ok s) := by
    unfold ensureMarker
    rw [Scheduler.addMarker?_eq_none.2 h.marked]
    exact rests_pure _
  have hsurvey : Rests f f.Idle st (q.survey s (topicName s (s.status.getD .blank))) g := by
    rw [hq]
    exact h.survey
  have hwork : Rests f f.Idle st (q.work s) (g.result, q.settled s (g.record q)) := by
    rw [work_of_live _ h.live]
    exact hmarker.bind (.bind hsurvey (rests_pure _))
  have hsame := (h.status q).imp_left fun hs =>
    (⟨hs.symm, rfl⟩ : s.status = _ ∧ s.metadata = (q.settled s (g.record q)).metadata)
  obtain ⟨r, hr, hresult⟩ := rests_conclude hsame
  refine ⟨r, hwork.bind ?_, hresult⟩
  rw [finish_eq g.result_ne_finalized]
  exact hr

/-- The survey of a scheduler finds the same again, whether or not the status that follows from it
was written. -/
theorem rests_survey {run : Program.Run Stores Progress} {st' : Stores} {s' : Scheduler}
    (hrun : (p.survey s (topicName s (s.status.getD .blank))).run f.answer st = run)
    (hst' : ∀ d, st'.dependents d = run.state.dependents d) (hpods : st'.pods = run.state.pods)
    (hbody : body s' = body s)
    (hstatus : s'.status = s.status ∨ s'.status = (p.settled s (run.result.record p)).status) :
    Rests f f.Idle st' (p.survey s' (topicName s' (s'.status.getD .blank))) run.result := by
  have huid : s'.metadata.uid = s.metadata.uid := body_congr (·.metadata.uid) (fun _ => rfl) hbody
  have hname : topicName s' (s'.status.getD .blank) = topicName s (s.status.getD .blank) := by
    rcases hstatus with h | h
    · simp only [topicName, h, huid]
    · have htrace := Program.run_trace f.answer
        (p.survey s (topicName s (s.status.getD .blank))) st
      rw [hrun] at htrace
      exact topicName_settled p htrace h huid
  have hsurvey : p.survey s' = p.survey s := body_congr p.survey (fun _ => rfl) hbody
  have hsettles := settles_survey f st p s (topicName s (s.status.getD .blank))
  rw [hname, hsurvey]
  subst hrun
  exact hsettles.again st' (fun d _ => hst' d) (hpods.trans hsettles.pods)

theorem reached_of_conclude {run : Program.Run Stores Progress}
    {ended : Program.Run Stores (Except Error Unit)} (hkey : Key.of s.metadata = key)
    (hstored : st.schedulers.get? key = some s) (hmarked : Scheduler.marker ∈ s.metadata.markers)
    (hlive : s.metadata.deleting = false)
    (hrun : (p.survey s (topicName s (s.status.getD .blank))).run f.answer st = run)
    (hended : (conclude found (p.settled s (run.result.record p)) run.result.result).run f.answer
      run.state = ended)
    (hfound : found.status = s.status) :
    ∃ s', Reached f p ended.state key s' run.result ∧
      ((∀ site, f.failure? site = none) → ended.result = run.result.result.map fun _ => ()) := by
  have hsettles := settles_survey f st p s (topicName s (s.status.getD .blank))
  have hkept : run.state.schedulers.get? key = some s := by
    rw [← hrun, hsettles.schedulers]
    exact hstored
  obtain ⟨s', hs', hresult⟩ := kept_of_conclude run.result.recording hkey hkept hfound hended
  have hmarkers : s'.metadata.markers = s.metadata.markers := by
    rw [Metadata.markers, hs'.finalizers, ← Metadata.markers]
  refine ⟨s', ⟨(key_congr hs'.body).trans hkey, hs'.stored, hmarkers ▸ hmarked,
    (deleting_congr hs'.body).trans hlive, ?_, hs'.again⟩, hresult⟩
  exact rests_survey hrun hs'.dependents hs'.pods hs'.body hs'.status

theorem reached_of_live (hkey : Key.of found.metadata = key)
    (hstored : st.schedulers.get? key = some found) (hlive : found.metadata.deleting = false) :
    (∃ e, Rests f f.Idle st (ensureMarker found) (.error e)) ∨
      ∃ s g, Reached f p ((p.attend found).run f.answer st).state key s g ∧
        ((∀ site, f.failure? site = none) →
          ((p.attend found).run f.answer st).result = g.result.map fun _ => ()) := by
  obtain hrefused | ⟨s, hresult, hstate, hmarked, hbody, hstatus⟩ :=
    ensureMarker_cases (f := f) hkey hstored
  · exact .inl hrefused
  refine .inr ?_
  obtain ⟨st₁, hst₁⟩ : ∃ st₁, ((ensureMarker found).run f.answer st).state = st₁ := ⟨_, rfl⟩
  have hstored₁ : st₁.schedulers.get? key = some s := by
    rw [← hst₁, hstate]
    exact Store.get?_put _ _ _
  obtain ⟨run, hrun⟩ : ∃ run, (p.survey s (topicName s (s.status.getD .blank))).run f.answer st₁ =
    run := ⟨_, rfl⟩
  have hworked : ((p.work found).run f.answer st).result =
      (run.result.result, p.settled s (run.result.record p)) := by
    rw [work_of_live p hlive, Program.result_bind, hresult, hst₁, ← hrun]
    exact Program.result_bind _ _ _ _
  have hstate' : ((p.work found).run f.answer st).state = run.state := by
    rw [work_of_live p hlive, Program.state_bind, hresult, hst₁, ← hrun]
    exact Program.state_bind _ _ _ _
  have hattend := attend_run (show (p.work found).run f.answer st = _ from rfl)
    (by rw [hworked]; exact run.result.result_ne_finalized)
  obtain ⟨s', hreached, hnone⟩ := reached_of_conclude ((key_congr hbody).trans hkey) hstored₁
    hmarked ((deleting_congr hbody).trans hlive) hrun rfl hstatus.symm
  rw [hattend]
  simp only [hworked, hstate']
  exact ⟨s', run.result, hreached, hnone⟩

end Pass

end EventWiring
