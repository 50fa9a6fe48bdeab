import EventWiring.Proofs.Pass.Survey

/-!
# The work of a pass

Whoever answers its calls, a pass that gets past the marker ends as what it found says: for a live
scheduler what `survey` found (`work_run_live`), for one that is being deleted what `dismantle`
found (`removal_of_work`). No status but the one that the work computes is stored
(`stored_of_reconcile`).
-/

namespace EventWiring.Pass

open Program (Exchange Obeys Trace)

variable {σ : Type} {answer : (c : Call) → σ → c.Answer × σ} {w : σ} {p : Pass} {found : Scheduler}
  {log : List Exchange}

/-- The work is not held up by the marker: it is not needed, it is there, or it is put on. -/
def PastMarker (answer : (c : Call) → σ → c.Answer × σ) (w : σ) (found : Scheduler) : Prop :=
  found.metadata.deleting = false → ∀ patch, found.addMarker? = some patch → ∃ patched,
    (answer (.patchScheduler found.space found.displayName patch) w).1 = .ok patched

/-- For a live scheduler the work is the survey, after the marker was seen to. -/
theorem work_run_live (hpast : PastMarker answer w found)
    (hlive : found.metadata.deleting = false) :
    ∃ finalizers version l l' g,
      Trace (p.survey found (topicName found (found.status.getD .blank))) l' g ∧
      (∀ x ∈ l, x.call.patches = true) ∧
      ((p.work found).run answer w).exchanges = l ++ l' ∧
      ((p.work found).run answer w).result =
        (g.result, p.settled (remarked found finalizers version) (g.record p)) := by
  obtain ⟨s, hs⟩ := ensureMarker_run (hpast hlive)
  have hmarker := Program.run_trace answer (ensureMarker found) w
  rw [hs] at hmarker
  obtain ⟨finalizers, version, rfl⟩ := remarked_of_ensureMarker hmarker
  have hsurvey := Program.run_trace answer
    (p.survey found (topicName found (found.status.getD .blank)))
    ((ensureMarker found).run answer w).state
  refine ⟨finalizers, version, ((ensureMarker found).run answer w).exchanges, _, _, hsurvey,
    hmarker.obeys (P := (·.patches = true)) (obeys_ensureMarker fun _ _ => rfl), ?_, ?_⟩
  · rw [work_of_live p hlive, Program.exchanges_bind]
    simp only [hs, Program.exchanges_bind]
    exact congrArg _ (List.append_nil _)
  · rw [work_of_live p hlive, Program.result_bind]
    simp only [hs, Program.result_bind]
    rfl

/-- Every call of the work: it looks, creates, deletes and patches, and announces a deletion. -/
theorem obeys_work {P : Call → Prop} (hlook : ∀ c : Call, c.looks = true → P c)
    (hcreate : ∀ d space object, P (.create d space object))
    (hdelete : ∀ d space name, P (.delete d space name))
    (hpatch : ∀ space name patch, P (.patchScheduler space name patch))
    (htell : P (.publish (.deleteRequested found))) :
    Obeys (fun _ c => P c) [] (p.work found) := by
  cases hdeleting : found.metadata.deleting with
  | true =>
    rw [work_of_deleting p hdeleting]
    refine Program.obeys_ask_bind htell fun heard => ?_
    have hdismantle : Obeys (fun _ c => P c) ([] ++ [⟨.publish (.deleteRequested found), heard⟩])
        (p.dismantle found (found.status.getD .blank)) :=
      obeys_dismantle (obeys_undoNotification (fun _ => hlook) fun _ _ _ => hcreate _ _ _)
        (fun _ _ => hdelete _ _ _) (fun _ _ _ => hdelete _ _ _) fun _ _ _ _ _ _ => hpatch _ _ _
    exact hdismantle.bind fun _ _ _ => trivial
  | false =>
    rw [work_of_live p hdeleting]
    refine (obeys_ensureMarker fun _ _ => hpatch _ _ _).bind fun l r _ => ?_
    rcases r with e | marked
    · trivial
    · have hsurvey : Obeys (fun _ c => P c) ([] ++ l)
          (p.survey marked (topicName marked (marked.status.getD .blank))) :=
        obeys_survey (fun _ => hlook) fun _ _ _ _ _ => hcreate _ _ _
      exact hsurvey.bind fun _ _ _ => trivial

/-- The work stores no status. -/
theorem unstored_work {x : Except Error Ending × Scheduler} (h : Trace (p.work found) log x)
    {e : Exchange} (he : e ∈ log) (s : Scheduler) : e.call ≠ .updateStatus s := by
  have hlook : ∀ c : Call, c.looks = true → c ≠ .updateStatus s := by
    rintro c hc rfl
    cases hc
  have hobeys : Obeys (fun _ c => c ≠ .updateStatus s) [] (p.work found) :=
    obeys_work (P := (· ≠ .updateStatus s)) hlook (fun _ _ _ => nofun) (fun _ _ _ => nofun)
      (fun _ _ _ => nofun) nofun
  exact h.obeys hobeys e he

/-- After its work a pass stores the status that this computed, or none, and tells of it. -/
theorem exchanges_of_reconcile {key : String} {k : Key} (hkey : Key.parse key = .ok k)
    (hfound : (answer (.getScheduler k.space k.name) w).1 = .ok (some found)) :
    let worked := (p.work found).run answer (answer (.getScheduler k.space k.name) w).2
    ∃ rest, ((p.reconcile key).run answer w).exchanges =
        ⟨.getScheduler k.space k.name, .ok (some found)⟩ :: (worked.exchanges ++ rest) ∧
      ∀ x ∈ rest, x.call = .updateStatus worked.result.2 ∨ ∃ e, x.call = .publish e := by
  intro worked
  rw [reconcile_run (p := p) hkey hfound]
  refine ⟨((finish found worked.result).run answer worked.state).exchanges,
    congrArg _ (Program.exchanges_bind answer (p.work found) (finish found) _), ?_⟩
  have hfinish := Program.run_trace answer (finish found worked.result) worked.state
  exact hfinish.obeys (P := fun c => c = .updateStatus worked.result.2 ∨ ∃ e, c = .publish e)
    (obeys_finish (fun _ e => .inr ⟨e, rfl⟩) fun _ => .inl rfl)

theorem stored_of_reconcile {key : String} {k : Key} (hkey : Key.parse key = .ok k)
    (hfound : (answer (.getScheduler k.space k.name) w).1 = .ok (some found)) :
    ∀ x ∈ ((p.reconcile key).run answer w).exchanges, ∀ s, x.call = .updateStatus s →
      s = ((p.work found).run answer (answer (.getScheduler k.space k.name) w).2).result.2 := by
  intro x hx s hcall
  obtain ⟨rest, hexchanges, hrest⟩ := exchanges_of_reconcile (p := p) hkey hfound
  rw [hexchanges, List.mem_cons, List.mem_append] at hx
  rcases hx with rfl | hx | hx
  · cases hcall
  · exact absurd hcall (unstored_work (Program.run_trace answer _ _) hx s)
  · rcases hrest x hx with hstore | ⟨e, htell⟩
    · exact Call.updateStatus.inj (hcall.symm.trans hstore)
    · cases hcall.symm.trans htell

end EventWiring.Pass
