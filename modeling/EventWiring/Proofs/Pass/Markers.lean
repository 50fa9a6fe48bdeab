import EventWiring.Proofs.Pass.Released
import EventWiring.Proofs.Pass.Survey
import EventWiring.Proofs.World.Life

/-!
# The finalizers of others

A pass replaces the whole list of finalizers by one that it makes from its copy. When its copy is
current it puts the marker at the end of the list or takes it off the head (`Remarked`), however
calls fail and whatever else others do at the same time. So the finalizers of others stay
(`foreign_finalizers_kept`).
-/

namespace EventWiring

open Program (Course Exchange Obeys)

/-! ## Lists of finalizers -/

/-- The finalizers that others put on. -/
def foreign (markers : List String) : List String := markers.filter (· ≠ Scheduler.marker)

/-- The marker is put on last, or taken off from the head. -/
inductive Remarks : List String → List String → Prop
  | same (markers : List String) : Remarks markers markers
  | appended (markers : List String) : Scheduler.marker ∉ markers →
    Remarks markers (markers ++ [Scheduler.marker])
  | dropped (rest : List String) : Remarks (Scheduler.marker :: rest) rest

namespace Remarks

variable {before after : List String}

theorem foreign_eq (h : Remarks before after) : foreign after = foreign before := by
  cases h <;> simp [foreign]

theorem count_le_one (h : Remarks before after) (hbefore : before.count Scheduler.marker ≤ 1) :
    after.count Scheduler.marker ≤ 1 := by
  cases h with
  | same => exact hbefore
  | appended _ hnew => simp [List.count_eq_zero_of_not_mem hnew]
  | dropped => exact Nat.le_trans List.count_le_count_cons hbefore

/-- The marker does not get past a finalizer of others. -/
theorem behind {front back : List String} (h : Remarks before after)
    (hbefore : before = front ++ Scheduler.marker :: back) (hfront : foreign front ≠ []) :
    ∃ front', after = front' ++ Scheduler.marker :: back ∧ front' <:+ front ∧
      foreign front' = foreign front := by
  cases h with
  | same => exact ⟨front, hbefore, List.suffix_rfl, rfl⟩
  | appended _ hnew => exact absurd (hbefore ▸ by simp) hnew
  | dropped =>
    cases front with
    | nil => exact absurd rfl hfront
    | cons first front =>
      obtain ⟨rfl, rfl⟩ := List.cons.inj hbefore
      exact ⟨front, rfl, List.suffix_cons _ _, by simp [foreign]⟩

end Remarks

/-! ## What is stored -/

namespace Stores

/-- The finalizers of the scheduler under the key, if it is stored. -/
def markers? (key : Key) (st : Stores) : Option (List String) :=
  (st.schedulers.get? key).map (·.metadata.markers)

/-- The finalizers of the scheduler under the key are left alone, whatever else changes. -/
def KeepsMarkers (key : Key) (st st' : Stores) : Prop := st'.markers? key = st.markers? key

variable {key : Key} {st st' : Stores} {t : Trouble} {c : Call} {reply : c.Answer}
  {markers : List String}

/-- Reports, pods and the request to delete the scheduler come without finalizers. -/
theorem Stirred.keepsMarkers (h : st.Stirred key st') : KeepsMarkers key st st' := by
  unfold KeepsMarkers markers?
  obtain hsame | ⟨s, time, version, hstored, -, hdoomed⟩ := h.scheduler
  · rw [hsame]
  · rw [hstored, hdoomed]
    rfl

/-- A patch is the only call that changes finalizers, and it replaces them all. -/
theorem Gives.markers? (h : st.Gives t c reply st') (hmarkers : st.markers? key = some markers) :
    st'.markers? key = some markers ∨ ∃ space name patch, c = .patchScheduler space name patch ∧
      st'.markers? key = some patch.finalizers := by
  obtain ⟨s, hs, rfl⟩ := Option.map_eq_some_iff.1 hmarkers
  obtain ⟨s', hs', hrewrites⟩ := h.rewrites hs
  unfold Stores.markers?
  rw [hs']
  cases hrewrites with
  | same => exact .inl rfl
  | patched => exact .inr ⟨_, _, _, rfl, rfl⟩
  | updated => exact .inl rfl

end Stores

/-- Reads of the scheduler tell what is stored, and others leave its finalizers alone. -/
def Setting.current (t : Trouble) (key : Key) : Setting := ⟨t, False, Stores.KeepsMarkers key⟩

namespace Pass

variable {t : Trouble} {key : Key} {p : Pass} {s s₀ : Scheduler} {st st₀ st₁ mid : Stores}
  {log pre rest : List Exchange} {before after : List String} {text : String}
  {q : Program (Except Error Unit)}

/-! ## What a pass does -/

section

variable (p) (s) (log)

/-- What a pass makes of the finalizers of the scheduler that it found, and what it needs to have
done before. -/
inductive Remarked : List String → Prop
  | appended : s.metadata.deleting = false → Scheduler.marker ∉ s.metadata.markers →
    Remarked (s.metadata.markers ++ [Scheduler.marker])
  | dropped (rest : List String) : s.metadata.deleting = true →
    s.metadata.markers = Scheduler.marker :: rest → NotificationGone p s log →
    DependentGone .topic s log → DependentGone .pullSubscription s log → Remarked rest

/-- The call makes nothing else of the finalizers. -/
def Remarking : Call → Prop
  | .patchScheduler _ _ patch => Remarked p s log patch.finalizers
  | _ => True

variable (t) (key) (st) (before)

/-- What a pass that was begun on `st` makes of the finalizers that are stored. -/
inductive Leaves : List String → Prop
  | untouched : Leaves before
  | remarked (found : Scheduler) (after : List String) :
    (Setting.current t key).Reads key st log found → found.metadata.markers = before →
    Remarked p found log after → Leaves after

end

theorem Remarked.remarks (h : Remarked p s log after) : Remarks s.metadata.markers after := by
  cases h with
  | appended _ hnew => exact .appended _ hnew
  | dropped rest _ hmarkers =>
    rw [hmarkers]
    exact .dropped after

theorem Remarked.mono {log' : List Exchange} (h : Remarked p s log after)
    (hlog : ∀ x ∈ log, x ∈ log') : Remarked p s log' after := by
  cases h with
  | appended hlive hnew => exact .appended hlive hnew
  | dropped rest hdeleting hmarkers hgone htopic hsubscription =>
    exact .dropped _ hdeleting hmarkers (hgone.mono hlog) (htopic.mono hlog)
      (hsubscription.mono hlog)

theorem Leaves.remarks (h : Leaves t key p st log before after) : Remarks before after := by
  cases h with
  | untouched => exact .same before
  | remarked found _ _ hbefore hremarked => exact hbefore ▸ hremarked.remarks

theorem remarking_attend : Obeys (Remarking p s) log (p.attend s) := by
  have hlook : ∀ log (c : Call), c.looks → Remarking p s log c := fun _ c _ => by
    cases c <;> trivial
  cases hdeleting : s.metadata.deleting with
  | false =>
    refine obeys_attend_live hdeleting (fun _ _ => trivial) (fun log patch hadd => ?_)
      (fun _ _ _ => obeys_survey hlook fun _ _ _ _ _ => trivial) fun _ _ => trivial
    have hnew : Scheduler.marker ∉ s.metadata.markers := fun hmem => by
      rw [Scheduler.addMarker?_eq_none.2 hmem] at hadd
      cases hadd
    show Remarked p s log patch.finalizers
    rw [Scheduler.finalizers_of_addMarker? hadd]
    exact .appended hdeleting hnew
  | true =>
    refine obeys_attend_deleting hdeleting (fun _ _ => trivial)
      (fun _ => obeys_undoNotification hlook fun _ _ _ => trivial) (fun _ _ => trivial)
      (fun _ _ _ => trivial)
      (fun _ patch hgone htopic hsubscription hremove => ?_) fun _ _ _ _ _ => trivial
    exact .dropped _ hdeleting (Scheduler.removeMarker?_eq_some hremove).1 hgone htopic
      hsubscription

/-- Wherever a pass gets with the scheduler that it found, the list is as it was found or as the
pass has remarked it. -/
theorem remarked_of_attend (log : List Exchange) (hmarkers : st.markers? key = some s.metadata.markers)
    (h : Course (.current t key) st (p.attend s) rest mid q) :
    ∃ after, mid.markers? key = some after ∧
      (after = s.metadata.markers ∨ Remarked p s (log ++ rest) after) := by
  have hobeys : Obeys (Remarking p s) log (p.attend s) := remarking_attend
  refine h.keeps (I := fun log mid => ∃ after, mid.markers? key = some after ∧
    (after = s.metadata.markers ∨ Remarked p s log after)) hobeys
    (fun {log c reply mid mid'} hc hanswers hmid => ?_) (fun hsame hmid => ?_)
    ⟨_, hmarkers, .inl rfl⟩
  · obtain ⟨after, hafter, hremarked⟩ := hmid
    have hmono : ∀ {after}, Remarked p s log after →
        Remarked p s (log ++ [⟨c, reply⟩]) after :=
      fun h => h.mono fun x hx => List.mem_append_left _ hx
    cases hanswers with
    | dated _ hdated => exact hdated.elim
    | given hgives =>
      rcases hgives.markers? hafter with hkept | ⟨space, name, patch, rfl, hpatched⟩
      · exact ⟨after, hkept, hremarked.imp_right hmono⟩
      · exact ⟨_, hpatched, .inr (hmono hc)⟩
  · obtain ⟨after, hafter, hremarked⟩ := hmid
    exact ⟨after, hsame.trans hafter, hremarked⟩

theorem leaves_of_reconcile (htext : Key.parse text = .ok key)
    (hbefore : st.markers? key = some before)
    (h : Course (.current t key) st (p.reconcile text) pre mid q) :
    ∃ after, mid.markers? key = some after ∧ Leaves t key p st pre before after := by
  have hdrifts : ∀ {st' : Stores}, (Setting.current t key).Drifts st st' →
      st'.markers? key = some before := fun hdrifts =>
    hdrifts.keeps (I := fun mid => mid.markers? key = some before)
      (fun hsame hmid => hsame.trans hmid) hbefore
  obtain ⟨hidle, -⟩ | ⟨read, found, rest, rfl, hidle, hread, hattend⟩ := h.of_reconcile htext
  · exact ⟨before, hdrifts hidle, .untouched⟩
  have hfound : read.schedulers.get? key = some found := hread.resolve_right id
  obtain rfl : found.metadata.markers = before := by
    have hnow := hdrifts hidle
    rw [Stores.markers?, hfound] at hnow
    exact Option.some.inj hnow
  obtain ⟨after, hafter, hremarked⟩ := remarked_of_attend
    [⟨.getScheduler key.space key.name, .ok (some found)⟩] (hdrifts hidle) hattend
  refine ⟨after, hafter, ?_⟩
  rcases hremarked with rfl | hremarked
  · exact .untouched
  · exact .remarked found after ⟨List.mem_cons_self, read, hidle, hfound⟩ rfl hremarked

/-! ## Lives -/

/-- Whatever calls fail, and whatever others do at any time but change the list of finalizers, a
pass does no more to that list than to append the marker for a live scheduler without it, or to drop
it from the head for a deleting one once all is undone. So the finalizers of others stay what they
were in the beginning, in their order and as often as they occurred; no pass puts on a marker twice;
and a marker behind a finalizer of others stays behind it. -/
theorem foreign_finalizers_kept (hstored : st₀.schedulers.get? key = some s₀)
    (hlife : Life (.current t key) key st₀ log st₁) (htext : Key.parse text = .ok key)
    (hpass : Course (.current t key) st₁ (p.reconcile text) pre mid q) :
    ∃ before after, st₁.markers? key = some before ∧ mid.markers? key = some after ∧
      Leaves t key p st₁ pre before after ∧ foreign after = foreign s₀.metadata.markers ∧
      (before.count Scheduler.marker ≤ 1 → after.count Scheduler.marker ≤ 1) ∧
      ∀ front back, before = front ++ Scheduler.marker :: back → foreign front ≠ [] →
        ∃ front', after = front' ++ Scheduler.marker :: back ∧ front' <:+ front ∧
          foreign front' = foreign front := by
  obtain ⟨before, hbefore, hforeign⟩ : ∃ before, st₁.markers? key = some before ∧
      foreign before = foreign s₀.metadata.markers := by
    refine hlife.keeps (I := fun _ st => ∃ before, st.markers? key = some before ∧
      foreign before = foreign s₀.metadata.markers) ⟨s₀.metadata.markers, ?_, rfl⟩ ?_ ?_
    · rw [Stores.markers?, hstored, Option.map_some]
    · rintro log l mid st' text q p htext hcourse ⟨before, hbefore, hforeign⟩
      obtain ⟨after, hafter, hleaves⟩ := leaves_of_reconcile htext hbefore hcourse
      exact ⟨after, hafter, hleaves.remarks.foreign_eq.trans hforeign⟩
    · rintro log mid mid' hsame ⟨before, hbefore, hforeign⟩
      exact ⟨before, hsame.trans hbefore, hforeign⟩
  obtain ⟨after, hafter, hleaves⟩ := leaves_of_reconcile htext hbefore hpass
  exact ⟨before, after, hbefore, hafter, hleaves, hleaves.remarks.foreign_eq.trans hforeign,
    hleaves.remarks.count_le_one, fun _ _ hsplit hfront => hleaves.remarks.behind hsplit hfront⟩

/-- The sample with a finalizer of others. -/
def guarded : Scheduler := { Scheduler.sample with metadata.finalizers := some ["backup"] }

theorem guarded_foreign_finalizers_kept :
    ∃ log st₁ pre mid q,
      (World.sample guarded).stores.schedulers.get? .sample = some guarded ∧
      Life (.current .failures .sample) .sample (World.sample guarded).stores log st₁ ∧
      Key.parse "media/photos" = .ok .sample ∧
      Course (.current .failures .sample) st₁
        ((Pass.sample "2020-01-01T00:00:00Z").reconcile "media/photos") pre mid q ∧
      st₁.markers? .sample = some ["backup", Scheduler.marker] ∧
      ∃ front, mid.markers? .sample = some (front ++ [Scheduler.marker]) ∧
        foreign front = ["backup"] := by
  obtain ⟨log, hhistory⟩ : Comes .failures .sample (World.sample guarded).stores
    ((passed (World.sample guarded).stores).doom .sample ⟨0, false⟩) :=
      (comes_passed (.start _)).doom _
  have hstored : (World.sample guarded).stores.schedulers.get? .sample = some guarded := rfl
  have hlife : Life (.current .failures .sample) .sample (World.sample guarded).stores log _ :=
    (hhistory.mono fun h => h.keepsMarkers).life
  have htext : Key.parse "media/photos" = .ok .sample := rfl
  have hpass : Course (.current .failures .sample) _
      ((Pass.sample "2020-01-01T00:00:00Z").reconcile "media/photos") _ _ _ :=
    (Stores.ends_run _ ((passed (World.sample guarded).stores).doom .sample ⟨0, false⟩)).course
  obtain ⟨before, after, hbefore, hafter, -, -, -, hbehind⟩ :=
    foreign_finalizers_kept hstored hlife htext hpass
  have hmarked : ((passed (World.sample guarded).stores).doom .sample ⟨0, false⟩).markers? .sample =
      some ["backup", Scheduler.marker] := by decide +kernel
  obtain rfl : ["backup", Scheduler.marker] = before :=
    Option.some.inj (hmarked.symm.trans hbefore)
  obtain ⟨front, rfl, -, hfront⟩ := hbehind ["backup"] [] rfl (by decide)
  exact ⟨log, _, _, _, _, hstored, hlife, htext, hpass, hmarked, front, hafter, hfront⟩

end Pass

end EventWiring
