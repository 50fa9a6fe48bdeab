import EventWiring.Proofs.Pass.Wired

/-!
# Which pods are listed

The selector of a job finds a pod by its labels: listed are the pods of the namespace that have the
uid and the action, as often and in the order in which they came. So a pod that a job has started is
listed for the uid and the action of its own job alone, and whatever else goes on, a pass reads no
pod but those of the job that it is about (`Pod.listed_by_labels`).
-/

namespace EventWiring

open Notification (Action Args actionLabel podSelector uidLabel)
open Program (Course Exchange Obeys)

/-! ## Labels -/

theorem Notification.Action.name_inj {a b : Action} : a.name = b.name ↔ a = b := by
  cases a <;> cases b <;> decide

namespace Pod

variable {p : Pod} {uid : String} {a : Action} {args : Args}

/-- The labels of the pod give that uid and that action. -/
def LabelledFor (p : Pod) (uid : String) (a : Action) : Prop :=
  p.label? uidLabel = some uid ∧ p.label? actionLabel = some a.name

instance (p : Pod) (uid : String) (a : Action) : Decidable (p.LabelledFor uid a) :=
  inferInstanceAs (Decidable (_ ∧ _))

/-- The pod has the labels that the template of the job prescribes, and may have others. -/
def StartedBy (p : Pod) (job : Job) : Prop :=
  ∃ spec, job.spec = some spec ∧ ∀ e ∈ spec.podLabels.entries, p.label? e.1 = some e.2

theorem labelledFor_of_startedBy (h : p.StartedBy args.job) :
    p.LabelledFor args.uid args.action := by
  obtain ⟨spec, hspec, hlabels⟩ := h
  obtain rfl := Option.some.inj hspec
  change ∀ e ∈ args.labels.entries, _ at hlabels
  rw [args.entries_labels] at hlabels
  exact ⟨hlabels (uidLabel, args.uid) (by simp), hlabels (actionLabel, args.action.name) (by simp)⟩

/-- A pod is labelled for one uid and one action only. -/
theorem LabelledFor.unique {uid' : String} {a' : Action} (h : p.LabelledFor uid a)
    (h' : p.LabelledFor uid' a') : uid' = uid ∧ a' = a :=
  ⟨Option.some.inj (h'.1.symm.trans h.1),
    Notification.Action.name_inj.1 (Option.some.inj (h'.2.symm.trans h.2))⟩

end Pod

/-! ## Listing -/

namespace Stores

variable {st : Stores} {space uid : String} {a : Action} {p : Pod}

theorem listPods_eq_filter (huid : ',' ∉ uid.toList) (st : Stores) (space : String) (a : Action) :
    st.listPods space (podSelector uid a) =
      st.pods.filter fun p => p.metadata.space? = some space ∧ p.LabelledFor uid a := by
  rw [listPods_podSelector st space huid a]
  refine List.filter_congr fun p _ => ?_
  rw [Bool.eq_iff_iff]
  simp only [Bool.and_eq_true, decide_eq_true_iff, and_assoc]
  rfl

theorem mem_listPods (huid : ',' ∉ uid.toList) : p ∈ st.listPods space (podSelector uid a) ↔
    p ∈ st.pods ∧ p.metadata.space? = some space ∧ p.LabelledFor uid a := by
  rw [listPods_eq_filter huid, List.mem_filter, decide_eq_true_iff]

end Stores

/-! ## Reading -/

namespace Pass

variable {pass : Pass} {s : Scheduler} {log : List Exchange}

/-- Pods are listed for the job of a pass over the scheduler. -/
def ListsFor (s : Scheduler) : Call → Prop
  | .listPods space selector =>
    ∃ uid, s.metadata.uid = some uid ∧ space = s.space ∧ selector = podSelector uid s.action
  | _ => True

theorem listsFor_runJob {projectId : String} {topicId notificationId : Option String} {args : Args}
    (hargs : pass.notificationArgs s s.action projectId topicId notificationId = .ok args) :
    Obeys (fun _ => ListsFor s) log (runJob args) := by
  obtain ⟨owner, howner, rfl⟩ := notificationArgs_eq_ok.1 hargs
  obtain ⟨name, uid, -, huid, rfl⟩ := ownerReference_eq_ok.1 howner
  exact obeys_runJob trivial trivial fun _ => ⟨uid, huid, rfl, rfl⟩

theorem listsFor_attend : Obeys (fun _ => ListsFor s) log (pass.attend s) := by
  cases hdeleting : s.metadata.deleting with
  | false =>
    have haction : s.action = .create := by simp [Scheduler.action, hdeleting]
    refine obeys_attend_live hdeleting (fun _ _ => trivial) (fun _ _ _ => trivial)
      (fun log finalizers version => ?_) fun _ _ => trivial
    refine obeys_survey_stages (obeys_ensure trivial fun _ _ => trivial)
      (fun _ => obeys_ensure trivial fun _ _ => trivial) fun l l' ids args _ hargs => ?_
    have hcreation : pass.notificationArgs s s.action ids.projectId (some ids.topicId) none =
        .ok args := haction ▸ hargs
    exact listsFor_runJob hcreation
  | true =>
    have haction : s.action = .delete := by simp [Scheduler.action, hdeleting]
    refine obeys_attend_deleting hdeleting (fun _ _ => trivial) (fun _ => ?_) (fun _ _ => trivial)
      (fun _ _ _ => trivial) (fun _ _ _ _ _ _ => trivial) fun _ _ _ _ _ => trivial
    refine obeys_undoNotification_job fun args _ hargs => ?_
    have hdeletion : pass.notificationArgs s s.action
        (deletionProject s (s.status.getD .blank)) none (some s.recordedId) = .ok args :=
      haction ▸ hargs
    exact listsFor_runJob hdeletion

variable {w : Setting} {st st' : Stores} {q : Program (Except Error Unit)} {text : String}

/-- What a pass is answered when it lists pods is what some stores hold of the job it is about. -/
def Listed (s : Scheduler) (space selector : String) (pods : List Pod) : Prop :=
  ListsFor s (.listPods space selector) ∧ ∃ st : Stores, pods = st.listPods space selector

theorem listed_of_attend (h : Course w st (pass.attend s) log st' q) {space selector : String}
    {pods : List Pod} (hx : ⟨.listPods space selector, .ok pods⟩ ∈ log) :
    Listed s space selector pods := by
  let I : List Exchange → Stores → Prop := fun log _ => ∀ space selector (pods : List Pod),
    ⟨.listPods space selector, .ok pods⟩ ∈ log → Listed s space selector pods
  have hkept : I ([] ++ log) st' := by
    refine h.keeps listsFor_attend (fun {l c reply mid mid'} hc hanswers hl => ?_)
      (fun _ hl => hl) fun _ _ _ hx => nomatch hx
    intro space selector pods hx
    rcases List.mem_append.1 hx with hx | hx
    · exact hl _ _ _ hx
    · cases List.mem_singleton.1 hx
      obtain ⟨-, -, hpods⟩ := (hanswers.gives fun _ _ => nofun).listPods
      exact ⟨hc, mid, hpods _ rfl⟩
  exact hkept _ _ _ hx

/-- Whatever happens in the meantime, a pass lists pods for a scheduler that it has read. -/
theorem listed_of_reconcile (h : Course w st (pass.reconcile text) log st' q)
    {space selector : String} {pods : List Pod}
    (hx : ⟨.listPods space selector, .ok pods⟩ ∈ log) :
    ∃ found ∈ copies log, Listed found space selector pods := by
  cases hkey : Key.parse text with
  | error e =>
    unfold reconcile at h
    rw [hkey] at h
    obtain ⟨rfl, -⟩ := h.of_pure
    cases hx
  | ok key =>
    rcases h.of_reconcile hkey with ⟨-, -, rfl | ⟨reply, rfl⟩⟩ |
      ⟨mid, found, rest, rfl, -, -, hattend⟩
    · cases hx
    · cases List.mem_singleton.1 hx
    · refine ⟨found, List.mem_filterMap.2 ⟨_, List.mem_cons_self, rfl⟩, ?_⟩
      rcases List.mem_cons.1 hx with hx | hx
      · cases hx
      · exact listed_of_attend hattend hx

end Pass

/-! ## Pods -/

/-- Listed are exactly the pods of the namespace with the labels that are asked for, in their order
and each as often as it is there. A pod that a job has started is listed if it is asked for the uid
and the action of that job; and of the pods that jobs have started, a pass reads none but those of
the job for the scheduler that it has read. -/
theorem Pod.listed_by_labels :
    (∀ (st : Stores) (space uid : String) (a : Action), ',' ∉ uid.toList →
      st.listPods space (podSelector uid a) =
        st.pods.filter (fun p => p.metadata.space? = some space ∧ p.LabelledFor uid a) ∧
      ∀ p ∈ st.pods, p.metadata.space? = some space → ∀ args : Args, p.StartedBy args.job →
        (p ∈ st.listPods space (podSelector uid a) ↔ args.uid = uid ∧ args.action = a)) ∧
    ∀ (w : Setting) (st st' : Stores) (pass : Pass) (text : String) (log : List Exchange)
      (q : Program (Except Error Unit)), Course w st (pass.reconcile text) log st' q →
      ∀ space selector pods, ⟨.listPods space selector, .ok pods⟩ ∈ log →
        ∃ found ∈ copies log, ∃ uid, found.metadata.uid = some uid ∧
          (',' ∉ uid.toList → ∀ p ∈ pods, p.metadata.space? = some found.space ∧
            p.LabelledFor uid found.action ∧ ∀ args : Args, p.StartedBy args.job →
              args.uid = uid ∧ args.action = found.action) := by
  refine ⟨fun st space uid a huid => ⟨Stores.listPods_eq_filter huid st space a, ?_⟩, ?_⟩
  · intro p hp hspace args hstarted
    have hlabels := labelledFor_of_startedBy hstarted
    rw [Stores.mem_listPods huid]
    constructor
    · rintro ⟨-, -, hasked⟩
      exact hasked.unique hlabels
    · rintro ⟨rfl, rfl⟩
      exact ⟨hp, hspace, hlabels⟩
  · intro w st st' pass text log q h space selector pods hx
    obtain ⟨found, hfound, ⟨uid, huid, rfl, rfl⟩, held, rfl⟩ := Pass.listed_of_reconcile h hx
    refine ⟨found, hfound, uid, huid, fun hcomma p hp => ?_⟩
    obtain ⟨-, hspace, hlabels⟩ := (Stores.mem_listPods hcomma).1 hp
    exact ⟨hspace, hlabels, fun args hstarted =>
      hlabels.unique (labelledFor_of_startedBy hstarted)⟩

/-- Two attempts of one job, with the pod of the opposite job between them; and a pass over the
sample that reads what its own pod reports. -/
theorem Pod.mixed_listed_by_labels :
    let args : Args := { World.sampleArgs with uid := "7= 8" }
    let own : Pod :=
      { metadata := { space? := some "media", labels := some args.labels }, status := none }
    let other : Pod := { own with metadata.labels := some { args with action := .delete }.labels }
    let st : Stores := { Stores.empty with pods := [own, other, own] }
    let pass := (Pass.sample "2020-01-01T00:00:00Z").reconcile "media/photos"
    let run := pass.run Stores.answer (Pass.creating |> Pass.ended .create (.succeeded "9" ""))
    ',' ∉ args.uid.toList ∧ own.StartedBy args.job ∧
      st.listPods "media" (podSelector args.uid .create) = [own, own] ∧
      other ∉ st.listPods "media" (podSelector args.uid .create) ∧
      ∃ space selector pods, ⟨.listPods space selector, .ok pods⟩ ∈ run.exchanges ∧ pods ≠ [] ∧
        ∃ found ∈ copies run.exchanges, ∃ uid, found.metadata.uid = some uid ∧
          (',' ∉ uid.toList → ∀ p ∈ pods, p.metadata.space? = some found.space ∧
            p.LabelledFor uid found.action ∧ ∀ args : Args, p.StartedBy args.job →
              args.uid = uid ∧ args.action = found.action) := by
  intro args own other st pass run
  obtain ⟨hlisted, hread⟩ := listed_by_labels
  have hcomma : ',' ∉ args.uid.toList := by decide
  have hown : own.StartedBy args.job := ⟨_, rfl, by decide +kernel⟩
  have hother : other.StartedBy { args with action := .delete }.job := ⟨_, rfl, by decide +kernel⟩
  obtain ⟨hfilter, hmem⟩ := hlisted st "media" args.uid .create hcomma
  refine ⟨hcomma, hown, ?_, fun h => ?_, ?_⟩
  · rw [hfilter]
    decide +kernel
  · have hsame := (hmem other (by simp [st]) rfl _ hother).1 h
    exact absurd hsame.2 (by decide)
  · have hcourse : Course ⟨.none, False, fun _ _ => False⟩ _ pass run.exchanges run.state
        (.done run.result) := (Stores.ends_run pass _).course
    have hlog : run.exchanges = [_, _, _, _] ++
        ⟨.listPods "media" (podSelector "7" .create), .ok [Pass.donePod .create _]⟩ :: _ := rfl
    have hx : ⟨.listPods "media" (podSelector "7" .create), .ok [Pass.donePod .create _]⟩ ∈
        run.exchanges := hlog ▸ List.mem_append_right _ List.mem_cons_self
    exact ⟨_, _, _, hx, List.cons_ne_nil _ _, hread _ _ _ _ _ _ _ hcourse _ _ _ hx⟩

end EventWiring
