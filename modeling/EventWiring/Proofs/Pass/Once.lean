import Mathlib.Data.List.Nodup
import Mathlib.Data.List.Perm.Subperm
import EventWiring.Proofs.Pass.TopicName
import EventWiring.Proofs.World.Life

/-!
# At most one of each

Under which key an object is looked up, created and deleted follows from the identity of the
scheduler, whatever else its copies say. The store refuses to create what is there, so that an
object that was created cannot be created again before it is deleted; and once a pass deletes, all
later copies are on their way out too, and nothing but a job is created any more (`Once`). This
holds though any call may fail, any read may be dated, and others change whatever they do not remove
(`created_at_most_once`).
-/

namespace EventWiring

open Program (Course Exchange Obeys)
open Notification (Action Args)

/-! ## What is planned -/

namespace Identity

/-- All that is ever created for the scheduler. -/
def plan (id : Identity) : List (Dependent × Key) :=
  [(.topic, id.key), (.pullSubscription, id.key), (.job, id.jobKey .create),
    (.job, id.jobKey .delete)]

/-- The object is one that is created for the scheduler. -/
inductive Plans (id : Identity) : (d : Dependent) → d.Object → Prop
  | owned (d : Dependent) (object : d.Object) : d ≠ .job → Key.of (d.metadata object) = id.key →
    Plans id d object
  | job (action : Action) (object : Job) : Key.of object.metadata = id.jobKey action →
    object.variables "ACTION" = [action.name] → Plans id .job object

theorem nodup_plan (id : Identity) : id.plan.Nodup := by
  have hjobs : id.jobKey .create ≠ id.jobKey .delete := fun h =>
    Notification.jobName_create_ne _ (congrArg Key.name h)
  simp [plan, hjobs]

variable {id : Identity} {d : Dependent} {object : d.Object}

theorem Plans.mem_plan (h : id.Plans d object) : (d, Key.of (d.metadata object)) ∈ id.plan := by
  cases h with
  | owned d object hd hkey =>
    rw [hkey]
    cases d <;> simp [plan] at hd ⊢
  | job action object hkey =>
    have hkey : Key.of (Dependent.job.metadata object) = id.jobKey action := hkey
    rw [hkey]
    cases action <;> simp [plan]

end Identity

/-! ## Logs -/

/-- The copy of a scheduler that was read, if any. -/
def Program.Exchange.copy? : Exchange → Option Scheduler
  | ⟨.getScheduler _ _, .ok (some s)⟩ => some s
  | _ => none

/-- What was created, if anything. -/
def Program.Exchange.creation? : Exchange → Option (Dependent × Key)
  | ⟨.create d _ object, .ok _⟩ => some (d, Key.of (d.metadata object))
  | _ => none

/-- The copies of schedulers that were read, in this order. -/
def copies (log : List Exchange) : List Scheduler := log.filterMap (·.copy?)

/-- What was created, in this order. -/
def creations (log : List Exchange) : List (Dependent × Key) := log.filterMap (·.creation?)

namespace Program.Exchange

variable {c : Call} {reply : c.Answer}

theorem copy?_eq_none (hc : ∀ space name, c ≠ .getScheduler space name) :
    copy? ⟨c, reply⟩ = none := by
  cases c with
  | getScheduler space name => exact absurd rfl (hc space name)
  | _ => rfl

theorem creation?_eq_some {x : Exchange} {d : Dependent} {k : Key}
    (h : x.creation? = some (d, k)) : ∃ space object answer,
      x = ⟨.create d space object, .ok answer⟩ ∧ Key.of (d.metadata object) = k := by
  obtain ⟨c, reply⟩ := x
  cases c with
  | create e space object =>
    rcases reply with e | answer
    · cases h
    · cases h
      exact ⟨space, object, answer, rfl, rfl⟩
  | _ => cases h

end Program.Exchange

theorem copies_append (l l' : List Exchange) : copies (l ++ l') = copies l ++ copies l' :=
  List.filterMap_append

theorem creations_append (l l' : List Exchange) :
    creations (l ++ l') = creations l ++ creations l' :=
  List.filterMap_append

theorem copies_concat (log : List Exchange) (x : Exchange) :
    copies (log ++ [x]) = copies log ++ x.copy?.toList := by
  rw [copies_append]
  cases h : x.copy? <;> simp [copies, h]

theorem creations_concat (log : List Exchange) (x : Exchange) :
    creations (log ++ [x]) = creations log ++ x.creation?.toList := by
  rw [creations_append]
  cases h : x.creation? <;> simp [creations, h]

/-- The copies are all of the same scheduler, which once on its way out stays so. -/
structure Consistent (id : Identity) (copies : List Scheduler) : Prop where
  identity : ∀ s ∈ copies, s.metadata.identity = id
  deleting : copies.Pairwise fun s s' => s.metadata.deleting = true → s'.metadata.deleting = true

theorem Consistent.of_append {id : Identity} {l l' : List Scheduler}
    (h : Consistent id (l ++ l')) : Consistent id l where
  identity s hs := h.identity s (List.mem_append_left _ hs)
  deleting := (List.pairwise_append.1 h.deleting).1

/-- The last copy is on its way out if any is. -/
theorem Consistent.deleting_last {id : Identity} {l : List Scheduler} {s s' : Scheduler}
    (h : Consistent id (l ++ [s])) (hs' : s' ∈ l ++ [s]) (hdeleting : s'.metadata.deleting = true) :
    s.metadata.deleting = true := by
  rcases List.mem_append.1 hs' with hbefore | hlast
  · exact (List.pairwise_append.1 h.deleting).2.2 s' hbefore s (List.mem_singleton_self s) hdeleting
  · rwa [← List.mem_singleton.1 hlast]

/-! ## The calls of a pass -/

/-- What a pass may ask for, given the copy that it works on. -/
def Call.Lawful (s : Scheduler) : Call → Prop
  | getScheduler _ _ => False
  | create d _ object => s.metadata.identity.Plans d object ∧
      (s.metadata.deleting = true → d = .job)
  | delete d space name => d ≠ .job ∧ s.metadata.deleting = true ∧ ⟨space, name⟩ = Key.of s.metadata
  | _ => True

namespace Pass

variable {p : Pass} {s : Scheduler} {log : List Exchange}

theorem planned_of_args {action : Action} {projectId : String}
    {topicId notificationId : Option String} {args : Args}
    (h : p.notificationArgs s action projectId topicId notificationId = .ok args) :
    s.metadata.identity.Plans .job args.job := by
  obtain ⟨-, -, rfl, -⟩ := notificationArgs_ok h
  exact .job args.action args.job (jobKey_of_args h).symm (variables_job args).1

/-- What owns an object has a name, so that the stem of one does not count. -/
theorem key_of_owned {α : Type} {make : Metadata → α} (metadata : α → Metadata)
    (hmake : ∀ m, metadata (make m) = m) {o : α} (h : s.ownedMetadata.map make = .ok o) :
    Key.of (metadata o) = s.metadata.identity.key := by
  rw [key_owned metadata hmake h]
  obtain ⟨m, hm, -⟩ := map_eq_ok.1 h
  obtain ⟨owner, howner, -⟩ := map_eq_ok.1 hm
  obtain ⟨name, uid, hname, -⟩ := ownerReference_eq_ok.1 howner
  simp [Identity.key, Metadata.identity, Scheduler.space, Scheduler.displayName, Metadata.space,
    Metadata.displayName, hname]

theorem planned_of_wanted {name : String} {d : Dependent} {object : d.Object}
    (h : p.Wanted s name d object) : s.metadata.identity.Plans d object := by
  cases h with
  | topic _ hobject =>
    exact .owned .topic _ nofun (key_of_owned Topic.metadata (fun _ => rfl) hobject)
  | pullSubscription _ hobject =>
    exact .owned .pullSubscription _ nofun
      (key_of_owned PullSubscription.metadata (fun _ => rfl) hobject)
  | job ids args hargs => exact planned_of_args hargs

theorem lawful_attend : Obeys (fun _ c => c.Lawful s) log (p.attend s) := by
  have hlook : ∀ (_ : List Exchange) (c : Call), c.looks → c.Lawful s := fun _ c _ => by
    cases c <;> trivial
  cases hdeleting : s.metadata.deleting with
  | false =>
    refine obeys_attend_live hdeleting (fun _ _ => trivial) (fun _ _ _ => trivial)
      (fun _ _ _ => obeys_survey hlook fun _ d space object hwanted => ?_) fun _ _ => trivial
    refine ⟨planned_of_wanted hwanted.of_remarked, fun h => ?_⟩
    rw [hdeleting] at h
    cases h
  | true =>
    exact obeys_attend_deleting hdeleting (fun _ _ => trivial)
      (fun _ => obeys_undoNotification hlook fun _ args hargs =>
        ⟨planned_of_args hargs, fun _ => rfl⟩)
      (fun _ _ => ⟨nofun, hdeleting, rfl⟩) (fun _ _ _ => ⟨nofun, hdeleting, rfl⟩)
      (fun _ _ _ _ _ _ => trivial) fun _ _ _ _ _ => trivial

end Pass

/-! ## What was created -/

/-- Others change what they like and remove no dependent. -/
def Stores.KeepsDependents (st st' : Stores) : Prop :=
  ∀ d k, ((st.dependents d).get? k).isSome → ((st'.dependents d).get? k).isSome

/-- Any copy of the scheduler may be dated, and others remove no dependent. -/
def Setting.loose (t : Trouble) : Setting := ⟨t, True, Stores.KeepsDependents⟩

/-- A pass over a copy that is on its way out was begun. -/
def TeardownBegun (log : List Exchange) : Prop := ∃ s ∈ copies log, s.metadata.deleting = true

theorem TeardownBegun.append {log : List Exchange} (h : TeardownBegun log) (l : List Exchange) :
    TeardownBegun (log ++ l) := by
  obtain ⟨s, hs, hdeleting⟩ := h
  refine ⟨s, ?_, hdeleting⟩
  rw [copies_append]
  exact List.mem_append_left _ hs

/-- Whatever was created for the scheduler was planned, was created once, and is still there unless
a teardown was begun. -/
structure Once (id : Identity) (log : List Exchange) (st : Stores) : Prop where
  planned : ∀ d space object answer, ⟨.create d space object, answer⟩ ∈ log → id.Plans d object
  nodup : (creations log).Nodup
  there : ∀ d k, (d, k) ∈ creations log →
    ((st.dependents d).get? k).isSome ∨ d ≠ .job ∧ TeardownBegun log

variable {id : Identity} {log l : List Exchange} {st st' mid : Stores} {t : Trouble}
  {s : Scheduler} {c : Call} {reply : c.Answer} {earlier : List Scheduler}

/-- What is created was not there, and is there then. -/
theorem creation_cases (h : st.Gives t c reply st') :
    Exchange.creation? ⟨c, reply⟩ = none ∨ ∃ d space object, c = .create d space object ∧
      Exchange.creation? ⟨c, reply⟩ = some (d, Key.of (d.metadata object)) ∧
      (st.dependents d).get? (Key.of (d.metadata object)) = none ∧
      ((st'.dependents d).get? (Key.of (d.metadata object))).isSome := by
  cases c with
  | create d space object =>
    obtain ⟨e, rfl, -⟩ | ⟨rfl, habsent, rfl⟩ := h.create
    · exact .inl rfl
    · refine .inr ⟨d, space, object, rfl, rfl, habsent, ?_⟩
      rw [Stores.dependents_setDependents, Store.get?_put]
      rfl
  | _ => exact .inl rfl

/-- A pass changes nothing that is there, and deletes only in a teardown. -/
theorem kept_of_lawful {d : Dependent} {k : Key} {object : d.Object} (hlawful : c.Lawful s)
    (h : st.Gives t c reply st') (hobject : (st.dependents d).get? k = some object) :
    (st'.dependents d).get? k = some object ∨
      (st'.dependents d).get? k = none ∧ d ≠ .job ∧ s.metadata.deleting = true ∧
        k = Key.of s.metadata := by
  refine (h.kept hobject).imp_right ?_
  rintro ⟨rfl, hgone⟩
  obtain ⟨hd, hdeleting, hkey⟩ := hlawful
  exact ⟨hgone, hd, hdeleting, hkey⟩

namespace Once

theorem changed (h : Once id log st) (hkeeps : st.KeepsDependents st') : Once id log st' where
  planned := h.planned
  nodup := h.nodup
  there d k hk := (h.there d k hk).imp_left (hkeeps d k)

/-- Reading a copy creates nothing. -/
theorem read {space name : String} {reply : Except Error (Option Scheduler)} (h : Once id log st) :
    Once id (log ++ [⟨.getScheduler space name, reply⟩]) st := by
  have hsame : creations (log ++ [⟨.getScheduler space name, reply⟩]) = creations log := by
    rw [creations_concat]
    exact List.append_nil _
  refine ⟨fun d space object answer hmem => ?_, hsame ▸ h.nodup, fun d k hk => ?_⟩
  · rcases List.mem_append.1 hmem with hbefore | hnow
    · exact h.planned d space object answer hbefore
    · cases List.mem_singleton.1 hnow
  · exact (h.there d k (hsame ▸ hk)).imp_right fun ⟨hd, hbegun⟩ => ⟨hd, hbegun.append _⟩

/-- What was created before is there after the next call of a pass, or being torn down. -/
theorem there_step (h : Once id log st) (hlast : s ∈ copies log) (hlawful : c.Lawful s)
    (hgives : st.Gives t c reply st') {d : Dependent} {k : Key} (hk : (d, k) ∈ creations log) :
    ((st'.dependents d).get? k).isSome ∨ d ≠ .job ∧ TeardownBegun (log ++ [⟨c, reply⟩]) := by
  rcases h.there d k hk with hsome | ⟨hd, hbegun⟩
  · obtain ⟨object, hobject⟩ := Option.isSome_iff_exists.1 hsome
    obtain hsame | ⟨-, hd, hdeleting, -⟩ := kept_of_lawful hlawful hgives hobject
    · exact .inl (hsame ▸ rfl)
    · have hbegun : TeardownBegun log := ⟨s, hlast, hdeleting⟩
      exact .inr ⟨hd, hbegun.append _⟩
  · exact .inr ⟨hd, hbegun.append _⟩

/-- What is created now was not created before: it would still be there, or no longer be wanted. -/
theorem not_created {d : Dependent} {space : String} {object : d.Object} (h : Once id log st)
    (hcopies : copies log = earlier ++ [s]) (hconsistent : Consistent id (copies log))
    (hlawful : Call.Lawful s (.create d space object))
    (habsent : (st.dependents d).get? (Key.of (d.metadata object)) = none) :
    (d, Key.of (d.metadata object)) ∉ creations log := by
  intro hbefore
  rcases h.there _ _ hbefore with hpresent | ⟨hd, s', hs', hdeleting⟩
  · rw [habsent] at hpresent
    cases hpresent
  · rw [hcopies] at hs' hconsistent
    exact hd (hlawful.2 (hconsistent.deleting_last hs' hdeleting))

/-- The next call of a pass over the last copy that was read. -/
theorem step (h : Once id log st) (hcopies : copies log = earlier ++ [s])
    (hconsistent : Consistent id (copies log)) (hlawful : c.Lawful s)
    (hgives : st.Gives t c reply st') : Once id (log ++ [⟨c, reply⟩]) st' := by
  have hlast : s ∈ copies log := hcopies ▸ List.mem_append_right _ (List.mem_singleton_self s)
  have hplanned : ∀ d space object answer,
      ⟨.create d space object, answer⟩ ∈ log ++ [⟨c, reply⟩] → id.Plans d object := by
    intro d space object answer hmem
    rcases List.mem_append.1 hmem with hbefore | hnow
    · exact h.planned d space object answer hbefore
    · cases List.mem_singleton.1 hnow
      exact hconsistent.identity s hlast ▸ hlawful.1
  have hcreations := creations_concat log ⟨c, reply⟩
  obtain hnone | ⟨d, space, object, rfl, hsome, habsent, hthere⟩ := creation_cases hgives
  · rw [hnone, Option.toList_none, List.append_nil] at hcreations
    refine ⟨hplanned, hcreations ▸ h.nodup, fun d k hk => ?_⟩
    exact h.there_step hlast hlawful hgives (hcreations ▸ hk)
  · rw [hsome, Option.toList_some] at hcreations
    refine ⟨hplanned, ?_, fun e k hk => ?_⟩
    · rw [hcreations, ← List.concat_eq_append, List.nodup_concat]
      exact ⟨h.not_created hcopies hconsistent hlawful habsent, h.nodup⟩
    · rw [hcreations] at hk
      rcases List.mem_append.1 hk with hbefore | hnow
      · exact h.there_step hlast hlawful hgives hbefore
      · cases List.mem_singleton.1 hnow
        exact .inl hthere

/-- A pass over the last copy that was read reads no other. -/
theorem attend {p : Pass} {q : Program (Except Error Unit)} (h : Once id log st)
    (hcopies : copies log = earlier ++ [s]) (hconsistent : Consistent id (copies log))
    (hcourse : Course (.loose t) st (p.attend s) l mid q) : Once id (log ++ l) mid := by
  have hsame : copies (log ++ l) = copies log ∧ Once id (log ++ l) mid := by
    refine hcourse.keeps (I := fun log' st => copies log' = copies log ∧ Once id log' st)
      Pass.lawful_attend (fun {log' c reply mid mid'} hlawful hanswers hmid => ?_)
      (fun hkeeps hmid => ⟨hmid.1, hmid.2.changed hkeeps⟩) ⟨rfl, h⟩
    obtain ⟨hsame, hmid⟩ := hmid
    have hread : ∀ space name, c ≠ .getScheduler space name := by
      rintro space name rfl
      exact hlawful
    refine ⟨?_, hmid.step (hsame.trans hcopies) (hsame ▸ hconsistent) hlawful
      (hanswers.gives hread)⟩
    rw [copies_concat, Exchange.copy?_eq_none hread, hsame]
    exact List.append_nil _
  exact hsame.2

/-- Wherever a pass gets. -/
theorem reconcile {p : Pass} {text : String} {key : Key} {q : Program (Except Error Unit)}
    (h : Once id log st) (htext : Key.parse text = .ok key)
    (hconsistent : Consistent id (copies (log ++ l)))
    (hcourse : Course (.loose t) st (p.reconcile text) l mid q) : Once id (log ++ l) mid := by
  have hdrifts : ∀ {st' : Stores}, (Setting.loose t).Drifts st st' → Once id log st' :=
    fun hdrifts => hdrifts.keeps (I := fun mid => Once id log mid)
      (fun hkeeps hmid => hmid.changed hkeeps) h
  obtain ⟨hidle, -, rfl | ⟨reply, rfl⟩⟩ | ⟨read, found, rest, rfl, hidle, -, hattend⟩ :=
    hcourse.of_reconcile htext
  · rw [List.append_nil]
    exact hdrifts hidle
  · exact (hdrifts hidle).read
  · rw [List.append_cons] at hconsistent ⊢
    rw [copies_append] at hconsistent
    exact (hdrifts hidle).read.attend (copies_append log _) hconsistent.of_append hattend

end Once

variable {id : Identity} {key : Key} {t : Trouble} {st₀ st₁ mid mid' : Stores}
  {log pre : List Exchange} {p : Pass} {text : String} {q : Program (Except Error Unit)}

theorem once_of_life (h : Life (.loose t) key st₀ log st₁)
    (hconsistent : Consistent id (copies log)) : Once id log st₁ := by
  refine h.keeps (I := fun log st => Consistent id (copies log) → Once id log st) ?_ ?_ ?_
    hconsistent
  · exact fun _ => ⟨fun _ _ _ _ h => (nomatch h), List.nodup_nil, fun _ _ h => (nomatch h)⟩
  · intro log l mid st' text q p htext hcourse ih hconsistent
    have hbefore : Consistent id (copies log) := (copies_append log l ▸ hconsistent).of_append
    exact (ih hbefore).reconcile htext hconsistent hcourse
  · exact fun hkeeps ih hconsistent => (ih hconsistent).changed hkeeps

/-- What is there stays as it is when a pass makes its next call, unless a teardown deletes it. -/
theorem kept_of_course {c : Call} {next : c.Answer → Program (Except Error Unit)}
    {reply : c.Answer} (htext : Key.parse text = .ok key)
    (hcourse : Course (.loose t) st₁ (p.reconcile text) pre mid (.call c next))
    (hanswers : (Setting.loose t).Answers mid c reply mid') {d : Dependent} {k : Key}
    {object : d.Object} (hobject : (mid.dependents d).get? k = some object) :
    (mid'.dependents d).get? k = some object ∨ (mid'.dependents d).get? k = none ∧ d ≠ .job ∧
      ∃ s ∈ copies pre, s.metadata.deleting = true ∧ k = Key.of s.metadata := by
  obtain ⟨-, hread, -⟩ | ⟨read, found, rest, rfl, -, -, hattend⟩ := hcourse.of_reconcile htext
  · obtain rfl := hread c rfl
    obtain ⟨rfl, -⟩ := hanswers.getScheduler
    exact .inl hobject
  · have hattended : Obeys (fun _ c => c.Lawful found) [] (p.attend found) := Pass.lawful_attend
    have hlawful : c.Lawful found := (hattend.obeys hattended).1
    have hread : ∀ space name, c ≠ .getScheduler space name := by
      rintro space name rfl
      exact hlawful
    refine (kept_of_lawful hlawful (hanswers.gives hread) hobject).imp_right ?_
    rintro ⟨hgone, hd, hdeleting, hkey⟩
    exact ⟨hgone, hd, found, List.mem_cons_self, hdeleting, hkey⟩

/-- Whatever calls fail, however dated the copies and the dependents are that passes read, and
whatever others change without removing dependents: as long as the copies are all of one scheduler
and none that is on its way out comes before one that is not, at most one topic, one pull
subscription, one job that creates and one job that deletes the notification are created over the
whole life of the scheduler, each under its own key, and nothing else is asked for. What is there a
pass leaves as it is, but for what a teardown deletes. -/
theorem created_at_most_once (hlife : Life (.loose t) key st₀ log st₁)
    (htext : Key.parse text = .ok key)
    (hpass : Course (.loose t) st₁ (p.reconcile text) pre mid q)
    (hconsistent : Consistent id (copies (log ++ pre))) :
    (creations (log ++ pre)).Subperm id.plan ∧ id.plan.Nodup ∧
      (∀ d space object answer, ⟨.create d space object, answer⟩ ∈ log ++ pre →
        id.Plans d object) ∧
      ∀ c next reply mid', q = .call c next → (Setting.loose t).Answers mid c reply mid' →
        ∀ d k object, (mid.dependents d).get? k = some object →
          (mid'.dependents d).get? k = some object ∨
            (mid'.dependents d).get? k = none ∧ d ≠ .job ∧
              ∃ s ∈ copies pre, s.metadata.deleting = true ∧ k = Key.of s.metadata := by
  have hbefore : Consistent id (copies log) := (copies_append log pre ▸ hconsistent).of_append
  have honce : Once id (log ++ pre) mid :=
    (once_of_life hlife hbefore).reconcile htext hconsistent hpass
  refine ⟨honce.nodup.subperm ?_, id.nodup_plan, honce.planned, ?_⟩
  · rintro ⟨d, k⟩ hk
    obtain ⟨x, hx, hcreation⟩ := List.mem_filterMap.1 hk
    obtain ⟨space, object, answer, rfl, rfl⟩ := Exchange.creation?_eq_some hcreation
    exact (honce.planned d space object (.ok answer) hx).mem_plan
  · rintro c next reply mid' rfl hanswers d k object hobject
    exact kept_of_course htext hpass hanswers hobject

/-- The world of the sample after a pass, where reads find the scheduler as it was before and no
topic. -/
def World.dated : World where
  stores := Pass.passed (World.sample .sample).stores
  recorder := none
  faults := ⟨[], [], [.topic], [(.sample, some .sample)]⟩

/-- The second pass asks for the topic again, and does not get another one. -/
theorem dated_created_at_most_once :
    ∃ log pre mid q,
      Life (.loose World.dated.faults.trouble) .sample (World.sample .sample).stores log
        World.dated.stores ∧
      Key.parse "media/photos" = .ok .sample ∧
      Course (.loose World.dated.faults.trouble) World.dated.stores
        ((Pass.sample "2020-01-01T00:00:00Z").reconcile "media/photos") pre mid q ∧
      copies (log ++ pre) = [.sample, .sample] ∧ creations log = [(.topic, .sample)] ∧
      (creations (log ++ pre)).Subperm Scheduler.sample.metadata.identity.plan := by
  have htext : Key.parse "media/photos" = .ok .sample := rfl
  have hends := Stores.ends_run (t := World.dated.faults.trouble)
    ((Pass.sample "2020-01-01T00:00:00Z").reconcile "media/photos") (World.sample .sample).stores
  have hlife : Life (.loose World.dated.faults.trouble) .sample (World.sample .sample).stores _
      World.dated.stores := .pass _ .start htext hends.course
  have hpass : Course (.loose World.dated.faults.trouble) World.dated.stores
      ((Pass.sample "2020-01-01T00:00:00Z").reconcile "media/photos") _ _ _ :=
    World.course_run _ World.dated
  have hcopies : copies (([] ++
      (((Pass.sample "2020-01-01T00:00:00Z").reconcile "media/photos").run Stores.answer
        (World.sample .sample).stores).exchanges) ++
      (World.dated.run
        ((Pass.sample "2020-01-01T00:00:00Z").reconcile "media/photos")).exchanges) =
      [.sample, .sample] := by decide +kernel
  have hconsistent : Consistent Scheduler.sample.metadata.identity [.sample, .sample] :=
    ⟨by simp, by simp⟩
  rw [← hcopies] at hconsistent
  obtain ⟨hsubperm, -⟩ := created_at_most_once hlife htext hpass hconsistent
  exact ⟨_, _, _, _, hlife, htext, hpass, hcopies, by decide +kernel, hsubperm⟩

end EventWiring
