import EventWiring.Controller
import EventWiring.Proofs.Pass.Progress

/-!
# What keys address

The text of a key is a name, or a namespace and a name with the only slash between them
(`Key.Spelled`). No other text is taken for a key, so work that is queued for a scheduler finds the
object that is stored as this scheduler, and work on what is no key or is not there does nothing
(`Key.work_addressed`).
-/

namespace EventWiring

/-! ## Splitting -/

namespace Text

variable {c : Char} {cs a b : List Char}

theorem splitOn_eq_singleton_iff : splitOn c cs = [a] ↔ c ∉ cs ∧ a = cs := by
  constructor
  · intro h
    have hjoined := joinWith_splitOn c cs
    rw [h] at hjoined
    obtain rfl : a = cs := hjoined
    exact ⟨not_mem_of_mem_splitOn (h ▸ List.mem_singleton_self a), rfl⟩
  · rintro ⟨hc, rfl⟩
    exact splitOn_of_not_mem hc

theorem splitOn_eq_pair_iff : splitOn c cs = [a, b] ↔ c ∉ a ∧ c ∉ b ∧ cs = a ++ c :: b := by
  constructor
  · intro h
    have hjoined := joinWith_splitOn c cs
    rw [h] at hjoined
    exact ⟨not_mem_of_mem_splitOn (h ▸ List.mem_cons_self),
      not_mem_of_mem_splitOn (h ▸ List.mem_cons_of_mem _ (List.mem_singleton_self b)),
      hjoined.symm⟩
  · rintro ⟨ha, hb, rfl⟩
    rw [splitOn_append ha, splitOn_of_not_mem hb]

end Text

namespace Key

variable {text : String} {k : Key}

/-! ## Spelling -/

/-- The text has at most one slash, and the name behind it. -/
def Spelled (text : String) (k : Key) : Prop :=
  k.name ≠ "" ∧
    (text.toList.count '/' = 0 ∧ k.space = "" ∧ text = k.name ∨
      text.toList.count '/' = 1 ∧ text = k.space ++ "/" ++ k.name)

theorem spelled_iff : Spelled text k ↔ k.name ≠ "" ∧
    (Text.splitOn '/' text.toList = [k.name.toList] ∧ k.space = "" ∨
      Text.splitOn '/' text.toList = [k.space.toList, k.name.toList]) := by
  refine and_congr_right fun _ => or_congr ?_ ?_
  · rw [Text.splitOn_eq_singleton_iff, List.count_eq_zero, String.toList_inj, and_assoc]
    exact and_congr_right fun _ => and_comm.trans (and_congr_left fun _ => eq_comm)
  · rw [Text.splitOn_eq_pair_iff]
    have htext : text = k.space ++ "/" ++ k.name ↔
        text.toList = k.space.toList ++ '/' :: k.name.toList := by
      rw [← String.toList_inj]
      simp
    rw [htext]
    constructor
    · rintro ⟨hcount, hsplit⟩
      -- the slash between them is the only one
      rw [hsplit, List.count_append, List.count_cons_self] at hcount
      exact ⟨List.count_eq_zero.1 (by omega), List.count_eq_zero.1 (by omega), hsplit⟩
    · rintro ⟨hspace, hname, hsplit⟩
      refine ⟨?_, hsplit⟩
      rw [hsplit, List.count_append, List.count_cons_self, List.count_eq_zero.2 hspace,
        List.count_eq_zero.2 hname]

theorem parse_cases (text : String) : (∃ k, parse text = .ok k ∧ Spelled text k) ∨
    parse text = .error (.invalidKey text) := by
  unfold parse
  split
  · next name hsplit =>
    split
    · exact .inr rfl
    · next hname =>
      refine .inl ⟨_, rfl, spelled_iff.2 ⟨mt String.ofList_eq_empty_iff.1 hname, .inl ⟨?_, rfl⟩⟩⟩
      rw [hsplit, String.toList_ofList]
  · next space name hsplit =>
    split
    · exact .inr rfl
    · next hname =>
      refine .inl ⟨_, rfl, spelled_iff.2 ⟨mt String.ofList_eq_empty_iff.1 hname, .inr ?_⟩⟩
      rw [hsplit, String.toList_ofList, String.toList_ofList]
  · exact .inr rfl

theorem parse_ok_iff : parse text = .ok k ↔ Spelled text k := by
  constructor
  · intro h
    rcases parse_cases text with ⟨k', hk', hspelled⟩ | herror
    · rw [hk'] at h
      exact Except.ok.inj h ▸ hspelled
    · rw [herror] at h
      cases h
  · intro h
    obtain ⟨hname, ⟨hsplit, hspace⟩ | hsplit⟩ := spelled_iff.1 h
    all_goals
      have hchars : k.name.toList ≠ [] := mt String.toList_eq_nil_iff.1 hname
      unfold parse
      rw [hsplit]
      simp [hchars]
    rw [← hspace]

/-- What is no key is refused as such. -/
theorem parse_error_iff {e : Error} :
    parse text = .error e ↔ e = .invalidKey text ∧ ∀ k, ¬ Spelled text k := by
  rcases parse_cases text with ⟨k, hk, hspelled⟩ | herror
  · rw [hk]
    exact iff_of_false nofun fun h => h.2 k hspelled
  · rw [herror]
    refine ⟨fun h => ⟨(Except.error.inj h).symm, fun k hk => ?_⟩, fun h => by rw [h.1]⟩
    rw [parse_ok_iff.2 hk] at herror
    cases herror

end Key

/-! ## Looking up -/

/-- The name is there, and no slash gets in the way of the key. -/
structure Metadata.Addressable (m : Metadata) : Prop where
  named : m.displayName ≠ ""
  name : '/' ∉ m.displayName.toList
  space : ∀ space, m.space? = some space → '/' ∉ space.toList

theorem Key.parse_queued_of_addressable {m : Metadata} (h : m.Addressable) :
    parse (queued m) = .ok (of m) := by
  refine parse_queued ?_ h.name h.named
  unfold Metadata.space
  cases hspace : m.space? with
  | none => exact List.not_mem_nil
  | some space => exact h.space space hspace

namespace Pass

variable {σ : Type} {answer : (c : Call) → σ → c.Answer × σ} {w w' : σ} {p : Pass} {text : String}

/-- A text that is no key is work that is done. -/
theorem reconcile_run_refused {e : Error} (h : Key.parse text = .error e) :
    (p.reconcile text).run answer w = ⟨.ok (), [], w⟩ := by
  unfold reconcile
  rw [h]
  rfl

/-- A scheduler that is gone leaves nothing to do. -/
theorem reconcile_run_absent {k : Key} (hkey : Key.parse text = .ok k)
    (habsent : answer (.getScheduler k.space k.name) w = (.ok none, w')) :
    (p.reconcile text).run answer w =
      ⟨.ok (), [⟨.getScheduler k.space k.name, .ok none⟩], w'⟩ := by
  rw [reconcile_eq p hkey, Program.run_ask_bind habsent]
  rfl

end Pass

/-! ## Work -/

namespace Key

/-- A key is what is spelled like one. What a scheduler queues is looked up where the stores keep
this scheduler. And whoever answers the calls of a pass, over what is no key it makes none, and over
what is not there it makes none but the look. -/
theorem work_addressed :
    (∀ text k, parse text = .ok k ↔ Spelled text k) ∧
    (∀ text e, parse text = .error e ↔ e = .invalidKey text ∧ ∀ k, ¬ Spelled text k) ∧
    (∀ (c : Controller) (s : Scheduler), s.metadata.Addressable →
      parse (queued s.metadata) = .ok ⟨s.space, s.displayName⟩ ∧
      (c.trigger s).call? = some (.getScheduler s.space s.displayName) ∧
      ∀ (st : Stores) (k : Key), (st.putScheduler s).schedulers.get? k =
        if k = ⟨s.space, s.displayName⟩ then some s else st.schedulers.get? k) ∧
    ∀ {σ : Type} (answer : (c : Call) → σ → c.Answer × σ) (p : Pass) (text : String) (w w' : σ),
      ((∃ e, parse text = .error e) → (p.reconcile text).run answer w = ⟨.ok (), [], w⟩) ∧
      ∀ k, parse text = .ok k → answer (.getScheduler k.space k.name) w = (.ok none, w') →
        (p.reconcile text).run answer w =
          ⟨.ok (), [⟨.getScheduler k.space k.name, .ok none⟩], w'⟩ := by
  refine ⟨fun _ _ => parse_ok_iff, fun _ _ => parse_error_iff, fun c s hs => ?_,
    fun answer p text w w' => ⟨?_, fun k => Pass.reconcile_run_absent⟩⟩
  · have hparse := parse_queued_of_addressable hs
    refine ⟨hparse, ?_, fun st k => ?_⟩
    · unfold Controller.trigger
      rw [Pass.reconcile_eq c.pass hparse]
      rfl
    · split
      · next hk => exact hk ▸ Store.get?_put _ s _
      · next hk => exact Store.get?_put_of_ne hk s _
  · rintro ⟨e, he⟩
    exact Pass.reconcile_run_refused he

/-- A scheduler of the empty namespace, whose name is yet to be generated. -/
theorem nameless_work_addressed :
    let s : Scheduler :=
      { Scheduler.sample with metadata := { generateName := some "früh-", space? := some "" } }
    let c : Controller := ⟨.sample "2020-01-01T00:00:00Z", .ofSeconds 10, .ofSeconds 300⟩
    let w := World.sample s
    s.metadata.Addressable ∧ queued s.metadata = "/früh-" ∧
      parse "/früh-" = .ok ⟨"", "früh-"⟩ ∧
      (c.trigger s).call? = some (.getScheduler "" "früh-") ∧
      w.stores.schedulers.get? ⟨"", "früh-"⟩ = some s ∧
      parse "media/photos/2" = .error (.invalidKey "media/photos/2") ∧
      w.run (c.pass.reconcile "media/photos/2") = ⟨.ok (), [], w⟩ ∧
      World.answer (.getScheduler "media" "photos") w = (.ok none, w) ∧
      w.run (c.pass.reconcile "media/photos") =
        ⟨.ok (), [⟨.getScheduler "media" "photos", .ok none⟩], w⟩ := by
  intro s c w
  obtain ⟨hok, herror, hqueued, hidle⟩ := work_addressed
  have hs : s.metadata.Addressable := by
    refine ⟨by decide, by decide, ?_⟩
    rintro space ⟨⟩
    decide
  obtain ⟨hparse, hcall, hkept⟩ := hqueued c s hs
  have hrefused : parse "media/photos/2" = .error (.invalidKey "media/photos/2") := rfl
  have habsent : World.answer (.getScheduler "media" "photos") w = (.ok none, w) := rfl
  refine ⟨hs, rfl, hparse, hcall, (hkept .empty _).trans (if_pos rfl), hrefused, ?_, habsent, ?_⟩
  · exact (hidle World.answer c.pass _ w w).1 ⟨_, hrefused⟩
  · exact (hidle World.answer c.pass _ w w).2 ⟨"media", "photos"⟩ rfl habsent

end Key

end EventWiring
