import EventWiring.Notification.Report
import EventWiring.Proofs.Json.Agreement

/-!
# Reports are read by name

Of the object that a job leaves behind only four members count, wherever they stand and whatever
stands beside them (`Report.read_by_name`): the result, which must be there once, and three texts,
which may be left out. A report is made of these or refused as malformed.
-/

namespace EventWiring.Json.Decoder

variable {j : Json} {vs : List Json}

theorem ofJson_bool_eq_some {b : Bool} : bool.ofJson j = some b ↔ j = .bool b := by
  cases j <;> simp [bool]

theorem ofJson_string_eq_some {s : String} : string.ofJson j = some s ↔ j = .string s := by
  cases j <;> simp [string]

/-- A boolean that must be there. -/
theorem fills_required_bool {b : Bool} :
    bool.Fills false .refused vs b ↔ vs = [.bool b] := by
  constructor
  · intro h
    obtain ⟨-, hnone⟩ | ⟨v, rfl, hv⟩ := h.strict
    · cases hnone
    · rw [ofJson_bool_eq_some.1 hv]
  · rintro rfl
    exact fills_singleton.2 rfl

/-- A text that counts as empty when it is left out. -/
theorem fills_default_string {s : String} :
    string.Fills false (.default "") vs s ↔ vs = [.string s] ∨ vs = [] ∧ s = "" := by
  constructor
  · intro h
    obtain ⟨rfl, hnone⟩ | ⟨v, rfl, hv⟩ := h.strict
    · exact .inr ⟨rfl, (Option.some.inj hnone).symm⟩
    · exact .inl (by rw [ofJson_string_eq_some.1 hv])
  · rintro (rfl | ⟨rfl, rfl⟩)
    · exact fills_singleton.2 rfl
    · exact fills_nil.2 rfl

end EventWiring.Json.Decoder

namespace EventWiring.Notification.Report

open Json (Decoder Fields Members)

variable {ms ms' : Members} {text : String} {r : Report}

/-- The names of the members that count. -/
def names : List String := ["result", "error", "notificationId", "projectId"]

/-- The member stands once, with that text, or it is left out and the text is empty. -/
def HasText (ms : Members) (name text : String) : Prop :=
  ms.values name = [.string text] ∨ ms.values name = [] ∧ text = ""

/-- The members that count make up the report. -/
structure Told (ms : Members) (r : Report) : Prop where
  result : ms.values "result" = [.bool r.success]
  error : HasText ms "error" r.error
  notificationId : HasText ms "notificationId" r.notificationId
  projectId : HasText ms "projectId" r.projectId

theorem ofJson_object : decoder.ofJson (.object ms) = some r ↔ Told ms r := by
  refine (Decoder.ofJson_record_eq_some (by decide)).trans ⟨?_, fun h => ?_⟩
  · rintro ⟨⟨success, error, notificationId, projectId, ⟨⟩⟩, htakes, rfl⟩
    simp only [Fields.Takes, Decoder.fills_required_bool, Decoder.fills_default_string] at htakes
    obtain ⟨hresult, herror, hnotification, hproject, -⟩ := htakes
    exact ⟨hresult, herror, hnotification, hproject⟩
  · refine ⟨(r.success, r.error, r.notificationId, r.projectId, ()), ?_, rfl⟩
    simp only [Fields.Takes, Decoder.fills_required_bool, Decoder.fills_default_string]
    exact ⟨h.result, h.error, h.notificationId, h.projectId, trivial⟩

theorem decode_ok_iff : decode text = .ok r ↔ (decoder.decode text).toOption = some r := by
  unfold decode
  cases decoder.decode text <;> simp [Except.toOption]

theorem decode_writes (h : (Json.object ms).Writes text) : decode text = .ok r ↔ Told ms r := by
  have hread : (decoder.decode text).toOption = decoder.ofJson (.object ms) := by
    refine Decoder.decode_eq_ofJson h fun cs hcs => ?_
    unfold decoder
    refine Decoder.yields_record ?_ _ _ hcs
    exact ⟨Decoder.agrees_bool, Decoder.agrees_string, Decoder.agrees_string,
      Decoder.agrees_string, trivial⟩
  rw [decode_ok_iff, hread, ofJson_object]

theorem malformed_of_refused (h : ∀ r, decode text ≠ .ok r) :
    ∃ m, decode text = .error (.malformedResult m) := by
  unfold decode at h ⊢
  cases hresult : decoder.decode text with
  | ok r =>
    rw [hresult] at h
    exact absurd rfl (h r)
  | error f => exact ⟨_, rfl⟩

/-- Only values of members that count are looked at, and of each name there is one at most. -/
theorem Told.perm (hperm : (ms'.filter (·.1 ∈ names)).Perm (ms.filter (·.1 ∈ names)))
    (h : Told ms r) : Told ms' r := by
  have hvalues : ∀ name ∈ names, (ms'.values name).Perm (ms.values name) := by
    intro name hname
    have hsame : ∀ ns : Members,
        ns.values name = Members.values name (ns.filter (·.1 ∈ names)) := by
      intro ns
      unfold Members.values
      rw [List.filter_filter]
      congr 2
      funext m
      by_cases hm : m.1 = name
      · simp [hm, hname]
      · simp [hm]
    rw [hsame ms', hsame ms]
    exact (hperm.filter _).map _
  have htext : ∀ name ∈ names, ∀ text, HasText ms name text → HasText ms' name text := by
    rintro name hname text (hone | ⟨hnone, rfl⟩)
    · have hvalue := hvalues name hname
      rw [hone] at hvalue
      exact .inl (List.perm_singleton.1 hvalue)
    · have hvalue := hvalues name hname
      rw [hnone] at hvalue
      exact .inr ⟨List.perm_nil.1 hvalue, rfl⟩
  have hresult := hvalues "result" (by decide)
  rw [h.result] at hresult
  exact ⟨List.perm_singleton.1 hresult, htext _ (by decide) _ h.error,
    htext _ (by decide) _ h.notificationId, htext _ (by decide) _ h.projectId⟩

/-- A report is read off an object by name only. Whatever text spells the object, it is the report
that the four members tell, each of which stands at most once, and malformed where they tell none.
The order of the members and all other members count for nothing. -/
theorem read_by_name (h : (Json.object ms).Writes text) :
    (∀ r, decode text = .ok r ↔ Told ms r) ∧
      ((∀ r, ¬ Told ms r) → ∃ m, decode text = .error (.malformedResult m)) ∧
      ∀ ms' text', (Json.object ms').Writes text' →
        (ms'.filter (·.1 ∈ names)).Perm (ms.filter (·.1 ∈ names)) →
        ∀ r, decode text' = .ok r ↔ decode text = .ok r := by
  refine ⟨fun r => decode_writes h, fun hnone => ?_, fun ms' text' h' hperm r => ?_⟩
  · exact malformed_of_refused fun r hr => hnone r ((decode_writes h).1 hr)
  · rw [decode_writes h, decode_writes h']
    exact ⟨.perm hperm.symm, .perm hperm⟩

/-- An object with a member that does not count. -/
def spaced : Members := [("x", .array []), ("result", .bool true)]

/-- One of its texts, with blanks and an escape. -/
def spacedText : String := "\x7b \"x\" :[ ],\n\"r\\u0065sult\": true\x7d\n"

theorem spaced_read_by_name :
    (Json.object spaced).Writes spacedText ∧ decode spacedText = .ok (.succeeded "" "") := by
  have hplain : ∀ c : Char, (c ≠ '"' ∧ c ≠ '\\' ∧ 0x20 ≤ c.toNat) → Json.SpellsChar c [c] :=
    fun _ h => .plain h.1 h.2.1 h.2.2
  have hescape : Json.SpellsChar 'e' ['\\', 'u', '0', '0', '6', '5'] :=
    .unit (.intro (i := 0) (j := 0) (k := 6) (l := 5) rfl rfl rfl rfl) (by decide) (by decide)
  have hx : Json.SpellsChars "x".toList ['x'] := .cons (hplain 'x' (by decide)) .nil
  have hresult : Json.SpellsChars "result".toList
      ['r', '\\', 'u', '0', '0', '6', '5', 's', 'u', 'l', 't'] :=
    .cons (hplain 'r' (by decide)) (.cons hescape (.cons (hplain 's' (by decide))
      (.cons (hplain 'u' (by decide)) (.cons (hplain 'l' (by decide))
        (.cons (hplain 't' (by decide)) .nil)))))
  have hblank : ∀ bs : List Char, bs.all Json.isBlank = true → ∀ b ∈ bs, Json.isBlank b = true :=
    fun _ => List.all_eq_true.1
  have htokens : Json.Spelled (Json.object spaced).tokens
      ("\x7b \"x\" :[ ],\n\"r\\u0065sult\": true\x7d".toList) := by
    refine @Json.Spelled.cons _ _ [] _ _ (hblank _ rfl) (.mark _) ?_
    refine @Json.Spelled.cons _ _ [' '] _ _ (hblank _ rfl) (.string hx) ?_
    refine @Json.Spelled.cons _ _ [' '] _ _ (hblank _ rfl) (.mark _) ?_
    refine @Json.Spelled.cons _ _ [] _ _ (hblank _ rfl) (.mark _) ?_
    refine @Json.Spelled.cons _ _ [' '] _ _ (hblank _ rfl) (.mark _) ?_
    refine @Json.Spelled.cons _ _ [] _ _ (hblank _ rfl) (.mark _) ?_
    refine @Json.Spelled.cons _ _ ['\n'] _ _ (hblank _ rfl) (.string hresult) ?_
    refine @Json.Spelled.cons _ _ [] _ _ (hblank _ rfl) (.mark _) ?_
    refine @Json.Spelled.cons _ _ [' '] _ _ (hblank _ rfl) .true ?_
    exact @Json.Spelled.cons _ _ [] _ _ (hblank _ rfl) (.mark _) .nil
  have hwrites : (Json.object spaced).Writes spacedText :=
    ⟨_, ['\n'], rfl, htokens, hblank _ rfl⟩
  exact ⟨hwrites, ((read_by_name hwrites).1 _).2
    ⟨rfl, .inr ⟨rfl, rfl⟩, .inr ⟨rfl, rfl⟩, .inr ⟨rfl, rfl⟩⟩⟩

end EventWiring.Notification.Report
