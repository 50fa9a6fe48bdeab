import EventWiring.Notification.Report
import EventWiring.Proofs.Json.Printed

/-!
# Reports and their messages

A message that fits is read back as the report it was made of, whatever its texts are: texts that
were left out come back empty, and every escape is undone (`message_round_trip`). A message that
does not fit is never written.
-/

namespace EventWiring.Notification.Report

open Json (Decoder Fields Members)

theorem values_textMember (name other text : String) : (textMember other text).values name =
    if other = name then (if text = "" then [] else [.string text]) else [] := by
  unfold textMember
  by_cases htext : text = "" <;> simp [htext, Members.values_nil, Members.values_cons]

/-- A text that was left out is read as empty. -/
theorem fills_textMember (text : String) :
    Decoder.string.Fills false (.default "") (if text = "" then [] else [.string text]) text := by
  by_cases h : text = ""
  · rw [if_pos h, h]
    exact Decoder.fills_nil.2 rfl
  · rw [if_neg h]
    exact Decoder.fills_singleton.2 rfl

theorem ofJson_toJson (r : Report) : decoder.ofJson r.toJson = some r := by
  refine (Decoder.ofJson_record_eq_some (by decide)).2
    ⟨(r.success, r.error, r.notificationId, r.projectId, ()), ?_, rfl⟩
  simp [Fields.Takes, Members.values_append, Members.values_cons, values_textMember,
    fills_textMember, Decoder.fills_singleton, Decoder.bool]

theorem decode_render (r : Report) : decode r.toJson.render = .ok r := by
  have hfaithful : (Fields.cons "result" Decoder.bool .refused <|
      .cons "error" Decoder.string (.default "") <|
      .cons "notificationId" Decoder.string (.default "") <|
      .cons "projectId" Decoder.string (.default "") .nil).Faithful :=
    ⟨Decoder.faithful_bool, Decoder.faithful_string, Decoder.faithful_string,
      Decoder.faithful_string, trivial⟩
  have hknown : ∀ m ∈ r.toJson.members,
      m.1 ∈ ["result", "error", "notificationId", "projectId"] := by
    have htext : ∀ name text m, m ∈ textMember name text → m.1 = name := by
      intro name text m hm
      unfold textMember at hm
      split at hm
      · cases hm
      · rw [List.mem_singleton.1 hm]
    intro m hm
    simp only [toJson, Json.members, List.mem_append, List.mem_singleton] at hm
    rcases hm with ((rfl | hm) | hm) | hm
    · exact List.mem_cons_self
    · simp [htext _ _ m hm]
    · simp [htext _ _ m hm]
    · simp [htext _ _ m hm]
  have hread : decoder.decode r.toJson.render = .ok r :=
    Decoder.decode_render
      (Decoder.reads_record (fun m hm => hfaithful.trusts (hknown m hm)) (ofJson_toJson r))
  simp [decode, hread]

/-- A message is made exactly when the text of the report fits into 4096 bytes; the failure tells
the number of bytes. Whoever gets the message has the report back, or the error that it reports,
and at a place that can be written nothing but the message is left. -/
theorem message_round_trip (r : Report) :
    let text := r.toJson.render
    (∀ message, r.encode = .ok message ↔ message = text ∧ text.utf8ByteSize ≤ 4096) ∧
      (4096 < text.utf8ByteSize →
        r.encode = .error (.resultTooLarge text.utf8ByteSize 4096) ∧
          ∀ place, r.write place = (.error (.resultTooLarge text.utf8ByteSize 4096), place)) ∧
      ∀ message, r.encode = .ok message →
        decode message = .ok r ∧
          decode message >>= outcome = (if r.success then .ok r else .error (.jobReported r.error)) ∧
          ∀ place, (place = .vacant ∨ ∃ old, place = .file old) →
            r.write place = (.ok (), .file message) := by
  intro text
  have hlarge : 4096 < text.utf8ByteSize →
      r.encode = .error (.resultTooLarge text.utf8ByteSize 4096) := fun h => if_pos h
  have hfits : text.utf8ByteSize ≤ 4096 → r.encode = .ok text :=
    fun h => if_neg (Nat.not_lt.2 h)
  have hencode : ∀ message, r.encode = .ok message ↔
      message = text ∧ text.utf8ByteSize ≤ 4096 := by
    intro message
    constructor
    · intro h
      by_cases hsize : text.utf8ByteSize ≤ 4096
      · rw [hfits hsize] at h
        exact ⟨(Except.ok.inj h).symm, hsize⟩
      · rw [hlarge (by omega)] at h
        cases h
    · rintro ⟨rfl, hsize⟩
      exact hfits hsize
  refine ⟨hencode, fun h => ⟨hlarge h, fun place => ?_⟩, fun message h => ?_⟩
  · simp [write, hlarge h]
  · obtain ⟨rfl, -⟩ := (hencode message).1 h
    refine ⟨decode_render r, ?_, ?_⟩
    · rw [decode_render r]
      rfl
    · rintro place (rfl | ⟨old, rfl⟩) <;> simp [write, h, Place.write]

/-- A quote and a line break stand escaped in the message, and empty texts are left out. -/
example : (failed "\"\n" "").encode =
    .ok "\x7b\"result\":false,\"error\":\"\\\"\\n\"\x7d" := by rfl

end EventWiring.Notification.Report
