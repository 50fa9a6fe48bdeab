import EventWiring.Api.Request

/-!
# Requests that can be sent

A request is built if its target can be sent, and one about an object if the object has a name
(`Request.about_ok_iff`). The target of a status write can be sent for all names that a server
allows (`Request.defect?_statusTarget`).
-/

namespace EventWiring.Api

/-! ## Targets -/

def plain (c : Char) : Bool :=
  ('a' ≤ c ∧ c ≤ 'z') ∨ ('0' ≤ c ∧ c ≤ '9') ∨ c = '-' ∨ c = '.'

/-- A name as a server allows it: of small letters, digits, hyphens and dots, and not too long. -/
structure Sendable (name : String) : Prop where
  short : name.utf8ByteSize ≤ 253
  plain : name.toList.all plain = true

namespace Target

theorem inPath_of_plain {c : Char} (h : plain c = true) : inPath c = true := by
  obtain ⟨hlow, hhigh⟩ | ⟨hlow, hhigh⟩ | rfl | rfl := of_decide_eq_true h
  · have hletter : 97 ≤ c.toNat ∧ c.toNat ≤ 122 := ⟨hlow, hhigh⟩
    simp only [inPath, Bool.or_eq_true, Bool.and_eq_true, decide_eq_true_eq]
    omega
  · have hdigit : 48 ≤ c.toNat ∧ c.toNat ≤ 57 := ⟨hlow, hhigh⟩
    simp only [inPath, Bool.or_eq_true, Bool.and_eq_true, decide_eq_true_eq]
    omega
  all_goals decide

theorem ne_of_inPath {c : Char} (h : inPath c = true) : c ≠ '#' ∧ c ≠ '?' := by
  constructor <;> rintro rfl <;> revert h <;> decide

/-- A path with an empty query behind it can be sent, if it is not too long. -/
theorem defect?_of_path {t : Target} {path : List Char} (htext : t.text.toList = path ++ ['?'])
    (hpath : path.all inPath = true) (hsize : t.text.utf8ByteSize ≤ sizeLimit) :
    t.defect? = none := by
  have hstay : ∀ c ∈ path, decide (c ≠ '#') = true ∧ decide (c ≠ '?') = true := fun c hc =>
    (ne_of_inPath (List.all_eq_true.1 hpath c hc)).imp decide_eq_true decide_eq_true
  have hsent : t.sent = path ++ ['?'] := by
    rw [sent, htext, List.takeWhile_append_of_pos fun c hc => (hstay c hc).1]
    rfl
  have hpath' : t.path.toList = path := by
    rw [Target.path, hsent, String.toList_ofList,
      List.takeWhile_append_of_pos fun c hc => (hstay c hc).2]
    exact List.append_nil path
  have hquery : t.query.toList = [] := by
    rw [query, hsent, String.toList_ofList,
      List.dropWhile_append_of_pos fun c hc => (hstay c hc).2]
    rfl
  unfold defect?
  rw [if_neg (Nat.not_lt.2 hsize), hpath', hquery, hpath]
  rfl

end Target

/-! ## Building -/

namespace Request

variable {method : Method} {target : Target} {body : Option Json} {name : String} {r : Request}
  {s : Scheduler}

theorem build_ok_iff : build method target body = .ok r ↔
    target.defect? = none ∧ r = ⟨method, target, body⟩ := by
  unfold build
  cases target.defect? <;> simp [eq_comm]

theorem about_ok_iff : about name method target body = .ok r ↔
    name ≠ "" ∧ target.defect? = none ∧ r = ⟨method, target, body⟩ := by
  unfold about
  by_cases hname : name = ""
  · simp [hname]
  · rw [if_neg hname, build_ok_iff]
    exact (and_iff_right hname).symm

theorem updateStatus_ok_iff : updateStatus s = .ok r ↔
    s.displayName ≠ "" ∧ (statusTarget s).defect? = none ∧
      r = ⟨.patch, statusTarget s, some (statusPatch s)⟩ :=
  about_ok_iff

theorem text_statusTarget : (statusTarget s).text =
    "/apis/events.cloud.run/v1alpha1/namespaces/" ++ s.space ++ "/schedulers/" ++ s.displayName ++
      "/status?" := by
  have hgrouped : '/' ∈ Scheduler.apiVersion.toList := by decide
  have hgroup : "/apis/" ++ Scheduler.apiVersion ++ "/namespaces/" =
      "/apis/events.cloud.run/v1alpha1/namespaces/" := by decide +kernel
  rw [← String.toList_inj]
  simp only [statusTarget, schedulers, Target.objects, Target.below, Target.asking, hgrouped,
    if_true, hgroup, String.toList_append, List.append_assoc]
  rfl

/-- The status of a scheduler can be written if its names are those that a server allows. -/
theorem defect?_statusTarget (hspace : Sendable s.space) (hname : Sendable s.displayName) :
    (statusTarget s).defect? = none := by
  have htext : (statusTarget s).text.toList =
      ("/apis/events.cloud.run/v1alpha1/namespaces/".toList ++ s.space.toList ++
        "/schedulers/".toList ++ s.displayName.toList ++ "/status".toList) ++ ['?'] := by
    rw [text_statusTarget]
    simp only [String.toList_append, List.append_assoc]
    rfl
  have hplain {name : String} (h : Sendable name) : name.toList.all Target.inPath = true :=
    List.all_eq_true.2 fun c hc => Target.inPath_of_plain (List.all_eq_true.1 h.plain c hc)
  have hfixed : "/apis/events.cloud.run/v1alpha1/namespaces/".toList.all Target.inPath = true ∧
      "/schedulers/".toList.all Target.inPath = true ∧
      "/status".toList.all Target.inPath = true := by decide
  refine Target.defect?_of_path htext ?_ ?_
  · simp only [List.all_append, hfixed, hplain hspace, hplain hname, Bool.and_self]
  · have hspaceShort := hspace.short
    have hnameShort := hname.short
    have hsizes : "/apis/events.cloud.run/v1alpha1/namespaces/".utf8ByteSize = 43 ∧
        "/schedulers/".utf8ByteSize = 12 ∧ "/status?".utf8ByteSize = 8 := by decide
    rw [text_statusTarget]
    simp only [String.utf8ByteSize_append, Target.sizeLimit]
    omega

end Request

end EventWiring.Api
