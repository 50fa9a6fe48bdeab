import EventWiring.Json.MergePatch
import EventWiring.Json.Record

/-!
# Records by their fields

For each of its fields a record takes the values of the members of that name, whatever else there
is (`Fields.takeMembers_eq_some`). So what a merge patch does to a record follows from what it does
to the values of each name (`Members.values_mergeMembers`).
-/

namespace EventWiring.Json

namespace Members

/-- The values of the members of that name, in their order. -/
def values (name : String) (ms : Members) : List Json := (ms.filter (·.1 = name)).map (·.2)

/-- No name stands twice. -/
def Distinct (ms : Members) : Prop := (ms.map (·.1)).Nodup

instance (ms : Members) : Decidable ms.Distinct := inferInstanceAs (Decidable (List.Nodup _))

variable {name other : String} {value : Json} {ms : Members}

theorem values_nil (name : String) : values name [] = [] := rfl

theorem values_cons (name : String) (m : String × Json) (ms : Members) :
    values name (m :: ms) = if m.1 = name then m.2 :: values name ms else values name ms := by
  unfold values
  rw [List.filter_cons]
  by_cases h : m.1 = name <;> simp [h]

theorem values_append (name : String) (ms ns : Members) :
    values name (ms ++ ns) = values name ms ++ values name ns := by
  unfold values
  rw [List.filter_append, List.map_append]

theorem values_member? (name other : String) (value : Option Json) :
    values name (member? other value) = if other = name then value.toList else [] := by
  cases value with
  | none => simp [member?, values_nil]
  | some v => simp [member?, values_cons, values_nil]

theorem mem_values : value ∈ ms.values name ↔ (name, value) ∈ ms := by
  unfold values
  simp [List.mem_map, List.mem_filter]

theorem get?_eq_head? (name : String) (ms : Members) :
    ms.get? name = (ms.values name).head? := by
  induction ms with
  | nil => rfl
  | cons m rest ih =>
    rw [values_cons, get?]
    by_cases h : m.1 = name
    · rw [if_pos h, if_pos h, List.head?_cons]
    · rw [if_neg h, if_neg h, ih]

theorem mem_of_get? (h : ms.get? name = some value) : (name, value) ∈ ms := by
  rw [get?_eq_head?] at h
  exact mem_values.1 (List.mem_of_mem_head? h)

theorem Distinct.values_length (h : ms.Distinct) (name : String) :
    (ms.values name).length ≤ 1 := by
  induction ms with
  | nil => simp [values_nil]
  | cons m rest ih =>
    obtain ⟨key, v⟩ := m
    obtain ⟨hkey, hrest⟩ := List.nodup_cons.1 h
    rw [values_cons]
    by_cases hname : key = name
    · have hnone : values name rest = [] := by
        refine List.eq_nil_iff_forall_not_mem.2 fun v hv => hkey ?_
        exact List.mem_map.2 ⟨_, mem_values.1 hv, hname.symm⟩
      simp [hname, hnone]
    · simpa [hname] using ih hrest

theorem values_put_self (h : (ms.values name).length ≤ 1) :
    (ms.put name value).values name = [value] := by
  induction ms with
  | nil => simp [put, values_cons, values_nil]
  | cons m rest ih =>
    obtain ⟨key, old⟩ := m
    rw [values_cons] at h
    by_cases hkey : key = name
    · simp only [hkey, if_true, List.length_cons] at h
      have hrest : values name rest = [] := List.eq_nil_of_length_eq_zero (by omega)
      simp [put, hkey, values_cons, hrest]
    · simp only [hkey, if_false] at h
      simp [put, hkey, values_cons, ih h]

theorem values_put_of_ne (h : other ≠ name) (value : Json) (ms : Members) :
    (ms.put name value).values other = ms.values other := by
  induction ms with
  | nil => simp [put, values_cons, values_nil, Ne.symm h]
  | cons m rest ih =>
    obtain ⟨key, old⟩ := m
    by_cases hkey : key = name
    · simp [put, hkey, values_cons, Ne.symm h]
    · simp [put, hkey, values_cons, ih]

theorem values_erase_self (name : String) (ms : Members) : (ms.erase name).values name = [] := by
  unfold values erase
  rw [List.filter_filter, List.map_eq_nil_iff, List.filter_eq_nil_iff]
  intro m _ hm
  simp at hm

theorem values_erase_of_ne (h : other ≠ name) (ms : Members) :
    (ms.erase name).values other = ms.values other := by
  unfold values erase
  rw [List.filter_filter]
  congr 2
  funext m
  by_cases hm : m.1 = other
  · simp [hm, h]
  · simp [hm]

/-- What a member of a merge patch leaves in the place of the old value. -/
def written (old : Option Json) : Json → List Json
  | .null => []
  | patch => [mergePatch patch (old.getD .null)]

@[simp] theorem written_orNull_string (old : Option Json) (s? : Option String) :
    written old (orNull (s?.map .string)) = (s?.map .string).toList := by
  cases s? with
  | none => rfl
  | some s => simp [orNull, written, mergePatch]

theorem mergeMembers_cons (name : String) (patch : Json) (rest ms : Members) :
    ∃ ns, mergeMembers ((name, patch) :: rest) ms = mergeMembers rest ns ∧
      ((ms.values name).length ≤ 1 → ns.values name = written (ms.get? name) patch) ∧
      ∀ other, other ≠ name → ns.values other = ms.values other := by
  by_cases hnull : patch = .null
  · subst hnull
    exact ⟨ms.erase name, by simp [mergeMembers], fun _ => values_erase_self name ms,
      fun _ ho => values_erase_of_ne ho ms⟩
  · refine ⟨ms.put name (mergePatch patch ((ms.get? name).getD .null)), ?_, fun h => ?_,
      fun _ ho => values_put_of_ne ho _ ms⟩
    · cases patch <;> first | exact absurd rfl hnull | simp [mergeMembers]
    · rw [values_put_self h]
      cases patch <;> first | exact absurd rfl hnull | rfl

theorem values_mergeMembers_of_not_mem {patch : Members} (h : name ∉ patch.map (·.1)) :
    (mergeMembers patch ms).values name = ms.values name := by
  induction patch generalizing ms with
  | nil => simp [mergeMembers]
  | cons m rest ih =>
    obtain ⟨key, p⟩ := m
    obtain ⟨hkey, hrest⟩ := List.ne_and_not_mem_of_not_mem_cons h
    obtain ⟨ns, hns, -, hothers⟩ := mergeMembers_cons key p rest ms
    rw [hns, ih hrest, hothers name hkey]

/-- Each name that a patch sets has afterwards what the patch writes there. -/
theorem values_mergeMembers {patch : Members} {p : Json} (hnames : (patch.map (·.1)).Nodup)
    (hp : (name, p) ∈ patch) (h : (ms.values name).length ≤ 1) :
    (mergeMembers patch ms).values name = written (ms.get? name) p := by
  induction patch generalizing ms with
  | nil => cases hp
  | cons m rest ih =>
    obtain ⟨key, q⟩ := m
    obtain ⟨hkey, hrest⟩ := List.nodup_cons.1 hnames
    obtain ⟨ns, hns, hself, hothers⟩ := mergeMembers_cons key q rest ms
    rw [hns]
    rcases List.mem_cons.1 hp with heq | hmem
    · obtain ⟨rfl, rfl⟩ := Prod.mk.inj heq
      rw [values_mergeMembers_of_not_mem hkey, hself h]
    · have hne : name ≠ key := fun he => hkey (he ▸ List.mem_map_of_mem (f := (·.1)) hmem)
      have hvalues : ns.values name = ms.values name := hothers name hne
      rw [ih hrest hmem (by rw [hvalues]; exact h), get?_eq_head?, get?_eq_head?, hvalues]

end Members

/-! ## Fields -/

/-- What stands for a field of which no value was read, or that value. -/
def Absence.fill {α : Type} : Absence α → Option α → Option α
  | _, some a => some a
  | .refused, none => none
  | .blank a, none => some a
  | .default a, none => some a

/-- Takes the values of a field one after the other. -/
def Decoder.takeValues {α : Type} (d : Decoder α) (repeats : Bool) :
    Option α → List Json → Option (Option α)
  | slot, [] => some slot
  | slot, v :: vs =>
    if slot.isSome && !repeats then none
    else (d.ofJson v).bind fun a => d.takeValues repeats (some a) vs

/-- From these values a field takes `a`. -/
def Decoder.Fills {α : Type} (d : Decoder α) (repeats : Bool) (absence : Absence α)
    (vs : List Json) (a : α) : Prop :=
  (d.takeValues repeats none vs).bind absence.fill = some a

namespace Decoder

variable {α : Type} {d : Decoder α} {repeats : Bool} {absence : Absence α} {v : Json}
  {vs : List Json} {a : α}

theorem fills_nil : d.Fills repeats absence [] a ↔ absence.fill none = some a := Iff.rfl

theorem fills_singleton : d.Fills repeats absence [v] a ↔ d.ofJson v = some a := by
  unfold Fills
  simp only [takeValues, Option.isSome_none, Bool.false_and, Bool.false_eq_true, if_false,
    Option.bind_assoc]
  cases d.ofJson v with
  | none => simp
  | some b => cases absence <;> simp [Absence.fill]

/-- A strict field has one value at most. -/
theorem Fills.strict (h : d.Fills false absence vs a) :
    vs = [] ∧ absence.fill none = some a ∨ ∃ v, vs = [v] ∧ d.ofJson v = some a := by
  match vs with
  | [] => exact .inl ⟨rfl, h⟩
  | [v] => exact .inr ⟨v, rfl, fills_singleton.1 h⟩
  | v :: w :: vs =>
    unfold Fills at h
    cases hv : d.ofJson v <;> simp [takeValues, hv] at h

end Decoder

namespace Fields

variable {σ γ β : Type} {repeats : Bool} {ms : Members}

def names : {σ γ : Type} → Fields σ γ → List String
  | _, _, .nil => []
  | _, _, .cons name _ _ rest => name :: rest.names

/-- From these members the fields take `g`. -/
def Takes (repeats : Bool) (ms : Members) : {σ γ : Type} → Fields σ γ → γ → Prop
  | _, _, .nil, () => True
  | _, _, .cons name d absence rest, (a, g) =>
    d.Fills repeats absence (ms.values name) a ∧ rest.Takes repeats ms g

/-- The members of the first field fill its slot, and all others go to the rest. -/
theorem foldlM_takeMember (name : String) (d : Decoder β) (absence : Absence β)
    (rest : Fields σ γ) (ms : Members) (slot : Option β) (slots : σ) :
    ms.foldlM (fun slots m => (cons name d absence rest).takeMember repeats m.1 m.2 slots)
        (slot, slots) =
      (d.takeValues repeats slot (ms.values name)).bind fun slot =>
        ((ms.erase name).foldlM (fun slots m => rest.takeMember repeats m.1 m.2 slots) slots).map
          fun slots => (slot, slots) := by
  induction ms generalizing slot slots with
  | nil => rfl
  | cons m ms ih =>
    obtain ⟨key, v⟩ := m
    rw [List.foldlM_cons, Members.values_cons]
    by_cases hkey : key = name
    · subst hkey
      have hstep : (cons key d absence rest).takeMember repeats key v (slot, slots) =
          if slot.isSome && !repeats then none
          else (d.ofJson v).map fun a => (some a, slots) := if_pos rfl
      have herase : Members.erase key ((key, v) :: ms) = Members.erase key ms := by
        simp [Members.erase]
      rw [hstep, if_pos rfl, herase]
      simp only [Decoder.takeValues]
      split
      · rfl
      · cases d.ofJson v with
        | none => rfl
        | some a => exact ih (some a) slots
    · have hstep : (cons name d absence rest).takeMember repeats key v (slot, slots) =
          (rest.takeMember repeats key v slots).map fun slots => (slot, slots) := if_neg hkey
      have herase : Members.erase name ((key, v) :: ms) = (key, v) :: Members.erase name ms := by
        simp [Members.erase, hkey]
      rw [hstep, if_neg hkey, herase, List.foldlM_cons]
      cases rest.takeMember repeats key v slots with
      | none => cases d.takeValues repeats slot (Members.values name ms) <;> rfl
      | some slots' => exact ih slot slots'

theorem takeMembers_cons (name : String) (d : Decoder β) (absence : Absence β)
    (rest : Fields σ γ) (ms : Members) :
    (cons name d absence rest).takeMembers repeats ms =
      ((d.takeValues repeats none (ms.values name)).bind absence.fill).bind fun a =>
        (rest.takeMembers repeats (ms.erase name)).map fun g => (a, g) := by
  unfold takeMembers
  rw [show (cons name d absence rest).empty = (none, rest.empty) from rfl, foldlM_takeMember]
  cases d.takeValues repeats none (ms.values name) with
  | none => rfl
  | some slot =>
    cases (ms.erase name).foldlM (fun slots m => rest.takeMember repeats m.1 m.2 slots)
        rest.empty with
    | none => cases absence.fill slot <;> simp [*]
    | some slots =>
      have hclose : ((cons name d absence rest).close (slot, slots)).toOption =
          (absence.fill slot).bind fun a => (rest.close slots).toOption.map fun g => (a, g) := by
        cases slot <;> cases absence <;> cases hrest : rest.close slots <;>
          simp [close, Absence.fill, hrest, Except.toOption, bind, Except.bind, pure, Except.pure]
      exact hclose

theorem takes_congr {fs : Fields σ γ} {ns : Members} {g : γ}
    (h : ∀ name ∈ fs.names, ms.values name = ns.values name) :
    fs.Takes repeats ms g ↔ fs.Takes repeats ns g := by
  induction fs with
  | nil => exact Iff.rfl
  | cons name d absence rest ih =>
    obtain ⟨a, g⟩ := g
    have hrest := ih (g := g) fun other ho => h other (List.mem_cons_of_mem _ ho)
    unfold Takes
    rw [h name List.mem_cons_self, hrest]

theorem takeMembers_eq_some {fs : Fields σ γ} {g : γ} (hnames : fs.names.Nodup) :
    fs.takeMembers repeats ms = some g ↔ fs.Takes repeats ms g := by
  induction fs generalizing ms with
  | nil =>
    have hnil : ∀ ms : Members, ms.foldlM (fun slots m => nil.takeMember repeats m.1 m.2 slots)
        () = some () := by
      intro ms
      induction ms with
      | nil => rfl
      | cons m ms ih => exact ih
    unfold takeMembers
    simp [empty, hnil, close, Takes, Except.toOption]
  | cons name d absence rest ih =>
    obtain ⟨a, g⟩ := g
    obtain ⟨hname, hrest⟩ := List.nodup_cons.1 hnames
    have herase : ∀ other ∈ rest.names, (ms.erase name).values other = ms.values other :=
      fun other ho =>
        Members.values_erase_of_ne (fun h : other = name => hname (h ▸ ho)) ms
    have htakes : rest.takeMembers repeats (ms.erase name) = some g ↔ rest.Takes repeats ms g :=
      (ih hrest).trans (takes_congr herase)
    rw [takeMembers_cons, Takes, Decoder.Fills, ← htakes]
    simp [Option.bind_eq_some_iff]

end Fields

namespace Decoder

variable {σ γ : Type} {name : String} {fs : Fields σ γ} {build : γ → α} {ms : Members}

theorem ofJson_record_eq_some (hnames : fs.names.Nodup) :
    (record name fs build).ofJson (.object ms) = some a ↔
      ∃ g, fs.Takes false ms g ∧ build g = a := by
  have hread : (record name fs build).ofJson (.object ms) = (fs.takeMembers false ms).map build :=
    rfl
  simp [hread, Option.map_eq_some_iff, Fields.takeMembers_eq_some hnames]

theorem ofJson_lenient_eq_some (hnames : fs.names.Nodup) :
    (lenient name fs build).ofJson (.object ms) = some a ↔
      ∃ g, fs.Takes true ms g ∧ build g = a := by
  have hread : (lenient name fs build).ofJson (.object ms) = (fs.takeMembers true ms).map build :=
    rfl
  simp [hread, Option.map_eq_some_iff, Fields.takeMembers_eq_some hnames]

@[simp] theorem ofJson_string (s : String) : string.ofJson (.string s) = some s := rfl

/-- An optional text is read back from its member, which may be left out. -/
@[simp] theorem fills_text (repeats : Bool) (s? : Option String) :
    string.option.Fills repeats (.blank none) (s?.map .string).toList s? := by
  cases s? with
  | none => exact fills_nil.2 rfl
  | some s => exact fills_singleton.2 rfl

end Decoder

end EventWiring.Json
