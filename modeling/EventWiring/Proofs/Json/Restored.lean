import EventWiring.Proofs.Json.Printed
import EventWiring.Resource.Metadata

/-!
# Values that come back

A decoder restores what is printed of values if it gives each of them back, from the JSON value and
from its text alike (`Decoder.Restores`). Texts, lists and names are restored; a record is restored
if each of its fields is spelled out by the members (`Fields.Spells`, `Decoder.restores_record`),
whatever the fields hold in turn.
-/

namespace EventWiring.Json

open Reader

/-- The text of the value opens with a quote, a bracket or a brace. -/
def delimited : Json → Bool
  | .string _ => true
  | .array _ => true
  | .object _ => true
  | _ => false

theorem chars_of_delimited {j : Json} (h : j.delimited = true) :
    ∃ c cs, j.chars = c :: cs ∧ (c = '"' ∨ c = '[' ∨ c = '\x7b') := by
  cases j with
  | string s => exact ⟨'"', _, rfl, .inl rfl⟩
  | array items => cases items <;> exact ⟨'[', _, rfl, .inr (.inl rfl)⟩
  | object ms => exact ⟨'\x7b', _, chars_object ms, .inr (.inr rfl)⟩
  | _ => cases h

namespace Decoder

variable {α : Type} {d : Decoder α} {print : α → Json} {name : String}

variable (d) (print) in
/-- What is printed of a value is decoded as that value, before it becomes a text and after. -/
structure Restores : Prop where
  delimited : ∀ a, (print a).delimited = true
  value : ∀ a, d.ofJson (print a) = some a
  text : ∀ a, Reads d.read (print a).chars a

variable (d) (print) in
/-- The text of what is printed of a value is decoded as that value. -/
def RoundTrips : Prop := ∀ a, d.decode (print a).render = .ok a

theorem Restores.roundTrips (h : d.Restores print) : d.RoundTrips print :=
  fun a => decode_render (h.text a)

theorem restores_string : string.Restores .string where
  delimited _ := rfl
  value _ := rfl
  text s := faithful_string _ s rfl

/-! ## Absent values -/

theorem ofJson_option (h : d.Restores print) (a? : Option α) :
    d.option.ofJson (orNull (a?.map print)) = some a? := by
  cases a? with
  | none => rfl
  | some a =>
    have hvalue := h.value a
    have hdelimited := h.delimited a
    show d.option.ofJson (print a) = some (some a)
    generalize print a = j at hvalue hdelimited
    cases j with
    | null => cases hdelimited
    | _ => exact Option.map_eq_some_iff.2 ⟨a, hvalue, rfl⟩

theorem reads_option (h : d.Restores print) (a? : Option α) :
    Reads d.option.read (orNull (a?.map print)).chars a? := by
  cases a? with
  | none => exact Reads.peek rfl ((Reads.word _).bind (Reads.pure none))
  | some a =>
    have htext := h.text a
    obtain ⟨c, cs, hchars, hc⟩ := chars_of_delimited (h.delimited a)
    show Reads d.option.read (print a).chars (some a)
    rw [hchars] at htext ⊢
    rcases hc with rfl | rfl | rfl <;> exact Reads.peek rfl htext.map

/-! ## Lists -/

section Lists

variable {fuel : Nat} {cs : List Char} {a : α} {as : List α}

theorem reads_item (h : d.Restores print)
    (hrest : Reads (itemsWith d.read fuel false) cs as) :
    Reads (do let a ← d.read; let as ← itemsWith d.read fuel false; return a :: as)
      ((print a).chars ++ cs) (a :: as) :=
  (h.text a).bind (f := fun a => do let as ← itemsWith d.read fuel false; return a :: as) hrest.map

theorem reads_firstItem (h : d.Restores print)
    (hrest : Reads (itemsWith d.read fuel false) cs as) :
    Reads (itemsWith d.read (fuel + 1) true) ((print a).chars ++ cs) (a :: as) := by
  have hitem := reads_item (a := a) h hrest
  obtain ⟨c, ds, hchars, hc⟩ := chars_of_delimited (h.delimited a)
  rw [itemsWith]
  rw [hchars] at hitem ⊢
  rcases hc with rfl | rfl | rfl <;> exact Reads.peek rfl hitem

theorem reads_nextItem (h : d.Restores print)
    (hrest : Reads (itemsWith d.read fuel false) cs as) :
    Reads (itemsWith d.read (fuel + 1) false) (',' :: ((print a).chars ++ cs)) (a :: as) := by
  have hitem := reads_item (a := a) h hrest
  obtain ⟨c, ds, hchars, hc⟩ := chars_of_delimited (h.delimited a)
  rw [itemsWith]
  rw [hchars] at hitem ⊢
  refine Reads.peek rfl ?_
  rcases hc with rfl | rfl | rfl <;> exact (Reads.advance ',').bind (Reads.peek rfl hitem)

/-- The items of a list, after those that were read before. -/
theorem reads_itemsChars (h : d.Restores print) (hfuel : as.length < fuel) :
    Reads (itemsWith d.read fuel false) (itemsChars (as.map print)) as := by
  induction as generalizing fuel with
  | nil =>
    obtain ⟨n, rfl⟩ : ∃ n, fuel = n + 1 := ⟨fuel - 1, by omega⟩
    rw [itemsWith, List.map_nil, itemsChars]
    exact Reads.peek rfl ((Reads.advance ']').bind (Reads.pure _))
  | cons a as ih =>
    obtain ⟨n, rfl⟩ : ∃ n, fuel = n + 1 := ⟨fuel - 1, by omega⟩
    rw [List.map_cons, itemsChars]
    exact reads_nextItem h (ih (by simpa using hfuel))

theorem length_lt_itemsChars (js : List Json) : js.length < (itemsChars js).length := by
  induction js with
  | nil => simp [itemsChars]
  | cons j js ih =>
    simp only [itemsChars, List.length_cons, List.length_append]
    omega

theorem restores_list (h : d.Restores print) : d.list.Restores fun as => .array (as.map print) where
  delimited _ := rfl
  value as := by
    show (as.map print).mapM d.ofJson = some as
    induction as with
    | nil => rfl
    | cons a as ih => simp [List.mapM_cons, h.value, ih]
  text as := by
    cases as with
    | nil =>
      have hnil : ∀ fuel, [']'].length < fuel →
          Reads (itemsWith d.read fuel true) [']'] [] := fun fuel hfuel => by
        obtain ⟨n, rfl⟩ : ∃ n, fuel = n + 1 := ⟨fuel - 1, by omega⟩
        rw [itemsWith]
        exact Reads.peek rfl ((Reads.advance ']').bind (Reads.pure _))
      exact Reads.peek rfl ((Reads.advance '[').bind (Reads.remaining hnil))
    | cons a as =>
      have hcons : ∀ fuel, ((print a).chars ++ itemsChars (as.map print)).length < fuel →
          Reads (itemsWith d.read fuel true) ((print a).chars ++ itemsChars (as.map print))
            (a :: as) := fun fuel hfuel => by
        obtain ⟨n, rfl⟩ : ∃ n, fuel = n + 1 := ⟨fuel - 1, by omega⟩
        have hlength := length_lt_itemsChars (as.map print)
        rw [List.length_map] at hlength
        rw [List.length_append] at hfuel
        exact reads_firstItem h (reads_itemsChars h (by omega))
      exact Reads.peek rfl ((Reads.advance '[').bind (Reads.remaining hcons))

end Lists

/-! ## Names and maps -/

theorem restores_enumeration {variants : List (String × α)} {name : α → String}
    (h : ∀ a, variants.lookup (name a) = some a) :
    (enumeration variants).Restores fun a => .string (name a) where
  delimited _ := rfl
  value := h
  text a := by
    refine Reads.peek rfl (Reads.peek rfl ((Reads.advance '"').bind ?_))
    show Reads _ ((name a).toList.flatMap escapeChar ++ ['"']) a
    rw [← List.append_nil ((name a).toList.flatMap escapeChar ++ ['"'])]
    refine (reads_stringRest (name a)).bind ?_
    simp only [h]
    exact Reads.pure a

section Entries

variable {σ : Type} {empty : σ} {insert : String → α → σ → σ}

/-- Printed entries, taken one by one. -/
theorem foldlM_entries (h : d.Restores print) (es : List (String × α)) (s : σ) :
    (es.map fun e => (e.1, print e.2)).foldlM
        (fun s m => (d.ofJson m.2).map (insert m.1 · s)) s =
      some (es.foldl (fun s e => insert e.1 e.2 s) s) := by
  induction es generalizing s with
  | nil => rfl
  | cons e es ih =>
    rw [List.map_cons, List.foldlM_cons, h.value]
    exact ih _

theorem restores_entries {entries : σ → List (String × α)} (h : d.Restores print)
    (hentries : ∀ s, (entries s).foldl (fun s e => insert e.1 e.2 s) empty = s) :
    (d.entries empty insert).Restores
      fun s => .object ((entries s).map fun e => (e.1, print e.2)) where
  delimited _ := rfl
  value s := (foldlM_entries h (entries s) empty).trans (congrArg some (hentries s))
  text s := by
    let ms := (entries s).map fun e => (e.1, print e.2)
    have hmember : ∀ m ∈ ms, ∀ s next, (d.ofJson m.2).map (insert m.1 · s) = some next →
        Reads (do colon; return insert m.1 (← d.read) s) (':' :: m.2.chars) next := by
      intro m hm s next hnext
      obtain ⟨e, -, rfl⟩ := List.mem_map.1 hm
      rw [h.value] at hnext
      cases hnext
      exact Reads.colon.bind (h.text e.2).map
    have hfold := (foldlM_entries h (entries s) empty).trans (congrArg some (hentries s))
    rw [chars_object]
    refine Reads.peek rfl ((Reads.advance '\x7b').bind (Reads.remaining fun fuel hfuel => ?_))
    exact reads_objectChars hmember hfold (Nat.lt_trans (length_lt_objectChars ms) hfuel)

end Entries

end Decoder

/-! ## Records -/

namespace Fields

variable {σ γ β : Type} {name : String} {d : Decoder β} {absence : Absence β} {rest : Fields σ γ}
  {fs : Fields σ γ} {ms : Members} {g : γ}

/-- The members spell out the fields in their order; some may be left out. -/
inductive Spells : {σ γ : Type} → Fields σ γ → Members → γ → Prop
  | nil : Spells .nil [] ()
  | absent {β σ γ : Type} {name : String} {d : Decoder β} {absence : Absence β}
    {rest : Fields σ γ} {ms : Members} {a : β} {g : γ} : absence.fill none = some a →
    Spells rest ms g → Spells (.cons name d absence rest) ms (a, g)
  | present {β σ γ : Type} {name : String} {d : Decoder β} {absence : Absence β}
    {rest : Fields σ γ} {ms : Members} {v : Json} {a : β} {g : γ} : d.ofJson v = some a →
    Reads d.read v.chars a → Spells rest ms g →
    Spells (.cons name d absence rest) ((name, v) :: ms) (a, g)

theorem Spells.names (h : fs.Spells ms g) : ∀ m ∈ ms, m.1 ∈ fs.names := by
  induction h with
  | nil => exact fun _ hm => absurd hm List.not_mem_nil
  | absent _ _ ih => exact fun m hm => List.mem_cons_of_mem _ (ih m hm)
  | present _ _ _ ih =>
    intro m hm
    rcases List.mem_cons.1 hm with rfl | hm
    · exact List.mem_cons_self
    · exact List.mem_cons_of_mem _ (ih m hm)

/-- Members of a name that no field has have no values. -/
theorem Spells.values (h : fs.Spells ms g) {other : String} (hother : other ∉ fs.names) :
    ms.values other = [] := by
  refine List.eq_nil_iff_forall_not_mem.2 fun v hv => hother ?_
  exact h.names _ (Members.mem_values.1 hv)

theorem Spells.takes (h : fs.Spells ms g) (hnames : fs.names.Nodup) : fs.Takes false ms g := by
  induction h with
  | nil => trivial
  | absent hblank hrest ih =>
    obtain ⟨hname, hothers⟩ := List.nodup_cons.1 hnames
    refine ⟨?_, ih hothers⟩
    rw [hrest.values hname]
    exact Decoder.fills_nil.2 hblank
  | @present β σ γ name d absence rest ms v a g hvalue _ hrest ih =>
    obtain ⟨hname, hothers⟩ := List.nodup_cons.1 hnames
    have hself : Members.values name ((name, v) :: ms) = [v] := by
      rw [Members.values_cons, if_pos rfl, hrest.values hname]
    have hmore : ∀ other ∈ rest.names,
        Members.values other ((name, v) :: ms) = ms.values other := by
      intro other hother
      rw [Members.values_cons, if_neg]
      rintro rfl
      exact hname hother
    refine ⟨?_, (Fields.takes_congr hmore).2 (ih hothers)⟩
    rw [hself]
    exact Decoder.fills_singleton.2 hvalue

theorem Spells.trusts (h : fs.Spells ms g) (hnames : fs.names.Nodup) :
    ∀ m ∈ ms, fs.Trusts m.1 m.2 := by
  induction h with
  | nil => exact fun _ hm => absurd hm List.not_mem_nil
  | absent _ hrest ih =>
    obtain ⟨hname, hothers⟩ := List.nodup_cons.1 hnames
    intro m hm
    have hne := ne_of_mem_of_not_mem (hrest.names m hm) hname
    unfold Trusts
    rw [if_neg hne]
    exact ih hothers m hm
  | present hvalue hread hrest ih =>
    obtain ⟨hname, hothers⟩ := List.nodup_cons.1 hnames
    intro m hm
    unfold Trusts
    rcases List.mem_cons.1 hm with rfl | hm
    · rw [if_pos rfl]
      intro a ha
      rw [hvalue] at ha
      exact Option.some.inj ha ▸ hread
    · have hne := ne_of_mem_of_not_mem (hrest.names m hm) hname
      rw [if_neg hne]
      exact ih hothers m hm

variable {print : β → Json} {a : β} {a? : Option β}

/-- A field that is always written. -/
theorem Spells.required (hd : d.Restores print) (h : rest.Spells ms g) :
    (cons name d absence rest).Spells ((name, print a) :: ms) (a, g) :=
  .present (hd.value a) (hd.text a) h

/-- A field that is written as null while it has no value. -/
theorem Spells.nulled (hd : d.Restores print) (h : rest.Spells ms g) :
    (optional name d rest).Spells ((name, orNull (a?.map print)) :: ms) (a?, g) :=
  .present (Decoder.ofJson_option hd a?) (Decoder.reads_option hd a?) h

/-- A field that is left out while it has no value. -/
theorem Spells.omitted (hd : d.Restores print) (h : rest.Spells ms g) :
    (optional name d rest).Spells (member? name (a?.map print) ++ ms) (a?, g) := by
  cases a? with
  | none => exact .absent rfl h
  | some a =>
    have hvalue := Decoder.ofJson_option hd (some a)
    exact .present hvalue (Decoder.reads_option hd (some a)) h

theorem Spells.omitted_last (hd : d.Restores print) :
    (optional name d .nil).Spells (member? name (a?.map print)) (a?, ()) :=
  List.append_nil (member? name (a?.map print)) ▸ .omitted hd .nil

end Fields

theorem Decoder.restores_record {α σ γ : Type} {name : String} {fs : Fields σ γ} {build : γ → α}
    {members : α → Members} (hnames : fs.names.Nodup)
    (h : ∀ a, ∃ g, fs.Spells (members a) g ∧ build g = a) :
    (record name fs build).Restores fun a => .object (members a) := by
  have hvalue : ∀ a, (record name fs build).ofJson (.object (members a)) = some a := fun a => by
    obtain ⟨g, hspells, hbuild⟩ := h a
    exact (ofJson_record_eq_some hnames).2 ⟨g, hspells.takes hnames, hbuild⟩
  refine ⟨fun _ => rfl, hvalue, fun a => ?_⟩
  obtain ⟨g, hspells, -⟩ := h a
  exact reads_record (hspells.trusts hnames) (hvalue a)

/-! ## Values without nulls -/

mutual

/-- Leaves out every member that is null, at any depth. -/
def withoutNulls : Json → Json
  | .array items => .array (withoutNullItems items)
  | .object ms => .object (withoutNullMembers ms)
  | j => j

def withoutNullItems : List Json → List Json
  | [] => []
  | item :: items => withoutNulls item :: withoutNullItems items

def withoutNullMembers : Members → Members
  | [] => []
  | (_, .null) :: ms => withoutNullMembers ms
  | (name, value) :: ms => (name, withoutNulls value) :: withoutNullMembers ms

end

section

variable {α : Type} {print : α → Json}

theorem withoutNullMembers_append (ms ns : Members) :
    withoutNullMembers (ms ++ ns) = withoutNullMembers ms ++ withoutNullMembers ns := by
  induction ms with
  | nil => rfl
  | cons m ms ih =>
    obtain ⟨name, value⟩ := m
    cases value <;> simp [withoutNullMembers, ih]

theorem withoutNullItems_map (h : ∀ a, (print a).withoutNulls = print a) (as : List α) :
    withoutNullItems (as.map print) = as.map print := by
  induction as with
  | nil => rfl
  | cons a as ih => rw [List.map_cons, withoutNullItems, h, ih]

theorem withoutNullMembers_text? (name : String) (s? : Option String) :
    withoutNullMembers (member? name (s?.map .string)) = member? name (s?.map .string) := by
  cases s? <;> rfl

theorem withoutNullMembers_orNull (name : String) (s? : Option String) :
    withoutNullMembers [(name, orNull (s?.map .string))] = member? name (s?.map .string) := by
  cases s? <;> rfl

end

end EventWiring.Json
