import EventWiring.Json.Decoder

/-!
# Maps of texts

A map from texts to texts as the list of its entries in ascending order of the keys, so that two
maps are equal as soon as they hold the same entries.
-/

namespace EventWiring.Text

abbrev Entries := List (String × String)

def Entries.insert (key value : String) : Entries → Entries
  | [] => [(key, value)]
  | (k, v) :: rest =>
    if key < k then (key, value) :: (k, v) :: rest
    else if key = k then (key, value) :: rest
    else (k, v) :: insert key value rest

theorem Entries.mem_insert {key value : String} {es : Entries} {e : String × String}
    (h : e ∈ Entries.insert key value es) : e = (key, value) ∨ e ∈ es := by
  induction es with
  | nil => simpa [Entries.insert] using h
  | cons f rest ih =>
    obtain ⟨k, v⟩ := f
    simp only [Entries.insert] at h
    split at h
    · simpa using h
    · split at h
      · rcases List.mem_cons.1 h with h | h
        · exact .inl h
        · exact .inr (List.mem_cons_of_mem _ h)
      · rcases List.mem_cons.1 h with h | h
        · exact .inr (h ▸ List.mem_cons_self)
        · exact (ih h).imp_right (List.mem_cons_of_mem _)

theorem Entries.ordered_insert (key value : String) {es : Entries}
    (h : es.Pairwise (·.1 < ·.1)) : (Entries.insert key value es).Pairwise (·.1 < ·.1) := by
  induction es with
  | nil => simp [Entries.insert]
  | cons f rest ih =>
    obtain ⟨k, v⟩ := f
    rw [List.pairwise_cons] at h
    simp only [Entries.insert]
    split
    · next hlt =>
      refine List.pairwise_cons.2 ⟨fun e he => ?_, List.pairwise_cons.2 h⟩
      rcases List.mem_cons.1 he with rfl | he
      · exact hlt
      · exact String.lt_trans hlt (h.1 e he)
    · split
      · next heq => exact List.pairwise_cons.2 ⟨fun e he => heq ▸ h.1 e he, h.2⟩
      · next hlt hne =>
        have hk : k < key := by
          rcases Std.lt_trichotomy key k with h' | h' | h'
          · exact absurd h' hlt
          · exact absurd h' hne
          · exact h'
        refine List.pairwise_cons.2 ⟨fun e he => ?_, ih h.2⟩
        rcases Entries.mem_insert he with rfl | he
        · exact hk
        · exact h.1 e he

end EventWiring.Text

namespace EventWiring

structure TextMap where
  entries : Text.Entries
  ordered : entries.Pairwise (·.1 < ·.1)
deriving DecidableEq, Repr

namespace TextMap

def empty : TextMap := ⟨[], .nil⟩

instance : Inhabited TextMap := ⟨empty⟩

def insert (m : TextMap) (key value : String) : TextMap :=
  ⟨m.entries.insert key value, Text.Entries.ordered_insert key value m.ordered⟩

def ofList (es : List (String × String)) : TextMap :=
  es.foldl (fun m e => m.insert e.1 e.2) empty

def get? (m : TextMap) (key : String) : Option String := m.entries.lookup key

def toJson (m : TextMap) : Json := .object (m.entries.map fun e => (e.1, .string e.2))

def decoder : Json.Decoder TextMap :=
  Json.Decoder.string.entries empty fun key value m => m.insert key value

end TextMap

end EventWiring
