import EventWiring.Proofs.Json.Spelled

/-!
# Passing over values

A reader `Yields` a value from a text, or fails on it, before anything that a number ends before.
However a value is spelled and however deep it is nested, it is passed over as a whole
(`yields_skipValue`).
-/

namespace EventWiring.Json

/-! ## Readers of what is spelled -/

/-- Before anything that a number ends before, the reader takes exactly these characters and makes
of them what is given, or fails where nothing is. -/
def Yields {α : Type} (reader : Reader α) (cs : List Char) (a? : Option α) : Prop :=
  ∀ rest p, EndsNumber rest →
    (reader ⟨cs ++ rest, p⟩).toOption = a?.map fun a => (a, ⟨rest, p.afterAll cs⟩)

section Yields

open Reader

variable {α β : Type} {reader : Reader α} {f : α → Reader β} {cs ds blanks : List Char} {a : α}
  {a? : Option α} {b? : Option β} {c : Char}

theorem Reads.yields (h : Reads reader cs a) : Yields reader cs (some a) := by
  intro rest p _
  rw [h rest p]
  rfl

/-- What follows characters that are always taken. -/
theorem Reads.bind_yields (h : Reads reader cs a) (hf : Yields (f a) ds b?) :
    Yields (reader >>= f) (cs ++ ds) b? := by
  intro rest p hrest
  rw [List.append_assoc, bind_ok (h (ds ++ rest) p), hf rest _ hrest, Position.afterAll_append]

theorem toOption_bind (s : Cursor) : ((reader >>= f) s).toOption =
    (reader s).toOption.bind fun r => (f r.1 r.2).toOption := by
  show (reader s >>= fun r => f r.1 r.2).toOption = _
  cases reader s <;> rfl

theorem skipBlanks_eq (hblank : ∀ b ∈ blanks, isBlank b = true) (cs : List Char) (p : Position) :
    skipBlanks (blanks ++ cs) p = skipBlanks cs (p.afterAll blanks) := by
  induction blanks generalizing p with
  | nil => rfl
  | cons b blanks ih =>
    have hb := hblank b List.mem_cons_self
    rw [List.cons_append, skipBlanks, hb, if_pos rfl,
      ih (fun b hb => hblank b (List.mem_cons_of_mem _ hb))]
    rfl

theorem peekToken_eq (hblank : ∀ b ∈ blanks, isBlank b = true) (hc : isBlank c = false)
    {p : Position} : peekToken ⟨blanks ++ c :: cs, p⟩ =
      .ok (some c, ⟨c :: cs, p.afterAll blanks⟩) := by
  have hskip : skipBlanks (c :: cs) (p.afterAll blanks) = ⟨c :: cs, p.afterAll blanks⟩ := by
    simp [skipBlanks, hc]
  simp only [peekToken, Cursor.skipBlank, skipBlanks_eq hblank, hskip, List.head?_cons]

namespace Yields

theorem bind {g : α → Option β} (h : Yields reader cs a?)
    (hf : ∀ a, a? = some a → Yields (f a) ds (g a))
    (hends : ∀ rest, EndsNumber rest → EndsNumber (ds ++ rest)) :
    Yields (reader >>= f) (cs ++ ds) (a?.bind g) := by
  intro rest p hrest
  rw [List.append_assoc, toOption_bind, h _ p (hends rest hrest)]
  cases a? with
  | none => rfl
  | some a =>
    have hnext := hf a rfl rest (p.afterAll cs) hrest
    rw [← Position.afterAll_append] at hnext
    exact hnext

/-- What is left to do takes nothing more. -/
theorem finish {g : α → Option β} (h : Yields reader cs a?)
    (hf : ∀ a, a? = some a → Yields (f a) [] (g a)) : Yields (reader >>= f) cs (a?.bind g) := by
  have hall := h.bind hf fun _ h => h
  rwa [List.append_nil] at hall

theorem map {g : α → β} (h : Yields reader cs a?) :
    Yields (do let a ← reader; return g a) cs (a?.map g) := by
  rw [Option.map_eq_bind]
  exact h.finish fun a _ => (Reads.pure (g a)).yields

/-- The next character that is not blank is seen and stays. -/
theorem peek {next : Option Char → Reader β} (hblank : ∀ b ∈ blanks, isBlank b = true)
    (hc : isBlank c = false) (h : Yields (next (some c)) (c :: cs) b?) :
    Yields (peekToken >>= next) (blanks ++ c :: cs) b? := by
  intro rest p hrest
  rw [List.append_assoc, List.cons_append, bind_ok (peekToken_eq hblank hc), ← List.cons_append,
    h rest _ hrest, Position.afterAll_append]

/-- The fuel that is counted before a text is enough for the text. -/
theorem remaining {next : Nat → Reader β}
    (h : ∀ fuel, cs.length < fuel → Yields (next fuel) cs b?) :
    Yields (remaining >>= next) cs b? := by
  intro rest p hrest
  have hfuel : cs.length < (cs ++ rest).length + 1 := by simp only [List.length_append]; omega
  exact h _ hfuel rest p hrest

end Yields

end Yields

/-! ## Values nobody asked for -/

section Skip

open Reader

variable {cs : List Char} {fuel : Nat} {j : Json} {js : List Json} {ms : Members} {name : String}

theorem not_blank_of_number {c : Char} (hc : (c = '-' || isDigit c) = true) :
    isBlank c = false := by
  cases hblank : isBlank c with
  | false => rfl
  | true =>
    simp only [isBlank, Bool.or_eq_true, decide_eq_true_eq] at hblank
    rcases hblank with ((rfl | rfl) | rfl) | rfl <;> cases hc

theorem tokens_begin (j : Json) :
    ∃ t ts, j.tokens = t :: ts ∧ ∀ c, t.Begins c → j.Begins c := by
  cases j with
  | null => exact ⟨.null, _, by rw [tokens], fun _ h => h⟩
  | bool b => exact ⟨.bool b, _, by rw [tokens], fun _ h => h⟩
  | number n => exact ⟨.number, _, by rw [tokens], fun _ h => h⟩
  | string s => exact ⟨.string s, _, by rw [tokens], fun _ h => h⟩
  | array items => cases items <;> exact ⟨.mark '[', _, by rw [tokens], fun _ h => h⟩
  | object ms => cases ms <;> exact ⟨.mark '\x7b', _, by rw [tokens], fun _ h => h⟩

theorem Begins.plain {c : Char} (h : j.Begins c) : isBlank c = false ∧ c ≠ ']' := by
  cases j with
  | bool b =>
    obtain rfl : c = if b then 't' else 'f' := h
    cases b <;> decide
  | number n =>
    refine ⟨not_blank_of_number h, ?_⟩
    rintro rfl
    cases h
  | _ =>
    cases h
    decide

theorem Spelled.begins {ts : List Token} (h : Spelled (j.tokens ++ ts) cs) :
    ∃ blanks c ds, cs = blanks ++ c :: ds ∧ (∀ b ∈ blanks, isBlank b = true) ∧ j.Begins c ∧
      Spelled (j.tokens ++ ts) (c :: ds) := by
  obtain ⟨t, us, htokens, hbegins⟩ := tokens_begin j
  rw [htokens] at h ⊢
  obtain ⟨blanks, c, ds, rfl, hblanks, hc, h⟩ := h.head
  exact ⟨blanks, c, ds, rfl, hblanks, hbegins c hc, h⟩

theorem yields_skipNumber (h : SpellsNumber cs) : Yields skipNumber cs (some ()) := by
  intro rest p hrest
  rw [skipNumber_eq h hrest]
  rfl

theorem yields_advance (c : Char) : Yields advance [c] (some ()) := (Reads.advance c).yields

theorem yields_mark {α : Type} {next : Option Char → Reader α} {a? : Option α} {c : Char}
    (h : Spelled [.mark c] cs) (hc : isBlank c = false) (hnext : Yields (next (some c)) [c] a?) :
    Yields (peekToken >>= next) cs a? := by
  obtain ⟨blanks, ds, rfl, hblanks, ⟨⟩⟩ := h.mark
  exact .peek hblanks hc hnext

/-- Whatever the spelling, values are passed over with that much fuel. -/
structure Skips (fuel : Nat) : Prop where
  value : ∀ {j : Json} {cs : List Char}, Spelled j.tokens cs → j.tokens.length ≤ fuel →
    Yields (skipValueWithin fuel) cs (some ())
  items : ∀ {j : Json} {js : List Json} {cs : List Char},
    Spelled (j.tokens ++ itemsTokens js) cs → (j.tokens ++ itemsTokens js).length ≤ fuel →
    Yields (skipItems fuel) cs (some ())
  members : ∀ {name : String} {j : Json} {ms : Members} {cs : List Char},
    Spelled (.string name :: .mark ':' :: (j.tokens ++ membersTokens ms)) cs →
    (j.tokens ++ membersTokens ms).length + 2 ≤ fuel → Yields (skipMembers fuel) cs (some ())

theorem Skips.zero : Skips 0 where
  value {j cs} _ hfuel := by
    obtain ⟨t, ts, ht, -⟩ := tokens_begin j
    simp [ht] at hfuel
  items {j js cs} _ hfuel := by
    obtain ⟨t, ts, ht, -⟩ := tokens_begin j
    simp [ht] at hfuel
  members _ hfuel := by omega

/-- A value is passed over once items and members are. -/
theorem Skips.value_succ (ih : Skips fuel) (h : Spelled j.tokens cs)
    (hfuel : j.tokens.length ≤ fuel + 1) : Yields (skipValueWithin (fuel + 1)) cs (some ()) := by
  rw [skipValueWithin]
  cases j with
  | null =>
    rw [tokens] at h
    obtain ⟨blanks, ds, rfl, hblanks, ⟨⟩⟩ := h.single
    exact .peek hblanks rfl (Reads.word _).yields
  | bool b =>
    rw [tokens] at h
    obtain ⟨blanks, ds, rfl, hblanks, ⟨⟩⟩ := h.single
    · exact .peek hblanks rfl (Reads.word _).yields
    · exact .peek hblanks rfl (Reads.word _).yields
  | number n =>
    rw [tokens] at h
    obtain ⟨blanks, ds, rfl, hblanks, ht⟩ := h.single
    cases ht with
    | number hn =>
      obtain ⟨c, rest, rfl, hc⟩ := hn.head
      refine .peek hblanks (not_blank_of_number hc) ?_
      split
      case h_8 heq =>
        obtain rfl := Option.some.inj heq
        rw [if_pos hc]
        exact yields_skipNumber hn
      all_goals
        next heq =>
        cases heq
        try cases hc
  | string s =>
    rw [tokens] at h
    obtain ⟨blanks, ds, rfl, hblanks, ht⟩ := h.single
    cases ht with
    | string hbody =>
      exact .peek hblanks rfl ((Reads.advance '"').bind (reads_skipStringRest hbody)).yields
  | array items =>
    cases items with
    | nil =>
      rw [tokens] at h
      obtain ⟨blanks, ds, rfl, hblanks, h⟩ := h.mark
      obtain ⟨blanks', ds, rfl, hblanks', ⟨⟩⟩ := h.mark
      exact .peek hblanks rfl
        ((Reads.advance '[').bind_yields (.peek hblanks' rfl (yields_advance ']')))
    | cons item items =>
      rw [tokens] at h hfuel
      obtain ⟨blanks, ds, rfl, hblanks, h⟩ := h.mark
      obtain ⟨blanks', c, ds, rfl, hblanks', hc, h⟩ := h.begins
      refine .peek hblanks rfl ((Reads.advance '[').bind_yields (.peek hblanks' hc.plain.1 ?_))
      split
      · next heq => cases heq
      · next heq => exact absurd (Option.some.inj heq) hc.plain.2
      · rw [List.length_cons] at hfuel
        exact ih.items h (by omega)
  | object ms =>
    cases ms with
    | nil =>
      rw [tokens] at h
      obtain ⟨blanks, ds, rfl, hblanks, h⟩ := h.mark
      obtain ⟨blanks', ds, rfl, hblanks', ⟨⟩⟩ := h.mark
      exact .peek hblanks rfl
        ((Reads.advance '\x7b').bind_yields (.peek hblanks' rfl (yields_advance '\x7d')))
    | cons m ms =>
      obtain ⟨name, value⟩ := m
      rw [tokens] at h hfuel
      obtain ⟨blanks, ds, rfl, hblanks, h⟩ := h.mark
      obtain ⟨blanks', c, ds, rfl, hblanks', rfl, h⟩ := h.head
      refine .peek hblanks rfl ((Reads.advance '\x7b').bind_yields (.peek hblanks' rfl ?_))
      simp only [List.length_cons] at hfuel
      exact ih.members h (by omega)

theorem itemsTokens_begin (js : List Json) : ∃ c ts, itemsTokens js = .mark c :: ts ∧
    continuesNumber c = false := by
  cases js <;> exact ⟨_, _, by rw [itemsTokens], rfl⟩

theorem membersTokens_begin (ms : Members) : ∃ c ts, membersTokens ms = .mark c :: ts ∧
    continuesNumber c = false := by
  cases ms <;> exact ⟨_, _, by rw [membersTokens], rfl⟩

/-- A value with what is read after it, where that begins with a mark. -/
theorem Yields.then_mark {α β : Type} {reader : Reader α} {f : α → Reader β} {a? : Option α}
    {g : α → Option β} {ds : List Char} {ts : List Token}
    (hts : ∃ c us, ts = .mark c :: us ∧ continuesNumber c = false) (h : Yields reader cs a?)
    (hds : Spelled ts ds) (hf : ∀ a, a? = some a → Yields (f a) ds (g a)) :
    Yields (reader >>= f) (cs ++ ds) (a?.bind g) := by
  obtain ⟨c, us, rfl, hc⟩ := hts
  exact h.bind hf fun rest _ => hds.endsNumber hc rest

theorem Skips.items_succ (ih : Skips fuel) (h : Spelled (j.tokens ++ itemsTokens js) cs)
    (hfuel : (j.tokens ++ itemsTokens js).length ≤ fuel + 1) :
    Yields (skipItems (fuel + 1)) cs (some ()) := by
  rw [List.length_append] at hfuel
  obtain ⟨ds, es, rfl, hj, hjs⟩ := h.append
  rw [skipItems]
  obtain ⟨t, ts, htokens, -⟩ := tokens_begin j
  have hpos : 0 < j.tokens.length := by rw [htokens]; exact Nat.zero_lt_succ _
  have hpos' : 0 < (itemsTokens js).length := by
    obtain ⟨c, us, hus, -⟩ := itemsTokens_begin js
    rw [hus]
    exact Nat.zero_lt_succ _
  refine (ih.value hj (by omega)).then_mark (g := fun _ => some ()) (itemsTokens_begin js) hjs ?_
  rintro ⟨⟩ -
  cases js with
  | nil =>
    rw [itemsTokens] at hjs
    exact yields_mark hjs rfl (yields_advance ']')
  | cons item items =>
    rw [itemsTokens] at hjs hfuel
    rw [List.length_cons] at hfuel
    obtain ⟨blanks, fs, rfl, hblanks, hrest⟩ := hjs.mark
    exact .peek hblanks rfl ((Reads.advance ',').bind_yields (ih.items hrest (by omega)))

theorem Skips.members_succ (ih : Skips fuel)
    (h : Spelled (.string name :: .mark ':' :: (j.tokens ++ membersTokens ms)) cs)
    (hfuel : (j.tokens ++ membersTokens ms).length + 2 ≤ fuel + 1) :
    Yields (skipMembers (fuel + 1)) cs (some ()) := by
  rw [List.length_append] at hfuel
  obtain ⟨blanks, body, ds, rfl, hblanks, hbody, h⟩ := h.string
  obtain ⟨blanks', ds, rfl, hblanks', h⟩ := h.mark
  obtain ⟨ds, es, rfl, hj, hms⟩ := h.append
  rw [skipMembers]
  refine .peek hblanks rfl ((Reads.advance '"').bind_yields
    ((reads_skipStringRest hbody).bind_yields
      (.peek hblanks' rfl ((Reads.advance ':').bind_yields ?_))))
  refine (ih.value hj (by omega)).then_mark (g := fun _ => some ()) (membersTokens_begin ms) hms ?_
  rintro ⟨⟩ -
  cases ms with
  | nil =>
    rw [membersTokens] at hms
    exact yields_mark hms rfl (yields_advance '\x7d')
  | cons m ms =>
    obtain ⟨name', value⟩ := m
    rw [membersTokens] at hms hfuel
    simp only [List.length_cons, List.length_append] at hfuel
    obtain ⟨blanks, fs, rfl, hblanks, hrest⟩ := hms.mark
    refine .peek hblanks rfl ((Reads.advance ',').bind_yields (ih.members hrest ?_))
    rw [List.length_append]
    omega

theorem skips (fuel : Nat) : Skips fuel := by
  induction fuel with
  | zero => exact .zero
  | succ fuel ih => exact ⟨ih.value_succ, ih.items_succ, ih.members_succ⟩

/-- A value is passed over as a whole, however it is spelled. -/
theorem yields_skipValue (h : Spelled j.tokens cs) : Yields skipValue cs (some ()) := by
  intro rest p hrest
  have hfuel : j.tokens.length ≤ 2 * (cs ++ rest).length + 2 := by
    have hlength := h.length_le
    rw [List.length_append]
    omega
  exact (skips _).value h hfuel rest p hrest

end Skip

end EventWiring.Json
