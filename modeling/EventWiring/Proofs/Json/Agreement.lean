import EventWiring.Proofs.Json.Skipped

/-!
# Decoders on texts and on values

A decoder reads off every text of a value what it takes from the value itself, and fails on all of
them if it takes nothing (`Decoder.Agrees`). Records agree on objects as soon as their fields agree:
members of other names are passed over, and a member that repeats a field is refused
(`Decoder.yields_record`).
-/

namespace EventWiring.Json

open Reader

variable {α β : Type} {cs : List Char}

/-! ## Readers that fail -/

/-- The reader fails whatever it reads. -/
def Fails (reader : Reader α) : Prop := ∀ s, (reader s).toOption = none

namespace Fails

theorem fail (cause : Cause) : Fails (Reader.fail cause : Reader α) := fun _ => rfl

theorem failNext (cause : Cause) : Fails (Reader.failNext cause : Reader α) := fun _ => rfl

theorem after {reader : Reader α} {f : α → Reader β} (h : ∀ a, Fails (f a)) :
    Fails (reader >>= f) := by
  intro s
  rw [toOption_bind]
  cases (reader s).toOption with
  | none => rfl
  | some r => exact h _ _

/-- A value that is not of the kind asked for is refused. -/
theorem mismatch (expected : String) : Fails (Reader.mismatch expected : Reader α) := by
  refine after fun next => ?_
  split
  · exact fail _
  · exact after fun _ => fail _
  · exact after fun _ => fail _
  · exact after fun _ => fail _
  · exact after fun _ => after fun _ => fail _
  · exact fail _
  · exact fail _
  · split
    · exact after fun _ => fail _
    · exact failNext _

theorem failClosing (cause : Cause) : Fails (Reader.failClosing cause : Reader α) := by
  refine after fun next => ?_
  dsimp only
  split
  · exact after fun _ => fail _
  · exact fail _

theorem yields {reader : Reader α} (h : Fails reader) : Yields reader cs none := fun _ _ _ => h _

end Fails

/-! ## Decoders of single values -/

namespace Decoder

/-- What is read off a text of a value is what is taken from the value. -/
def Agrees (d : Decoder α) : Prop :=
  ∀ {j : Json} {cs : List Char}, Spelled j.tokens cs → Yields d.read cs (d.ofJson j)

theorem yields_other {next : Option Char → Reader α} {j : Json} (h : Spelled j.tokens cs)
    (hother : ∀ c, j.Begins c → Fails (next (some c))) : Yields (peekToken >>= next) cs none := by
  rw [← List.append_nil j.tokens] at h
  obtain ⟨blanks, c, ds, rfl, hblanks, hc, -⟩ := h.begins
  exact .peek hblanks hc.plain.1 (hother c hc).yields

theorem agrees_bool : bool.Agrees := by
  intro j cs h
  cases j with
  | bool b =>
    rw [tokens] at h
    obtain ⟨blanks, ds, rfl, hblanks, ⟨⟩⟩ := h.single
    · exact .peek hblanks rfl ((Reads.word _).finish (Reads.pure true)).yields
    · exact .peek hblanks rfl ((Reads.word _).finish (Reads.pure false)).yields
  | _ =>
    refine yields_other h fun c hc => ?_
    split
    · next heq => cases heq; cases hc
    · next heq => cases heq; cases hc
    · exact .mismatch _

theorem agrees_string : string.Agrees := by
  intro j cs h
  cases j with
  | string s =>
    rw [tokens] at h
    obtain ⟨blanks, ds, rfl, hblanks, ht⟩ := h.single
    cases ht with
    | string hbody =>
      exact .peek hblanks rfl ((Reads.advance '"').bind (reads_stringRest_spelled hbody)).yields
  | bool b =>
    refine yields_other h fun c hc => ?_
    split
    · next heq => cases heq; cases b <;> cases hc
    · exact .mismatch _
  | _ =>
    refine yields_other h fun c hc => ?_
    split
    · next heq => cases heq; cases hc
    · exact .mismatch _

end Decoder

/-! ## Records -/

section Colon

variable {blanks : List Char} {ts : List Token}

theorem reads_colon (hblanks : ∀ b ∈ blanks, isBlank b = true) :
    Reads colon (blanks ++ [':']) () := by
  intro rest p
  have hpeek : peekToken ⟨blanks ++ ':' :: rest, p⟩ =
      .ok (some ':', ⟨':' :: rest, p.afterAll blanks⟩) := peekToken_eq hblanks rfl
  rw [List.append_assoc, Position.afterAll_append]
  exact bind_ok hpeek

/-- What is read after the colon of a member. -/
theorem yields_colon {f : Unit → Reader α} {a? : Option α} (h : Spelled (.mark ':' :: ts) cs)
    (hf : ∀ ds, Spelled ts ds → Yields (f ()) ds a?) : Yields (colon >>= f) cs a? := by
  obtain ⟨blanks, ds, rfl, hblanks, hrest⟩ := h.mark
  have hall := (reads_colon hblanks).bind_yields (hf ds hrest)
  rwa [List.append_assoc] at hall

end Colon

namespace Fields

variable {σ γ : Type} {fs : Fields σ γ} {key : String} {value : Json}

/-- The decoder of each field agrees. -/
def Agree : {σ γ : Type} → Fields σ γ → Prop
  | _, _, .nil => True
  | _, _, .cons _ d _ rest => d.Agrees ∧ rest.Agree

theorem yields_member (hfs : fs.Agree) (repeats : Bool) (slots : σ)
    (h : Spelled (.mark ':' :: value.tokens) cs) :
    Yields (fs.readMember repeats key slots) cs (fs.takeMember repeats key value slots) := by
  induction fs with
  | nil =>
    refine yields_colon h fun ds hds => ?_
    exact (yields_skipValue hds).map (g := fun _ => ())
  | cons name d absence rest ih =>
    obtain ⟨slot, slots⟩ := slots
    unfold readMember takeMember
    by_cases hname : key = name
    · rw [if_pos hname, if_pos hname]
      split
      · exact (Fails.failClosing _).yields
      · exact yields_colon h fun ds hds => (hfs.1 hds).map
    · rw [if_neg hname, if_neg hname]
      exact (ih hfs.2 slots).map

end Fields

theorem length_lt_membersTokens (ms : Members) : ms.length < (membersTokens ms).length := by
  induction ms with
  | nil => simp [membersTokens]
  | cons m ms ih =>
    simp only [membersTokens, List.length_cons, List.length_append]
    omega

section Loop

variable {σ : Type} {member : String → σ → Reader σ} {step : σ → String × Json → Option σ}
  {ms : Members} {state : σ} {fuel : Nat}

/-- A name and the members from there on, where the loop has found the opening quote. -/
theorem yields_named {name : String} {value : Json}
    (hmember : ∀ cs, Spelled (.mark ':' :: value.tokens) cs →
      Yields (member name state) cs (step state (name, value)))
    (hrest : ∀ next cs, Spelled (membersTokens ms) cs →
      Yields (membersWith member fuel false next) cs (ms.foldlM step next))
    (h : Spelled (.string name :: .mark ':' :: (value.tokens ++ membersTokens ms)) cs) :
    ∃ blanks ds, cs = blanks ++ '"' :: ds ∧ (∀ b ∈ blanks, isBlank b = true) ∧
      Yields (advance >>= fun _ => stringRest >>= fun name =>
        member name state >>= membersWith member fuel false) ('"' :: ds)
        (((name, value) :: ms).foldlM step state) := by
  obtain ⟨blanks, body, ds, rfl, hblanks, hbody, h⟩ := h.string
  rw [← List.cons_append] at h
  obtain ⟨ds, es, rfl, hvalue, hms⟩ := h.append
  refine ⟨blanks, _, rfl, hblanks, ?_⟩
  refine (Reads.advance '"').bind_yields ((reads_stringRest_spelled hbody).bind_yields ?_)
  rw [List.foldlM_cons]
  exact (hmember ds hvalue).then_mark (membersTokens_begin ms) hms fun next _ => hrest next es hms

variable (hmember : ∀ m ∈ ms, ∀ state cs, Spelled (.mark ':' :: m.2.tokens) cs →
  Yields (member m.1 state) cs (step state m))

include hmember

/-- The loop over the members does to the state what the members do one by one. -/
theorem yields_members (h : Spelled (membersTokens ms) cs) (hfuel : ms.length < fuel) :
    Yields (membersWith member fuel false state) cs (ms.foldlM step state) := by
  induction ms generalizing state fuel cs with
  | nil =>
    obtain ⟨n, rfl⟩ : ∃ n, fuel = n + 1 := ⟨fuel - 1, by omega⟩
    rw [membersTokens] at h
    rw [membersWith]
    exact yields_mark h rfl ((Reads.advance '\x7d').finish (Reads.pure state)).yields
  | cons m ms ih =>
    obtain ⟨name, value⟩ := m
    obtain ⟨n, rfl⟩ : ∃ n, fuel = n + 1 := ⟨fuel - 1, by omega⟩
    have hn : ms.length < n := by simpa using hfuel
    have hrest : ∀ next cs, Spelled (membersTokens ms) cs →
        Yields (membersWith member n false next) cs (ms.foldlM step next) :=
      fun next cs hcs => ih (fun m hm => hmember m (List.mem_cons_of_mem _ hm)) hcs hn
    rw [membersTokens] at h
    obtain ⟨blanks, ds, rfl, hblanks, h⟩ := h.mark
    obtain ⟨blanks', es, rfl, hblanks', hnamed⟩ :=
      yields_named (hmember _ List.mem_cons_self state) hrest h
    rw [membersWith]
    refine .peek hblanks rfl ?_
    simp only [Bool.false_eq_true, if_false]
    exact (Reads.advance ',').bind_yields (.peek hblanks' rfl hnamed)

variable (member step state) in
/-- The same from the opening brace on. -/
theorem yields_object (h : Spelled (Json.object ms).tokens cs) :
    ∃ blanks ds, cs = blanks ++ '\x7b' :: ds ∧ (∀ b ∈ blanks, isBlank b = true) ∧
      ∀ fuel, ds.length < fuel →
        Yields (membersWith member fuel true state) ds (ms.foldlM step state) := by
  cases ms with
  | nil =>
    rw [tokens] at h
    obtain ⟨blanks, ds, rfl, hblanks, h⟩ := h.mark
    refine ⟨blanks, ds, rfl, hblanks, fun fuel hfuel => ?_⟩
    obtain ⟨n, rfl⟩ : ∃ n, fuel = n + 1 := ⟨fuel - 1, by omega⟩
    rw [membersWith]
    exact yields_mark h rfl ((Reads.advance '\x7d').finish (Reads.pure state)).yields
  | cons m ms =>
    obtain ⟨name, value⟩ := m
    rw [tokens] at h
    obtain ⟨blanks, ds, rfl, hblanks, h⟩ := h.mark
    refine ⟨blanks, ds, rfl, hblanks, fun fuel hfuel => ?_⟩
    obtain ⟨n, rfl⟩ : ∃ n, fuel = n + 1 := ⟨fuel - 1, by omega⟩
    have hn : ms.length < n := by
      have hlength := h.length_le
      have hmembers := length_lt_membersTokens ms
      simp only [List.length_cons, List.length_append] at hlength
      omega
    have hrest : ∀ next cs, Spelled (membersTokens ms) cs →
        Yields (membersWith member n false next) cs (ms.foldlM step next) :=
      fun next cs hcs => yields_members (fun m hm => hmember m (List.mem_cons_of_mem _ hm)) hcs hn
    obtain ⟨blanks', es, rfl, hblanks', hnamed⟩ :=
      yields_named (hmember _ List.mem_cons_self state) hrest h
    rw [membersWith]
    exact .peek hblanks' rfl hnamed

end Loop

namespace Decoder

variable {σ γ : Type} {fs : Fields σ γ} {ms : Members}

/-- A record is read off a text of an object as it is taken from the object. -/
theorem yields_record (hfs : fs.Agree) (name : String) (build : γ → α)
    (h : Spelled (Json.object ms).tokens cs) :
    Yields (record name fs build).read cs ((record name fs build).ofJson (.object ms)) := by
  obtain ⟨blanks, ds, rfl, hblanks, hloop⟩ := yields_object
    (fun key => fs.readMember false key) (fun slots m => fs.takeMember false m.1 m.2 slots) fs.empty
    (fun m _ slots _ hm => Fields.yields_member hfs false slots hm) h
  have hmembers : Yields (fs.readMembers false) ds (fs.takeMembers false ms) := by
    refine .remaining fun fuel hfuel => ?_
    refine (hloop fuel hfuel).finish (g := fun slots => (fs.close slots).toOption) fun slots _ => ?_
    cases fs.close slots with
    | ok a => exact (Reads.pure a).yields
    | error name => exact (Fails.fail _).yields
  exact .peek hblanks rfl ((Reads.advance '\x7b').bind_yields hmembers.map)

/-- A whole text is decoded as the value that it spells, with blanks around it. -/
theorem decode_eq_ofJson {d : Decoder α} {j : Json} {text : String} (hj : j.Writes text)
    (hd : ∀ cs, Spelled j.tokens cs → Yields d.read cs (d.ofJson j)) :
    (d.decode text).toOption = d.ofJson j := by
  obtain ⟨cs, blanks, htext, hcs, hblanks⟩ := hj
  have hread := hd cs hcs blanks Position.start (endsNumber_blanks hblanks)
  have hstart : Cursor.start text = ⟨cs ++ blanks, Position.start⟩ := by
    rw [Cursor.start, htext]
  have hend : ∀ p, skipBlanks blanks p = ⟨[], p.afterAll blanks⟩ := by
    intro p
    have hskip := skipBlanks_eq hblanks [] p
    rwa [List.append_nil] at hskip
  unfold decode Reader.run
  rw [hstart]
  cases hresult : d.read ⟨cs ++ blanks, Position.start⟩ with
  | error f =>
    rw [hresult] at hread
    exact (Option.map_eq_none_iff.1 hread.symm).symm
  | ok r =>
    rw [hresult] at hread
    obtain ⟨a, ha, rfl⟩ := Option.map_eq_some_iff.1 hread.symm
    rw [ha]
    show (if (skipBlanks blanks _).rest.isEmpty then _ else _ : Except Failure α).toOption = some a
    rw [hend]
    rfl

end Decoder

end EventWiring.Json
