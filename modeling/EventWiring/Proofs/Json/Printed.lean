import EventWiring.Json.Printer
import EventWiring.Proofs.Json.Fields

/-!
# Reading what was printed

A reader `Reads` a text as a value if it takes all of it off the front of any longer one. Every
string is read as it was before its characters were escaped (`reads_stringRest`), and a record is
read off a printed object just as it is taken from the object itself (`Decoder.reads_record`).
-/

namespace EventWiring.Json

/-- Takes exactly these characters, and makes `a` of them. -/
def Reads {α : Type} (reader : Reader α) (cs : List Char) (a : α) : Prop :=
  ∀ rest p, reader ⟨cs ++ rest, p⟩ = .ok (a, ⟨rest, p.afterAll cs⟩)

namespace Reads

open Reader

variable {α β : Type} {reader : Reader α} {f : α → Reader β} {cs ds : List Char} {a : α} {b : β}
  {c : Char}

theorem pure (a : α) : Reads (pure a) [] a := fun _ _ => rfl

theorem bind (h : Reads reader cs a) (hnext : Reads (f a) ds b) :
    Reads (reader >>= f) (cs ++ ds) b := by
  intro rest p
  have hfirst : (reader >>= f) ⟨cs ++ (ds ++ rest), p⟩ = f a ⟨ds ++ rest, p.afterAll cs⟩ := by
    show (reader ⟨cs ++ (ds ++ rest), p⟩ >>= fun r => f r.1 r.2) = _
    rw [h (ds ++ rest) p]
    rfl
  rw [List.append_assoc, hfirst, hnext, Position.afterAll_append]

theorem map {g : α → β} (h : Reads reader cs a) :
    Reads (do let a ← reader; return g a) cs (g a) := by
  have hall := h.bind (f := fun a => Pure.pure (g a)) (Reads.pure (g a))
  rwa [List.append_nil] at hall

/-- A character that is not blank is seen first and stays. -/
theorem peek {next : Option Char → Reader β} (hc : isBlank c = false)
    (h : Reads (next (some c)) (c :: cs) b) : Reads (peekToken >>= next) (c :: cs) b := by
  intro rest p
  have hskip : peekToken ⟨c :: (cs ++ rest), p⟩ = .ok (some c, ⟨c :: (cs ++ rest), p⟩) := by
    simp [peekToken, Cursor.skipBlank, skipBlanks, hc]
  have hseen : (peekToken >>= next) ⟨c :: (cs ++ rest), p⟩ =
      next (some c) ⟨c :: (cs ++ rest), p⟩ := by
    show (peekToken ⟨c :: (cs ++ rest), p⟩ >>= fun r => next r.1 r.2) = _
    rw [hskip]
    rfl
  exact hseen.trans (h rest p)

theorem advance (c : Char) : Reads advance [c] () := fun _ _ => rfl

/-- The fuel that is counted before a text is enough for the text. -/
theorem remaining {next : Nat → Reader β} (h : ∀ fuel, cs.length < fuel → Reads (next fuel) cs b) :
    Reads (remaining >>= next) cs b := by
  intro rest p
  have hfuel : cs.length < (cs ++ rest).length + 1 := by simp only [List.length_append]; omega
  exact h _ hfuel rest p

theorem word (cs : List Char) : Reads (word cs) cs () := by
  induction cs with
  | nil => exact Reads.pure ()
  | cons c cs ih =>
    intro rest p
    have hstep : Reader.word (c :: cs) ⟨c :: (cs ++ rest), p⟩ =
        Reader.word cs ⟨cs ++ rest, p.after c⟩ := if_pos rfl
    exact hstep.trans (ih rest (p.after c))

theorem colon : Reads colon [':'] () := peek rfl (advance ':')

end Reads

/-! ## Strings -/

section Strings

open Reader

/-- The code unit of a control character is read back from its four digits. -/
theorem reads_codeUnit {n : Nat} (h : n < 32) :
    Reads codeUnit ['0', '0', hexDigit (n / 16), hexDigit (n % 16)] n := by
  have hdigits : ∀ k : Fin 32,
      byteCount ['0', '0', hexDigit (k / 16), hexDigit (k % 16)] = 4 ∧
        fourHex? '0' '0' (hexDigit (k / 16)) (hexDigit (k % 16)) = some k.val := by decide
  obtain ⟨hbytes, hvalue⟩ := hdigits ⟨n, h⟩
  intro rest p
  simp [codeUnit, hbytes, hvalue]

theorem reads_unicodeEscape {c : Char} (h : c.toNat < 0x20) :
    Reads unicodeEscape ['0', '0', hexDigit (c.toNat / 16), hexDigit (c.toNat % 16)] c := by
  have htrailing : isTrailing c.toNat = false := by simp [isTrailing]; omega
  have hleading : isLeading c.toNat = false := by simp [isLeading]; omega
  have hnext : Reads (do
      if isTrailing c.toNat then fail .loneSurrogate
      else if isLeading c.toNat then
        pairMark '\\'
        pairMark 'u'
        let m ← codeUnit
        if isTrailing m then return joinSurrogates c.toNat m else fail .loneSurrogate
      else return Char.ofNat c.toNat) [] c := by
    simp only [htrailing, hleading, Bool.false_eq_true, if_false, Char.ofNat_toNat]
    exact Reads.pure c
  exact (reads_codeUnit h).bind hnext

section Body

variable {c : Char} {cs : List Char} {fuel : Nat}

theorem stringBody_plain (hquote : c ≠ '"') (hslash : c ≠ '\\') (hcontrol : ¬ c.toNat < 0x20)
    (rest : List Char) (p : Position) :
    stringBody (fuel + 1) ⟨c :: rest, p⟩ =
      (stringBody fuel ⟨rest, p.after c⟩).map fun r => (c :: r.1, r.2) := by
  simp only [stringBody, hcontrol, if_false]
  cases stringBody fuel ⟨rest, p.after c⟩ <;> rfl

theorem stringBody_escape (h : Reads escape cs c) (rest : List Char) (p : Position) :
    stringBody (fuel + 1) ⟨'\\' :: (cs ++ rest), p⟩ =
      (stringBody fuel ⟨rest, p.afterAll ('\\' :: cs)⟩).map fun r => (c :: r.1, r.2) := by
  simp only [stringBody, h rest (p.after '\\')]
  cases hbody : stringBody fuel ⟨rest, p.afterAll ('\\' :: cs)⟩ with
  | error f =>
    rw [Position.afterAll_cons] at hbody
    simp [Except.map, bind, Except.bind, hbody]
  | ok r =>
    rw [Position.afterAll_cons] at hbody
    simp [Except.map, bind, Except.bind, hbody, pure, Except.pure]

/-- One character of a body is read off what was printed for it. -/
theorem stringBody_escapeChar (c : Char) (fuel : Nat) (rest : List Char) (p : Position) :
    stringBody (fuel + 1) ⟨escapeChar c ++ rest, p⟩ =
      (stringBody fuel ⟨rest, p.afterAll (escapeChar c)⟩).map fun r => (c :: r.1, r.2) := by
  have hshort : ∀ c d : Char, shortEscape? c = some d → Reads escape [c] d := by
    intro c d h rest p
    simp [escape, h]
  unfold escapeChar
  split
  · exact stringBody_escape (hshort '"' _ rfl) rest p
  · exact stringBody_escape (hshort '\\' _ rfl) rest p
  · exact stringBody_escape (hshort 'b' _ rfl) rest p
  · exact stringBody_escape (hshort 't' _ rfl) rest p
  · exact stringBody_escape (hshort 'n' _ rfl) rest p
  · exact stringBody_escape (hshort 'f' _ rfl) rest p
  · exact stringBody_escape (hshort 'r' _ rfl) rest p
  · next hquote hslash _ _ _ _ _ =>
    split
    · next hcontrol =>
      have hread : Reads escape
          ('u' :: ['0', '0', hexDigit (c.toNat / 16), hexDigit (c.toNat % 16)]) c :=
        fun rest p => reads_unicodeEscape hcontrol rest (p.after 'u')
      exact stringBody_escape hread rest p
    · next hcontrol => exact stringBody_plain hquote hslash hcontrol rest p

theorem reads_stringBody (cs : List Char) {fuel : Nat} (h : cs.length < fuel) :
    Reads (stringBody fuel) (cs.flatMap escapeChar ++ ['"']) cs := by
  induction cs generalizing fuel with
  | nil =>
    obtain ⟨n, rfl⟩ := Nat.exists_eq_add_of_lt h
    intro rest p
    simp [stringBody]
  | cons c cs ih =>
    obtain ⟨n, rfl⟩ : ∃ n, fuel = n + 1 := ⟨fuel - 1, by omega⟩
    intro rest p
    have hfuel : cs.length < n := by simpa using h
    have hread := ih hfuel rest (p.afterAll (escapeChar c))
    rw [List.flatMap_cons, List.append_assoc, List.append_assoc, stringBody_escapeChar,
      ← List.append_assoc, hread, Except.map, List.append_assoc,
      Position.afterAll_append p (escapeChar c)]

end Body

theorem length_le_flatMap_escapeChar (cs : List Char) :
    cs.length ≤ (cs.flatMap escapeChar).length := by
  induction cs with
  | nil => exact Nat.le_refl 0
  | cons c cs ih =>
    have hpos : 0 < (escapeChar c).length := by
      unfold escapeChar
      split <;> first | exact Nat.zero_lt_succ _ | (split <;> exact Nat.zero_lt_succ _)
    rw [List.flatMap_cons, List.length_append, List.length_cons]
    omega

/-- Every string is read back from what was printed between its quotes. -/
theorem reads_stringRest (s : String) :
    Reads stringRest (s.toList.flatMap escapeChar ++ ['"']) s := by
  intro rest p
  have hfuel : s.toList.length < (s.toList.flatMap escapeChar ++ ['"'] ++ rest).length + 1 := by
    have hlength := length_le_flatMap_escapeChar s.toList
    simp only [List.length_append]
    omega
  have hbody := reads_stringBody s.toList hfuel rest p
  simp only [stringRest, hbody, bind, Except.bind, pure, Except.pure, String.ofList_toList]

end Strings

/-! ## Records -/

/-- What `chars` prints of an object after its opening brace. -/
def objectChars : Members → List Char
  | [] => ['\x7d']
  | (name, value) :: ms => stringChars name ++ ':' :: (value.chars ++ membersChars ms)

theorem chars_object (ms : Members) : (Json.object ms).chars = '\x7b' :: objectChars ms := by
  cases ms <;> simp [chars, objectChars]

theorem length_lt_membersChars (ms : Members) : ms.length < (membersChars ms).length := by
  induction ms with
  | nil => simp [membersChars]
  | cons m ms ih =>
    simp only [membersChars, List.length_cons, List.length_append]
    omega

theorem length_lt_objectChars (ms : Members) : ms.length < (objectChars ms).length := by
  cases ms with
  | nil => simp [objectChars]
  | cons m ms =>
    have hrest := length_lt_membersChars ms
    simp only [objectChars, List.length_cons, List.length_append]
    omega

section Loop

open Reader

variable {σ : Type} {member : String → σ → Reader σ} {step : σ → String × Json → Option σ}
  {ms : Members} {state final : σ} {fuel : Nat}

/-- A name and what is read after it, where the loop has found the opening quote. -/
theorem reads_named {name : String} {cs : List Char} {f : String → Reader σ} {final : σ}
    (h : Reads (f name) cs final) :
    Reads (advance >>= fun _ => stringRest >>= f) (stringChars name ++ cs) final := by
  have hall := (Reads.advance '"').bind (f := fun _ => stringRest >>= f)
    ((reads_stringRest name).bind h)
  simpa [stringChars] using hall

theorem reads_firstMember {name : String} {cs : List Char}
    (h : Reads (member name state >>= membersWith member fuel false) cs final) :
    Reads (membersWith member (fuel + 1) true state) (stringChars name ++ cs) final := by
  have hnamed := reads_named (f := fun name => member name state >>=
    membersWith member fuel false) h
  rw [membersWith]
  exact Reads.peek rfl hnamed

theorem reads_nextMember {name : String} {cs : List Char}
    (h : Reads (member name state >>= membersWith member fuel false) cs final) :
    Reads (membersWith member (fuel + 1) false state) (',' :: (stringChars name ++ cs)) final := by
  have hnamed := reads_named (f := fun name => member name state >>=
    membersWith member fuel false) h
  rw [membersWith]
  refine Reads.peek rfl ?_
  simp only [Bool.false_eq_true, if_false]
  exact (Reads.advance ',').bind (Reads.peek rfl hnamed)

/-- The loop over the members does to the state what the members do one by one. -/
theorem reads_membersChars
    (hmember : ∀ m ∈ ms, ∀ state next, step state m = some next →
      Reads (member m.1 state) (':' :: m.2.chars) next)
    (hfold : ms.foldlM step state = some final) (hfuel : ms.length < fuel) :
    Reads (membersWith member fuel false state) (membersChars ms) final := by
  induction ms generalizing state fuel with
  | nil =>
    obtain ⟨n, rfl⟩ : ∃ n, fuel = n + 1 := ⟨fuel - 1, by omega⟩
    cases hfold
    rw [membersWith, membersChars]
    exact Reads.peek rfl ((Reads.advance '\x7d').bind (Reads.pure _))
  | cons m ms ih =>
    obtain ⟨name, value⟩ := m
    obtain ⟨n, rfl⟩ : ∃ n, fuel = n + 1 := ⟨fuel - 1, by omega⟩
    obtain ⟨next, hstep, hrest⟩ := Option.bind_eq_some_iff.1 hfold
    have hvalue := hmember _ List.mem_cons_self state next hstep
    have hn : ms.length < n := by simpa using hfuel
    have hmore := ih (fun m hm => hmember m (List.mem_cons_of_mem _ hm)) hrest hn
    rw [membersChars]
    exact reads_nextMember (hvalue.bind hmore)

theorem reads_objectChars
    (hmember : ∀ m ∈ ms, ∀ state next, step state m = some next →
      Reads (member m.1 state) (':' :: m.2.chars) next)
    (hfold : ms.foldlM step state = some final) (hfuel : ms.length < fuel) :
    Reads (membersWith member fuel true state) (objectChars ms) final := by
  obtain ⟨n, rfl⟩ : ∃ n, fuel = n + 1 := ⟨fuel - 1, by omega⟩
  cases ms with
  | nil =>
    cases hfold
    rw [membersWith, objectChars]
    exact Reads.peek rfl ((Reads.advance '\x7d').bind (Reads.pure _))
  | cons m ms =>
    obtain ⟨name, value⟩ := m
    obtain ⟨next, hstep, hrest⟩ := Option.bind_eq_some_iff.1 hfold
    have hvalue := hmember _ List.mem_cons_self state next hstep
    have hn : ms.length < n := by simpa using hfuel
    have hmore := reads_membersChars (fun m hm => hmember m (List.mem_cons_of_mem _ hm)) hrest hn
    rw [objectChars]
    exact reads_firstMember (hvalue.bind hmore)

end Loop

namespace Decoder

open Reader

variable {α : Type}

/-- What the decoder takes from a value it reads from what is printed of it. -/
def Faithful (d : Decoder α) : Prop := ∀ j a, d.ofJson j = some a → Reads d.read j.chars a

theorem faithful_string : string.Faithful := by
  intro j s h
  cases j with
  | string text =>
    cases h
    have hrest := (Reads.advance '"').bind (f := fun _ => stringRest) (reads_stringRest s)
    exact Reads.peek rfl hrest
  | _ => cases h

theorem faithful_bool : bool.Faithful := by
  intro j b h
  cases j with
  | bool value =>
    cases h
    cases b with
    | true => exact Reads.peek rfl ((Reads.word _).bind (Reads.pure true))
    | false => exact Reads.peek rfl ((Reads.word _).bind (Reads.pure false))
  | _ => cases h

end Decoder

namespace Fields

open Reader

/-- Every field is read faithfully. -/
def Faithful : {σ γ : Type} → Fields σ γ → Prop
  | _, _, .nil => True
  | _, _, .cons _ d _ rest => d.Faithful ∧ rest.Faithful

/-- The field of that name reads what is printed of the value just as it takes the value. -/
def Trusts (key : String) (value : Json) : {σ γ : Type} → Fields σ γ → Prop
  | _, _, .nil => False
  | _, _, .cons name d _ rest =>
    if key = name then ∀ a, d.ofJson value = some a → Reads d.read value.chars a
    else rest.Trusts key value

variable {σ γ : Type} {fs : Fields σ γ} {repeats : Bool} {key : String} {value : Json}
  {slots slots' : σ}

theorem Faithful.trusts (hfs : fs.Faithful) (hkey : key ∈ fs.names) : fs.Trusts key value := by
  induction fs with
  | nil => cases hkey
  | cons name d absence rest ih =>
    unfold Trusts
    split
    · exact hfs.1 value
    · next hname => exact ih hfs.2 ((List.mem_cons.1 hkey).resolve_left hname)

theorem reads_member (hfs : fs.Trusts key value)
    (h : fs.takeMember repeats key value slots = some slots') :
    Reads (fs.readMember repeats key slots) (':' :: value.chars) slots' := by
  induction fs with
  | nil => cases hfs
  | cons name d absence rest ih =>
    obtain ⟨slot, slots⟩ := slots
    unfold Trusts at hfs
    unfold takeMember at h
    unfold readMember
    by_cases hname : key = name
    · rw [if_pos hname] at h hfs ⊢
      split at h
      · cases h
      · next hfree =>
        rw [if_neg hfree]
        obtain ⟨a, ha, rfl⟩ := Option.map_eq_some_iff.1 h
        exact Reads.colon.bind (hfs a ha).map
    · rw [if_neg hname] at h hfs ⊢
      obtain ⟨slots', hslots, rfl⟩ := Option.map_eq_some_iff.1 h
      exact (ih hfs hslots).map

end Fields

/-- A record is read off a printed object as it is taken from the object. -/
theorem Decoder.reads_record {α σ γ : Type} {name : String} {fs : Fields σ γ} {build : γ → α}
    {ms : Members} {a : α} (hms : ∀ m ∈ ms, fs.Trusts m.1 m.2)
    (h : (record name fs build).ofJson (.object ms) = some a) :
    Reads (record name fs build).read (Json.object ms).chars a := by
  obtain ⟨g, hg, rfl⟩ := Option.map_eq_some_iff.1 h
  obtain ⟨slots, hslots, hclose⟩ := Option.bind_eq_some_iff.1 hg
  have hclosed : fs.close slots = .ok g := by
    cases hc : fs.close slots with
    | ok g' =>
      rw [hc] at hclose
      exact congrArg Except.ok (Option.some.inj hclose)
    | error name => rw [hc] at hclose; cases hclose
  have hloop : ∀ fuel, (objectChars ms).length < fuel →
      Reads (Reader.membersWith (fun key => fs.readMember false key) fuel true fs.empty)
        (objectChars ms) slots := by
    intro fuel hfuel
    refine reads_objectChars (fun m hm _ _ hstep => ?_) hslots
      (Nat.lt_trans (length_lt_objectChars ms) hfuel)
    exact Fields.reads_member (hms m hm) hstep
  have hmembers : Reads (fs.readMembers false) (objectChars ms) g := by
    refine Reads.remaining fun fuel hfuel => ?_
    rw [← List.append_nil (objectChars ms)]
    refine (hloop fuel hfuel).bind ?_
    rw [hclosed]
    exact Reads.pure g
  rw [chars_object]
  exact Reads.peek rfl ((Reads.advance '\x7b').bind hmembers.map)

theorem Decoder.decode_render {α : Type} {d : Decoder α} {j : Json} {a : α}
    (h : Reads d.read j.chars a) : d.decode j.render = .ok a := by
  have hread := h [] Position.start
  rw [List.append_nil] at hread
  have hstart : Cursor.start j.render = ⟨j.chars, Position.start⟩ := by
    simp [Cursor.start, Json.render]
  unfold Decoder.decode Reader.run
  rw [hstart, hread]
  rfl

end EventWiring.Json
