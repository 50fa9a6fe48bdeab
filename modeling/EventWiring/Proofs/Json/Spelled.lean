import EventWiring.Proofs.Json.Printed

/-!
# Texts that spell a value

There are many texts for one value: blanks may stand before every token, characters of strings may
be escaped, and of a number only its grammar counts here (`Spelled`). A string is read back from
each of its spellings (`reads_stringRest_spelled`), and strings and numbers are passed over whatever
their spelling.
-/

namespace EventWiring.Json

open Text (hexDigit?)

/-! ## Strings -/

/-- Four hexadecimal digits, in either case, and the number that they name. -/
inductive FourDigits : List Char → Nat → Prop
  | intro {a b c d : Char} {i j k l : Nat} : hexDigit? a = some i → hexDigit? b = some j →
    hexDigit? c = some k → hexDigit? d = some l →
    FourDigits [a, b, c, d] (4096 * i + 256 * j + 16 * k + l)

/-- The ways to write a character of a string. -/
inductive SpellsChar : Char → List Char → Prop
  | plain {c : Char} : c ≠ '"' → c ≠ '\\' → 0x20 ≤ c.toNat → SpellsChar c [c]
  | short {c d : Char} : Reader.shortEscape? c = some d → SpellsChar d ['\\', c]
  | unit {ds : List Char} {n : Nat} : FourDigits ds n → ¬ Reader.isLeading n →
    ¬ Reader.isTrailing n → SpellsChar (Char.ofNat n) ('\\' :: 'u' :: ds)
  | pair {ds es : List Char} {n m : Nat} : FourDigits ds n → Reader.isLeading n →
    FourDigits es m → Reader.isTrailing m →
    SpellsChar (Reader.joinSurrogates n m) ('\\' :: 'u' :: (ds ++ '\\' :: 'u' :: es))

inductive SpellsChars : List Char → List Char → Prop
  | nil : SpellsChars [] []
  | cons {c : Char} {s cs ds : List Char} : SpellsChar c cs → SpellsChars s ds →
    SpellsChars (c :: s) (cs ++ ds)

section Strings

open Reader

variable {c : Char} {s cs ds es : List Char} {n m fuel : Nat}

theorem reads_fourDigits (h : FourDigits ds n) : Reads codeUnit ds n := by
  obtain ⟨ha, hb, hc, hd⟩ := h
  rename_i a b c d i j k l
  intro rest p
  have hbytes : ¬ byteCount ((a :: b :: c :: d :: rest).take 4) < 4 := by
    have ha := a.utf8Size_pos
    have hb := b.utf8Size_pos
    have hc := c.utf8Size_pos
    have hd := d.utf8Size_pos
    simp only [List.take_succ_cons, List.take_zero, byteCount, List.foldr_cons, List.foldr_nil]
    omega
  have hvalue : fourHex? a b c d = some (4096 * i + 256 * j + 16 * k + l) := by
    simp only [fourHex?, ha, hb, hc, hd, Option.bind_eq_bind, Option.bind_some, Option.pure_def,
      Option.some.injEq]
    omega
  show codeUnit ⟨a :: b :: c :: d :: rest, p⟩ = _
  simp only [codeUnit, if_neg hbytes, hvalue]

/-- What is left to do takes nothing more. -/
theorem Reads.finish {α β : Type} {reader : Reader α} {f : α → Reader β} {a : α} {b : β}
    (h : Reads reader cs a) (hf : Reads (f a) [] b) : Reads (reader >>= f) cs b := by
  have hall := h.bind hf
  rwa [List.append_nil] at hall

theorem reads_pairMark (c : Char) : Reads (pairMark c) [c] () := by
  intro rest p
  exact if_pos rfl

theorem reads_escape_short {d : Char} (h : shortEscape? c = some d) : Reads escape [c] d := by
  intro rest p
  simp [escape, h]

theorem reads_escape_unicode (h : Reads unicodeEscape cs c) : Reads escape ('u' :: cs) c := by
  intro rest p
  exact h rest (p.after 'u')

theorem reads_unit (h : FourDigits ds n) (hleading : ¬ isLeading n) (htrailing : ¬ isTrailing n) :
    Reads unicodeEscape ds (Char.ofNat n) := by
  refine (reads_fourDigits h).finish ?_
  rw [if_neg htrailing, if_neg hleading]
  exact Reads.pure _

theorem not_trailing_of_leading (h : isLeading n) : ¬ isTrailing n := by
  simp only [isLeading, isTrailing, Bool.and_eq_true, decide_eq_true_eq] at h ⊢
  omega

theorem reads_pair (hds : FourDigits ds n) (hn : isLeading n) (hes : FourDigits es m)
    (hm : isTrailing m) :
    Reads unicodeEscape (ds ++ '\\' :: 'u' :: es) (joinSurrogates n m) := by
  have hlast : Reads (do
      let m ← codeUnit
      if isTrailing m then return joinSurrogates n m else fail .loneSurrogate) es
      (joinSurrogates n m) := by
    refine (reads_fourDigits hes).finish ?_
    rw [if_pos hm]
    exact Reads.pure _
  refine (reads_fourDigits hds).bind ?_
  rw [if_neg (not_trailing_of_leading hn), if_pos hn]
  exact (reads_pairMark '\\').bind ((reads_pairMark 'u').bind hlast)

/-- Whatever way a character is written, a body is read on after it. -/
theorem stringBody_spelled (h : SpellsChar c cs) (rest : List Char) (p : Position) :
    stringBody (fuel + 1) ⟨cs ++ rest, p⟩ =
      (stringBody fuel ⟨rest, p.afterAll cs⟩).map fun r => (c :: r.1, r.2) := by
  cases h with
  | plain hquote hslash hcontrol =>
    exact stringBody_plain hquote hslash (Nat.not_lt.2 hcontrol) rest p
  | short hshort => exact stringBody_escape (reads_escape_short hshort) rest p
  | unit hds hleading htrailing =>
    exact stringBody_escape (reads_escape_unicode (reads_unit hds hleading htrailing)) rest p
  | pair hds hn hes hm =>
    exact stringBody_escape (reads_escape_unicode (reads_pair hds hn hes hm)) rest p

theorem reads_stringBody_spelled (h : SpellsChars s cs) (hfuel : s.length < fuel) :
    Reads (stringBody fuel) (cs ++ ['"']) s := by
  induction h generalizing fuel with
  | nil =>
    obtain ⟨n, rfl⟩ : ∃ n, fuel = n + 1 := ⟨fuel - 1, by omega⟩
    intro rest p
    simp [stringBody]
  | @cons c s cs ds hc hs ih =>
    obtain ⟨n, rfl⟩ : ∃ n, fuel = n + 1 := ⟨fuel - 1, by omega⟩
    intro rest p
    have hn : s.length < n := by simpa using hfuel
    have hread := ih hn rest (p.afterAll cs)
    rw [List.append_assoc, List.append_assoc, stringBody_spelled hc, ← List.append_assoc, hread,
      List.append_assoc, Position.afterAll_append p cs]
    rfl

theorem SpellsChar.length_pos (h : SpellsChar c cs) : 0 < cs.length := by
  cases h <;> exact Nat.zero_lt_succ _

theorem SpellsChars.length_le (h : SpellsChars s cs) : s.length ≤ cs.length := by
  induction h with
  | nil => exact Nat.le_refl 0
  | cons hc _ ih =>
    have hpos := hc.length_pos
    rw [List.length_cons, List.length_append]
    omega

theorem reads_stringRest_spelled {s : String} (h : SpellsChars s.toList cs) :
    Reads stringRest (cs ++ ['"']) s := by
  intro rest p
  have hfuel : s.toList.length < (cs ++ ['"'] ++ rest).length + 1 := by
    have hlength := h.length_le
    simp only [List.length_append]
    omega
  have hbody := reads_stringBody_spelled h hfuel rest p
  simp only [stringRest, hbody, bind, Except.bind, pure, Except.pure, String.ofList_toList]

/-- One code unit is passed over by itself. -/
theorem skipStringBody_unit (fuel : Nat) (h : FourDigits ds n) (rest : List Char) (p : Position) :
    skipStringBody (fuel + 1) ⟨'\\' :: 'u' :: (ds ++ rest), p⟩ =
      skipStringBody fuel ⟨rest, p.afterAll ('\\' :: 'u' :: ds)⟩ := by
  have hread := reads_fourDigits h rest ((p.after '\\').after 'u')
  have hstep : skipStringBody (fuel + 1) ⟨'\\' :: 'u' :: (ds ++ rest), p⟩ =
      (codeUnit ⟨ds ++ rest, (p.after '\\').after 'u'⟩ >>= fun r => skipStringBody fuel r.2) := rfl
  rw [hstep, hread]
  rfl

/-- A character is passed over in at most as many steps as it has characters itself. -/
theorem skipStringBody_spelled (h : SpellsChar c cs) : ∃ n ≤ cs.length, ∀ fuel rest p,
    skipStringBody (fuel + n) ⟨cs ++ rest, p⟩ = skipStringBody fuel ⟨rest, p.afterAll cs⟩ := by
  cases h with
  | plain hquote hslash hcontrol =>
    refine ⟨1, Nat.le_refl 1, fun fuel rest p => ?_⟩
    show skipStringBody (fuel + 1) ⟨c :: rest, p⟩ = _
    simp only [skipStringBody, if_neg (Nat.not_lt.2 hcontrol)]
    rfl
  | @short e _ hshort =>
    refine ⟨1, Nat.le_succ 1, fun fuel rest p => ?_⟩
    show skipStringBody (fuel + 1) ⟨'\\' :: e :: rest, p⟩ = _
    simp only [skipStringBody, hshort, Option.isSome_some, if_true]
    rfl
  | unit hds =>
    refine ⟨1, ?_, fun fuel rest p => skipStringBody_unit fuel hds rest p⟩
    simp only [List.length_cons]
    omega
  | @pair leading trailing _ _ hleading _ htrailing _ =>
    -- the halves of a pair are passed over one after the other
    refine ⟨2, ?_, fun fuel rest p => ?_⟩
    · simp only [List.length_cons]
      omega
    · have hfirst := skipStringBody_unit (fuel + 1) hleading
        ('\\' :: 'u' :: (trailing ++ rest)) p
      have hsecond := skipStringBody_unit fuel htrailing rest
        (p.afterAll ('\\' :: 'u' :: leading))
      simpa using hfirst.trans hsecond

theorem reads_skipStringBody (h : SpellsChars s cs) (hfuel : cs.length < fuel) :
    Reads (skipStringBody fuel) (cs ++ ['"']) () := by
  induction h generalizing fuel with
  | nil =>
    obtain ⟨n, rfl⟩ : ∃ n, fuel = n + 1 := ⟨fuel - 1, by omega⟩
    intro rest p
    rfl
  | @cons c s cs ds hc hs ih =>
    obtain ⟨n, hn, hskip⟩ := skipStringBody_spelled hc
    rw [List.length_append] at hfuel
    obtain ⟨left, rfl⟩ : ∃ left, fuel = left + n := ⟨fuel - n, by omega⟩
    intro rest p
    rw [List.append_assoc, List.append_assoc, hskip, ← List.append_assoc, ih (by omega),
      List.append_assoc, Position.afterAll_append p cs]

theorem reads_skipStringRest (h : SpellsChars s cs) : Reads skipStringRest (cs ++ ['"']) () := by
  intro rest p
  refine reads_skipStringBody h ?_ rest p
  simp only [List.length_append]
  omega

end Strings

/-! ## Numbers -/

def Digits (cs : List Char) : Prop := cs ≠ [] ∧ ∀ c ∈ cs, isDigit c = true

/-- A zero stands alone. -/
inductive SpellsWhole : List Char → Prop
  | zero : SpellsWhole ['0']
  | digits {c : Char} {cs : List Char} : c ≠ '0' → Digits (c :: cs) → SpellsWhole (c :: cs)

inductive SpellsFraction : List Char → Prop
  | none : SpellsFraction []
  | some {ds : List Char} : Digits ds → SpellsFraction ('.' :: ds)

inductive SpellsExponent : List Char → Prop
  | none : SpellsExponent []
  | some {mark : Char} {sign ds : List Char} : mark = 'e' ∨ mark = 'E' →
    sign = [] ∨ sign = ['+'] ∨ sign = ['-'] → Digits ds → SpellsExponent (mark :: (sign ++ ds))

/-- The texts of numbers, of whatever size. -/
inductive SpellsNumber : List Char → Prop
  | positive {ws fs es : List Char} : SpellsWhole ws → SpellsFraction fs → SpellsExponent es →
    SpellsNumber (ws ++ (fs ++ es))
  | negative {ws fs es : List Char} : SpellsWhole ws → SpellsFraction fs → SpellsExponent es →
    SpellsNumber ('-' :: (ws ++ (fs ++ es)))

/-- A character that cannot follow a number without being part of it. -/
def continuesNumber (c : Char) : Bool := isDigit c || c = '.' || c = 'e' || c = 'E'

/-- A number ends before these characters. -/
def EndsNumber (cs : List Char) : Prop := ∀ c ∈ cs.head?, continuesNumber c = false

section Numbers

open Reader

variable {α β : Type} {ws fs es ds cs rest : List Char} {p : Position}

theorem EndsNumber.nil : EndsNumber [] := nofun

theorem EndsNumber.digit (h : EndsNumber rest) : ∀ c ∈ rest.head?, isDigit c = false := by
  intro c hc
  have hends := h c hc
  simp only [continuesNumber, Bool.or_eq_false_iff] at hends
  exact hends.1.1.1

theorem bind_ok {reader : Reader α} {f : α → Reader β} {s s' : Cursor} {a : α}
    (h : reader s = .ok (a, s')) : (reader >>= f) s = f a s' := by
  show (reader s >>= fun r => f r.1 r.2) = _
  rw [h]
  rfl

theorem digits_eq (hds : ∀ c ∈ ds, isDigit c = true) (hrest : ∀ c ∈ rest.head?, isDigit c = false) :
    digits ⟨ds ++ rest, p⟩ = .ok (ds.map fun c => c.toNat - 48, ⟨rest, p.afterAll ds⟩) := by
  have hnone : rest.takeWhile isDigit = [] ∧ rest.dropWhile isDigit = rest := by
    cases rest with
    | nil => exact ⟨rfl, rfl⟩
    | cons c rest =>
      have hc := hrest c rfl
      exact ⟨List.takeWhile_cons_of_neg (by simp [hc]), List.dropWhile_cons_of_neg (by simp [hc])⟩
  simp only [digits, List.takeWhile_append_of_pos hds, List.dropWhile_append_of_pos hds, hnone.1,
    hnone.2, List.append_nil]

theorem skipDigits_eq (hds : Digits ds) (hrest : ∀ c ∈ rest.head?, isDigit c = false) :
    skipDigits ⟨ds ++ rest, p⟩ = .ok ((), ⟨rest, p.afterAll ds⟩) := by
  obtain ⟨hne, hall⟩ := hds
  cases ds with
  | nil => exact absurd rfl hne
  | cons d ds =>
    have hread := digits_eq (p := p) hall hrest
    have hstep : skipDigits ⟨d :: ds ++ rest, p⟩ =
        (do let _ ← digits : Reader Unit) ⟨d :: ds ++ rest, p⟩ := if_pos (hall d List.mem_cons_self)
    rw [hstep, bind_ok hread]
    rfl

theorem skipExponent_eq (h : SpellsExponent es) (hne : es ≠ [])
    (hrest : ∀ c ∈ rest.head?, isDigit c = false) :
    skipExponent ⟨es ++ rest, p⟩ = .ok ((), ⟨rest, p.afterAll es⟩) := by
  cases h with
  | none => exact absurd rfl hne
  | @some mark sign ds _ hsign hds =>
    have hskip := fun q => skipDigits_eq (p := q) hds hrest
    have hread : ∃ b, exponentSign ⟨sign ++ (ds ++ rest), p.after mark⟩ =
        .ok (b, ⟨ds ++ rest, (p.after mark).afterAll sign⟩) := by
      rcases hsign with rfl | rfl | rfl
      · obtain ⟨hne, hall⟩ := hds
        cases ds with
        | nil => exact absurd rfl hne
        | cons d ds =>
          have hd := hall d List.mem_cons_self
          refine ⟨false, ?_⟩
          show exponentSign ⟨d :: (ds ++ rest), p.after mark⟩ = _
          unfold exponentSign
          split
          · next heq => cases (List.cons.inj heq).1; cases hd
          · next heq => cases (List.cons.inj heq).1; cases hd
          · rfl
      · exact ⟨false, rfl⟩
      · exact ⟨true, rfl⟩
    obtain ⟨b, hb⟩ := hread
    have hstep : skipExponent ⟨mark :: (sign ++ ds) ++ rest, p⟩ =
        (exponentSign >>= fun _ => skipDigits) ⟨sign ++ (ds ++ rest), p.after mark⟩ := by
      rw [← List.append_assoc]
      rfl
    rw [hstep, bind_ok hb, hskip, Position.afterAll_cons, Position.afterAll_append]

theorem head_exponent (h : SpellsExponent es) (hne : es ≠ []) :
    ∃ mark rest, es = mark :: rest ∧ (mark = 'e' ∨ mark = 'E') := by
  cases h with
  | none => exact absurd rfl hne
  | some hmark => exact ⟨_, _, rfl, hmark⟩

/-- What comes after the digits before an exponent is no digit. -/
theorem exponent_not_digit (h : SpellsExponent es) (hrest : EndsNumber rest) :
    ∀ c ∈ (es ++ rest).head?, isDigit c = false := by
  by_cases hes : es = []
  · rw [hes]
    exact hrest.digit
  · obtain ⟨mark, tail, rfl, hmark⟩ := head_exponent h hes
    rintro c ⟨⟩
    rcases hmark with rfl | rfl <;> rfl

theorem skipExponent?_eq (h : SpellsExponent es) (hrest : EndsNumber rest) :
    (do if isExponentMark (← peek) then skipExponent : Reader Unit) ⟨es ++ rest, p⟩ =
      .ok ((), ⟨rest, p.afterAll es⟩) := by
  have hpeek : peek ⟨es ++ rest, p⟩ = .ok ((es ++ rest).head?, ⟨es ++ rest, p⟩) := rfl
  rw [bind_ok hpeek]
  by_cases hes : es = []
  · subst hes
    have hmark : isExponentMark rest.head? = false := by
      cases hhead : rest.head? with
      | none => rfl
      | some c =>
        have hc := hrest c hhead
        simp only [continuesNumber, Bool.or_eq_false_iff, decide_eq_false_iff_not] at hc
        simp [isExponentMark, hc.1.2, hc.2]
    rw [List.nil_append, hmark]
    rfl
  · have hskip := skipExponent_eq (p := p) h hes hrest.digit
    obtain ⟨mark, tail, rfl, hmark⟩ := head_exponent h hes
    have hhead : isExponentMark ((mark :: tail ++ rest).head?) = true := by
      rcases hmark with rfl | rfl <;> rfl
    rw [hhead]
    exact hskip

theorem skipFraction_eq (hds : Digits ds) (hes : SpellsExponent es) (hrest : EndsNumber rest) :
    skipFraction ⟨'.' :: (ds ++ (es ++ rest)), p⟩ =
      .ok ((), ⟨rest, p.afterAll ('.' :: (ds ++ es))⟩) := by
  have hread := digits_eq (p := p.after '.') hds.2 (exponent_not_digit hes hrest)
  have hne : (ds.map fun c => c.toNat - 48).isEmpty = false := by
    cases ds with
    | nil => exact absurd rfl hds.1
    | cons d ds => rfl
  have hstep : skipFraction ⟨'.' :: (ds ++ (es ++ rest)), p⟩ =
      (digits >>= fun ds => if ds.isEmpty then failNext .invalidNumber else do
        if isExponentMark (← peek) then skipExponent) ⟨ds ++ (es ++ rest), p.after '.'⟩ := rfl
  rw [hstep, bind_ok hread, hne]
  have htail := skipExponent?_eq (p := (p.after '.').afterAll ds) hes hrest
  rw [← Position.afterAll_append, ← Position.afterAll_cons] at htail
  exact htail

/-- `skipNumber` after the whole part. -/
def skipTail : Reader Unit := do
  let next ← peek
  if next = some '.' then skipFraction
  else if isExponentMark next then skipExponent

theorem skipTail_eq (hfs : SpellsFraction fs) (hes : SpellsExponent es) (hrest : EndsNumber rest) :
    skipTail ⟨fs ++ (es ++ rest), p⟩ = .ok ((), ⟨rest, p.afterAll (fs ++ es)⟩) := by
  cases hfs with
  | none =>
    have htail := skipExponent?_eq (p := p) hes hrest
    have hpoint : (es ++ rest).head? ≠ some '.' := by
      by_cases hnil : es = []
      · subst hnil
        intro hhead
        cases hrest '.' hhead
      · obtain ⟨mark, tail, rfl, rfl | rfl⟩ := head_exponent hes hnil <;> simp
    rw [List.nil_append, List.nil_append]
    show (if (es ++ rest).head? = some '.' then _ else _ : Reader Unit) ⟨es ++ rest, p⟩ = _
    rw [if_neg hpoint]
    exact htail
  | some hds => exact skipFraction_eq hds hes hrest

theorem whole_not_digit (hfs : SpellsFraction fs) (hes : SpellsExponent es)
    (hrest : EndsNumber rest) : ∀ c ∈ (fs ++ (es ++ rest)).head?, isDigit c = false := by
  cases hfs with
  | none =>
    rw [List.nil_append]
    exact exponent_not_digit hes hrest
  | some =>
    rintro c ⟨⟩
    rfl

/-- `skipNumber` after the sign. -/
def skipUnsigned : Reader Unit := do
  match ← peek with
  | some '0' =>
    advance
    if ((← peek).map isDigit).getD false then failNext .invalidNumber
  | _ => skipDigits
  skipTail

theorem skipNumber_positive {c : Char} (hc : c ≠ '-') :
    skipNumber ⟨c :: cs, p⟩ = skipUnsigned ⟨c :: cs, p⟩ := by
  show (if some c = some '-' then _ else _ : Reader Unit) ⟨c :: cs, p⟩ = _
  rw [if_neg fun h => hc (Option.some.inj h)]
  rfl

theorem skipUnsigned_eq (hws : SpellsWhole ws) (hfs : SpellsFraction fs) (hes : SpellsExponent es)
    (hrest : EndsNumber rest) :
    skipUnsigned ⟨ws ++ (fs ++ es) ++ rest, p⟩ =
      .ok ((), ⟨rest, p.afterAll (ws ++ (fs ++ es))⟩) := by
  have htail := fun p => skipTail_eq (p := p) hfs hes hrest
  have hnext := whole_not_digit hfs hes hrest
  rw [List.append_assoc, List.append_assoc, Position.afterAll_append, ← htail]
  cases hws with
  | zero =>
    have hdigit : (((fs ++ (es ++ rest)).head?.map isDigit).getD false) = false := by
      cases hhead : (fs ++ (es ++ rest)).head? with
      | none => rfl
      | some c => exact hnext c hhead
    show (if ((fs ++ (es ++ rest)).head?.map isDigit).getD false then _ else _ : Reader Unit)
      ⟨fs ++ (es ++ rest), p.after '0'⟩ = _
    rw [hdigit]
    rfl
  | @digits c cs hzero hds =>
    have hskip := skipDigits_eq (p := p) hds hnext
    have hstep : skipUnsigned ⟨c :: cs ++ (fs ++ (es ++ rest)), p⟩ =
        (skipDigits >>= fun _ => skipTail) ⟨c :: cs ++ (fs ++ (es ++ rest)), p⟩ := by
      have hpeek : peek ⟨c :: cs ++ (fs ++ (es ++ rest)), p⟩ =
          .ok (some c, ⟨c :: cs ++ (fs ++ (es ++ rest)), p⟩) := rfl
      rw [skipUnsigned, bind_ok hpeek]
      refine congrFun ?_ _
      split
      · next heq => exact absurd (Option.some.inj heq) hzero
      · rfl
    rw [hstep, bind_ok hskip]

theorem skipNumber_eq (h : SpellsNumber cs) (hrest : EndsNumber rest) :
    skipNumber ⟨cs ++ rest, p⟩ = .ok ((), ⟨rest, p.afterAll cs⟩) := by
  cases h with
  | positive hws hfs hes =>
    have hskip := skipUnsigned_eq (p := p) hws hfs hes hrest
    rw [← hskip]
    cases hws with
    | zero => exact skipNumber_positive (by decide)
    | digits hzero hds =>
      refine skipNumber_positive ?_
      rintro rfl
      cases hds.2 '-' List.mem_cons_self
  | negative hws hfs hes => exact skipUnsigned_eq (p := p.after '-') hws hfs hes hrest

/-- A number begins with its sign or with a digit. -/
theorem SpellsNumber.head (h : SpellsNumber cs) :
    ∃ c rest, cs = c :: rest ∧ (c = '-' || isDigit c) = true := by
  cases h with
  | positive hws =>
    cases hws with
    | zero => exact ⟨'0', _, rfl, rfl⟩
    | @digits c cs _ hds =>
      refine ⟨c, _, rfl, ?_⟩
      rw [hds.2 c List.mem_cons_self, Bool.or_true]
  | negative => exact ⟨'-', _, rfl, rfl⟩

end Numbers

/-! ## Tokens -/

/-- The tokens of a text. Of a number it does not matter here which one it is. -/
inductive Token where
  | null
  | bool (b : Bool)
  | number
  | string (s : String)
  | mark (c : Char)

/-- The texts of a token. -/
inductive Token.Spells : Token → List Char → Prop
  | null : Spells .null ['n', 'u', 'l', 'l']
  | true : Spells (.bool true) ['t', 'r', 'u', 'e']
  | false : Spells (.bool false) ['f', 'a', 'l', 's', 'e']
  | number {cs : List Char} : SpellsNumber cs → Spells .number cs
  | string {s : String} {cs : List Char} : SpellsChars s.toList cs →
    Spells (.string s) ('"' :: (cs ++ ['"']))
  | mark (c : Char) : Spells (.mark c) [c]

/-- The texts of the token begin with the character. -/
def Token.Begins : Token → Char → Prop
  | .null, c => c = 'n'
  | .bool b, c => c = if b then 't' else 'f'
  | .number, c => (c = '-' || isDigit c) = true
  | .string _, c => c = '"'
  | .mark m, c => c = m

mutual

def tokens : Json → List Token
  | .null => [.null]
  | .bool b => [.bool b]
  | .number _ => [.number]
  | .string s => [.string s]
  | .array [] => [.mark '[', .mark ']']
  | .array (item :: items) => .mark '[' :: (tokens item ++ itemsTokens items)
  | .object [] => [.mark '\x7b', .mark '\x7d']
  | .object ((name, value) :: ms) =>
    .mark '\x7b' :: .string name :: .mark ':' :: (tokens value ++ membersTokens ms)

/-- The items after the first, and the closing bracket. -/
def itemsTokens : List Json → List Token
  | [] => [.mark ']']
  | item :: items => .mark ',' :: (tokens item ++ itemsTokens items)

/-- The members after the first, and the closing brace. -/
def membersTokens : Members → List Token
  | [] => [.mark '\x7d']
  | (name, value) :: ms =>
    .mark ',' :: .string name :: .mark ':' :: (tokens value ++ membersTokens ms)

end

/-- The texts of the value begin with the character, apart from blanks. -/
def Begins : Json → Char → Prop
  | .null, c => c = 'n'
  | .bool b, c => c = if b then 't' else 'f'
  | .number _, c => (c = '-' || isDigit c) = true
  | .string _, c => c = '"'
  | .array _, c => c = '['
  | .object _, c => c = '\x7b'

/-- The texts of tokens, with blanks before each of them. -/
inductive Spelled : List Token → List Char → Prop
  | nil : Spelled [] []
  | cons {t : Token} {ts : List Token} {blanks cs ds : List Char} :
    (∀ c ∈ blanks, isBlank c = true) → t.Spells cs → Spelled ts ds →
    Spelled (t :: ts) (blanks ++ (cs ++ ds))

/-- The text spells the value; blanks may stand at its end as well. -/
def Writes (j : Json) (text : String) : Prop :=
  ∃ cs blanks, text.toList = cs ++ blanks ∧ Spelled j.tokens cs ∧ ∀ c ∈ blanks, isBlank c = true

section Tokens

variable {t : Token} {ts us : List Token} {cs ds : List Char}

theorem Token.Spells.head (h : t.Spells cs) : ∃ c rest, cs = c :: rest ∧ t.Begins c := by
  cases h with
  | number hn => exact hn.head
  | _ => exact ⟨_, _, rfl, rfl⟩

theorem Spelled.length_le (h : Spelled ts cs) : ts.length ≤ cs.length := by
  induction h with
  | nil => exact Nat.le_refl 0
  | cons _ ht _ ih =>
    obtain ⟨c, rest, rfl, -⟩ := ht.head
    simp only [List.length_cons, List.length_append]
    omega

theorem Spelled.head (h : Spelled (t :: ts) cs) : ∃ blanks c ds, cs = blanks ++ c :: ds ∧
    (∀ b ∈ blanks, isBlank b = true) ∧ t.Begins c ∧ Spelled (t :: ts) (c :: ds) := by
  cases h with
  | cons hblank ht hrest =>
    obtain ⟨c, rest, rfl, hc⟩ := ht.head
    have hnone : ∀ b ∈ ([] : List Char), isBlank b = true := nofun
    exact ⟨_, c, _, rfl, hblank, hc, .cons hnone ht hrest⟩

theorem Spelled.single (h : Spelled [t] cs) :
    ∃ blanks ds, cs = blanks ++ ds ∧ (∀ b ∈ blanks, isBlank b = true) ∧ t.Spells ds := by
  cases h with
  | @cons _ _ _ ds _ hblank ht hrest =>
    cases hrest
    exact ⟨_, ds, by rw [List.append_nil], hblank, ht⟩

theorem Spelled.append (h : Spelled (ts ++ us) cs) :
    ∃ ds es, cs = ds ++ es ∧ Spelled ts ds ∧ Spelled us es := by
  induction ts generalizing cs with
  | nil => exact ⟨[], cs, rfl, .nil, h⟩
  | cons t ts ih =>
    cases h with
    | cons hblank ht hrest =>
      obtain ⟨ds, es, rfl, hts, hus⟩ := ih hrest
      refine ⟨_, es, ?_, .cons hblank ht hts, hus⟩
      simp only [List.append_assoc]

theorem Spelled.mark {c : Char} (h : Spelled (.mark c :: ts) cs) :
    ∃ blanks ds, cs = blanks ++ c :: ds ∧ (∀ b ∈ blanks, isBlank b = true) ∧ Spelled ts ds := by
  cases h with
  | cons hblank ht hrest =>
    cases ht with
    | mark => exact ⟨_, _, rfl, hblank, hrest⟩

theorem Spelled.string {s : String} (h : Spelled (.string s :: ts) cs) :
    ∃ blanks body ds, cs = blanks ++ '"' :: (body ++ ['"'] ++ ds) ∧
      (∀ b ∈ blanks, isBlank b = true) ∧ SpellsChars s.toList body ∧ Spelled ts ds := by
  cases h with
  | cons hblank ht hrest =>
    cases ht with
    | string hbody => exact ⟨_, _, _, rfl, hblank, hbody, hrest⟩

theorem continuesNumber_of_blank {c : Char} (h : isBlank c = true) : continuesNumber c = false := by
  simp only [isBlank, Bool.or_eq_true, decide_eq_true_eq] at h
  rcases h with ((rfl | rfl) | rfl) | rfl <;> rfl

theorem endsNumber_blanks (h : ∀ c ∈ cs, isBlank c = true) : EndsNumber cs := by
  cases cs with
  | nil => exact .nil
  | cons b cs =>
    rintro c ⟨⟩
    exact continuesNumber_of_blank (h _ List.mem_cons_self)

/-- A number ends before every mark, with and without blanks between. -/
theorem Spelled.endsNumber {c : Char} (h : Spelled (.mark c :: ts) cs)
    (hc : continuesNumber c = false) (rest : List Char) : EndsNumber (cs ++ rest) := by
  obtain ⟨blanks, ds, rfl, hblank, -⟩ := h.mark
  cases blanks with
  | nil =>
    rintro d ⟨⟩
    exact hc
  | cons b blanks =>
    rintro d ⟨⟩
    exact continuesNumber_of_blank (hblank _ List.mem_cons_self)

end Tokens

end EventWiring.Json
