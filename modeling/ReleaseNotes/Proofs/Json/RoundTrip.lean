/-
Writing values and reading them back.

A value without floats, whose numerals are short, whose texts are strings and whose objects have
names of their own for all their fields, is read back from its text.

Main statements:
* `Reader.stringBody_escapedCode`, `Reader.quotes_string` — escapes, and texts between quotation
  marks;
* `Reader.reads_printInt` — numerals;
* `Plain` — the values that are read back;
* `reads_indented` — their indented text is read as the value.
-/
import ReleaseNotes.Json.Print
import ReleaseNotes.Proofs.Json.Reading

namespace ReleaseNotes

/-! ### Hexadecimal digits -/

theorem hexPadded_succ {width : Nat} (hw : 0 < width) (n : Nat) :
    hexPadded (width + 1) n = hexPadded width (n / 16) ++ [Nat.digitChar (n % 16)] := by
  by_cases hn : n < 16
  · -- one digit is left, and zeros fill the width
    obtain ⟨k, rfl⟩ : ∃ k, width = k + 1 := ⟨width - 1, by omega⟩
    have hdiv : n / 16 = 0 := by omega
    have hmod : n % 16 = n := by omega
    rw [hexPadded, hexPadded, hdiv, hmod, Nat.toDigits_of_lt_base hn,
      Nat.toDigits_of_lt_base (by decide : 0 < 16)]
    simp [List.replicate_succ']
  · have hsplit : Nat.toDigits 16 n = Nat.toDigits 16 (n / 16) ++ [Nat.digitChar (n % 16)] := by
      have h := Nat.toDigits_append_toDigits (b := 16) (n := n / 16) (d := n % 16) (by decide)
        (by omega) (by omega)
      rw [Nat.toDigits_of_lt_base (by omega : n % 16 < 16)] at h
      rw [h]
      congr 1
      omega
    rw [hexPadded, hexPadded, hsplit]
    simp

theorem hexPadded_one {n : Nat} (h : n < 16) : hexPadded 1 n = [Nat.digitChar n] := by
  rw [hexPadded, Nat.toDigits_of_lt_base h]
  rfl

theorem hexPadded_four {n : Nat} (h : n < 0x10000) :
    hexPadded 4 n = [Nat.digitChar (n / 4096), Nat.digitChar (n / 256 % 16),
      Nat.digitChar (n / 16 % 16), Nat.digitChar (n % 16)] := by
  rw [hexPadded_succ (by decide), hexPadded_succ (by decide), hexPadded_succ (by decide),
    hexPadded_one (by omega)]
  simp [Nat.div_div_eq_div_mul]

namespace Json
namespace Reader

theorem hexValue?_digitChar {d : Nat} (h : d < 16) : hexValue? (Nat.digitChar d) = some d := by
  revert d
  decide

theorem codeUnit?_hexPadded {n : Nat} (h : n < 0x10000) :
    ∃ a b c d, Text.ofChars (hexPadded 4 n) = [a, b, c, d] ∧ codeUnit? a b c d = some n := by
  refine ⟨_, _, _, _, by rw [hexPadded_four h]; rfl, ?_⟩
  simp only [codeUnit?, TextUnit.char?, Option.bind_some, Option.bind_eq_bind, Option.pure_def]
  rw [hexValue?_digitChar (by omega), hexValue?_digitChar (by omega),
    hexValue?_digitChar (by omega), hexValue?_digitChar (by omega)]
  simp only [Option.bind_some, Option.some.injEq]
  omega

/-! ### Escapes -/

/-- A code is read, and joined to the one before it if that was escaped as well. -/
theorem stringBody_escapedCode {n : Nat} (h : n < 0x10000) (start read : Text) (coded : Bool)
    (u : TextUnit) (rest : Text) :
    stringBody start read coded (escapedCode n ++ u :: rest) =
      stringBody start (if coded then push read (unitOfCode n) else unitOfCode n :: read) true
        (u :: rest) := by
  obtain ⟨a, b, c, d, htext, hcode⟩ := codeUnit?_hexPadded h
  have hescaped : escapedCode n ++ u :: rest =
      .char '\\' :: .char 'u' :: a :: b :: c :: d :: u :: rest := by
    show .char '\\' :: .char 'u' :: (Text.ofChars (hexPadded 4 n) ++ u :: rest) = _
    rw [htext]
    rfl
  rw [hescaped, stringBody]
  dsimp only
  rw [hcode]

theorem unitOfCode_toNat (c : Char) : unitOfCode c.toNat = .char c := by
  have hvalid : c.toNat < 0xD800 ∨ 0xDFFF < c.toNat := by
    rcases c.valid with h | ⟨h, -⟩
    · exact .inl h
    · exact .inr h
  rw [unitOfCode, dif_neg (by omega), Char.ofNat_toNat]

/-- The unit read last is no half of a pair that waits for its other half. -/
def Whole (read : Text) : Prop := ∀ offset, read.head? ≠ some (.half offset)

theorem whole_nil : Whole [] := by
  intro offset h
  cases h

theorem whole_char (c : Char) (read : Text) : Whole (.char c :: read) := by
  intro offset h
  cases h

theorem push_of_whole {read : Text} (h : Whole read) (u : TextUnit) : push read u = u :: read := by
  unfold push
  split
  · next low high before => exact absurd rfl (h high)
  · rfl

theorem unitOfCode_half {k : Nat} (h : k < 0x800) : unitOfCode (0xD800 + k) = .half ⟨k, h⟩ := by
  rw [unitOfCode, dif_pos (by omega)]
  simp

theorem toNat_lt (c : Char) : c.toNat < 0x110000 := by
  rcases c.valid with h | ⟨-, h⟩
  · exact Nat.lt_trans h (by decide)
  · exact h

/-- Two halves that follow each other make up one character. -/
theorem push_halves {c : Char} (h : 0x10000 ≤ c.toNat) (read : Text) :
    push (unitOfCode (0xD800 + (c.toNat - 0x10000) / 0x400) :: read)
      (unitOfCode (0xDC00 + (c.toNat - 0x10000) % 0x400)) = .char c :: read := by
  have hlt := toNat_lt c
  have hhalf : (c.toNat - 0x10000) / 0x400 < 0x400 := by omega
  have hlow : 0xDC00 + (c.toNat - 0x10000) % 0x400 =
      0xD800 + (0x400 + (c.toNat - 0x10000) % 0x400) := by
    omega
  have hcode : 0x10000 + (c.toNat - 0x10000) / 0x400 * 0x400 +
      (0x400 + (c.toNat - 0x10000) % 0x400 - 0x400) = c.toNat := by
    omega
  rw [hlow, unitOfCode_half (by omega), unitOfCode_half (by omega)]
  unfold push
  dsimp only
  rw [if_pos ⟨hhalf, by omega⟩, hcode, Char.ofNat_toNat]

/-- A character beyond the first plane is escaped as the two halves of a pair. -/
theorem stringBody_escapedPair {c : Char} (h : 0x10000 ≤ c.toNat) {read : Text} (hread : Whole read)
    (start : Text) (coded : Bool) (u : TextUnit) (rest : Text) :
    stringBody start read coded (escapedCode (0xD800 + (c.toNat - 0x10000) / 0x400) ++
        escapedCode (0xDC00 + (c.toNat - 0x10000) % 0x400) ++ u :: rest) =
      stringBody start (.char c :: read) true (u :: rest) := by
  have hlt := toNat_lt c
  have hpush : ∀ v, (if coded then push read v else v :: read) = v :: read := by
    intro v
    rw [push_of_whole hread, ite_self]
  rw [List.append_assoc]
  show stringBody start read coded (escapedCode _ ++ .char '\\' :: _) = _
  rw [stringBody_escapedCode (by omega), hpush]
  show stringBody start _ true (escapedCode _ ++ u :: rest) = _
  rw [stringBody_escapedCode (by omega), if_pos rfl, push_halves h]

theorem stringBody_escapedChar {c : Char} (h : c.toNat < 0x10000) {read : Text} (hread : Whole read)
    (start : Text) (coded : Bool) (u : TextUnit) (rest : Text) :
    stringBody start read coded (escapedCode c.toNat ++ u :: rest) =
      stringBody start (.char c :: read) true (u :: rest) := by
  rw [stringBody_escapedCode h, unitOfCode_toNat, push_of_whole hread, ite_self]

theorem stringBody_char {c : Char} (hquote : c ≠ '"') (hslash : c ≠ '\\')
    (hprints : ¬ c.toNat < 0x20) (start read : Text) (coded : Bool) (rest : Text) :
    stringBody start read coded (.char c :: rest) =
      stringBody start (.char c :: read) false rest := by
  have hne : TextUnit.char c ≠ .char '\\' := fun heq => hslash (TextUnit.char.inj heq)
  rw [stringBody]
  · exact if_neg hprints
  · intro heq
    exact hquote (TextUnit.char.inj heq)
  · intro heq
    exact absurd heq hne
  · intro _ _ _ _ _ _ heq
    exact absurd heq hne
  · intro _ heq
    exact absurd heq hne
  · intro _ _ heq
    exact absurd heq hne

/-- What stands for a character is read as the character. -/
theorem stringBody_escapedUnit (style : Style) (c : Char) {read : Text} (hread : Whole read)
    (start : Text) (coded : Bool) (u : TextUnit) (rest : Text) :
    ∃ coded', stringBody start read coded (escapedUnit style (.char c) ++ u :: rest) =
      stringBody start (.char c :: read) coded' (u :: rest) := by
  -- the cases of the printer, in its order
  unfold escapedUnit
  dsimp only
  by_cases hmark : c = '"' ∨ c = '\\'
  · rw [if_pos hmark]
    rcases hmark with rfl | rfl
    · exact ⟨false, rfl⟩
    · exact ⟨false, rfl⟩
  rw [if_neg hmark]
  by_cases hletter : c = '\n' ∨ c = '\r' ∨ c = '\t' ∨ c = '\x08' ∨ c = '\x0c'
  · rcases hletter with rfl | rfl | rfl | rfl | rfl <;> exact ⟨false, rfl⟩
  simp only [not_or] at hletter hmark
  obtain ⟨hn, hr, ht, hb, hf⟩ := hletter
  rw [if_neg hn, if_neg hr, if_neg ht, if_neg hb, if_neg hf]
  by_cases hcontrol : c.toNat < 0x20
  · rw [if_pos hcontrol]
    exact ⟨true, stringBody_escapedChar (by omega) hread ..⟩
  rw [if_neg hcontrol]
  by_cases hpair : style.ascii ∧ 0x10000 ≤ c.toNat
  · rw [if_pos hpair]
    exact ⟨true, stringBody_escapedPair hpair.2 hread ..⟩
  rw [if_neg hpair]
  by_cases hcode : style.ascii ∧ 0x7F ≤ c.toNat
  · have hsmall : c.toNat < 0x10000 := by
      by_contra hbig
      exact hpair ⟨hcode.1, by omega⟩
    rw [if_pos hcode]
    exact ⟨true, stringBody_escapedChar hsmall hread ..⟩
  rw [if_neg hcode]
  exact ⟨false, stringBody_char hmark.1 hmark.2 hcontrol ..⟩

theorem stringBody_escaped (style : Style) (cs : List Char) {read : Text} (hread : Whole read)
    (start : Text) (coded : Bool) (rest : Text) :
    stringBody start read coded
        ((Text.ofChars cs).flatMap (escapedUnit style) ++ .char '"' :: rest) =
      .ok (read.reverse ++ Text.ofChars cs, rest) := by
  induction cs generalizing read coded with
  | nil =>
    show stringBody start read coded (.char '"' :: rest) = _
    rw [stringBody, Text.ofChars, List.map_nil, List.append_nil]
  | cons c cs ih =>
    -- what follows the character is not empty: the closing mark at least
    obtain ⟨u, behind, hbehind⟩ : ∃ u behind,
        (Text.ofChars cs).flatMap (escapedUnit style) ++ .char '"' :: rest = u :: behind :=
      List.exists_cons_of_ne_nil (by simp)
    obtain ⟨coded', hstep⟩ := stringBody_escapedUnit style c hread start coded u behind
    have hsplit : (Text.ofChars (c :: cs)).flatMap (escapedUnit style) ++ .char '"' :: rest =
        escapedUnit style (.char c) ++ u :: behind := by
      rw [← hbehind, Text.ofChars, List.map_cons, List.flatMap_cons, List.append_assoc]
      rfl
    rw [hsplit, hstep, ← hbehind, ih (whole_char c read), Text.ofChars, Text.ofChars]
    simp

/-- A string between quotation marks is read as the string, in every style. -/
theorem quotes_string (style : Style) (s : String) :
    Quotes ((Text.ofString s).flatMap (escapedUnit style) ++ [.char '"']) s := by
  intro start rest
  have htext : (Text.ofString s).flatMap (escapedUnit style) ++ [.char '"'] ++ rest =
      (Text.ofChars s.toList).flatMap (escapedUnit style) ++ .char '"' :: rest := by
    rw [List.append_assoc]
    rfl
  rw [htext, stringBody_escaped style s.toList whole_nil]
  rfl

/-! ### Numerals -/

/-- A numeral begins with a digit, so with no other character. -/
theorem digits_begin (n : Nat) :
    ∃ c ds, Numeral.digits n = c :: ds ∧
      ∀ d : Char, d.isDigit = false → TextUnit.char c ≠ .char d := by
  obtain ⟨c, ds, hcs⟩ := List.exists_cons_of_ne_nil (Numeral.digits_ne_nil n)
  have hc : c.isDigit = true :=
    Numeral.isDigit_of_mem_digits (by rw [hcs]; exact List.mem_cons_self)
  refine ⟨c, ds, hcs, ?_⟩
  rintro d hd heq
  rw [TextUnit.char.inj heq, hd] at hc
  cases hc

theorem fractionPart_of_ends {rest : Text} (h : Ends rest) : fractionPart rest = ([], rest) := by
  unfold fractionPart
  split
  · exact absurd rfl (h _ rfl).2.1
  · rfl

theorem exponentPart_of_ends {rest : Text} (h : Ends rest) : exponentPart rest = (none, rest) := by
  unfold exponentPart
  split
  · next e rest =>
    obtain ⟨-, -, he, hE⟩ := h e rfl
    rw [if_neg (by simp [he, hE])]
  · rfl

theorem wholePart?_digits (n : Nat) {rest : Text} (hrest : Ends rest) :
    wholePart? (Text.ofChars (Numeral.digits n) ++ rest) = some (Numeral.digits n, rest) := by
  have hdigits : ∀ c ∈ Numeral.digits n, c.isDigit = true := fun c hc =>
    Numeral.isDigit_of_mem_digits hc
  have htake := takeDigits_append hdigits hrest
  by_cases hn : n = 0
  · have hzero : Numeral.digits n = ['0'] := by
      rw [hn, Numeral.digits_of_lt (by decide)]
      rfl
    rw [hzero]
    rfl
  · have hhead : (Numeral.digits n).head? ≠ some '0' := Numeral.digits_head (by omega)
    obtain ⟨c, ds, hcs⟩ := List.exists_cons_of_ne_nil (Numeral.digits_ne_nil n)
    rw [hcs] at hdigits hhead htake ⊢
    have hc : (TextUnit.char c).passes Char.isDigit = true := hdigits c List.mem_cons_self
    show wholePart? (.char c :: (Text.ofChars ds ++ rest)) = _
    rw [wholePart?, if_pos hc]
    · exact congrArg some htake
    · intro heq
      rw [TextUnit.char.inj heq] at hhead
      exact hhead rfl

theorem number?_digits (n : Nat) {rest : Text} (hrest : Ends rest) :
    number? (Text.ofChars (Numeral.digits n) ++ rest) =
        some (⟨false, Numeral.digits n, [], none⟩, rest) ∧
      number? (.char '-' :: (Text.ofChars (Numeral.digits n) ++ rest)) =
        some (⟨true, Numeral.digits n, [], none⟩, rest) := by
  have hwhole := wholePart?_digits n hrest
  have hfraction := fractionPart_of_ends hrest
  have hexponent := exponentPart_of_ends hrest
  constructor
  · obtain ⟨c, ds, hcs, hother⟩ := digits_begin n
    unfold number?
    split
    next negative unsigned hsign =>
    split at hsign
    · next rest' heq =>
      rw [hcs] at heq
      exact absurd (List.cons_eq_cons.1 heq).1 (hother '-' (by decide))
    · cases hsign
      rw [hwhole]
      simp only [Option.map_some, hfraction, hexponent]
  · unfold number?
    show Option.map _ (wholePart? (Text.ofChars (Numeral.digits n) ++ rest)) = _
    rw [hwhole]
    simp only [Option.map_some, hfraction, hexponent]

theorem value_of_short {n : Nat} (h : (Numeral.digits n).length ≤ Numeral.maxDigits)
    (negative : Bool) :
    Number.value ⟨negative, Numeral.digits n, [], none⟩ =
      .ok (.int (if negative then -(n : Int) else n)) := by
  unfold Number.value
  dsimp only
  rw [if_neg (Nat.not_lt.2 h), Numeral.value_digits]

theorem after?_eq_none {c : Char} {word : List Char} {u : TextUnit} {t : Text} (h : u ≠ .char c) :
    after? (c :: word) (u :: t) = none := by
  rw [after?, if_neg h]

/-- No word begins like a numeral: with a digit, or with a sign and a digit. -/
theorem words_begin {word : List Char} {v : Json} (h : (word, v) ∈ words) :
    (∃ c cs, word = c :: cs ∧ c.isDigit = false) ∧
      ((∃ c cs, word = c :: cs ∧ c ≠ '-') ∨ ∃ c cs, word = '-' :: c :: cs ∧ c.isDigit = false) := by
  simp only [words, List.mem_cons, Prod.mk.injEq, List.not_mem_nil, or_false] at h
  obtain ⟨rfl, -⟩ | ⟨rfl, -⟩ | ⟨rfl, -⟩ | ⟨rfl, -⟩ | ⟨rfl, -⟩ | ⟨rfl, -⟩ := h
  · exact ⟨⟨'n', _, rfl, by decide⟩, .inl ⟨'n', _, rfl, by decide⟩⟩
  · exact ⟨⟨'t', _, rfl, by decide⟩, .inl ⟨'t', _, rfl, by decide⟩⟩
  · exact ⟨⟨'f', _, rfl, by decide⟩, .inl ⟨'f', _, rfl, by decide⟩⟩
  · exact ⟨⟨'N', _, rfl, by decide⟩, .inl ⟨'N', _, rfl, by decide⟩⟩
  · exact ⟨⟨'I', _, rfl, by decide⟩, .inl ⟨'I', _, rfl, by decide⟩⟩
  · exact ⟨⟨'-', _, rfl, by decide⟩, .inr ⟨'I', _, rfl, by decide⟩⟩

theorem scalar_of_number {t rest : Text} {n : Number} {j : Json}
    (hwords : ∀ word v, (word, v) ∈ words → after? word t = none)
    (hnumber : number? t = some (n, rest)) (hvalue : n.value = .ok j) :
    scalar t = .ok (j, rest) := by
  unfold scalar
  split
  · next found hfound =>
    obtain ⟨⟨word, v⟩, hmem, hword⟩ := List.exists_of_findSome?_eq_some hfound
    dsimp only at hword
    rw [hwords word v hmem] at hword
    cases hword
  · rw [hnumber]
    dsimp only
    rw [hvalue]
    rfl

theorem scalar_digits {n : Nat} (h : (Numeral.digits n).length ≤ Numeral.maxDigits) {rest : Text}
    (hrest : Ends rest) :
    scalar (Text.ofChars (Numeral.digits n) ++ rest) = .ok (.int n, rest) ∧
      scalar (.char '-' :: (Text.ofChars (Numeral.digits n) ++ rest)) = .ok (.int (-n), rest) := by
  obtain ⟨hplain, hsigned⟩ := number?_digits n hrest
  obtain ⟨c, ds, hcs, hother⟩ := digits_begin n
  refine ⟨scalar_of_number ?_ hplain (value_of_short h false),
    scalar_of_number ?_ hsigned (value_of_short h true)⟩
  · intro word v hmem
    obtain ⟨⟨d, cs, rfl, hd⟩, -⟩ := words_begin hmem
    rw [hcs]
    exact after?_eq_none (hother d hd)
  · intro word v hmem
    obtain ⟨-, ⟨d, cs, rfl, hd⟩ | ⟨d, cs, rfl, hd⟩⟩ := words_begin hmem
    · exact after?_eq_none fun heq => hd (TextUnit.char.inj heq).symm
    · rw [hcs, after?, if_pos rfl]
      exact after?_eq_none (hother d hd)

/-- A numeral is read as the integer that it is written for. -/
theorem reads_printInt {depth : Nat} {n : Int}
    (h : (Numeral.digits n.natAbs).length ≤ Numeral.maxDigits) :
    Reads depth (Text.ofString (Numeral.printInt n)) (.int n) := by
  have hprint : ∀ n, Text.ofString (Numeral.print n) = Text.ofChars (Numeral.digits n) := by
    intro n
    rw [Text.ofString, Numeral.print, String.toList_ofList]
  cases n with
  | ofNat n =>
    obtain ⟨c, ds, hcs, hother⟩ := digits_begin n
    have htext : Text.ofString (Numeral.printInt (.ofNat n)) = .char c :: Text.ofChars ds := by
      rw [Numeral.printInt, hprint, hcs]
      rfl
    have hspace : (TextUnit.char c).passes isSpace = false := by
      have hne : ∀ d : Char, d.isDigit = false → c ≠ d := fun d hd heq => hother d hd (by rw [heq])
      simp [TextUnit.passes, isSpace, hne]
    rw [htext]
    refine Reads.scalar ⟨hspace, hother ']' (by decide), hother '}' (by decide)⟩
      ⟨hother '"' (by decide), hother '{' (by decide), hother '[' (by decide)⟩ ?_
    intro rest hrest
    have hshort : (Numeral.digits n).length ≤ Numeral.maxDigits := h
    have hread := (scalar_digits hshort hrest).1
    rwa [hcs] at hread
  | negSucc n =>
    have htext : Text.ofString (Numeral.printInt (.negSucc n)) =
        .char '-' :: Text.ofChars (Numeral.digits (n + 1)) := by
      rw [Numeral.printInt, Text.ofString_append, hprint]
      rfl
    rw [htext]
    refine Reads.scalar ⟨by decide, by decide, by decide⟩ ⟨by decide, by decide, by decide⟩ ?_
    intro rest hrest
    exact (scalar_digits h hrest).2

end Reader

/-! ### Values -/

/-- The values that are read back from their text, when so many arrays and objects may be nested:
those without floats and with short numerals, strings for texts, and names of their own for the
fields of an object. -/
inductive Plain : Nat → Json → Prop
  | null {depth : Nat} : Plain depth .null
  | bool {depth : Nat} (b : Bool) : Plain depth (.bool b)
  | int {depth : Nat} {n : Int} (h : (Numeral.digits n.natAbs).length ≤ Numeral.maxDigits) :
    Plain depth (.int n)
  | str {depth : Nat} (s : String) : Plain depth (.str s)
  | arr {depth : Nat} {items : List Json} (h : ∀ v ∈ items, Plain depth v) :
    Plain (depth + 1) (.arr items)
  | obj {depth : Nat} {fields : Fields} (distinct : (fields.map Prod.fst).Nodup)
    (names : ∀ f ∈ fields, ∃ s : String, f.1 = s) (h : ∀ f ∈ fields, Plain depth f.2) :
    Plain (depth + 1) (.obj fields)

theorem Plain.mono {depth depth' : Nat} {j : Json} (h : Plain depth j) (hle : depth ≤ depth') :
    Plain depth' j := by
  induction h generalizing depth' with
  | null => exact .null
  | bool b => exact .bool b
  | int h => exact .int h
  | str s => exact .str s
  | arr _ ih =>
    obtain ⟨d, rfl⟩ : ∃ d, depth' = d + 1 := ⟨depth' - 1, by omega⟩
    exact .arr fun v hv => ih v hv (by omega)
  | obj distinct names _ ih =>
    obtain ⟨d, rfl⟩ : ∃ d, depth' = d + 1 := ⟨depth' - 1, by omega⟩
    exact .obj distinct names fun f hf => ih f hf (by omega)

theorem areWritable_iff {items : List Json} :
    areWritable items = true ↔ ∀ j ∈ items, j.isWritable = true := by
  induction items with
  | nil => simp [areWritable]
  | cons j items ih => simp [areWritable, ih]

namespace Reader

theorem reads_word {depth : Nat} {c : Char} {cs : List Char} {j : Json} (hc : Begins (.char c))
    (hother : TextUnit.char c ≠ .char '"' ∧ TextUnit.char c ≠ .char '{' ∧
      TextUnit.char c ≠ .char '[')
    (h : ∀ rest, scalar (.char c :: (Text.ofChars cs ++ rest)) = .ok (j, rest)) :
    Reads depth (.char c :: Text.ofChars cs) j :=
  .scalar hc hother fun rest _ => h rest

theorem reads_null {depth : Nat} {style : Style} : Reads depth (Json.scalar style .null) .null := by
  show Reads _ (.char 'n' :: Text.ofChars ['u', 'l', 'l']) _
  exact reads_word ⟨by decide, by decide, by decide⟩ (by decide) fun _ => rfl

theorem reads_bool {depth : Nat} {style : Style} (b : Bool) :
    Reads depth (Json.scalar style (.bool b)) (.bool b) := by
  cases b with
  | false =>
    show Reads _ (.char 'f' :: Text.ofChars ['a', 'l', 's', 'e']) _
    exact reads_word ⟨by decide, by decide, by decide⟩ (by decide) fun _ => rfl
  | true =>
    show Reads _ (.char 't' :: Text.ofChars ['r', 'u', 'e']) _
    exact reads_word ⟨by decide, by decide, by decide⟩ (by decide) fun _ => rfl

theorem blanks_newline (margin : Nat) : Blanks (newline margin) := by
  intro u hu
  rw [newline, List.mem_cons] at hu
  rcases hu with rfl | hu
  · rfl
  · rw [List.eq_of_mem_replicate hu]
    rfl

theorem blanks_space : Blanks [.char ' '] := by
  intro u hu
  rw [List.mem_singleton.1 hu]
  rfl

theorem readsItems_indented {style : Style} {depth : Nat} (margin : Nat) {v : Json}
    {vs : List Json}
    (h : ∀ u ∈ v :: vs, ∀ margin, Reads depth (indentedUnits style margin u) u) :
    ReadsItems depth (indentedUnits style (margin + 1) v ++ indentedItems style (margin + 1) vs ++
      (newline margin ++ [.char ']'])) (v :: vs) := by
  -- what stands behind the first item begins with a comma, or with the line of the bracket
  induction vs generalizing v with
  | nil =>
    rw [indentedItems, List.append_nil]
    exact .last (h v List.mem_cons_self _) (blanks_newline margin)
  | cons w vs ih =>
    have hrest := ih fun u hu => h u (List.mem_cons_of_mem _ hu)
    have hcons := ReadsItems.cons (h v List.mem_cons_self (margin + 1))
      (blanks_newline (margin + 1)) hrest
    rw [indentedItems]
    simpa using hcons

theorem readsFields_indented {style : Style} {depth : Nat} (margin : Nat) {name : Text} {v : Json}
    {rest : Fields} (hnames : ∀ f ∈ (name, v) :: rest, ∃ s : String, f.1 = s)
    (h : ∀ f ∈ (name, v) :: rest, ∀ margin, Reads depth (indentedUnits style margin f.2) f.2) :
    ReadsFields depth (string style name ++ .char ':' :: .char ' ' ::
      indentedUnits style (margin + 1) v ++ indentedFields style (margin + 1) rest ++
      (newline margin ++ [.char '}'])) ((name, v) :: rest) := by
  induction rest generalizing name v with
  | nil =>
    obtain ⟨s, hs⟩ := hnames _ List.mem_cons_self
    have hlast := ReadsFields.last (quotes_string style s) blanks_space
      (h _ List.mem_cons_self (margin + 1)) (blanks_newline margin)
    dsimp only at hs
    rw [indentedFields, string, hs]
    simpa using hlast
  | cons f rest ih =>
    obtain ⟨s, hs⟩ := hnames _ List.mem_cons_self
    have hrest := ih (fun g hg => hnames g (List.mem_cons_of_mem _ hg))
      fun g hg => h g (List.mem_cons_of_mem _ hg)
    have hcons := ReadsFields.cons (quotes_string style s) blanks_space
      (h _ List.mem_cons_self (margin + 1)) (blanks_newline (margin + 1)) hrest
    dsimp only at hs
    rw [indentedFields, string, hs]
    simpa using hcons

end Reader

/-- The indented text of a value is read as the value, in every style. -/
theorem reads_indented {depth : Nat} {j : Json} (h : Plain depth j) (style : Style) (margin : Nat) :
    Reader.Reads depth (indentedUnits style margin j) j := by
  -- on the levels of the value; the margin grows with each of them
  induction h generalizing margin with
  | null => exact Reader.reads_null
  | bool b => exact Reader.reads_bool b
  | int h => exact Reader.reads_printInt h
  | str s => exact .str (Reader.quotes_string style s)
  | @arr depth items _ ih =>
    cases items with
    | nil => exact .arr_nil
    | cons v vs =>
      have harr := Reader.Reads.arr (Reader.blanks_newline (margin + 1))
        (Reader.readsItems_indented margin ih)
      rw [indentedUnits]
      simpa using harr
  | @obj depth fields distinct names _ ih =>
    cases fields with
    | nil => exact .obj_nil
    | cons f rest =>
      have hobj := Reader.Reads.obj_of_nodup (Reader.blanks_newline (margin + 1))
        (Reader.readsFields_indented margin names ih) distinct
      rw [indentedUnits]
      simpa using hobj

end Json
end ReleaseNotes
