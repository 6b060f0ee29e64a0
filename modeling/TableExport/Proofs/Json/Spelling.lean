import TableExport.Json.Reader

/-! # Spellings of texts

Between quotation marks a character may stand for itself, be escaped by a letter, or be escaped by
its UTF-16 code units in hexadecimal, of which a character beyond U+FFFF has two.  Quotation marks,
backslashes and control characters are always escaped.  `IsSpelling` and `IsQuoted` say which texts
arise in this way; they know nothing of the reader.

Main statement: the reader finds the characters back, whichever way each of them is spelled and
whatever follows the closing mark (`quotedText_of_isQuoted`). -/

namespace TableExport.Json

/-! ### Spellings -/

/-- A hexadecimal digit, in either letter case. -/
def IsHexDigit (n : Nat) (c : Char) : Prop :=
  c = Nat.digitChar n ∨ c = (Nat.digitChar n).toUpper

/-- An escaped UTF-16 code unit: four hexadecimal digits behind a backslash and the letter u. -/
inductive IsUnitEscape (n : Nat) : List Char → Prop
  | intro {a b c d : Char} (ha : IsHexDigit (n / 0x1000) a) (hb : IsHexDigit (n / 0x100 % 16) b)
      (hc : IsHexDigit (n / 0x10 % 16) c) (hd : IsHexDigit (n % 16) d) :
      IsUnitEscape n ['\x5c', 'u', a, b, c, d]

/-- The characters that can be escaped by a letter or a sign, each behind it. -/
def letterEscapes : List (Char × Char) :=
  [('\x22', '\x22'), ('\x5c', '\x5c'), ('/', '/'), ('b', '\x08'), ('f', '\x0c'), ('n', '\n'),
    ('r', '\r'), ('t', '\t')]

/-- The ways to spell one character. -/
inductive IsCharSpelling (c : Char) : List Char → Prop
  | plain (hmark : c ≠ '\x22') (hslash : c ≠ '\x5c') (hprintable : 0x20 ≤ c.toNat) :
      IsCharSpelling c [c]
  | letter {letter : Char} (h : (letter, c) ∈ letterEscapes) : IsCharSpelling c ['\x5c', letter]
  | unit {cs : List Char} (hbasic : c.toNat < 0x10000) (h : IsUnitEscape c.toNat cs) :
      IsCharSpelling c cs
  | pair {high low : List Char} (hbeyond : 0x10000 ≤ c.toNat)
      (hhigh : IsUnitEscape (0xD800 + (c.toNat - 0x10000) / 0x400) high)
      (hlow : IsUnitEscape (0xDC00 + (c.toNat - 0x10000) % 0x400) low) :
      IsCharSpelling c (high ++ low)

/-- The ways to spell a sequence of characters. -/
inductive IsSpelling : List Char → List Char → Prop
  | nil : IsSpelling [] []
  | cons {c : Char} {cs spelled rest : List Char} (h : IsCharSpelling c spelled)
      (hrest : IsSpelling cs rest) : IsSpelling (c :: cs) (spelled ++ rest)

/-- The ways to write a text with its quotation marks. -/
inductive IsQuoted (text : String) : List Char → Prop
  | intro {spelled : List Char} (h : IsSpelling text.toList spelled) :
      IsQuoted text ('\x22' :: (spelled ++ ['\x22']))

/-- A character that needs no escape. -/
def isPlain (c : Char) : Bool :=
  c ≠ '\x22' && c ≠ '\x5c' && 0x20 ≤ c.toNat

/-- Characters that need no escape can stand for themselves. -/
theorem isQuoted_plain (text : String) (h : text.toList.all isPlain = true) :
    IsQuoted text ('\x22' :: (text.toList ++ ['\x22'])) := by
  apply IsQuoted.intro
  revert h
  induction text.toList with
  | nil =>
      intro _
      exact .nil
  | cons c cs ih =>
      intro h
      rw [List.all_cons, Bool.and_eq_true] at h
      obtain ⟨hc, hcs⟩ := h
      simp only [isPlain, Bool.and_eq_true, decide_eq_true_eq] at hc
      exact .cons (.plain hc.1.1 hc.1.2 hc.2) (ih hcs)

/-- Every text can be written: what does not stand for itself can be escaped. -/
theorem exists_isQuoted (text : String) : ∃ cs, IsQuoted text cs := by
  have hall : ∀ cs, ∃ spelled, IsSpelling cs spelled := by
    intro cs
    induction cs with
    | nil => exact ⟨[], .nil⟩
    | cons c cs ih =>
        obtain ⟨rest, hrest⟩ := ih
        by_cases hplain : c ≠ '\x22' ∧ c ≠ '\x5c' ∧ 0x20 ≤ c.toNat
        · exact ⟨_, .cons (.plain hplain.1 hplain.2.1 hplain.2.2) hrest⟩
        · have hbasic : c.toNat < 0x10000 := by
            by_cases hmark : c = '\x22'
            · subst hmark
              decide
            · by_cases hslash : c = '\x5c'
              · subst hslash
                decide
              · have hcontrol : ¬ 0x20 ≤ c.toNat := fun h => hplain ⟨hmark, hslash, h⟩
                omega
          exact ⟨_, .cons (.unit hbasic ⟨.inl rfl, .inl rfl, .inl rfl, .inl rfl⟩) hrest⟩
  obtain ⟨spelled, hspelled⟩ := hall text.toList
  exact ⟨_, .intro hspelled⟩

/-! ### Code units -/

theorem hexValue?_of_isHexDigit {n : Nat} {c : Char} (h : IsHexDigit n c) (hn : n < 16) :
    hexValue? c = some n := by
  have hall : ∀ m < 16, hexValue? (Nat.digitChar m) = some m ∧
      hexValue? (Nat.digitChar m).toUpper = some m := by
    decide
  rcases h with rfl | rfl
  · exact (hall n hn).1
  · exact (hall n hn).2

theorem hexQuad?_eq {n : Nat} {a b c d : Char} (hn : n < 0x10000)
    (ha : IsHexDigit (n / 0x1000) a) (hb : IsHexDigit (n / 0x100 % 16) b)
    (hc : IsHexDigit (n / 0x10 % 16) c) (hd : IsHexDigit (n % 16) d) :
    hexQuad? a b c d = some n := by
  have ha' := hexValue?_of_isHexDigit ha (by omega)
  have hb' := hexValue?_of_isHexDigit hb (by omega)
  have hc' := hexValue?_of_isHexDigit hc (by omega)
  have hd' := hexValue?_of_isHexDigit hd (by omega)
  simp only [hexQuad?, ha', hb', hc', hd', Option.bind_eq_bind, Option.bind_some, Option.pure_def,
    Option.some.injEq]
  omega

/-- The reader takes an escaped code unit as one part. -/
theorem pieces_unitEscape {n : Nat} {escaped : List Char} (h : IsUnitEscape n escaped)
    (hn : n < 0x10000) (opening : List Char) {rest : List Char} (hrest : rest ≠ []) :
    pieces opening (escaped ++ rest) =
      (pieces opening rest).map fun (more, left) => (.unit n :: more, left) := by
  obtain ⟨ha, hb, hc, hd⟩ := h
  have hquad := hexQuad?_eq hn ha hb hc hd
  have hempty : rest.isEmpty = false := by
    simpa [List.isEmpty_eq_false_iff] using hrest
  simp only [List.cons_append, List.nil_append, pieces, hquad, hempty]
  rfl

/-! ### Spelled characters -/

theorem not_surrogate (c : Char) :
    isHighSurrogate c.toNat = false ∧ isLowSurrogate c.toNat = false := by
  have hvalid := c.valid
  unfold isHighSurrogate isLowSurrogate
  simp only [Bool.and_eq_false_iff, decide_eq_false_iff_not]
  unfold UInt32.isValidChar Nat.isValidChar at hvalid
  change c.toNat < 0xd800 ∨ 0xdfff < c.toNat ∧ c.toNat < 0x110000 at hvalid
  omega

theorem loneUnit_toNat (c : Char) : loneUnit c.toNat = c := by
  obtain ⟨hhigh, hlow⟩ := not_surrogate c
  simp [loneUnit, hhigh, hlow]

/-- A code unit that is no first half of a pair stands alone. -/
theorem spell_unit {n : Nat} (h : isHighSurrogate n = false) (more : List Piece) :
    spell (.unit n :: more) = loneUnit n :: spell more := by
  cases more with
  | nil => rfl
  | cons piece more =>
      cases piece with
      | char c => rfl
      | unit m => simp [spell, h]

theorem toNat_lt (c : Char) : c.toNat < 0x110000 := by
  have hvalid := c.valid
  unfold UInt32.isValidChar Nat.isValidChar at hvalid
  change c.toNat < 0xd800 ∨ 0xdfff < c.toNat ∧ c.toNat < 0x110000 at hvalid
  omega

theorem spell_pair {c : Char} (h : 0x10000 ≤ c.toNat) (more : List Piece) :
    spell (.unit (0xD800 + (c.toNat - 0x10000) / 0x400)
      :: .unit (0xDC00 + (c.toNat - 0x10000) % 0x400) :: more) = c :: spell more := by
  have hlt := toNat_lt c
  have hhigh : isHighSurrogate (0xD800 + (c.toNat - 0x10000) / 0x400) = true := by
    simp only [isHighSurrogate, Bool.and_eq_true, decide_eq_true_eq]
    omega
  have hlow : isLowSurrogate (0xDC00 + (c.toNat - 0x10000) % 0x400) = true := by
    simp only [isLowSurrogate, Bool.and_eq_true, decide_eq_true_eq]
    omega
  have hpaired : pairedUnits (0xD800 + (c.toNat - 0x10000) / 0x400)
      (0xDC00 + (c.toNat - 0x10000) % 0x400) = c := by
    have hnumber : 0x10000 + (0xD800 + (c.toNat - 0x10000) / 0x400 - 0xD800) * 0x400
        + (0xDC00 + (c.toNat - 0x10000) % 0x400 - 0xDC00) = c.toNat := by omega
    rw [pairedUnits, hnumber, Char.ofNat_toNat]
  simp [spell, hhigh, hlow, hpaired]

/-- The parts that the reader finds for a spelled character spell it, whatever comes after. -/
theorem pieces_isCharSpelling {c : Char} {spelled : List Char} (h : IsCharSpelling c spelled)
    (opening : List Char) {rest : List Char} (hrest : rest ≠ []) :
    ∃ parts, (∀ more, spell (parts ++ more) = c :: spell more) ∧
      pieces opening (spelled ++ rest) =
        (pieces opening rest).map fun (more, left) => (parts ++ more, left) := by
  cases h with
  | plain hmark hslash hprintable =>
      refine ⟨[.char c], fun more => rfl, ?_⟩
      have hcontrol : ¬ c.toNat < 0x20 := by omega
      simp [pieces, hslash, hcontrol]
  | @letter letter h =>
      refine ⟨[.char c], fun more => rfl, ?_⟩
      simp only [letterEscapes, List.mem_cons, Prod.mk.injEq, List.not_mem_nil, or_false] at h
      rcases h with ⟨rfl, rfl⟩ | ⟨rfl, rfl⟩ | ⟨rfl, rfl⟩ | ⟨rfl, rfl⟩ | ⟨rfl, rfl⟩ | ⟨rfl, rfl⟩ |
        ⟨rfl, rfl⟩ | ⟨rfl, rfl⟩ <;> simp [pieces, shortEscape?]
  | unit hbasic h =>
      refine ⟨[.unit c.toNat], fun more => ?_, ?_⟩
      · rw [List.singleton_append, spell_unit (not_surrogate c).1, loneUnit_toNat]
      · exact pieces_unitEscape h hbasic opening hrest
  | pair hbeyond hhigh hlow =>
      have hlt := toNat_lt c
      refine ⟨[.unit (0xD800 + (c.toNat - 0x10000) / 0x400),
        .unit (0xDC00 + (c.toNat - 0x10000) % 0x400)], fun more => spell_pair hbeyond more, ?_⟩
      rw [List.append_assoc, pieces_unitEscape hhigh (by omega) opening (by simp [hrest]),
        pieces_unitEscape hlow (by omega) opening hrest]
      cases pieces opening rest <;> rfl

theorem pieces_isSpelling {cs spelled : List Char} (h : IsSpelling cs spelled)
    (opening rest : List Char) :
    ∃ parts, spell parts = cs ∧ pieces opening (spelled ++ '\x22' :: rest) = .ok (parts, rest) := by
  induction h with
  | nil => exact ⟨[], rfl, by simp [pieces]⟩
  | cons hchar _ ih =>
      obtain ⟨more, rfl, hmore⟩ := ih
      have hsome : ∀ spelled : List Char, spelled ++ '\x22' :: rest ≠ [] := by simp
      obtain ⟨parts, hparts, hpieces⟩ := pieces_isCharSpelling hchar opening (hsome _)
      refine ⟨parts ++ more, hparts more, ?_⟩
      rw [List.append_assoc, hpieces, hmore]
      rfl

/-- A text is read back from each way to write it. -/
theorem quotedText_of_isQuoted {text : String} {cs : List Char} (h : IsQuoted text cs)
    (rest : List Char) :
    ∃ afterMark, cs ++ rest = '\x22' :: afterMark ∧ quotedText afterMark = .ok (text, rest) := by
  obtain @⟨spelled, hspelling⟩ := h
  refine ⟨spelled ++ '\x22' :: rest, by simp, ?_⟩
  obtain ⟨parts, hspell, hpieces⟩ :=
    pieces_isSpelling hspelling ('\x22' :: (spelled ++ '\x22' :: rest)) rest
  rw [quotedText, hpieces]
  simp [Except.map, hspell]

end TableExport.Json
