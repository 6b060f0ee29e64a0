import TableExport.Json.Reader

/-! # The limit on digits

A reader with a limit on the digits of an integer beside the same reader without a limit, on every
text.  The two are related step by step, one lemma for each reader (`WithLimit`).

Main statement: both find the same value or make the same complaint, unless a run of digits in the
text is longer than the limit; then the reader with the limit may report the length of such a run
instead (`read_withLimit`). -/

namespace TableExport.Json

/-- A run of digits in a text that is longer than a limit. -/
structure LongRun (limit : Nat) (cs run : List Char) : Prop where
  within : run <:+: cs
  digits : ∀ c ∈ run, c.isDigit = true
  long : limit < run.length

theorem LongRun.mono {limit : Nat} {cs whole run : List Char} (h : LongRun limit cs run)
    (hwhole : cs <:+ whole) : LongRun limit whole run :=
  ⟨h.within.trans hwhole.isInfix, h.digits, h.long⟩

/-- The outcome of a reader with a limit beside the outcome without one, on the same text. -/
inductive WithLimit {α : Type} (limit : Nat) (cs : List Char) : Reading α → Reading α → Prop
  | found {a : α} {rest : List Char} (hrest : rest <:+ cs) :
      WithLimit limit cs (.ok (a, rest)) (.ok (a, rest))
  | stopped (complaint : Complaint) (rest : List Char) :
      WithLimit limit cs (.error (.at complaint rest)) (.error (.at complaint rest))
  | long {run : List Char} (h : LongRun limit cs run) (unlimited : Reading α) :
      WithLimit limit cs (.error (.longInteger run.length)) unlimited

namespace WithLimit

variable {α β : Type} {limit : Nat} {cs whole : List Char}

theorem mono {first second : Reading α} (h : WithLimit limit cs first second)
    (hwhole : cs <:+ whole) : WithLimit limit whole first second := by
  cases h with
  | found hrest => exact .found (hrest.trans hwhole)
  | stopped complaint rest => exact .stopped complaint rest
  | long h => exact .long (h.mono hwhole) _

theorem map {first second : Reading α} (h : WithLimit limit cs first second) (f : α → β) :
    WithLimit limit cs (first.map fun (a, rest) => (f a, rest))
      (second.map fun (a, rest) => (f a, rest)) := by
  cases h with
  | found hrest => exact .found hrest
  | stopped complaint rest => exact .stopped complaint rest
  | long h => exact .long h _

theorem bind {first second : Except Stop (α × List Char)}
    {next next' : α × List Char → Except Stop (β × List Char)}
    (h : WithLimit limit cs first second)
    (hnext : ∀ a rest, rest <:+ cs → WithLimit limit rest (next (a, rest)) (next' (a, rest))) :
    WithLimit limit cs (first >>= next : Except Stop (β × List Char))
      (second >>= next' : Except Stop (β × List Char)) := by
  cases h with
  | @found a rest hrest => exact (hnext a rest hrest).mono hrest
  | stopped complaint rest => exact .stopped complaint rest
  | long h => exact .long h _

end WithLimit

section Readers

variable {α : Type} {limit : Nat}

theorem skipSpace_suffix (cs : List Char) : skipSpace cs <:+ cs :=
  List.dropWhile_suffix _

/-! ### Texts, words and numbers -/

/-- No integer is read inside of quotation marks. -/
theorem pieces_withLimit (opening cs : List Char) :
    WithLimit limit cs (pieces opening cs) (pieces opening cs) := by
  fun_induction pieces opening cs with
  | case1 | case3 | case4 | case6 | case7 | case9 | case10 => exact .stopped _ _
  | case2 rest => exact .found (List.suffix_cons _ _)
  | case5 a b c d rest n _ _ ih =>
      exact (ih.map (.unit n :: ·)).mono ⟨['\x5c', 'u', a, b, c, d], rfl⟩
  | case8 letter rest _ _ c _ ih => exact (ih.map (.char c :: ·)).mono ⟨['\x5c', letter], rfl⟩
  | case11 c rest _ _ _ _ _ _ ih => exact (ih.map (.char c :: ·)).mono (List.suffix_cons _ _)

theorem quotedText_withLimit (afterMark : List Char) :
    WithLimit limit afterMark (quotedText afterMark) (quotedText afterMark) :=
  (pieces_withLimit _ afterMark).map fun parts => String.ofList (spell parts)

theorem afterWord?_suffix {word cs rest : List Char} (h : afterWord? word cs = some rest) :
    rest <:+ cs := by
  fun_induction afterWord? word cs with
  | case1 cs =>
      cases h
      exact List.suffix_refl _
  | case2 => cases h
  | case3 w word cs ih => exact (ih h).trans (List.suffix_cons _ _)
  | case4 => cases h

theorem word?_suffix {cs rest : List Char} {held : Value} (h : word? cs = some (held, rest)) :
    rest <:+ cs := by
  obtain ⟨entry, -, hentry⟩ := List.exists_of_findSome?_eq_some h
  obtain ⟨left, hleft, heq⟩ := Option.map_eq_some_iff.mp hentry
  cases heq
  exact afterWord?_suffix hleft

theorem splitDigits_suffix (cs : List Char) : (Numeral.splitDigits cs).2 <:+ cs :=
  List.dropWhile_suffix _

/-- The digits before the point are a run of digits at the front of the text. -/
theorem splitWhole_spec (cs : List Char) :
    (splitWhole cs).1 <+: cs ∧ (∀ c ∈ (splitWhole cs).1, c.isDigit = true) ∧
      (splitWhole cs).2 <:+ cs := by
  unfold splitWhole
  split
  · next rest => exact ⟨⟨rest, rfl⟩, by simp, List.suffix_cons _ _⟩
  · exact ⟨List.takeWhile_prefix _, fun c hc => Numeral.isDigit_of_mem_splitDigits hc,
      splitDigits_suffix _⟩

theorem splitFraction?_suffix {cs digits rest : List Char}
    (h : splitFraction? cs = some (digits, rest)) : rest <:+ cs := by
  unfold splitFraction? at h
  split at h
  · next more =>
      dsimp only at h
      split at h
      · cases h
      · cases h
        exact (splitDigits_suffix more).trans (List.suffix_cons _ _)
  · cases h

theorem splitSign_suffix (cs : List Char) : (Numeral.splitSign cs).2 <:+ cs := by
  unfold Numeral.splitSign
  split
  · exact List.suffix_cons _ _
  · exact List.suffix_cons _ _
  · exact List.suffix_refl _

theorem splitExponent?_suffix {cs rest : List Char} {exponent : Int}
    (h : splitExponent? cs = some (exponent, rest)) : rest <:+ cs := by
  unfold splitExponent? at h
  split at h
  · next mark more =>
      split at h
      · dsimp only at h
        split at h
        · cases h
        · cases h
          exact ((splitDigits_suffix _).trans (splitSign_suffix more)).trans (List.suffix_cons _ _)
      · cases h
  · cases h

theorem number_withLimit (cs : List Char) :
    WithLimit limit cs (number (some limit) cs) (number none cs) := by
  unfold number
  split
  next negative body hsign =>
  split
  next whole afterWhole hwhole =>
  split
  · exact .stopped _ _
  split
  next fraction? afterFraction hfraction =>
  split
  next exponent? rest hexponent =>
  have hbody : body <:+ cs := by
    split at hsign <;> cases hsign
    · exact List.suffix_cons _ _
    · exact List.suffix_refl _
  obtain ⟨hfront, hdigits, hafter⟩ := splitWhole_spec body
  rw [hwhole] at hfront hdigits hafter
  have hfraction' : afterFraction <:+ afterWhole := by
    split at hfraction <;> cases hfraction
    · next hsome => exact splitFraction?_suffix hsome
    · exact List.suffix_refl _
  have hexponent' : rest <:+ afterFraction := by
    split at hexponent <;> cases hexponent
    · next hsome => exact splitExponent?_suffix hsome
    · exact List.suffix_refl _
  have hrest : rest <:+ cs := ((hexponent'.trans hfraction').trans hafter).trans hbody
  -- Only a number without fraction and exponent is held against the limit.
  by_cases hplain : (fraction?.isNone && exponent?.isNone) = true
  · rw [if_pos hplain, if_pos hplain]
    by_cases hlong : limit < whole.length
    · have hrefused : (some limit).any (· < whole.length) = true := by simpa using hlong
      rw [if_pos hrefused]
      exact .long ⟨hfront.isInfix.trans hbody.isInfix, hdigits, hlong⟩ _
    · have haccepted : ¬ (some limit).any (· < whole.length) = true := by simpa using hlong
      rw [if_neg haccepted]
      exact .found hrest
  · rw [if_neg hplain, if_neg hplain]
    exact .found hrest

/-! ### Lists and objects -/

theorem elements_withLimit {close : Char} {element element' : List Char → Reading α}
    (h : ∀ cs, WithLimit limit cs (element cs) (element' cs)) (count : Nat) :
    ∀ cs, WithLimit limit cs (elements close element count cs)
      (elements close element' count cs) := by
  induction count with
  | zero =>
      intro cs
      exact .stopped _ _
  | succ count ih =>
      intro cs
      unfold elements
      apply (h cs).bind
      intro first afterFirst _
      dsimp only
      have hspace := skipSpace_suffix afterFirst
      split
      · exact .stopped _ _
      · next c rest hnext =>
          rw [hnext] at hspace
          have hrest : rest <:+ afterFirst := (List.suffix_cons _ _).trans hspace
          split
          · exact .found hrest
          · split
            · refine WithLimit.mono ?_ ((skipSpace_suffix rest).trans hrest)
              apply (ih (skipSpace rest)).bind
              intro others left _
              exact .found (List.suffix_refl _)
            · exact .stopped _ _

theorem enclosed_withLimit {close : Char} {element element' : List Char → Reading α}
    (h : ∀ cs, WithLimit limit cs (element cs) (element' cs)) (count : Nat) (cs : List Char) :
    WithLimit limit cs (enclosed close element count cs) (enclosed close element' count cs) := by
  have hspace := skipSpace_suffix cs
  unfold enclosed
  split
  · exact (elements_withLimit h count []).mono List.nil_suffix
  · next c rest hnext =>
      rw [hnext] at hspace
      split
      · exact .found ((List.suffix_cons _ _).trans hspace)
      · exact (elements_withLimit h count (c :: rest)).mono hspace

theorem member_withLimit {reader reader' : List Char → Reading Value}
    (h : ∀ cs, WithLimit limit cs (reader cs) (reader' cs)) (cs : List Char) :
    WithLimit limit cs (member reader cs) (member reader' cs) := by
  unfold member
  split
  · next afterMark =>
      refine WithLimit.mono ?_ (List.suffix_cons _ afterMark)
      apply (quotedText_withLimit afterMark).bind
      intro name afterName _
      dsimp only
      have hspace := skipSpace_suffix afterName
      split
      · next rest hnext =>
          rw [hnext] at hspace
          have hrest : rest <:+ afterName := (List.suffix_cons _ _).trans hspace
          refine WithLimit.mono ?_ ((skipSpace_suffix rest).trans hrest)
          apply (h (skipSpace rest)).bind
          intro held left _
          exact .found (List.suffix_refl _)
      · exact .stopped _ _
  · exact .stopped _ _

theorem value_withLimit (bound : Nat) :
    ∀ cs, WithLimit limit cs (value (some limit) bound cs) (value none bound cs) := by
  induction bound with
  | zero =>
      intro cs
      exact .stopped _ _
  | succ bound ih =>
      intro cs
      unfold value
      split
      · next rest =>
          exact ((quotedText_withLimit rest).map Value.text).mono (List.suffix_cons _ _)
      · next rest =>
          exact ((enclosed_withLimit ih (bound + 1) rest).map Value.list).mono
            (List.suffix_cons _ _)
      · next rest =>
          exact ((enclosed_withLimit (member_withLimit ih) (bound + 1) rest).map
            fun members => Value.object (Entries.ofPairs members)).mono (List.suffix_cons _ _)
      · split
        · next found hword => exact .found (word?_suffix hword)
        · exact number_withLimit cs

end Readers

/-! ### Documents -/

theorem document_withLimit (limit : Nat) (cs : List Char) :
    (∃ held, document (some limit) cs = .ok held ∧ document none cs = .ok held) ∨
    (∃ complaint rest, document (some limit) cs = .error (.at complaint rest) ∧
      document none cs = .error (.at complaint rest)) ∨
    ∃ run, LongRun limit cs run ∧ document (some limit) cs = .error (.longInteger run.length) := by
  unfold document
  split
  · exact .inr (.inl ⟨_, _, rfl, rfl⟩)
  · have hvalue : WithLimit limit cs (value (some limit) (cs.length + 1) (skipSpace cs))
        (value none (cs.length + 1) (skipSpace cs)) :=
      (value_withLimit _ _).mono (skipSpace_suffix cs)
    revert hvalue
    generalize value (some limit) (cs.length + 1) (skipSpace cs) = limited
    generalize value none (cs.length + 1) (skipSpace cs) = unlimited
    intro hvalue
    cases hvalue with
    | @found held rest hrest =>
        simp only [bind, Except.bind]
        split
        · exact .inl ⟨held, rfl, rfl⟩
        · exact .inr (.inl ⟨_, _, rfl, rfl⟩)
    | stopped complaint rest => exact .inr (.inl ⟨complaint, rest, rfl, rfl⟩)
    | @long run h => exact .inr (.inr ⟨run, h, rfl⟩)

/-- With a limit a text gives what it gives without, a value or a complaint, unless a run of digits
in it is longer than the limit; then the length of such a run may be reported instead. -/
theorem read_withLimit (limit : Nat) (text : String) :
    (∃ held, read (some limit) text = .ok held ∧ read none text = .ok held) ∨
    (∃ complaint place, read (some limit) text = .error (.malformed complaint place) ∧
      read none text = .error (.malformed complaint place)) ∨
    ∃ run, LongRun limit text.toList run ∧
      read (some limit) text = .error (.longInteger run.length) := by
  rcases document_withLimit limit text.toList with ⟨held, hlimited, hunlimited⟩ |
    ⟨complaint, rest, hlimited, hunlimited⟩ | ⟨run, hrun, hlimited⟩
  · exact .inl ⟨held, by simp [read, hlimited], by simp [read, hunlimited]⟩
  · exact .inr (.inl ⟨complaint, placeOf text.toList rest, by simp [read, hlimited],
      by simp [read, hunlimited]⟩)
  · exact .inr (.inr ⟨run, hrun, by simp [read, hlimited]⟩)

end TableExport.Json
