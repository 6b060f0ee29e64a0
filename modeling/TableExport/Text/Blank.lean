/-! # White space

Two sets of characters count as white space around a value.  `isSpace` is the Unicode property
White_Space; `isBlank` adds the four information separators U+001C to U+001F, which end a field
in older record formats.  `trimBy` removes the longest run of such characters at both ends, and
`trim` is `trimBy isBlank`.

Main statements: what is left after trimming neither begins nor ends with a character of the set
(`head_trimBy`, `getLast_trimBy`), a text without such characters at its ends is untouched
(`trimBy_of_ends`), so that trimming twice is trimming once (`trimBy_trimBy`), and a body without
such characters is what is left (`trimBy_append`). -/

namespace TableExport.Text

/-- The Unicode property White_Space. -/
def isSpace (c : Char) : Bool :=
  let n := c.toNat
  (0x09 ≤ n && n ≤ 0x0D) || n == 0x20 || n == 0x85 || n == 0xA0 || n == 0x1680 ||
    (0x2000 ≤ n && n ≤ 0x200A) || n == 0x2028 || n == 0x2029 || n == 0x202F || n == 0x205F ||
    n == 0x3000

/-- White space or one of the information separators U+001C to U+001F. -/
def isBlank (c : Char) : Bool :=
  isSpace c || (0x1C ≤ c.toNat && c.toNat ≤ 0x1F)

/-- A text without the characters of a set at its end. -/
def dropTrailing (p : Char → Bool) (cs : List Char) : List Char :=
  (cs.reverse.dropWhile p).reverse

/-- A text without the characters of a set at either end. -/
def trimBy (p : Char → Bool) (cs : List Char) : List Char :=
  dropTrailing p (cs.dropWhile p)

/-- A text without blanks at either end. -/
def trim (cs : List Char) : List Char :=
  trimBy isBlank cs

/-! ### Laws of trimming -/

theorem dropTrailing_nil (p : Char → Bool) : dropTrailing p [] = [] := rfl

theorem dropTrailing_append_singleton (p : Char → Bool) (cs : List Char) (c : Char) :
    dropTrailing p (cs ++ [c]) = if p c then dropTrailing p cs else cs ++ [c] := by
  by_cases h : p c <;> simp [dropTrailing, h]

theorem getLast_dropTrailing (p : Char → Bool) (cs : List Char) (c : Char)
    (h : (dropTrailing p cs).getLast? = some c) : p c = false := by
  have := List.head?_dropWhile_not p cs.reverse
  simp only [dropTrailing, List.getLast?_reverse] at h
  rw [h] at this
  simpa using this

theorem dropTrailing_of_getLast (p : Char → Bool) (cs : List Char)
    (h : ∀ c, cs.getLast? = some c → p c = false) : dropTrailing p cs = cs := by
  rcases List.eq_nil_or_concat cs with rfl | ⟨init, c, rfl⟩
  · rfl
  · have hc := h c (by simp)
    simp [List.concat_eq_append, dropTrailing_append_singleton, hc]

theorem exists_eq_dropTrailing_append (p : Char → Bool) (cs : List Char) :
    ∃ tail, cs = dropTrailing p cs ++ tail ∧ ∀ c ∈ tail, p c = true := by
  refine ⟨(cs.reverse.takeWhile p).reverse, ?_, ?_⟩
  · rw [dropTrailing, ← List.reverse_append, List.takeWhile_append_dropWhile,
      List.reverse_reverse]
  · intro c hc
    have hc' : c ∈ cs.reverse.takeWhile p := by simpa using hc
    exact List.all_eq_true.mp List.all_takeWhile c hc'

/-- A trimmed text does not end with a character of the set. -/
theorem getLast_trimBy (p : Char → Bool) (cs : List Char) (c : Char)
    (h : (trimBy p cs).getLast? = some c) : p c = false :=
  getLast_dropTrailing p _ c h

/-- A trimmed text does not begin with a character of the set. -/
theorem head_trimBy (p : Char → Bool) (cs : List Char) (c : Char)
    (h : (trimBy p cs).head? = some c) : p c = false := by
  obtain ⟨tail, happ, -⟩ := exists_eq_dropTrailing_append p (cs.dropWhile p)
  have hd : (cs.dropWhile p).head? = some c := by
    rw [happ]
    change (trimBy p cs ++ tail).head? = some c
    rw [List.head?_append, h, Option.some_or]
  have := List.head?_dropWhile_not p cs
  rw [hd] at this
  simpa using this

/-- A text whose ends are outside the set is its own trimmed form. -/
theorem trimBy_of_ends (p : Char → Bool) (cs : List Char)
    (hhead : ∀ c, cs.head? = some c → p c = false)
    (hlast : ∀ c, cs.getLast? = some c → p c = false) : trimBy p cs = cs := by
  cases cs with
  | nil => rfl
  | cons c rest =>
      have hc : p c = false := hhead c rfl
      simp only [trimBy, List.dropWhile_cons, hc, Bool.false_eq_true, if_false]
      exact dropTrailing_of_getLast p _ hlast

theorem trimBy_trimBy (p : Char → Bool) (cs : List Char) : trimBy p (trimBy p cs) = trimBy p cs :=
  trimBy_of_ends p _ (head_trimBy p cs) (getLast_trimBy p cs)

/-- A text is its trimmed form between two runs of characters of the set. -/
theorem exists_eq_append_trimBy (p : Char → Bool) (cs : List Char) :
    ∃ lead trail, cs = lead ++ (trimBy p cs ++ trail) ∧ (∀ c ∈ lead, p c = true) ∧
      ∀ c ∈ trail, p c = true := by
  obtain ⟨trail, hrest, htrail⟩ := exists_eq_dropTrailing_append p (cs.dropWhile p)
  refine ⟨cs.takeWhile p, trail, ?_, List.all_eq_true.mp List.all_takeWhile, htrail⟩
  rw [trimBy, ← hrest, List.takeWhile_append_dropWhile]

theorem dropTrailing_append (p : Char → Bool) (cs : List Char) {trail : List Char}
    (htrail : ∀ c ∈ trail, p c = true) : dropTrailing p (cs ++ trail) = dropTrailing p cs := by
  have hreverse : ∀ c ∈ trail.reverse, p c = true := fun c hc => htrail c (List.mem_reverse.mp hc)
  rw [dropTrailing, List.reverse_append, List.dropWhile_append_of_pos hreverse, dropTrailing]

/-- Trimming leaves a body without characters of the set. -/
theorem trimBy_append {p : Char → Bool} {lead body trail : List Char}
    (hlead : ∀ c ∈ lead, p c = true) (hbody : ∀ c ∈ body, p c = false)
    (htrail : ∀ c ∈ trail, p c = true) : trimBy p (lead ++ (body ++ trail)) = body := by
  rw [trimBy, List.dropWhile_append_of_pos hlead]
  cases body with
  | nil =>
      rw [List.nil_append, ← List.append_nil trail, List.dropWhile_append_of_pos htrail]
      rfl
  | cons c rest =>
      have hlast : ∀ d, (c :: rest).getLast? = some d → p d = false :=
        fun d hd => hbody d (List.mem_of_getLast? hd)
      have hhead : ¬ p c = true := by simp [hbody c List.mem_cons_self]
      rw [List.cons_append, List.dropWhile_cons_of_neg hhead, ← List.cons_append,
        dropTrailing_append p _ htrail, dropTrailing_of_getLast p _ hlast]

end TableExport.Text
