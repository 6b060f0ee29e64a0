import TableExport.Proofs.Sql.Reading

/-! # Quoting can be undone

`readQualified?` reads the identifiers at the front of a text, as long as a dot leads from one to
the next.  It reads back every qualified identifier, whatever the names contain, and stops at its
end, whatever follows, a dot excepted.  So no two names have one quotation.

Quoting may also be done by two replacements in the whole text, first of backslashes and then of
back-ticks (`flatMap_escapedChar`).  The order matters: the other way round the backslashes put in
front of back-ticks would be doubled.

Main statement: `quoting_reversible`. -/

namespace TableExport

/-! ### Replacing in a text -/

namespace Text

/-- The text with the occurrences of a pattern replaced, as they are met from left to right.  The
pattern is not empty. -/
def replaceAll (pattern replacement : List Char) : List Char → List Char
  | [] => []
  | c :: rest =>
      if pattern.isPrefixOf (c :: rest) then
        replacement ++ replaceAll pattern replacement (rest.drop (pattern.length - 1))
      else c :: replaceAll pattern replacement rest
termination_by cs => cs.length

/-- A pattern of one character is replaced character by character. -/
theorem replaceAll_single (old : Char) (replacement cs : List Char) :
    replaceAll [old] replacement cs = cs.flatMap fun c => if c = old then replacement else [c] := by
  induction cs with
  | nil => rw [replaceAll, List.flatMap_nil]
  | cons c rest ih =>
      rw [replaceAll, List.flatMap_cons]
      by_cases h : c = old
      · simp [h, ih]
      · have hother : ¬ old = c := fun e => h e.symm
        simp [h, hother, ih]

end Text

namespace Sql

/-! ### Reading qualified identifiers -/

theorem readIdentifier?_length {cs name rest : List Char}
    (h : readIdentifier? cs = some (name, rest)) : rest.length < cs.length := by
  cases cs with
  | nil => cases h
  | cons c cs =>
      rw [readIdentifier?] at h
      split at h
      · have := readName?_length h
        simp only [List.length_cons]
        omega
      · cases h

/-- The names of the qualified identifier at the front of a text, and what follows it.  After a dot
there has to be another identifier. -/
def readQualified? (cs : List Char) : Option (List String × List Char) :=
  match h : readIdentifier? cs with
  | none => none
  | some (name, '.' :: rest) =>
      have := readIdentifier?_length h
      (readQualified? rest).map fun (names, left) => (String.ofList name :: names, left)
  | some (name, rest) => some ([String.ofList name], rest)
termination_by cs.length
decreasing_by simp_all; omega

/-- Reading one identifier and going on behind a dot. -/
theorem readQualified?_eq (cs : List Char) :
    readQualified? cs =
      match readIdentifier? cs with
      | none => none
      | some (name, '.' :: rest) =>
          (readQualified? rest).map fun (names, left) => (String.ofList name :: names, left)
      | some (name, rest) => some ([String.ofList name], rest) := by
  rw [readQualified?]
  split <;> simp_all

theorem readQualified?_of_dot {cs name rest : List Char}
    (h : readIdentifier? cs = some (name, '.' :: rest)) :
    readQualified? cs =
      (readQualified? rest).map fun (names, left) => (String.ofList name :: names, left) := by
  rw [readQualified?_eq, h]
  rfl

theorem readQualified?_of_end {cs name rest : List Char}
    (h : readIdentifier? cs = some (name, rest)) (hrest : rest.head? ≠ some '.') :
    readQualified? cs = some ([String.ofList name], rest) := by
  rw [readQualified?_eq, h]
  split
  · next hnone => cases hnone
  · next other left hdot =>
      obtain ⟨-, rfl⟩ := Prod.mk.inj (Option.some.inj hdot)
      exact absurd rfl hrest
  · next other left _ hend =>
      obtain ⟨rfl, rfl⟩ := Prod.mk.inj (Option.some.inj hend)
      rfl

theorem readIdentifier?_text (name : String) (rest : List Char) :
    readIdentifier? ((identifier name).toList ++ rest) = some (name.toList, rest) := by
  rw [identifier, String.toList_ofList, readIdentifier?_identifier]

/-- Reading gives back the parts and stops where they end; by induction on the parts. -/
theorem readQualified?_qualified {parts : List String} (hparts : parts ≠ []) {rest : List Char}
    (hrest : rest.head? ≠ some '.') :
    readQualified? ((qualified parts).toList ++ rest) = some (parts, rest) := by
  induction parts with
  | nil => exact absurd rfl hparts
  | cons part others ih =>
      unfold qualified at ih ⊢
      cases others with
      | nil =>
          rw [List.map_singleton, String.intercalate_singleton]
          rw [readQualified?_of_end (readIdentifier?_text part rest) hrest, String.ofList_toList]
      | cons other others =>
          rw [List.map_cons, List.map_cons, String.intercalate_cons_cons, ← List.map_cons]
          rw [String.toList_append, String.toList_append, List.append_assoc, List.append_assoc]
          have hdot : ∀ text : List Char, ".".toList ++ text = '.' :: text := fun _ => rfl
          rw [hdot, readQualified?_of_dot (readIdentifier?_text part _), ih (List.cons_ne_nil _ _)]
          rw [Option.map_some, String.ofList_toList]

/-! ### No two names have one quotation -/

theorem identifier_injective : Function.Injective identifier := by
  intro name other h
  have hread := readIdentifier?_text name []
  rw [h, readIdentifier?_text] at hread
  obtain ⟨hname, -⟩ := Prod.mk.inj (Option.some.inj hread)
  exact String.toList_inj.mp hname.symm

theorem qualified_ne_nil {parts : List String} (h : parts ≠ []) :
    qualified parts ≠ qualified [] := by
  obtain ⟨cs, hcs⟩ := qualified_eq_cons h
  intro heq
  rw [heq] at hcs
  cases hcs

theorem qualified_injective : Function.Injective qualified := by
  intro parts others h
  by_cases hparts : parts = []
  · by_contra hne
    exact qualified_ne_nil (fun hothers => hne (hparts.trans hothers.symm)) (hparts ▸ h.symm)
  · by_cases hothers : others = []
    · exact absurd (hothers ▸ h) (qualified_ne_nil hparts)
    · have hend : ([] : List Char).head? ≠ some '.' := by decide
      have hread := readQualified?_qualified hparts hend
      rw [h, readQualified?_qualified hothers hend] at hread
      exact (Prod.mk.inj (Option.some.inj hread)).1.symm

/-! ### Quoting by replacing -/

/-- Doubling the backslashes and then putting one in front of each back-tick escapes every
character once. -/
theorem flatMap_escapedChar (name : List Char) :
    name.flatMap escapedChar =
      Text.replaceAll [backTick] ['\x5c', backTick]
        (Text.replaceAll ['\x5c'] ['\x5c', '\x5c'] name) := by
  rw [Text.replaceAll_single, Text.replaceAll_single, List.flatMap_assoc]
  apply List.flatMap_congr
  intro c _
  by_cases hslash : c = '\x5c'
  · subst hslash
    decide
  · by_cases htick : c = backTick
    · subst htick
      decide
    · simp [escapedChar, hslash, htick]

/-- A qualified identifier is read back and ends where it should, so that no two lists of parts and
no two names have one quotation; and a quotation is its name after two replacements, between
back-ticks. -/
theorem quoting_reversible :
    (∀ (parts : List String) (rest : String), parts ≠ [] → rest.toList.head? ≠ some '.' →
      readQualified? (qualified parts ++ rest).toList = some (parts, rest.toList)) ∧
    Function.Injective identifier ∧ Function.Injective qualified ∧
    ∀ name : String, (identifier name).toList =
      backTick :: (Text.replaceAll [backTick] ['\x5c', backTick]
        (Text.replaceAll ['\x5c'] ['\x5c', '\x5c'] name.toList) ++ [backTick]) := by
  refine ⟨fun parts rest hparts hrest => ?_, identifier_injective, qualified_injective,
    fun name => ?_⟩
  · rw [String.toList_append]
    exact readQualified?_qualified hparts hrest
  · rw [identifier, String.toList_ofList, identifierChars, flatMap_escapedChar]

/-- Names made of back-ticks, backslashes and dots, and an empty one, are read back. -/
theorem quoting_reversible_hostile :
    let parts := ["a\x60.\x60", "\x5c\x5c\x60\x5c", "", "."]
    let rest := "\x60.b"
    parts ≠ [] ∧ rest.toList.head? ≠ some '.' ∧
      readQualified? (qualified parts ++ rest).toList = some (parts, rest.toList) :=
  ⟨by decide, by decide, quoting_reversible.1 _ _ (by decide) (by decide)⟩

end Sql
end TableExport
