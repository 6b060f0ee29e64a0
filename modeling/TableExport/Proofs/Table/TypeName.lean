import Mathlib.Data.List.TakeWhile
import TableExport.Proofs.Text.Capitals
import TableExport.Table.TypeName

/-! # Bare names

The stem of a text is what stands before its first bracket, without blanks around it.  The bare name
is the stem in capitals (`TypeName.head_eq`), although it is found in another order: the text is
trimmed and written in capitals before it is cut, first at the angle and then at the round bracket.

A stem in capitals is its own stem and stays as it is in capitals, so that nothing is left to remove
or to change when the bare name of a bare name is asked for.

Main statement: a bare name is its own bare name, for every text (`TypeName.bare_bare`); the class
of a type is therefore the class of its bare name (`BaseType.ofTypeName_bare`). -/

namespace TableExport

namespace TypeName

/-- The capitals before the first bracket, without blanks. -/
def head (text : String) : List Char :=
  let capitals := Text.upper (Text.trim text.toList)
  Text.trim ((capitals.takeWhile (· ≠ '<')).takeWhile (· ≠ '('))

theorem bare_eq (text : String) :
    bare text =
      if String.ofList (head text) = "RECORD" then "STRUCT" else String.ofList (head text) :=
  rfl

theorem mem_of_mem_trim {cs : List Char} {c : Char} (h : c ∈ Text.trim cs) : c ∈ cs := by
  obtain ⟨lead, trail, hsplit, -, -⟩ := Text.exists_eq_append_trimBy Text.isBlank cs
  rw [hsplit]
  exact List.mem_append_right lead (List.mem_append_left trail h)

/-! ### Stems -/

/-- The character opens the parameters of a type. -/
def isOpening (c : Char) : Bool :=
  c == '<' || c == '('

/-- The text before the first opening bracket, without blanks around it. -/
def stem (text : String) : List Char :=
  Text.trim (text.toList.takeWhile fun c => !isOpening c)

theorem isSteady_of_isOpening {c : Char} (h : isOpening c = true) : Text.isSteady c = true := by
  simp only [isOpening, Bool.or_eq_true, beq_iff_eq] at h
  rcases h with rfl | rfl <;> decide

theorem not_isOpening_of_isBlank {c : Char} (h : Text.isBlank c = true) :
    (!isOpening c) = true := by
  rw [Bool.not_eq_true', ← Bool.not_eq_true]
  intro hopening
  simp only [isOpening, Bool.or_eq_true, beq_iff_eq] at hopening
  rcases hopening with rfl | rfl <;> exact absurd h (by decide)

/-- A text may be cut at its first bracket before it is written in capitals. -/
theorem takeWhile_upper (cs : List Char) :
    (Text.upper cs).takeWhile (fun c => !isOpening c) =
      Text.upper (cs.takeWhile fun c => !isOpening c) :=
  (Text.keeps_upperChar fun _ => isSteady_of_isOpening).not.takeWhile cs

/-- Cutting at one bracket after the other is cutting at the first of either. -/
theorem takeWhile_takeWhile_eq (cs : List Char) :
    (cs.takeWhile (· ≠ '<')).takeWhile (· ≠ '(') = cs.takeWhile fun c => !isOpening c := by
  rw [List.takeWhile_takeWhile]
  congr 1
  funext c
  by_cases hangle : c = '<' <;> by_cases hround : c = '(' <;> simp [isOpening, hangle, hround]

/-- The head of a text is its stem in capitals. -/
theorem head_eq (text : String) : head text = Text.upper (stem text) := by
  calc head text
      = Text.trim ((Text.upper (Text.trim text.toList)).takeWhile fun c => !isOpening c) := by
        rw [head, takeWhile_takeWhile_eq]
    _ = Text.trim (Text.upper ((Text.trim text.toList).takeWhile fun c => !isOpening c)) := by
        rw [takeWhile_upper]
    _ = Text.upper (Text.trim ((Text.trim text.toList).takeWhile fun c => !isOpening c)) :=
        Text.trim_upper _
    _ = Text.upper (stem text) := by
        rw [stem, Text.trim, Text.trim, Text.trim,
          Text.trimBy_takeWhile_trimBy (fun _ => not_isOpening_of_isBlank)]

/-- A stem has no bracket at which it could be cut. -/
theorem takeWhile_stem (text : String) :
    (stem text).takeWhile (fun c => !isOpening c) = stem text := by
  refine List.takeWhile_eq_self_iff.mpr fun c hc => ?_
  have hclosed := List.mem_takeWhile_imp (mem_of_mem_trim hc)
  exact hclosed

/-- A stem in capitals is its own stem. -/
theorem stem_ofList_upper_stem (text : String) :
    stem (String.ofList (Text.upper (stem text))) = Text.upper (stem text) := by
  have htrim : Text.trim (stem text) = stem text := Text.trimBy_trimBy Text.isBlank _
  calc stem (String.ofList (Text.upper (stem text)))
      = Text.trim (Text.upper ((stem text).takeWhile fun c => !isOpening c)) := by
        rw [stem, String.toList_ofList, takeWhile_upper]
    _ = Text.upper (Text.trim (stem text)) := by rw [takeWhile_stem, Text.trim_upper]
    _ = Text.upper (stem text) := by rw [htrim]

/-! ### Bare names -/

/-- The head of a text is its own head. -/
theorem head_ofList_head (text : String) : head (String.ofList (head text)) = head text := by
  rw [head_eq, head_eq text, stem_ofList_upper_stem, Text.upper_upper]

/-- A bare name is its own bare name. -/
theorem bare_bare (text : String) : bare (bare text) = bare text := by
  rw [bare_eq text]
  split
  · decide +kernel
  · next hother => rw [bare_eq, head_ofList_head, if_neg hother]

end TypeName

/-- A bare name has the class of the text that it was taken from. -/
theorem BaseType.ofTypeName_bare (text : String) :
    ofTypeName (TypeName.bare text) = ofTypeName text := by
  rw [ofTypeName, TypeName.bare_bare, ofTypeName]

end TableExport
