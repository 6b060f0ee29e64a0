import TableExport.Proofs.Query.Progress

/-! # Binding names

A name of the generated form is the stem with one or more digits behind it
(`Parameter.isReserved_iff`), and its number can be read off it (`Parameter.number?_generated`).
The search for the next generated name stops at the one number that is free and has no free number
before it (`Parameter.firstFree_eq`), after at most as many steps as there are names in use
(`Parameter.firstFree_le`).

A given name is bound unless it is bound already or of the generated form
(`Draft.bindNamed?_eq_ok`).  Values and types are bound together, so that every bound name has a
type (`Draft.IsTyped`). -/

namespace TableExport
namespace Parameter

/-- The number in a name of the generated form. -/
def number? (name : String) : Option Nat :=
  if isReserved name then some (Numeral.ofDigits (name.toList.drop stem.length)) else none

theorem number?_generated (number : Nat) : number? (generated number) = some number := by
  have hlength : stem.length = stem.toList.length := rfl
  rw [number?, if_pos (isReserved_generated number), generated, String.toList_append, hlength,
    List.drop_left, Numeral.ofDigits_repr]

theorem number?_eq_none {name : String} (h : isReserved name = false) : number? name = none := by
  rw [number?, h]
  rfl

/-- The names of the generated form are the stem with one or more digits behind it. -/
theorem isReserved_iff (name : String) :
    isReserved name = true ↔ ∃ digits : List Char, digits ≠ [] ∧ digits.all Char.isDigit = true ∧
      name = stem ++ String.ofList digits := by
  have hlength : stem.length = stem.toList.length := rfl
  unfold isReserved
  constructor
  · intro h
    simp only [Bool.and_eq_true, beq_iff_eq, Bool.not_eq_true', List.isEmpty_eq_false_iff] at h
    obtain ⟨⟨hstem, hne⟩, hdigits⟩ := h
    refine ⟨name.toList.drop stem.length, hne, hdigits, String.toList_inj.mp ?_⟩
    rw [String.toList_append, String.toList_ofList]
    calc name.toList
        = name.toList.take stem.length ++ name.toList.drop stem.length :=
          (List.take_append_drop _ _).symm
      _ = stem.toList ++ name.toList.drop stem.length := by rw [hstem]
  · rintro ⟨digits, hne, hdigits, rfl⟩
    rw [String.toList_append, String.toList_ofList, hlength, List.take_left, List.drop_left]
    simp [hne, hdigits]

/-- The search goes through at most as many numbers as it may try. -/
theorem firstFree_le (used : List String) (tries number : Nat) :
    firstFree used tries number ≤ number + tries := by
  induction tries generalizing number with
  | zero => exact Nat.le_refl _
  | succ tries ih =>
      rw [firstFree]
      split
      · have := ih (number + 1)
        omega
      · omega

/-- The search finds the one number that is free and has no free number before it. -/
theorem firstFree_eq {used : List String} {tries start number : Nat} (htries : used.length ≤ tries)
    (hle : start ≤ number) (hfree : generated number ∉ used)
    (hused : ∀ passed, start ≤ passed → passed < number → generated passed ∈ used) :
    firstFree used tries start = number := by
  rcases Nat.lt_trichotomy (firstFree used tries start) number with hlt | heq | hgt
  · exact absurd (hused _ (le_firstFree _ _ _) hlt) (generated_firstFree_not_mem htries start)
  · exact heq
  · exact absurd (generated_mem_of_lt_firstFree hle hgt) hfree

end Parameter

/-! ### Drafts -/

/-- Every bound name has a type, in the same order. -/
def Draft.IsTyped (draft : Draft) : Prop :=
  draft.types.keys = draft.values.keys

theorem Draft.IsTyped.bind {draft : Draft} (h : draft.IsTyped) (name : String)
    (type : ParameterType) (value : BoundValue) : (draft.bind name type value).IsTyped := by
  show (draft.types.put name type).keys = (draft.values.put name value).keys
  rw [Bindings.keys_put, Bindings.keys_put, h]

theorem Draft.bindNamed?_eq_ok {draft bound : Draft} {name : String} {type : ParameterType}
    {value : BoundValue} (h : draft.bindNamed? name type value = .ok bound) :
    name ∉ draft.values.keys ∧ Parameter.isReserved name = false ∧
      bound = draft.bind name type value := by
  unfold bindNamed? at h
  split at h
  · cases h
  · next hname =>
      split at h
      · cases h
      · next hreserved =>
          exact ⟨hname, Bool.eq_false_iff.mpr hreserved, (Except.ok.inj h).symm⟩

end TableExport
