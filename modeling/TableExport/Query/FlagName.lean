/-! # Names for flag columns

The name of a flag column is the name of its column followed by a suffix.  Suffixes come from a
supply; one that would repeat a name is skipped.  The supply is a finite list, so asking for a name
fails when the list has no suffix left that gives a new one.

Main statement: a name that was drawn is new, it is the column's name with the first suitable
suffix, and all suffixes before that one would repeat a name (`draw?_eq_some_iff`). -/

namespace TableExport.FlagName

/-- The number of characters of a suffix that is made from a random token. -/
def suffixLength : Nat := 13

/-- The suffix made from a random token. -/
def suffixOfToken (token : String) : String :=
  String.ofList (token.toList.take suffixLength)

/-- The names given out so far, and the suffixes still to come. -/
structure Supply where
  issued : List String
  suffixes : List String
  deriving DecidableEq, Repr

/-- The first name that is not among those issued, and the suffixes after its own. -/
def draw? (issued : List String) (column : String) : List String → Option (String × List String)
  | [] => none
  | suffix :: rest =>
      if column ++ suffix ∈ issued then draw? issued column rest
      else some (column ++ suffix, rest)

/-- The next name for a column. -/
def Supply.next? (supply : Supply) (column : String) : Option (String × Supply) :=
  (draw? supply.issued column supply.suffixes).map fun (name, rest) =>
    (name, ⟨name :: supply.issued, rest⟩)

theorem draw?_eq_some_iff (issued : List String) (column : String) (suffixes : List String)
    (name : String) (rest : List String) :
    draw? issued column suffixes = some (name, rest) ↔
      ∃ skipped suffix, suffixes = skipped ++ suffix :: rest ∧ name = column ++ suffix ∧
        name ∉ issued ∧ ∀ s ∈ skipped, column ++ s ∈ issued := by
  induction suffixes with
  | nil => simp [draw?]
  | cons first others ih =>
      by_cases h : column ++ first ∈ issued
      · rw [draw?, if_pos h, ih]
        constructor
        · rintro ⟨skipped, suffix, rfl, rfl, hn, hs⟩
          exact ⟨first :: skipped, suffix, rfl, rfl, hn, by simpa [h] using hs⟩
        · rintro ⟨skipped, suffix, happ, rfl, hn, hs⟩
          cases skipped with
          | nil =>
              obtain ⟨rfl, -⟩ := List.cons.inj happ
              exact absurd h hn
          | cons s skipped =>
              obtain ⟨-, rfl⟩ := List.cons.inj happ
              exact ⟨skipped, suffix, rfl, rfl, hn, fun t ht => hs t (List.mem_cons_of_mem _ ht)⟩
      · rw [draw?, if_neg h]
        constructor
        · intro heq
          obtain ⟨rfl, rfl⟩ := Prod.mk.inj (Option.some.inj heq)
          exact ⟨[], first, rfl, rfl, h, by simp⟩
        · rintro ⟨skipped, suffix, happ, rfl, hn, hs⟩
          cases skipped with
          | nil =>
              obtain ⟨rfl, rfl⟩ := List.cons.inj happ
              rfl
          | cons s skipped =>
              obtain ⟨rfl, -⟩ := List.cons.inj happ
              exact absurd (hs first (by simp)) h

end TableExport.FlagName
