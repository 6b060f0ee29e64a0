import TableExport.Number.Binary64

/-! # Query parameters

The values of a query travel beside its text, each under a name and with a declared type.  Names
are given or generated; the generated ones are `param_` and a number.

Main statements: `firstFree` finds a number whose name is free (`generated_firstFree_not_mem`), and
it is the least from its start on (`le_firstFree`, `generated_mem_of_lt_firstFree`). -/

namespace TableExport

/-- The declared types of parameters. -/
inductive ParameterType
  | string
  | int64
  | float64
  | bool
  | date
  | timestamp
  | int64Array
  | stringArray
  deriving DecidableEq, Repr

namespace ParameterType

/-- The names of the types. -/
def names : List (String × ParameterType) :=
  [("STRING", .string), ("INT64", .int64), ("FLOAT64", .float64), ("BOOL", .bool), ("DATE", .date),
    ("TIMESTAMP", .timestamp), ("ARRAY<INT64>", .int64Array), ("ARRAY<STRING>", .stringArray)]

/-- The name of a type. -/
def name : ParameterType → String
  | .string => "STRING"
  | .int64 => "INT64"
  | .float64 => "FLOAT64"
  | .bool => "BOOL"
  | .date => "DATE"
  | .timestamp => "TIMESTAMP"
  | .int64Array => "ARRAY<INT64>"
  | .stringArray => "ARRAY<STRING>"

theorem lookup_name (type : ParameterType) : names.lookup type.name = some type := by
  cases type <;> decide

end ParameterType

/-- A single bound value. -/
inductive Scalar
  | null
  | bool (value : Bool)
  | integer (value : Int)
  | real (value : Binary64)
  | text (value : String)
  deriving DecidableEq, Repr

/-- A bound value: a single one or a list. -/
inductive BoundValue
  | scalar (value : Scalar)
  | array (values : List Scalar)
  deriving DecidableEq, Repr

namespace Parameter

/-- What generated names begin with. -/
def stem : String := "param_"

/-- The generated name with a number. -/
def generated (number : Nat) : String :=
  stem ++ number.repr

/-- A name of the generated form: the stem and one or more digits. -/
def isReserved (name : String) : Bool :=
  let digits := name.toList.drop stem.length
  name.toList.take stem.length == stem.toList && !digits.isEmpty && digits.all Char.isDigit

/-- The first number from a given one on whose generated name is free.  The first argument bounds
the numbers that are tried; as many as there are names in use are enough. -/
def firstFree (used : List String) : Nat → Nat → Nat
  | 0, number => number
  | tries + 1, number =>
      if generated number ∈ used then firstFree used tries (number + 1) else number

theorem generated_injective {m n : Nat} (h : generated m = generated n) : m = n := by
  have digits : m.repr.toList = n.repr.toList := by
    simpa [generated] using congrArg String.toList h
  rw [← Numeral.ofDigits_repr m, ← Numeral.ofDigits_repr n, digits]

/-! ### The first free number -/

theorem le_firstFree (used : List String) (tries number : Nat) :
    number ≤ firstFree used tries number := by
  induction tries generalizing number with
  | zero => exact Nat.le_refl _
  | succ tries ih =>
      rw [firstFree]
      split
      · exact Nat.le_trans (Nat.le_succ number) (ih (number + 1))
      · exact Nat.le_refl _

/-- Every number that was passed over has its name in use. -/
theorem generated_mem_of_lt_firstFree {used : List String} {tries number passed : Nat}
    (hle : number ≤ passed) (hlt : passed < firstFree used tries number) :
    generated passed ∈ used := by
  induction tries generalizing number with
  | zero => exact absurd hlt (Nat.not_lt.mpr hle)
  | succ tries ih =>
      rw [firstFree] at hlt
      split at hlt
      · next hmem =>
          rcases Nat.eq_or_lt_of_le hle with rfl | h
          · exact hmem
          · exact ih h hlt
      · exact absurd hlt (Nat.not_lt.mpr hle)

theorem firstFree_erase {used : List String} {dropped number : Nat} (h : dropped < number)
    (tries : Nat) :
    firstFree (used.erase (generated dropped)) tries number = firstFree used tries number := by
  induction tries generalizing number with
  | zero => rfl
  | succ tries ih =>
      have hne : generated number ≠ generated dropped := fun e =>
        absurd (generated_injective e) (by omega)
      simp only [firstFree, List.mem_erase_of_ne hne, ih (Nat.lt_succ_of_lt h)]

/-- With as many tries as names in use, the number that is found is free. -/
theorem generated_firstFree_not_mem {used : List String} {tries : Nat}
    (h : used.length ≤ tries) (number : Nat) :
    generated (firstFree used tries number) ∉ used := by
  induction tries generalizing used number with
  | zero =>
      have hnil : used = [] := List.length_eq_zero_iff.mp (by omega)
      simp [hnil]
  | succ tries ih =>
      rw [firstFree]
      split
      · next hmem =>
          have hlen : (used.erase (generated number)).length ≤ tries := by
            rw [List.length_erase_of_mem hmem]
            omega
          have hfree := ih hlen (number + 1)
          rw [firstFree_erase (Nat.lt_succ_self number)] at hfree
          have hne : generated (firstFree used tries (number + 1)) ≠ generated number := by
            intro e
            have := le_firstFree used tries (number + 1)
            have := generated_injective e
            omega
          exact fun hused => hfree ((List.mem_erase_of_ne hne).mpr hused)
      · next hmem => exact hmem

end Parameter
end TableExport
