import Mathlib.Data.List.Forall2
import TableExport.Proofs.Number.Decimal
import TableExport.Proofs.Query.FirstFault
import TableExport.Query.Literal

/-! # What literals are read as

A literal of an integer type is a sign and up to 4300 digits, one of a real type is a decimal
literal in the finite range, both with blanks around them; what they are read as is written beside
them (`Literal.DenotesInteger`, `Literal.DenotesReal`), without a reader.

Every other literal of these types is malformed, and a list of literals is read in order, up to the
first malformed one (`Literal.ReadsAs`).  A real literal is read as the number nearest to its value,
which is the value itself if that is a number (`Literal.exists_real?_of_toRat`). -/

namespace TableExport

namespace Text

/-- A text is a body with blanks around it. -/
inductive IsPadded (text : String) (body : List Char) : Prop
  | intro {lead trail : List Char} (htext : text.toList = lead ++ (body ++ trail))
      (hlead : ∀ c ∈ lead, isBlank c = true) (htrail : ∀ c ∈ trail, isBlank c = true) :
      IsPadded text body

theorem isPadded_trim (text : String) : IsPadded text (trim text.toList) := by
  obtain ⟨lead, trail, htext, hlead, htrail⟩ := exists_eq_append_trimBy isBlank text.toList
  exact .intro htext hlead htrail

theorem IsPadded.trim_eq {text : String} {body : List Char} (h : IsPadded text body)
    (hbody : ∀ c ∈ body, isBlank c = false) : trim text.toList = body := by
  obtain ⟨htext, hlead, htrail⟩ := h
  rw [htext]
  exact trimBy_append hlead hbody htrail

end Text

/-- Literals of the type denote integers. -/
def DataType.IsInteger (type : DataType) : Prop :=
  type = .integer ∨ type = .bigint

/-- Literals of the type denote real numbers. -/
def DataType.IsReal (type : DataType) : Prop :=
  type = .real ∨ type = .double ∨ type = .decimal

namespace Literal

variable {type : DataType} {column : Option String} {text : String} {texts : List String}
  {scalar : Scalar} {scalars : List Scalar} {fault : Fault}

/-! ### Lists of literals -/

/-- The scalars are what the literals denote as a data type, in order. -/
def Denote (type : DataType) : List String → List Scalar → Prop :=
  List.Forall₂ fun literal scalar => value? type literal = some scalar

theorem value_eq_ok_iff : value type column text = .ok scalar ↔ value? type text = some scalar := by
  unfold value
  cases value? type text <;> simp

theorem value_eq_error_iff :
    value type column text = .error fault ↔
      value? type text = none ∧ fault = .malformedLiteral text (.data type) column := by
  unfold value
  cases value? type text <;> simp [eq_comm]

theorem values_eq_ok_iff :
    values type column texts = .ok scalars ↔ Denote type texts scalars := by
  unfold Denote
  induction texts generalizing scalars with
  | nil =>
      rw [List.forall₂_nil_left_iff, values, Except.ok.injEq, eq_comm]
  | cons text rest ih =>
      rw [List.forall₂_cons_left_iff, values]
      cases hvalue : value type column text with
      | error fault =>
          have hnone := (value_eq_error_iff.mp hvalue).1
          constructor
          · intro h
            cases h
          · rintro ⟨scalar, -, hsome, -⟩
            rw [hnone] at hsome
            cases hsome
      | ok scalar =>
          have hsome := value_eq_ok_iff.mp hvalue
          constructor
          · intro h
            obtain ⟨others, hothers, rfl⟩ := except_map_eq_ok h
            exact ⟨scalar, others, hsome, ih.mp hothers, rfl⟩
          · rintro ⟨_, others, hsome', hothers, rfl⟩
            obtain rfl := Option.some.inj (hsome.symm.trans hsome')
            show (values type column rest).map _ = _
            rw [ih.mpr hothers]
            rfl

/-- The fault of a list is the one of its first malformed literal. -/
theorem values_eq_error_iff :
    values type column texts = .error fault ↔
      ∃ before text after, texts = before ++ text :: after ∧
        (∀ other ∈ before, value? type other ≠ none) ∧
        value? type text = none ∧ fault = .malformedLiteral text (.data type) column := by
  rw [← faultOf?_eq_some_iff, faultOf?_values,
    findSome?_eq_map_find? (faultOf?_value type column), Option.map_eq_some_iff]
  simp only [List.find?_eq_some_iff_append, Option.isNone_iff_eq_none, Option.not_isNone,
    Option.isSome_iff_ne_none]
  constructor
  · rintro ⟨text, ⟨hnone, before, after, htexts, hbefore⟩, rfl⟩
    exact ⟨before, text, after, htexts, hbefore, hnone, rfl⟩
  · rintro ⟨before, text, after, htexts, hbefore, hnone, rfl⟩
    exact ⟨text, ⟨hnone, before, after, htexts, hbefore⟩, rfl⟩

/-- Texts denote themselves. -/
theorem Denote.eq_map_text {literals : List String} {scalars : List Scalar}
    (h : Denote .string literals scalars) : scalars = literals.map .text := by
  induction h with
  | nil => rfl
  | cons hvalue _ ih => rw [List.map_cons, ← ih, ← Option.some.inj hvalue]

/-- The literals of a type are read as those scalars that they are related to.  All others are
malformed, and of a list the first malformed one is reported. -/
structure ReadsAs (type : DataType) (Reads : String → Scalar → Prop) : Prop where
  value_ok (column : Option String) (text : String) (scalar : Scalar) :
    value type column text = .ok scalar ↔ Reads text scalar
  value_error (column : Option String) (text : String) (fault : Fault) :
    value type column text = .error fault ↔
      (∀ scalar, ¬ Reads text scalar) ∧ fault = .malformedLiteral text (.data type) column
  values_ok (column : Option String) (texts : List String) (scalars : List Scalar) :
    values type column texts = .ok scalars ↔ List.Forall₂ Reads texts scalars
  values_error (column : Option String) (texts : List String) (fault : Fault) :
    values type column texts = .error fault ↔
      ∃ before text after, texts = before ++ text :: after ∧
        (∀ other ∈ before, ∃ scalar, Reads other scalar) ∧
        (∀ scalar, ¬ Reads text scalar) ∧ fault = .malformedLiteral text (.data type) column

theorem readsAs_of_value? {Reads : String → Scalar → Prop}
    (h : ∀ text scalar, value? type text = some scalar ↔ Reads text scalar) :
    ReadsAs type Reads := by
  have hnone : ∀ text, value? type text = none ↔ ∀ scalar, ¬ Reads text scalar := by
    intro text
    simp only [Option.eq_none_iff_forall_ne_some, ne_eq, h]
  have hsome : ∀ text, value? type text ≠ none ↔ ∃ scalar, Reads text scalar := by
    intro text
    rw [ne_eq, hnone, not_forall_not]
  refine ⟨fun column text scalar => ?_, fun column text fault => ?_,
    fun column texts scalars => ?_, fun column texts fault => ?_⟩
  · rw [value_eq_ok_iff, h]
  · rw [value_eq_error_iff, hnone]
  · rw [values_eq_ok_iff, Denote]
    simp only [h]
  · rw [values_eq_error_iff]
    simp only [hsome, hnone]

/-! ### Integers -/

/-- A sign and up to 4300 digits with blanks around them, and the integer that they denote in base
ten. -/
inductive DenotesInteger (text : String) : Int → Prop
  | intro {sign digits : List Char} {negative : Bool} (hsign : Numeral.IsSign sign negative)
      (hne : digits ≠ []) (hdigits : Numeral.IsDigits digits) (hlength : digits.length ≤ 4300)
      (htext : Text.IsPadded text (sign ++ digits)) :
      DenotesInteger text (Numeral.signed negative (Nat.ofDigits 10 (Numeral.places digits)))

theorem value?_of_isInteger (htype : type.IsInteger) (text : String) :
    value? type text = (integer? text).map .integer := by
  rcases htype with rfl | rfl <;> rfl

theorem integer?_eq_some_iff {n : Int} : integer? text = some n ↔ DenotesInteger text n := by
  constructor
  · intro h
    obtain ⟨sign, hsign, htrim⟩ := Numeral.exists_eq_append_splitSign (Text.trim text.toList)
    obtain ⟨⟨negative, digits⟩, hsplit⟩ :
      ∃ split, Numeral.splitSign (Text.trim text.toList) = split := ⟨_, rfl⟩
    rw [hsplit] at hsign htrim
    simp only [integer?, hsplit] at h
    obtain ⟨⟨hne, hdigits, hlength⟩, hvalue⟩ := Option.ite_none_right_eq_some.mp h
    obtain rfl := Option.some.inj hvalue
    rw [Numeral.ofDigits_eq]
    exact .intro hsign hne (List.all_eq_true.mp hdigits) hlength (htrim ▸ Text.isPadded_trim text)
  · rintro ⟨hsign, hne, hdigits, hlength, htext⟩
    -- trimming takes the padding and nothing else, since neither signs nor digits are blanks
    have htrim := htext.trim_eq fun c hc => (Decimal.isLiteralChar_spec <|
      (List.mem_append.mp hc).elim (Decimal.isLiteralChar_of_isSign hsign c)
        (Decimal.isLiteralChar_of_isDigits hdigits c)).2.1
    simp only [integer?, htrim, Numeral.splitSign_append_digits hsign hne hdigits]
    rw [← Numeral.ofDigits_eq]
    exact if_pos ⟨hne, List.all_eq_true.mpr hdigits, hlength⟩

/-- The numeral of an integer denotes it, unless it is too long. -/
theorem denotesInteger_repr {n : Int} (hlength : (Nat.toDigits 10 n.natAbs).length ≤ 4300)
    (htext : Text.IsPadded text n.repr.toList) : DenotesInteger text n := by
  rw [Numeral.toList_repr_int] at htext
  have h := DenotesInteger.intro (Numeral.isSign_minus (n < 0)) (Numeral.repr_ne_nil n.natAbs)
    (Numeral.isDigits_repr n.natAbs) (by rwa [Nat.toList_repr]) htext
  rwa [← Numeral.ofDigits_eq, Numeral.ofDigits_repr, Numeral.signed_natAbs] at h

/-- Literals of the integer types are read as the integers that they denote, and all others are
malformed.  Every integer of up to 4300 digits is what its numeral is read as. -/
theorem readsAs_integer (htype : type.IsInteger) :
    ReadsAs type (fun text scalar => ∃ n, DenotesInteger text n ∧ scalar = .integer n) ∧
      ∀ n : Int, (Nat.toDigits 10 n.natAbs).length ≤ 4300 →
        ∀ column text, Text.IsPadded text n.repr.toList →
          value type column text = .ok (.integer n) := by
  have hvalue : ∀ text scalar, value? type text = some scalar ↔
      ∃ n, DenotesInteger text n ∧ scalar = .integer n := by
    intro text scalar
    rw [value?_of_isInteger htype, Option.map_eq_some_iff]
    exact exists_congr fun n => and_congr integer?_eq_some_iff eq_comm
  refine ⟨readsAs_of_value? hvalue, fun n hlength column text htext => ?_⟩
  exact value_eq_ok_iff.mpr ((hvalue text _).mpr ⟨n, denotesInteger_repr hlength htext, rfl⟩)

/-- A negative integer between blanks. -/
theorem readsAs_integer_bigint :
    DataType.bigint.IsInteger ∧ (Nat.toDigits 10 (-70 : Int).natAbs).length ≤ 4300 ∧
      Text.IsPadded " -70\n" (-70 : Int).repr.toList ∧
      value .bigint (some "total") " -70\n" = .ok (.integer (-70)) := by
  have htype : DataType.bigint.IsInteger := .inr rfl
  have hlength : (Nat.toDigits 10 (-70 : Int).natAbs).length ≤ 4300 := by decide
  have htext : Text.IsPadded " -70\n" (-70 : Int).repr.toList :=
    @Text.IsPadded.intro _ _ [' '] ['\n'] (by decide) (List.forall_mem_singleton.mpr (by decide))
      (List.forall_mem_singleton.mpr (by decide))
  exact ⟨htype, hlength, htext, (readsAs_integer htype).2 (-70) hlength (some "total") _ htext⟩

/-! ### Real numbers -/

/-- A decimal literal with blanks around it: its sign and its value. -/
inductive DenotesReal (text : String) : Bool → ℚ → Prop
  | intro {body : List Char} {negative : Bool} {magnitude : ℚ}
      (hbody : Decimal.Denotes body negative magnitude) (htext : Text.IsPadded text body) :
      DenotesReal text negative (withSign negative magnitude)

theorem value?_of_isReal (htype : type.IsReal) (text : String) :
    value? type text = (real? text).map .real := by
  rcases htype with rfl | rfl | rfl <;> rfl

theorem denotesReal_iff {negative : Bool} {value : ℚ} :
    DenotesReal text negative value ↔
      ∃ decimal, Decimal.read? (Text.trim text.toList) = some decimal ∧
        decimal.negative = negative ∧ withSign negative decimal.magnitude = value := by
  constructor
  · rintro ⟨hbody, htext⟩
    have htrim := htext.trim_eq fun c hc =>
      (Decimal.isLiteralChar_spec (hbody.isLiteralChar c hc)).2.1
    obtain ⟨decimal, hread, rfl, rfl⟩ := Decimal.denotes_iff.mp hbody
    exact ⟨decimal, htrim ▸ hread, rfl, rfl⟩
  · rintro ⟨decimal, hread, rfl, rfl⟩
    exact .intro (Decimal.denotes_iff.mpr ⟨decimal, hread, rfl, rfl⟩) (Text.isPadded_trim text)

theorem real?_eq_some_iff {x : Binary64} :
    real? text = some x ↔
      ∃ negative number, DenotesReal text negative number ∧ |number| < 2 ^ 1024 - 2 ^ 970 ∧
        x.negative = negative ∧ x.IsNearestTo number := by
  rw [real?, Option.bind_eq_some_iff]
  simp only [denotesReal_iff, Decimal.toBinary64?_eq_some_iff]
  constructor
  · rintro ⟨decimal, hread, hlimit, hsign, hnearest⟩
    rw [← Decimal.abs_withSign_magnitude decimal.negative] at hlimit
    exact ⟨_, _, ⟨decimal, hread, rfl, rfl⟩, hlimit, hsign, hnearest⟩
  · rintro ⟨_, _, ⟨decimal, hread, rfl, rfl⟩, hlimit, hsign, hnearest⟩
    rw [Decimal.abs_withSign_magnitude] at hlimit
    exact ⟨decimal, hread, hlimit, hsign, hnearest⟩

theorem exists_real?_eq_some_iff :
    (∃ x, real? text = some x) ↔
      ∃ negative number, DenotesReal text negative number ∧ |number| < 2 ^ 1024 - 2 ^ 970 := by
  simp only [real?, Option.bind_eq_some_iff, denotesReal_iff]
  constructor
  · rintro ⟨x, decimal, hread, hx⟩
    have hlimit := decimal.exists_toBinary64?_eq_some_iff.mp ⟨x, hx⟩
    exact ⟨_, _, ⟨decimal, hread, rfl, rfl⟩, by rwa [Decimal.abs_withSign_magnitude]⟩
  · rintro ⟨_, _, ⟨decimal, hread, rfl, rfl⟩, hlimit⟩
    rw [Decimal.abs_withSign_magnitude] at hlimit
    obtain ⟨x, hx⟩ := decimal.exists_toBinary64?_eq_some_iff.mpr hlimit
    exact ⟨x, decimal, hread, hx⟩

/-- A literal whose value a finite number has is read as a number of that very value. -/
theorem exists_real?_of_toRat {negative : Bool} {y : Binary64}
    (h : DenotesReal text negative y.toRat) :
    ∃ x, real? text = some x ∧ x.negative = negative ∧ x.toRat = y.toRat := by
  obtain ⟨decimal, hread, rfl, hvalue⟩ := denotesReal_iff.mp h
  have hlimit : decimal.magnitude < 2 ^ 1024 - 2 ^ 970 := by
    rw [← Decimal.abs_withSign_magnitude decimal.negative, hvalue]
    exact y.abs_toRat_lt
  obtain ⟨x, hx⟩ := decimal.exists_toBinary64?_eq_some_iff.mpr hlimit
  obtain ⟨-, hsign, hnearest⟩ := Decimal.toBinary64?_eq_some_iff.mp hx
  rw [hvalue] at hnearest
  refine ⟨x, ?_, hsign, hnearest.toRat_eq⟩
  rw [real?, hread]
  exact hx

/-- Literals of the real types are read if they are in the finite range, as the number nearest to
their value, with their sign also where that number is zero.  All others are malformed.  Whole
numbers of up to 53 binary digits, moved by a power of two in range, are read as they are. -/
theorem readsAs_real (htype : type.IsReal) :
    ReadsAs type (fun text scalar => ∃ negative number x, DenotesReal text negative number ∧
        |number| < 2 ^ 1024 - 2 ^ 970 ∧ x.negative = negative ∧ x.IsNearestTo number ∧
          scalar = .real x) ∧
      (∀ column text, (∃ scalar, value type column text = .ok scalar) ↔
        ∃ negative number, DenotesReal text negative number ∧ |number| < 2 ^ 1024 - 2 ^ 970) ∧
      ∀ column text negative number, DenotesReal text negative number →
        (∃ (significand : Nat) (exponent : ℤ), significand < 2 ^ 53 ∧ -1074 ≤ exponent ∧
          exponent ≤ 971 ∧ |number| = significand * 2 ^ exponent) →
        ∃ x, value type column text = .ok (.real x) ∧ x.negative = negative ∧
          x.toRat = number := by
  refine ⟨readsAs_of_value? fun text scalar => ?_, fun column text => ?_,
    fun column text negative number hnumber hexact => ?_⟩
  · rw [value?_of_isReal htype, Option.map_eq_some_iff]
    simp only [real?_eq_some_iff]
    constructor
    · rintro ⟨x, ⟨negative, number, hnumber, hlimit, hsign, hnearest⟩, rfl⟩
      exact ⟨negative, number, x, hnumber, hlimit, hsign, hnearest, rfl⟩
    · rintro ⟨negative, number, x, hnumber, hlimit, hsign, hnearest, rfl⟩
      exact ⟨x, ⟨negative, number, hnumber, hlimit, hsign, hnearest⟩, rfl⟩
  · rw [← exists_real?_eq_some_iff]
    simp only [value_eq_ok_iff, value?_of_isReal htype, Option.map_eq_some_iff]
    constructor
    · rintro ⟨_, x, hx, -⟩
      exact ⟨x, hx⟩
    · rintro ⟨x, hx⟩
      exact ⟨_, x, hx, rfl⟩
  · obtain ⟨y, rfl⟩ := Binary64.exists_toRat_eq_iff.mpr hexact
    obtain ⟨x, hx, hsign, hvalue⟩ := exists_real?_of_toRat hnumber
    refine ⟨x, value_eq_ok_iff.mpr ?_, hsign, hvalue⟩
    rw [value?_of_isReal htype, hx, Option.map_some]

/-- Negative zero keeps its sign. -/
theorem readsAs_real_negative_zero :
    DataType.decimal.IsReal ∧
      value .decimal (some "rate") " -0.0" = .ok (.real ⟨true, 0, by decide⟩) := by
  have htype : DataType.decimal.IsReal := .inr (.inr rfl)
  have hbody := Decimal.Denotes.intro .minus
    (@Decimal.IsMantissa.pointed ['0'] ['0'] (by decide) (by decide) (by decide)) .absent
  have htext : DenotesReal " -0.0" true _ :=
    .intro hbody (@Text.IsPadded.intro _ _ [' '] [] (by decide)
      (List.forall_mem_singleton.mpr (by decide)) nofun)
  have hvalue : withSign true ((Numeral.ofDigits ['0'] +
      Numeral.ofDigits ['0'] / 10 ^ ['0'].length : ℚ) * 10 ^ (0 : ℤ)) = 0 := by
    norm_num [withSign, Numeral.ofDigits_eq, Numeral.places]
  rw [hvalue] at htext
  have hzero : (⟨true, 0, by decide⟩ : Binary64).toRat = 0 := by
    norm_num [Binary64.toRat, Binary64.significand, Binary64.binadeSize, withSign]
  refine ⟨htype, ((readsAs_real htype).1.value_ok _ _ _).mpr
    ⟨true, 0, _, htext, ?_, rfl, ⟨fun y => ?_, fun _ _ _ => rfl⟩, rfl⟩⟩
  · rw [abs_zero, sub_pos]
    exact pow_lt_pow_right₀ one_lt_two (by decide)
  · rw [hzero, sub_zero, abs_zero]
    exact abs_nonneg _

end Literal
end TableExport
