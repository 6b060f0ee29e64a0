import TableExport.Proofs.Number.Decimal
import TableExport.Proofs.Time.Calendar
import TableExport.Proofs.Time.Reading
import TableExport.Proofs.Time.Seconds

/-! # Unix times as texts

A text denotes a value if it is a decimal literal with blanks around it (`UnixTime.Denotes`), and it
denotes an integer if the literal is a sign and digits (`UnixTime.DenotesInteger`).  The number of
such a text is the one that its value is rounded to (`UnixTime.Denotes.isRounded`).

Main statements: the seconds of a text that denotes an integer are that integer, unless it is out of
range (`UnixTime.Denotes.seconds?_integer`); the seconds of two texts are in the order of their
values (`UnixTime.Denotes.seconds?_mono`); a part of a second is dropped or carried, by its size
(`UnixTime.format?_pointed`). -/

namespace TableExport

namespace UnixTime

/-! ### Texts and their values -/

/-- A decimal literal with blanks around it, and its value. -/
inductive Denotes (text : String) : ℚ → Prop
  | intro {lead body trail : List Char} {negative : Bool} {magnitude : ℚ}
      (htext : text.toList = lead ++ (body ++ trail))
      (hlead : ∀ c ∈ lead, Text.isBlank c = true)
      (hbody : Decimal.Denotes body negative magnitude)
      (htrail : ∀ c ∈ trail, Text.isBlank c = true) :
      Denotes text (if negative then -magnitude else magnitude)

/-- A sign and digits with blanks around them, and their value. -/
inductive DenotesInteger (text : String) : Int → Prop
  | intro {lead sign digits trail : List Char} {negative : Bool}
      (htext : text.toList = lead ++ (sign ++ digits ++ trail))
      (hlead : ∀ c ∈ lead, Text.isBlank c = true)
      (hsign : Numeral.IsSign sign negative) (hne : digits ≠ [])
      (hdigits : Numeral.IsDigits digits)
      (htrail : ∀ c ∈ trail, Text.isBlank c = true) :
      DenotesInteger text (Numeral.signed negative (Numeral.ofDigits digits))

variable {text : String} {value : ℚ}

theorem DenotesInteger.denotes {t : Int} (h : DenotesInteger text t) : Denotes text t := by
  obtain @⟨lead, sign, digits, trail, negative, htext, hlead, hsign, hne, hdigits, htrail⟩ := h
  have hbody : Decimal.Denotes (sign ++ (digits ++ [])) negative
      (Numeral.ofDigits digits * 10 ^ (0 : ℤ)) :=
    .intro hsign (.whole hne hdigits) .absent
  rw [List.append_nil, zpow_zero, mul_one] at hbody
  have hvalue : ((Numeral.signed negative (Numeral.ofDigits digits) : Int) : ℚ) =
      if negative then -(Numeral.ofDigits digits : ℚ) else Numeral.ofDigits digits := by
    cases negative <;> simp [Numeral.signed]
  rw [hvalue]
  exact .intro htext hlead hbody htrail

/-- Blanks, digits of other scripts and separators do not matter to a plain literal. -/
theorem number?_eq {lead body trail : List Char} (htext : text.toList = lead ++ (body ++ trail))
    (hlead : ∀ c ∈ lead, Text.isBlank c = true)
    (hbody : ∀ c ∈ body, Decimal.isLiteralChar c = true)
    (htrail : ∀ c ∈ trail, Text.isBlank c = true) :
    number? text = (Decimal.read? body).bind Decimal.toBinary64? := by
  have htrim : Text.trim text.toList = body := by
    rw [htext]
    exact Text.trimBy_append hlead (fun c hc => (Decimal.isLiteralChar_spec (hbody c hc)).2.1)
      htrail
  have hascii : Text.asciiDigits body = body :=
    Text.asciiDigits_of_ascii fun c hc => (Decimal.isLiteralChar_spec (hbody c hc)).1
  have hplain : '_' ∉ body := fun hmem => (Decimal.isLiteralChar_spec (hbody _ hmem)).2.2 rfl
  rw [number?, htrim, hascii, Numeral.dropSeparators?_of_not_mem hplain]
  rfl

/-- The index of the number that a text denotes is the one nearest to its value, however large that
is. -/
theorem Denotes.exists_index (h : Denotes text value) :
    ∃ negative index, number? text = Binary64.ofIndex? negative index ∧
      Binary64.IsNearest index (|value| * Binary64.unitsPerOne) ∧
      (negative = true → value ≤ 0) ∧ (negative = false → 0 ≤ value) := by
  obtain @⟨lead, body, trail, negative, magnitude, htext, hlead, hbody, htrail⟩ := h
  obtain ⟨decimal, hread, rfl, rfl⟩ := Decimal.denotes_iff.mp hbody
  obtain ⟨index, hnearest, hnumber⟩ := decimal.exists_isNearest
  have hnonneg := decimal.magnitude_nonneg
  have habs : |if decimal.negative then -decimal.magnitude else decimal.magnitude| =
      decimal.magnitude :=
    Decimal.abs_withSign_magnitude decimal.negative decimal
  refine ⟨decimal.negative, index, ?_, ?_, fun hsign => ?_, fun hsign => ?_⟩
  · rw [number?_eq htext hlead hbody.isLiteralChar htrail, hread, Option.bind_some, hnumber]
  · rwa [habs]
  · rw [if_pos hsign]
    exact neg_nonpos_of_nonneg hnonneg
  · rwa [if_neg (by simp [hsign])]

/-- The number of a text is the one that its value is rounded to. -/
theorem Denotes.isRounded {x : Binary64} (h : Denotes text value) (hx : number? text = some x) :
    x.IsRounded value := by
  obtain ⟨negative, index, hnumber, hnearest, hnonpos, hnonneg⟩ := h.exists_index
  rw [hnumber, Binary64.ofIndex?] at hx
  obtain ⟨_, hsome⟩ := Option.dite_none_right_eq_some.mp hx
  obtain rfl := Option.some.inj hsome
  exact ⟨hnearest, hnonpos, hnonneg⟩

theorem Denotes.exists_number? (h : Denotes text value)
    (hle : |value| ≤ (2 * Binary64.binadeSize : Nat)) : ∃ x, number? text = some x := by
  obtain ⟨negative, index, hnumber, hnearest, -, -⟩ := h.exists_index
  exact ⟨_, hnumber.trans (dif_pos (hnearest.lt_indexLimit hle))⟩

/-! ### Written moments -/

/-- The seconds of the years 1 to 9999 are the ones from the first to the last second. -/
theorem year_mem_iff (seconds : Int) :
    (1 ≤ (DateTime.ofSeconds seconds).date.year ∧ (DateTime.ofSeconds seconds).date.year ≤ 9999) ↔
      firstSecond ≤ seconds ∧ seconds ≤ lastSecond := by
  have hfirst := (DateTime.isValid_ofSeconds seconds).le_year_iff 1
  have hnext := (DateTime.isValid_ofSeconds seconds).le_year_iff 10000
  rw [DateTime.toSeconds_ofSeconds] at hfirst hnext
  rw [show 86400 * (Date.daysBeforeYear 1 - 719162) = firstSecond from rfl] at hfirst
  rw [show 86400 * (Date.daysBeforeYear 10000 - 719162) = lastSecond + 1 from rfl] at hnext
  omega

theorem readMoment?_write_ofSeconds {seconds : Int} (h : firstSecond ≤ seconds)
    (h' : seconds ≤ lastSecond) :
    readMoment? (write (DateTime.ofSeconds seconds)) = some (DateTime.ofSeconds seconds) :=
  readMoment?_write _ (Int.le_trans (by decide) ((year_mem_iff seconds).2 ⟨h, h'⟩).1)

theorem seconds?_eq_some_iff {seconds : Int} :
    seconds? text = some seconds ↔
      (∃ x, number? text = some x ∧ wholeSeconds x = seconds) ∧
        firstSecond ≤ seconds ∧ seconds ≤ lastSecond := by
  rw [seconds?, Option.bind_eq_some_iff]
  constructor
  · rintro ⟨x, hx, hseconds⟩
    obtain ⟨hmem, heq⟩ := Option.ite_none_right_eq_some.mp hseconds
    obtain rfl := Option.some.inj heq
    exact ⟨⟨x, hx, rfl⟩, hmem⟩
  · rintro ⟨⟨x, hx, rfl⟩, hmem⟩
    exact ⟨x, hx, if_pos hmem⟩

/-- A text that denotes an integer gives that integer, unless it is out of range. -/
theorem Denotes.seconds?_integer {t : Int} (h : Denotes text t) :
    seconds? text = if firstSecond ≤ t ∧ t ≤ lastSecond then some t else none := by
  by_cases hsmall : t.natAbs ≤ 2 * Binary64.binadeSize
  · obtain ⟨x, hx⟩ := h.exists_number? (by
      rw [← Int.cast_abs, ← Nat.cast_natAbs]
      exact_mod_cast hsmall)
    rw [seconds?, hx, Option.bind_some, wholeSeconds_of_integer (h.isRounded hx) hsmall]
  · have hlarge : 2 * Binary64.binadeSize ≤ t.natAbs := (Nat.not_le.mp hsmall).le
    unfold Binary64.binadeSize at hlarge
    rw [if_neg (by unfold firstSecond lastSecond; omega), Option.eq_none_iff_forall_ne_some]
    intro seconds hseconds
    obtain ⟨⟨x, hx, rfl⟩, hlow, hhigh⟩ := seconds?_eq_some_iff.mp hseconds
    have hfar := le_natAbs_wholeSeconds (h.isRounded hx) (Nat.not_le.mp hsmall).le
    unfold Binary64.binadeSize at hfar
    unfold firstSecond at hlow
    unfold lastSecond at hhigh
    omega

/-- The moments of two texts are in the order of their values. -/
theorem Denotes.seconds?_mono {other : String} {value' : ℚ} {seconds seconds' : Int}
    (h : Denotes text value) (h' : Denotes other value') (hle : value ≤ value')
    (hseconds : seconds? text = some seconds) (hseconds' : seconds? other = some seconds') :
    seconds ≤ seconds' := by
  obtain ⟨⟨x, hx, rfl⟩, -⟩ := seconds?_eq_some_iff.mp hseconds
  obtain ⟨⟨y, hy, rfl⟩, -⟩ := seconds?_eq_some_iff.mp hseconds'
  exact wholeSeconds_mono ((h.isRounded hx).mono (h'.isRounded hy) hle)

/-! ### Fractions -/

section fractions

variable {digits fraction : List Char} {written : String}

/-- The value of digits behind a point. -/
def fractionValue (fraction : List Char) : ℚ :=
  Numeral.ofDigits fraction / 10 ^ fraction.length

theorem fractionValue_nonneg (fraction : List Char) : 0 ≤ fractionValue fraction := by
  unfold fractionValue
  positivity

theorem fractionValue_lt_one (hfraction : Numeral.IsDigits fraction) :
    fractionValue fraction < 1 := by
  rw [fractionValue, div_lt_one (by positivity)]
  exact_mod_cast Numeral.ofDigits_lt hfraction

theorem fractionValue_lt_of_length_le (hfraction : Numeral.IsDigits fraction)
    (hlength : fraction.length ≤ 4) : fractionValue fraction < 1 - 1 / 2 ^ 16 := by
  have hpos : (0 : ℚ) < 10 ^ fraction.length := by positivity
  have hdigits : (Numeral.ofDigits fraction : ℚ) + 1 ≤ 10 ^ fraction.length := by
    exact_mod_cast Nat.succ_le_of_lt (Numeral.ofDigits_lt hfraction)
  have hpow : (10 : ℚ) ^ fraction.length ≤ 10 ^ 4 := pow_le_pow_right₀ (by norm_num) hlength
  rw [fractionValue, div_lt_iff₀ hpos]
  linarith

theorem denotesInteger_ofList (hne : digits ≠ []) (hdigits : Numeral.IsDigits digits) :
    DenotesInteger (String.ofList digits) (Numeral.ofDigits digits) :=
  @DenotesInteger.intro _ [] [] digits [] false (by simp) (by simp) .absent hne hdigits (by simp)

theorem denotesInteger_repr (n : Nat) : DenotesInteger n.repr n := by
  have h := denotesInteger_ofList (Numeral.repr_ne_nil n) (Numeral.isDigits_repr n)
  rwa [String.ofList_toList, Numeral.ofDigits_repr] at h

theorem denotes_pointed (hne : digits ≠ []) (hdigits : Numeral.IsDigits digits)
    (hfraction : Numeral.IsDigits fraction) :
    Denotes (String.ofList (digits ++ '.' :: fraction))
      (Numeral.ofDigits digits + fractionValue fraction) := by
  have hbody : Decimal.Denotes ([] ++ ((digits ++ '.' :: fraction) ++ [])) false
      ((Numeral.ofDigits digits + fractionValue fraction) * 10 ^ (0 : ℤ)) :=
    .intro .absent (.pointed (fun h => hne h.1) hdigits hfraction) .absent
  rw [List.nil_append, List.append_nil, zpow_zero, mul_one] at hbody
  exact @Denotes.intro _ [] _ [] false _ (by simp) (by simp) hbody (by simp)

/-- A text gives the same as any other text of its whole seconds. -/
theorem format?_eq_of_wholeSeconds {x : Binary64} {other : String} {t : Int}
    (hx : number? text = some x) (hseconds : wholeSeconds x = t) (h : DenotesInteger other t) :
    format? text = format? other := by
  have htext : seconds? text = if firstSecond ≤ t ∧ t ≤ lastSecond then some t else none := by
    rw [seconds?, hx, Option.bind_some, hseconds]
  rw [format?, htext, format?, h.denotes.seconds?_integer]

/-- A part of a second is dropped or carried to the next second.  It is dropped if it is clearly
smaller than one, and it is carried if it is less than half a microsecond away from one. -/
theorem format?_pointed (hne : digits ≠ []) (hdigits : Numeral.IsDigits digits)
    (hfraction : Numeral.IsDigits fraction)
    (haccepted : format? (String.ofList digits) = some written) :
    let text := String.ofList (digits ++ '.' :: fraction)
    let next := (Numeral.ofDigits digits + 1).repr
    (format? text = some written ∨ format? text = format? next) ∧
      (fractionValue fraction < 1 - 1 / 2 ^ 16 → format? text = some written) ∧
      (1 - 1 / 2 ^ 21 ≤ fractionValue fraction → format? text = format? next) := by
  intro text next
  have hsame := denotesInteger_ofList hne hdigits
  have hnext := denotesInteger_repr (Numeral.ofDigits digits + 1)
  have hlast : Numeral.ofDigits digits < 2 ^ 38 := by
    obtain ⟨seconds, hseconds, -⟩ := Option.map_eq_some_iff.mp haccepted
    rw [hsame.denotes.seconds?_integer] at hseconds
    obtain ⟨⟨-, hle⟩, -⟩ := Option.ite_none_right_eq_some.mp hseconds
    unfold lastSecond at hle
    omega
  have htext : Denotes text (Numeral.ofDigits digits + fractionValue fraction) :=
    denotes_pointed hne hdigits hfraction
  have hpart := fractionValue_nonneg fraction
  have hpart' := fractionValue_lt_one hfraction
  have hsize : (Numeral.ofDigits digits : ℚ) ≤ 2 ^ 38 := by exact_mod_cast hlast.le
  obtain ⟨x, hx⟩ := htext.exists_number? (by
    rw [abs_of_nonneg (by positivity)]
    norm_num [Binary64.binadeSize]
    linarith)
  have hrounded := htext.isRounded hx
  rw [← haccepted]
  refine ⟨?_, fun hsmall => ?_, fun hlarge => ?_⟩
  · refine (wholeSeconds_between hlast hrounded hpart hpart').imp ?_ ?_
    · exact fun heq => format?_eq_of_wholeSeconds hx heq hsame
    · exact fun heq => format?_eq_of_wholeSeconds hx heq hnext
  · have heq := wholeSeconds_eq_of_lt hlast hrounded hpart hsmall
    exact format?_eq_of_wholeSeconds hx heq hsame
  · have heq := wholeSeconds_eq_of_le hlast hrounded hlarge hpart'
    exact format?_eq_of_wholeSeconds hx heq hnext

end fractions

end UnixTime
end TableExport
