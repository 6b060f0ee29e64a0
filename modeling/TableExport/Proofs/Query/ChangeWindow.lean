import TableExport.Proofs.Time.UnixTime
import TableExport.Query.Clauses

/-! # The change window

The moment written for a bound of the change window is read back (`UnixTime.readMoment?`) to state
what it is.

Main statements: for an integer it is the moment that lies this number of seconds after the epoch,
and outside the years 1 to 9999 there is none (`changeTime_integer`); a fraction is dropped or
carried to the next second (`changeTime_fraction`); the text has the form `YYYY-MM-DD HH:MM:SS`
exactly from the year 1000 on, since an earlier year is not filled up with zeros
(`changeTime_form`); and the moments of the two bounds are in the order of the values of their texts
(`changeWindow_ordered`). -/

namespace TableExport

variable {text written : String}

/-! ### Moments -/

theorem changeTime_eq_ok_iff :
    changeTime text = .ok written ↔ UnixTime.format? text = some written := by
  unfold changeTime
  split <;> simp_all

/-- A written moment lies in the calendar and is read back as the seconds that the text gives. -/
theorem exists_moment_of_changeTime (h : changeTime text = .ok written) :
    ∃ moment, UnixTime.readMoment? written = some moment ∧ moment.IsValid ∧
      UnixTime.seconds? text = some moment.toSeconds := by
  obtain ⟨seconds, hseconds, rfl⟩ := Option.map_eq_some_iff.mp (changeTime_eq_ok_iff.mp h)
  obtain ⟨-, hfirst, hlast⟩ := UnixTime.seconds?_eq_some_iff.mp hseconds
  refine ⟨DateTime.ofSeconds seconds, UnixTime.readMoment?_write_ofSeconds hfirst hlast,
    DateTime.isValid_ofSeconds seconds, ?_⟩
  rw [DateTime.toSeconds_ofSeconds, hseconds]

/-- The moment written for a whole number of seconds is the one that lies this number of seconds
after the epoch; outside the years 1 to 9999 there is none. -/
theorem changeTime_integer {t : Int} (h : UnixTime.DenotesInteger text t) :
    (-62135596800 ≤ t ∧ t ≤ 253402300799 →
        ∃ written moment, changeTime text = .ok written ∧
          UnixTime.readMoment? written = some moment ∧ moment.IsValid ∧ moment.toSeconds = t) ∧
      (¬ (-62135596800 ≤ t ∧ t ≤ 253402300799) →
        changeTime text = .error (.malformedLiteral text .unixTime (some changeTimeColumn))) := by
  have hseconds := h.denotes.seconds?_integer
  unfold UnixTime.firstSecond UnixTime.lastSecond at hseconds
  constructor
  · intro hrange
    rw [if_pos hrange] at hseconds
    have hwritten : changeTime text = .ok (UnixTime.write (DateTime.ofSeconds t)) := by
      rw [changeTime_eq_ok_iff, UnixTime.format?, hseconds]
      rfl
    obtain ⟨moment, hread, hvalid, hback⟩ := exists_moment_of_changeTime hwritten
    exact ⟨_, moment, hwritten, hread, hvalid, Option.some.inj (hback.symm.trans hseconds)⟩
  · intro hrange
    rw [if_neg hrange] at hseconds
    rw [changeTime, UnixTime.format?, hseconds]
    rfl

/-- The first second of year 1, with blanks, a sign and leading zeros. -/
theorem changeTime_integer_first :
    ∃ written moment, changeTime " -00062135596800\t" = .ok written ∧
      UnixTime.readMoment? written = some moment ∧ moment.IsValid ∧
      moment.toSeconds = -62135596800 := by
  have h : UnixTime.DenotesInteger " -00062135596800\t" (-62135596800) :=
    @UnixTime.DenotesInteger.intro _ [' '] ['-'] "00062135596800".toList ['\t'] true
      (by decide +kernel) (List.forall_mem_singleton.mpr (by decide)) .minus (by decide) (by decide)
      (List.forall_mem_singleton.mpr (by decide))
  exact (changeTime_integer h).1 (by decide)

/-- A fraction is dropped or carried to the next second.  It is dropped if it has up to four digits
or is clearly smaller than one, and it is carried if it is less than half a microsecond away from
one. -/
theorem changeTime_fraction {digits fraction : List Char} (hne : digits ≠ [])
    (hdigits : Numeral.IsDigits digits) (hfraction : Numeral.IsDigits fraction)
    (haccepted : changeTime (String.ofList digits) = .ok written) :
    let text := String.ofList (digits ++ '.' :: fraction)
    let next := (Numeral.ofDigits digits + 1).repr
    (changeTime text = .ok written ∨ UnixTime.format? text = UnixTime.format? next) ∧
      (fraction.length ≤ 4 → changeTime text = .ok written) ∧
      (UnixTime.fractionValue fraction < 1 - 1 / 2 ^ 16 → changeTime text = .ok written) ∧
      (1 - 1 / 2 ^ 21 ≤ UnixTime.fractionValue fraction →
        UnixTime.format? text = UnixTime.format? next) := by
  intro text next
  rw [changeTime_eq_ok_iff] at haccepted
  simp only [changeTime_eq_ok_iff]
  obtain ⟨heither, hdropped, hcarried⟩ :=
    UnixTime.format?_pointed hne hdigits hfraction haccepted
  exact ⟨heither,
    fun hlength => hdropped (UnixTime.fractionValue_lt_of_length_le hfraction hlength),
    hdropped, hcarried⟩

/-- Nine tenths of a second are dropped. -/
theorem changeTime_fraction_tenths : changeTime "1600000000.9" = .ok "2020-09-13 12:26:40" :=
  (@changeTime_fraction "2020-09-13 12:26:40" "1600000000".toList ['9'] (by decide) (by decide)
    (by decide) (by decide +kernel)).2.1 (by decide)

/-- A tenth of a microsecond below the second is carried. -/
theorem changeTime_carried :
    changeTime "1600000000" = .ok "2020-09-13 12:26:40" ∧
      changeTime "1600000000.9999999" = .ok "2020-09-13 12:26:41" := by
  constructor <;> decide +kernel

/-! ### The written form -/

/-- A written moment has two digits in every field but the year, which has as many as it needs.  It
has the form with four digits for the year exactly from the first second of the year 1000 on. -/
theorem changeTime_form (h : changeTime text = .ok written) :
    ∃ moment width, UnixTime.readMoment? written = some moment ∧ moment.IsValid ∧
      UnixTime.seconds? text = some moment.toSeconds ∧
      UnixTime.HasForm width written ∧ written.length = width + 15 ∧ width ≤ 4 ∧
      (10 : Int) ^ (width - 1) ≤ moment.date.year ∧ moment.date.year < (10 : Int) ^ width ∧
      (UnixTime.HasForm 4 written ↔ -30610224000 ≤ moment.toSeconds) := by
  obtain ⟨seconds, hseconds, rfl⟩ := Option.map_eq_some_iff.mp (changeTime_eq_ok_iff.mp h)
  obtain ⟨-, hfirst, hlast⟩ := UnixTime.seconds?_eq_some_iff.mp hseconds
  have hvalid := DateTime.isValid_ofSeconds seconds
  have hread := UnixTime.readMoment?_write_ofSeconds hfirst hlast
  have hback := DateTime.toSeconds_ofSeconds seconds
  obtain ⟨hlow, hhigh⟩ := (UnixTime.year_mem_iff seconds).mpr ⟨hfirst, hlast⟩
  have hthousand := hvalid.le_year_iff 1000
  rw [hback, show 86400 * (Date.daysBeforeYear 1000 - 719162) = -30610224000 from rfl] at hthousand
  generalize DateTime.ofSeconds seconds = moment at *
  obtain ⟨year, hyear⟩ := Int.eq_ofNat_of_zero_le (Int.le_trans (by decide) hlow)
  have hform := UnixTime.hasForm_write hvalid hyear
  obtain ⟨hbottom, htop⟩ := Numeral.length_toDigits_bounds (n := year) (by omega)
  have hthree : (Nat.toDigits 10 year).length ≤ 3 ↔ year < 10 ^ 3 :=
    Nat.length_toDigits_le_iff (by decide) (by decide)
  have hfour : (Nat.toDigits 10 year).length ≤ 4 ↔ year < 10 ^ 4 :=
    Nat.length_toDigits_le_iff (by decide) (by decide)
  refine ⟨moment, _, hread, hvalid, hback ▸ hseconds, hform, hform.length_eq, by omega, ?_, ?_, ?_⟩
  · rw [hyear]
    exact_mod_cast hbottom
  · rw [hyear]
    exact_mod_cast htop
  · rw [hback, ← hthousand]
    constructor
    · intro hdocumented
      have hwidth := hform.yearWidth_unique hdocumented
      omega
    · intro hle
      have hwidth : (Nat.toDigits 10 year).length = 4 := by omega
      rwa [hwidth] at hform

/-- The first second of the year 1000 has the form with four digits. -/
theorem changeTime_form_millennium :
    changeTime "-30610224000" = .ok "1000-01-01 00:00:00" ∧
      UnixTime.HasForm 4 "1000-01-01 00:00:00" := by
  have hwritten : changeTime "-30610224000" = .ok "1000-01-01 00:00:00" := by decide +kernel
  refine ⟨hwritten, ?_⟩
  obtain ⟨moment, width, hread, -, -, -, -, -, -, -, hiff⟩ := changeTime_form hwritten
  obtain rfl : moment = ⟨⟨1000, 1, 1⟩, 0, 0, 0⟩ := by
    have hmoment : UnixTime.readMoment? "1000-01-01 00:00:00" = some ⟨⟨1000, 1, 1⟩, 0, 0, 0⟩ := by
      decide +kernel
    exact Option.some.inj (hread.symm.trans hmoment)
  exact hiff.mpr (by decide)

/-- The first second of year 1 is written with one digit for the year. -/
theorem changeTime_unpadded :
    changeTime "-62135596800" = .ok "1-01-01 00:00:00" ∧
      ¬ UnixTime.HasForm 4 "1-01-01 00:00:00" ∧ "1-01-01 00:00:00".length ≠ 19 := by
  refine ⟨by decide +kernel, fun hform => ?_, by decide⟩
  exact absurd hform.length_eq (by decide)

/-! ### The window -/

theorem changeBoundPart_of_changeTime {name : String} {operator : Operator}
    (h : changeTime text = .ok written) :
    changeBoundPart name operator text =
      .ok [.requireNamed name (.reference [changeTimeColumn]) (.compares operator) .timestamp
        (.scalar (.text written))] := by
  have hempty : text ≠ "" := by
    rintro rfl
    have hnone : (changeTime "").isOk = false := by decide +kernel
    rw [h] at hnone
    cases hnone
  rw [changeBoundPart, if_neg hempty, h]
  rfl

/-- The bounds of a change window are bound in the order of the values that the texts denote. -/
theorem changeWindow_ordered {changedSince changedUntil lower upper : String} {first second : ℚ}
    (hsince : UnixTime.Denotes changedSince first) (huntil : UnixTime.Denotes changedUntil second)
    (hle : first ≤ second) (hlower : changeTime changedSince = .ok lower)
    (hupper : changeTime changedUntil = .ok upper) :
    changeWindowParts changedSince changedUntil =
        [.ok [.requireNamed "changedSince" (.reference [changeTimeColumn]) (.compares .ge)
            .timestamp (.scalar (.text lower))],
          .ok [.requireNamed "changedUntil" (.reference [changeTimeColumn]) (.compares .lt)
            .timestamp (.scalar (.text upper))]] ∧
      ∃ start stop, UnixTime.readMoment? lower = some start ∧
        UnixTime.readMoment? upper = some stop ∧ start.toSeconds ≤ stop.toSeconds := by
  constructor
  · rw [changeWindowParts, changeBoundPart_of_changeTime hlower,
      changeBoundPart_of_changeTime hupper]
  · obtain ⟨start, hstart, -, hseconds⟩ := exists_moment_of_changeTime hlower
    obtain ⟨stop, hstop, -, hseconds'⟩ := exists_moment_of_changeTime hupper
    exact ⟨start, stop, hstart, hstop, hsince.seconds?_mono huntil hle hseconds hseconds'⟩

/-- A window around the epoch. -/
theorem changeWindow_ordered_epoch :
    ∃ start stop, UnixTime.readMoment? "1969-12-31 23:35:00" = some start ∧
      UnixTime.readMoment? "1970-01-01 00:26:40" = some stop ∧
      start.toSeconds ≤ stop.toSeconds := by
  have hsince : UnixTime.Denotes " -1.5e3" (-1500) := by
    have hbody : Decimal.Denotes (['-'] ++ ((['1'] ++ '.' :: ['5']) ++ 'e' :: ([] ++ ['3']))) true
        ((1 + 5 / 10 ^ 1) * 10 ^ (3 : ℤ)) :=
      .intro .minus (.pointed (by decide) (by decide) (by decide))
        (.present (.inl rfl) .absent (by decide) (by decide))
    have h := @UnixTime.Denotes.intro " -1.5e3" [' '] _ [] true _ (by decide)
      (List.forall_mem_singleton.mpr (by decide)) hbody (by simp)
    norm_num at h
    exact h
  have huntil : UnixTime.Denotes "1600" ((1600 : Nat) : Int) :=
    (UnixTime.denotesInteger_repr 1600).denotes
  exact (changeWindow_ordered hsince huntil (by norm_num) (by decide +kernel)
    (by decide +kernel)).2

end TableExport
