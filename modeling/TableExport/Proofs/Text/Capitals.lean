import Mathlib.Data.List.Basic
import Mathlib.Data.List.TakeWhile
import TableExport.Proofs.Text.UpperCase
import TableExport.Text.Blank

/-! # Cutting texts in capitals

White space and opening brackets are steady: upper case neither changes them nor makes them of other
characters (`steady`).  So it makes no difference whether a text is trimmed, or cut at a bracket,
before or after it is written in capitals (`trim_upper`, `keeps_upperChar`).  This is shown for any
map of characters to texts that keeps the property by which the text is cut (`Keeps`).

Texts that differ in the case of ASCII letters have the same capitals (`upper_eq_of_toUpper`). -/

namespace TableExport.Text

/-! ### Maps that keep a property of characters -/

/-- The texts of characters are not empty, and all of their characters have the property exactly if
the character has it. -/
structure Keeps (f : Char → List Char) (p : Char → Bool) : Prop where
  ne_nil : ∀ c, f c ≠ []
  same : ∀ c, ∀ d ∈ f c, p d = p c

namespace Keeps

variable {f : Char → List Char} {p : Char → Bool}

theorem not (h : Keeps f p) : Keeps f fun c => !p c where
  ne_nil := h.ne_nil
  same c d hd := by rw [h.same c d hd]

theorem reverse (h : Keeps f p) : Keeps (fun c => (f c).reverse) p where
  ne_nil c := by rw [ne_eq, List.reverse_eq_nil_iff]; exact h.ne_nil c
  same c d hd := h.same c d (List.mem_reverse.mp hd)

theorem takeWhile (h : Keeps f p) (cs : List Char) :
    (cs.flatMap f).takeWhile p = (cs.takeWhile p).flatMap f := by
  induction cs with
  | nil => rfl
  | cons c rest ih =>
      rw [List.flatMap_cons, List.takeWhile_cons]
      by_cases hc : p c = true
      · rw [List.takeWhile_append_of_pos fun d hd => (h.same c d hd).trans hc, ih, if_pos hc,
          List.flatMap_cons]
      · obtain ⟨d, ds, hd⟩ := List.exists_cons_of_ne_nil (h.ne_nil c)
        have hfirst : ¬ p d = true := by
          rw [h.same c d (hd ▸ List.mem_cons_self)]
          exact hc
        rw [hd, List.cons_append, List.takeWhile_cons_of_neg hfirst, if_neg hc, List.flatMap_nil]

theorem dropWhile (h : Keeps f p) (cs : List Char) :
    (cs.flatMap f).dropWhile p = (cs.dropWhile p).flatMap f := by
  induction cs with
  | nil => rfl
  | cons c rest ih =>
      rw [List.flatMap_cons, List.dropWhile_cons]
      by_cases hc : p c = true
      · rw [List.dropWhile_append_of_pos fun d hd => (h.same c d hd).trans hc, ih, if_pos hc]
      · obtain ⟨d, ds, hd⟩ := List.exists_cons_of_ne_nil (h.ne_nil c)
        have hfirst : ¬ p d = true := by
          rw [h.same c d (hd ▸ List.mem_cons_self)]
          exact hc
        rw [hd, List.cons_append, List.dropWhile_cons_of_neg hfirst, if_neg hc, List.flatMap_cons,
          hd, List.cons_append]

theorem dropTrailing (h : Keeps f p) (cs : List Char) :
    dropTrailing p (cs.flatMap f) = (Text.dropTrailing p cs).flatMap f := by
  rw [Text.dropTrailing, List.reverse_flatMap]
  refine (congrArg List.reverse (h.reverse.dropWhile cs.reverse)).trans ?_
  rw [List.reverse_flatMap, Text.dropTrailing]
  simp only [Function.comp_def, List.reverse_reverse]

theorem trimBy (h : Keeps f p) (cs : List Char) :
    trimBy p (cs.flatMap f) = (Text.trimBy p cs).flatMap f := by
  rw [Text.trimBy, h.dropWhile, h.dropTrailing, Text.trimBy]

end Keeps

/-! ### Trimming and cutting -/

/-- White space around a text does not matter for what is left by trimming. -/
theorem trimBy_surrounded {p : Char → Bool} {lead trail : List Char}
    (hlead : ∀ c ∈ lead, p c = true) (body : List Char) (htrail : ∀ c ∈ trail, p c = true) :
    trimBy p (lead ++ (body ++ trail)) = trimBy p body := by
  rw [trimBy, trimBy, List.dropWhile_append_of_pos hlead, List.dropWhile_append]
  split
  · next hempty =>
      rw [List.dropWhile_eq_nil_iff.mpr htrail, List.isEmpty_iff.mp hempty]
  · exact dropTrailing_append p _ htrail

/-- A text may be trimmed before it is cut, if it is not cut at white space. -/
theorem trimBy_takeWhile_trimBy {p q : Char → Bool} (hq : ∀ c, p c = true → q c = true)
    (cs : List Char) : trimBy p ((trimBy p cs).takeWhile q) = trimBy p (cs.takeWhile q) := by
  obtain ⟨lead, trail, hsplit, hlead, htrail⟩ := exists_eq_append_trimBy p cs
  generalize trimBy p cs = body at hsplit
  rw [hsplit, List.takeWhile_append_of_pos fun c hc => hq c (hlead c hc)]
  by_cases hwhole : ∀ c ∈ body, q c = true
  · rw [List.takeWhile_append_of_pos hwhole,
      List.takeWhile_eq_self_iff.mpr fun c hc => hq c (htrail c hc),
      trimBy_surrounded hlead body htrail, List.takeWhile_eq_self_iff.mpr hwhole]
  · have hcut : (body ++ trail).takeWhile q = body.takeWhile q := by
      rw [List.takeWhile_append, if_neg]
      exact fun hlength => hwhole fun c hc => List.takeWhile_eq_self_iff.mp
        ((List.takeWhile_prefix q).eq_of_length hlength) c hc
    have hlone := trimBy_surrounded hlead (body.takeWhile q) (List.forall_mem_nil _)
    rw [List.append_nil] at hlone
    rw [hcut, hlone]

/-! ### Upper case -/

/-- White space and the opening brackets of types. -/
def steady : List CaseShift :=
  [⟨0x09, 0x0D, 1, 0⟩, ⟨0x1C, 0x20, 1, 0⟩, .single 0x28, .single 0x3C, .single 0x85, .single 0xA0,
    .single 0x1680, ⟨0x2000, 0x200A, 1, 0⟩, ⟨0x2028, 0x2029, 1, 0⟩, .single 0x202F, .single 0x205F,
    .single 0x3000]

/-- The character is white space or an opening bracket. -/
def isSteady (c : Char) : Bool :=
  steady.any (·.covers c.toNat)

theorem isApart_steady :
    ∀ run ∈ steady, ∀ other ∈ changing ++ capitals, run.isApart other = true := by
  have h : (steady.all fun run => (changing ++ capitals).all run.isApart) = true := by
    decide +kernel
  simpa only [List.all_eq_true] using h

theorem upperChar_of_isSteady {c : Char} (h : isSteady c = true) : upperChar c = [c] := by
  obtain ⟨run, hrun, hcovers⟩ := List.any_eq_true.mp h
  apply upperChar_of_forall
  intro other hother
  have hapart := isApart_steady run hrun other (List.mem_append_left _ hother)
  exact CaseShift.not_covers_of_isApart hapart hcovers

/-- No capital is steady. -/
theorem isSteady_ofNat {run : CaseShift} {n : Nat} (hrun : run ∈ capitals)
    (h : run.covers n = true) : isSteady (Char.ofNat n) = false := by
  rcases toNat_ofNat_or n with hnumber | hzero
  · rw [← Bool.not_eq_true, isSteady, hnumber]
    intro hsteady
    obtain ⟨other, hother, hcovers⟩ := List.any_eq_true.mp hsteady
    have hapart := isApart_steady other hother run (List.mem_append_right _ hrun)
    rw [CaseShift.not_covers_of_isApart hapart hcovers] at h
    exact Bool.false_ne_true h
  · rw [hzero]
    decide

theorem upperChar_ne_nil (c : Char) : upperChar c ≠ [] := by
  have himages : ∀ entry ∈ expansions, entry.2 ≠ [] := by decide +kernel
  unfold upperChar
  split
  · exact List.cons_ne_nil _ _
  · split
    · next image hlookup =>
      rw [ne_eq, List.map_eq_nil_iff]
      exact himages _ (Entries.mem_of_lookup hlookup)
    · exact List.cons_ne_nil _ _

/-- Upper case keeps every property that only steady characters have. -/
theorem keeps_upperChar {p : Char → Bool} (hp : ∀ c, p c = true → isSteady c = true) :
    Keeps upperChar p where
  ne_nil := upperChar_ne_nil
  same c d hd := by
    rcases mem_upperChar hd with ⟨-, rfl⟩ | ⟨run, hrun, n, hcovers, rfl⟩
    · rfl
    · cases hc : p c with
      | true =>
          rw [upperChar_of_isSteady (hp c hc)] at hd
          rw [List.mem_singleton.mp hd, hc]
      | false =>
          rw [← Bool.not_eq_true]
          intro hcapital
          have hsteady := hp _ hcapital
          rw [isSteady_ofNat hrun hcovers] at hsteady
          exact Bool.false_ne_true hsteady

theorem isSteady_of_isBlank {c : Char} (h : isBlank c = true) : isSteady c = true := by
  simp only [isBlank, isSpace, Bool.or_eq_true, Bool.and_eq_true, decide_eq_true_eq,
    beq_iff_eq] at h
  simp only [isSteady, steady, List.any_cons, List.any_nil, CaseShift.single, Bool.or_eq_true,
    CaseShift.covers_iff, Nat.mod_one, and_true, Bool.false_eq_true, or_false]
  omega

/-- A text may be trimmed before it is written in capitals. -/
theorem trim_upper (cs : List Char) : trim (upper cs) = upper (trim cs) :=
  (keeps_upperChar fun _ => isSteady_of_isBlank).trimBy cs

/-! ### Letter case -/

theorem upperChar_toUpper (c : Char) : upperChar c.toUpper = upperChar c := by
  by_cases hc : c.toNat < 128
  · have hupper := upperChar_ascii c hc
    have hmem : c.toUpper ∈ upperChar c := by
      rw [hupper]
      exact List.mem_singleton_self _
    rw [upperChar_of_mem_upperChar hmem, hupper]
  · have hletter : ¬ ('a'.val ≤ c.val ∧ c.val ≤ 'z'.val) := fun h =>
      hc (Nat.lt_of_le_of_lt (UInt32.le_iff_toNat_le.mp h.2) (by decide))
    have hstays : c.toUpper = c := dif_neg hletter
    rw [hstays]

theorem upper_map_toUpper (cs : List Char) : upper (cs.map Char.toUpper) = upper cs := by
  rw [upper, List.flatMap_map]
  exact List.flatMap_congr fun c _ => upperChar_toUpper c

/-- Texts that differ in the case of ASCII letters only have the same capitals. -/
theorem upper_eq_of_toUpper {cs ds : List Char} (h : cs.map Char.toUpper = ds.map Char.toUpper) :
    upper cs = upper ds := by
  rw [← upper_map_toUpper cs, h, upper_map_toUpper]

end TableExport.Text
