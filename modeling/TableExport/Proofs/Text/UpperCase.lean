import TableExport.Bindings
import TableExport.Text.UpperCase

/-! # Upper case twice

Upper-case forms are final: no character of one has another upper-case form.  The characters that
change are a list of runs (`changing`), and so are the characters of upper-case forms
(`capitals`).  Two runs have no character in common if one ends before the other begins, or if both
step over every second character and start at numbers of different parity
(`CaseShift.isApart`); this settles every pair of them.

Main statement: writing a text in upper case twice is writing it once (`upper_upper`). -/

namespace TableExport.Text

/-! ### Runs -/

namespace CaseShift

/-- A run of one character. -/
def single (n : Nat) : CaseShift := ⟨n, n, 1, 0⟩

/-- The upper-case forms of the characters of a run. -/
def image (run : CaseShift) : CaseShift :=
  ⟨(run.first + run.offset).toNat, (run.last + run.offset).toNat, run.step, 0⟩

/-- All characters of a run have numbers of one parity. -/
def isSparse (run : CaseShift) : Bool :=
  run.step == 2 || run.first == run.last

/-- A test for runs without a common character. -/
def isApart (run other : CaseShift) : Bool :=
  Nat.blt run.last other.first || Nat.blt other.last run.first ||
    (run.isSparse && other.isSparse && run.first % 2 != other.first % 2)

variable {run other : CaseShift} {n : Nat}

theorem covers_iff :
    run.covers n = true ↔ run.first ≤ n ∧ n ≤ run.last ∧ (n - run.first) % run.step = 0 := by
  simp [covers, and_assoc]

theorem covers_single (n : Nat) : (single n).covers n = true :=
  covers_iff.mpr ⟨Nat.le_refl n, Nat.le_refl n, Nat.mod_one _⟩

theorem covers_image (hnonneg : 0 ≤ run.first + run.offset) (h : run.covers n = true) :
    run.image.covers (n + run.offset).toNat = true := by
  obtain ⟨hfirst, hlast, hstep⟩ := covers_iff.mp h
  have hplace : (n + run.offset).toNat - (run.first + run.offset).toNat = n - run.first := by omega
  refine covers_iff.mpr ⟨?_, ?_, ?_⟩
  · show (run.first + run.offset).toNat ≤ _
    omega
  · show _ ≤ (run.last + run.offset).toNat
    omega
  · show ((n + run.offset).toNat - (run.first + run.offset).toNat) % run.step = 0
    rw [hplace, hstep]

theorem parity_eq (hsparse : run.isSparse = true) (h : run.covers n = true) :
    n % 2 = run.first % 2 := by
  obtain ⟨hfirst, hlast, hstep⟩ := covers_iff.mp h
  simp only [isSparse, Bool.or_eq_true, beq_iff_eq] at hsparse
  rcases hsparse with htwo | hone
  · rw [htwo] at hstep
    omega
  · omega

theorem not_covers_of_isApart (hapart : run.isApart other = true) (h : run.covers n = true) :
    other.covers n = false := by
  rw [← Bool.not_eq_true]
  intro h'
  obtain ⟨hfirst, hlast, -⟩ := covers_iff.mp h
  obtain ⟨hfirst', hlast', -⟩ := covers_iff.mp h'
  simp only [isApart, Bool.or_eq_true, Bool.and_eq_true, Nat.blt_eq, bne_iff_ne] at hapart
  rcases hapart with (hbefore | hbehind) | ⟨⟨hsparse, hsparse'⟩, hparity⟩
  · omega
  · omega
  · exact hparity ((parity_eq hsparse h).symm.trans (parity_eq hsparse' h'))

end CaseShift

/-! ### Characters that change and characters that stay -/

/-- The characters that have another upper-case form. -/
def changing : List CaseShift :=
  shifts ++ expansions.map fun entry => .single entry.1

/-- The characters of upper-case forms of other characters. -/
def capitals : List CaseShift :=
  shifts.map .image ++ expansions.flatMap fun entry => entry.2.map .single

theorem isApart_capitals :
    ∀ run ∈ capitals, ∀ other ∈ changing, run.isApart other = true := by
  have h : (capitals.all fun run => changing.all run.isApart) = true := by decide +kernel
  simpa only [List.all_eq_true] using h

theorem first_add_offset_nonneg : ∀ run ∈ shifts, 0 ≤ run.first + run.offset := by
  decide +kernel

/-- A character that no run of changing ones covers stays. -/
theorem upperChar_of_forall {c : Char} (h : ∀ run ∈ changing, run.covers c.toNat = false) :
    upperChar c = [c] := by
  have hshift : shifts.find? (·.covers c.toNat) = none := by
    rw [List.find?_eq_none]
    intro run hrun
    rw [h run (List.mem_append_left _ hrun)]
    decide
  have hexpansion : expansions.lookup c.toNat = none := by
    rw [List.lookup_eq_none_iff]
    intro entry hentry
    have hapart := h (.single entry.1) (List.mem_append_right _ (List.mem_map_of_mem hentry))
    rw [bne_iff_ne]
    intro hkey
    rw [← hkey, CaseShift.covers_single] at hapart
    cases hapart
  simp only [upperChar, hshift, hexpansion]

/-- An invalid number stands for the character of number zero. -/
theorem toNat_ofNat_or (n : Nat) : (Char.ofNat n).toNat = n ∨ Char.ofNat n = '\x00' := by
  by_cases hvalid : n.isValidChar
  · left
    rw [Char.ofNat, dif_pos hvalid]
    rfl
  · right
    rw [Char.ofNat, dif_neg hvalid]
    rfl

/-- What a number among the capitals, or an invalid one, stands for stays. -/
theorem upperChar_ofNat {run : CaseShift} {n : Nat} (hrun : run ∈ capitals)
    (h : run.covers n = true) : upperChar (Char.ofNat n) = [Char.ofNat n] := by
  rcases toNat_ofNat_or n with hnumber | hzero
  · apply upperChar_of_forall
    intro other hother
    rw [hnumber]
    exact CaseShift.not_covers_of_isApart (isApart_capitals run hrun other hother) h
  · rw [hzero]
    exact upperChar_ascii '\x00' (by decide)

/-- A character of an upper-case form is the character itself, which then stays, or a capital. -/
theorem mem_upperChar {c d : Char} (h : d ∈ upperChar c) :
    (upperChar c = [c] ∧ d = c) ∨
      ∃ run ∈ capitals, ∃ n, run.covers n = true ∧ d = Char.ofNat n := by
  unfold upperChar at h
  split at h
  · next run hfind =>
    have hrun := List.mem_of_find?_eq_some hfind
    have hcovers : run.covers c.toNat = true :=
      List.find?_some (p := fun run : CaseShift => run.covers c.toNat) hfind
    exact .inr ⟨run.image, List.mem_append_left _ (List.mem_map_of_mem hrun), _,
      CaseShift.covers_image (first_add_offset_nonneg run hrun) hcovers, List.mem_singleton.mp h⟩
  · next hshift =>
    split at h
    · next image hlookup =>
      obtain ⟨n, hn, rfl⟩ := List.mem_map.mp h
      have hentry : (c.toNat, image) ∈ expansions := Entries.mem_of_lookup hlookup
      have hcapital : CaseShift.single n ∈ capitals :=
        List.mem_append_right _ (List.mem_flatMap.mpr ⟨_, hentry, List.mem_map_of_mem hn⟩)
      exact .inr ⟨_, hcapital, n, CaseShift.covers_single n, rfl⟩
    · next hexpansion =>
      refine .inl ⟨?_, List.mem_singleton.mp h⟩
      simp only [upperChar, hshift, hexpansion]

/-- No character of an upper-case form changes. -/
theorem upperChar_of_mem_upperChar {c d : Char} (h : d ∈ upperChar c) : upperChar d = [d] := by
  rcases mem_upperChar h with ⟨hstays, rfl⟩ | ⟨run, hrun, n, hcovers, rfl⟩
  · exact hstays
  · exact upperChar_ofNat hrun hcovers

/-! ### Texts -/

theorem upperChar_of_mem_upper {cs : List Char} {d : Char} (h : d ∈ upper cs) :
    upperChar d = [d] := by
  obtain ⟨c, -, hd⟩ := List.mem_flatMap.mp h
  exact upperChar_of_mem_upperChar hd

/-- A text of characters that stay is its own upper-case form. -/
theorem upper_of_forall {cs : List Char} (h : ∀ c ∈ cs, upperChar c = [c]) : upper cs = cs := by
  induction cs with
  | nil => rfl
  | cons c rest ih =>
      rw [upper_cons, h c List.mem_cons_self, ih fun d hd => h d (List.mem_cons_of_mem c hd)]
      rfl

/-- Upper case is reached at once. -/
theorem upper_upper (cs : List Char) : upper (upper cs) = upper cs :=
  upper_of_forall fun _ h => upperChar_of_mem_upper h

end TableExport.Text
