import Mathlib.Data.List.Induction
import Mathlib.Data.List.Nodup
import Mathlib.Order.Nat
import TableExport.Proofs.Query.FlagName
import TableExport.Proofs.Query.Progress

/-! # Names drawn from an endless source

A source yields suffixes without end, of any lengths and with any repetitions.  `Drawn` says what
calls for names, one after the other, return and how many suffixes they take: each call takes
suffixes up to the first one that makes a name not returned before.  On a first part of the source
the model draws these very names if that part is long enough, and none otherwise
(`names?_eq_some_iff`).

A call need not end: a source may repeat itself forever.  But a name returned before can be met
under one suffix only, so that among more different suffixes than there were calls one makes a new
name (`Drawn.exists_call`).

Main statement: `names?_source`. -/

namespace TableExport.FlagName

/-- The calls for columns, one after the other, return the names and take the first suffixes of the
source, so many as the last argument says. -/
inductive Drawn (source : Nat → String) : List String → List String → Nat → Prop
  | start : Drawn source [] [] 0
  | call {columns names : List String} {column : String} {taken place : Nat}
      (earlier : Drawn source columns names taken) (remaining : taken ≤ place)
      (skipped : ∀ other, taken ≤ other → other < place → column ++ source other ∈ names)
      (new : column ++ source place ∉ names) :
      Drawn source (columns ++ [column]) (names ++ [column ++ source place]) (place + 1)

variable {source : Nat → String} {columns names : List String} {column name : String}
  {taken count : Nat}

/-! ### A single call -/

/-- A draw from the suffixes between two places takes those up to the first that makes a new name;
by induction on the number of suffixes. -/
theorem draw?_drop_eq_some_iff (issued : List String) (column : String) (taken : Nat)
    (rest : List String) :
    draw? issued column ((firstSuffixes source count).drop taken) = some (name, rest) ↔
      ∃ place, taken ≤ place ∧ place < count ∧
        (∀ other, taken ≤ other → other < place → column ++ source other ∈ issued) ∧
        column ++ source place ∉ issued ∧ name = column ++ source place ∧
        rest = (firstSuffixes source count).drop (place + 1) := by
  have hlength : (firstSuffixes source count).length = count := by
    rw [firstSuffixes, List.length_map, List.length_range]
  generalize hleft : count - taken = left
  induction left generalizing taken with
  | zero =>
      rw [List.drop_eq_nil_of_le (by omega)]
      constructor
      · nofun
      · rintro ⟨place, hle, hlt, -⟩
        omega
  | succ left ih =>
      have htaken : taken < (firstSuffixes source count).length := by omega
      have hfirst : (firstSuffixes source count)[taken] = source taken := by
        simp [firstSuffixes]
      rw [List.drop_eq_getElem_cons htaken, hfirst, draw?]
      by_cases hissued : column ++ source taken ∈ issued
      · rw [if_pos hissued]
        refine (ih (taken + 1) (by omega)).trans ⟨?_, ?_⟩
        · rintro ⟨place, hle, hlt, hskipped, hnew⟩
          refine ⟨place, by omega, hlt, fun other hother hbefore => ?_, hnew⟩
          rcases Nat.eq_or_lt_of_le hother with rfl | hlater
          · exact hissued
          · exact hskipped other hlater hbefore
        · rintro ⟨place, hle, hlt, hskipped, hnew, hname⟩
          have hne : taken ≠ place := fun e => hnew (e ▸ hissued)
          exact ⟨place, by omega, hlt, fun other hother => hskipped other (by omega), hnew, hname⟩
      · rw [if_neg hissued]
        constructor
        · intro h
          obtain ⟨rfl, rfl⟩ := Prod.mk.inj (Option.some.inj h)
          exact ⟨taken, Nat.le_refl _, by omega, fun other _ _ => by omega, hissued, rfl, rfl⟩
        · rintro ⟨place, hle, -, hskipped, -, rfl, rfl⟩
          rcases Nat.eq_or_lt_of_le hle with rfl | hlater
          · rfl
          · exact absurd (hskipped taken (Nat.le_refl _) hlater) hissued

/-! ### Calls one after the other -/

/-- The last of several calls comes after the others. -/
theorem Supply.names?_concat (supply : Supply) (columns : List String) (column : String) :
    supply.names? (columns ++ [column]) =
      (supply.names? columns).bind fun (names, reached) =>
        (reached.next? column).map fun (name, last) => (names ++ [name], last) := by
  induction columns generalizing supply with
  | nil =>
      cases hnext : supply.next? column <;> simp [names?, hnext]
  | cons first columns ih =>
      rw [List.cons_append, names?, names?]
      cases supply.next? first with
      | none => rfl
      | some drawn =>
          obtain ⟨name, next⟩ := drawn
          dsimp only
          rw [ih]
          cases next.names? columns with
          | none => rfl
          | some earlier =>
              obtain ⟨names, reached⟩ := earlier
              dsimp only [Option.bind_some, Option.map_some]
              cases reached.next? column <;> rfl

/-- On a first part of the source the names are drawn that the calls return, if they take no more
than that part; by induction on the calls. -/
theorem names?_eq_some_iff (left : Supply) :
    Supply.names? ⟨[], firstSuffixes source count⟩ columns = some (names, left) ↔
      ∃ taken, taken ≤ count ∧ Drawn source columns names taken ∧
        left = ⟨names.reverse, (firstSuffixes source count).drop taken⟩ := by
  induction columns using List.reverseRecOn generalizing names left with
  | nil =>
      constructor
      · intro h
        obtain ⟨rfl, rfl⟩ := Prod.mk.inj (Option.some.inj h)
        exact ⟨0, Nat.zero_le _, .start, rfl⟩
      · rintro ⟨taken, -, hdrawn, rfl⟩
        generalize hnone : ([] : List String) = columns at hdrawn
        cases hdrawn with
        | start => rfl
        | call => simp at hnone
  | append_singleton columns column ih =>
      rw [Supply.names?_concat]
      constructor
      · intro h
        obtain ⟨⟨earlier, reached⟩, hearlier, hcall⟩ := Option.bind_eq_some_iff.mp h
        obtain ⟨⟨name, last⟩, hnext, heq⟩ := Option.map_eq_some_iff.mp hcall
        obtain ⟨rfl, rfl⟩ := Prod.mk.inj heq
        obtain ⟨taken, -, hdrawn, rfl⟩ := (ih _).mp hearlier
        obtain ⟨⟨_, rest⟩, hdraw, heq⟩ := Option.map_eq_some_iff.mp hnext
        obtain ⟨rfl, rfl⟩ := Prod.mk.inj heq
        obtain ⟨place, hle, hlt, hskipped, hnew, rfl, rfl⟩ :=
          (draw?_drop_eq_some_iff _ _ _ _).mp hdraw
        simp only [List.mem_reverse] at hskipped hnew
        exact ⟨place + 1, hlt, .call hdrawn hle hskipped hnew, by simp⟩
      · rintro ⟨taken, htaken, hdrawn, rfl⟩
        generalize hcolumns : columns ++ [column] = all at hdrawn
        cases hdrawn with
        | start => simp at hcolumns
        | @call columns' earlier column' before place hearlier hle hskipped hnew =>
            obtain ⟨rfl, rfl⟩ := List.append_singleton_inj.mp hcolumns
            rw [(ih _).mpr ⟨before, by omega, hearlier, rfl⟩, Option.bind_some]
            have hdraw : draw? earlier.reverse column ((firstSuffixes source count).drop before) =
                some (column ++ source place, (firstSuffixes source count).drop (place + 1)) := by
              rw [draw?_drop_eq_some_iff]
              refine ⟨place, hle, htaken, ?_, ?_, rfl, rfl⟩
              · simpa only [List.mem_reverse] using hskipped
              · simpa only [List.mem_reverse] using hnew
            simp [Supply.next?, hdraw]

/-! ### What the calls return -/

theorem Drawn.length_names (h : Drawn source columns names taken) :
    names.length = columns.length := by
  induction h with
  | start => rfl
  | call earlier _ _ _ ih => rw [List.length_append, List.length_append, ih]; rfl

theorem Drawn.nodup (h : Drawn source columns names taken) : names.Nodup := by
  induction h with
  | start => exact List.nodup_nil
  | call earlier _ _ new ih =>
      rw [← List.concat_eq_append]
      exact ih.concat new

theorem append_left_injective (column : String) :
    Function.Injective fun suffix : String => column ++ suffix := by
  intro suffix other h
  have hlists := congrArg String.toList h
  simp only [String.toList_append] at hlists
  exact String.toList_inj.mp (List.append_cancel_left hlists)

/-- Among more different suffixes than there are names, one makes a new name. -/
theorem exists_append_not_mem {distinct : List String} (hnodup : distinct.Nodup)
    (hlength : names.length < distinct.length) (column : String) :
    ∃ suffix ∈ distinct, column ++ suffix ∉ names := by
  have hmap : (distinct.map (column ++ ·)).Nodup := hnodup.map (append_left_injective column)
  have hmore : names.length < (distinct.map (column ++ ·)).length := by rwa [List.length_map]
  obtain ⟨name, hname, hnew⟩ := exists_mem_not_mem hmap hmore
  obtain ⟨suffix, hsuffix, rfl⟩ := List.mem_map.mp hname
  exact ⟨suffix, hsuffix, hnew⟩

/-- After some calls another one ends if more different suffixes are to come than there were calls.
It takes the least place with a new name. -/
theorem Drawn.exists_call (h : Drawn source columns names taken) {distinct : List String}
    (hnodup : distinct.Nodup) (hlength : columns.length < distinct.length)
    (hcoming : ∀ suffix ∈ distinct, ∃ place, taken ≤ place ∧ source place = suffix)
    (column : String) :
    ∃ name more, Drawn source (columns ++ [column]) (names ++ [name]) more := by
  obtain ⟨suffix, hsuffix, hnew⟩ :=
    exists_append_not_mem hnodup (h.length_names ▸ hlength) column
  obtain ⟨place, hplace, rfl⟩ := hcoming suffix hsuffix
  have hexists : ∃ place, taken ≤ place ∧ column ++ source place ∉ names := ⟨place, hplace, hnew⟩
  obtain ⟨hle, hfirst⟩ := Nat.find_spec hexists
  refine ⟨_, _, h.call hle (fun other hother hbefore => ?_) hfirst⟩
  by_contra hmem
  exact Nat.find_min hexists hbefore ⟨hother, hmem⟩

/-- Names are drawn as the calls return them, each its column with the first remaining suffix that
makes a new name.  They differ from each other, and the next call ends if one more different suffix
is to come than there were calls. -/
theorem names?_source (source : Nat → String) (columns : List String) :
    (∀ count names left,
      Supply.names? ⟨[], firstSuffixes source count⟩ columns = some (names, left) ↔
        ∃ taken, taken ≤ count ∧ Drawn source columns names taken ∧
          left = ⟨names.reverse, (firstSuffixes source count).drop taken⟩) ∧
    (∀ names taken, Drawn source columns names taken → names.Nodup ∧
      ∀ distinct : List String, distinct.Nodup → distinct.length = columns.length + 1 →
        (∀ suffix ∈ distinct, ∃ place, taken ≤ place ∧ source place = suffix) →
        ∀ column, ∃ name more, Drawn source (columns ++ [column]) (names ++ [name]) more) := by
  refine ⟨fun count names left => names?_eq_some_iff left, fun names taken h => ⟨h.nodup, ?_⟩⟩
  intro distinct hnodup hlength hcoming column
  exact h.exists_call hnodup (by omega) hcoming column

/-- A source whose suffixes make one name with two columns, and which repeats itself in the end. -/
def coinciding (place : Nat) : String :=
  ["bc", "c", "c", "d", "e", "f"].getD place "bc"

/-- The second column passes over a suffix, twice, that would repeat the name of the first one, and
a third call ends although the source yields only one suffix from some place on. -/
theorem names?_source_coinciding :
    Supply.names? ⟨[], firstSuffixes coinciding 6⟩ ["a", "ab"] =
        some (["abc", "abd"], ⟨["abd", "abc"], ["e", "f"]⟩) ∧
      ["abc", "abd"].Nodup ∧ ["e", "f", "bc"].Nodup ∧
      (∀ suffix ∈ ["e", "f", "bc"], ∃ place, 4 ≤ place ∧ coinciding place = suffix) ∧
      ∃ name more, Drawn coinciding ["a", "ab", "a"] ["abc", "abd", name] more := by
  have hfirst : Drawn coinciding ["a"] ["abc"] 1 :=
    @Drawn.call _ [] [] "a" 0 0 .start (by decide) (fun other _ _ => by omega) (by decide)
  have hskipped : ∀ other, 1 ≤ other → other < 3 → "ab" ++ coinciding other ∈ ["abc"] := by
    intro other hle hlt
    obtain rfl | rfl : other = 1 ∨ other = 2 := by omega
    · decide
    · decide
  have hsecond : Drawn coinciding ["a", "ab"] ["abc", "abd"] 4 :=
    @Drawn.call _ _ _ "ab" 1 3 hfirst (by decide) hskipped (by decide)
  have hcoming : ∀ suffix ∈ ["e", "f", "bc"], ∃ place, 4 ≤ place ∧ coinciding place = suffix := by
    simp only [List.forall_mem_cons, List.not_mem_nil, false_imp_iff, implies_true, and_true]
    exact ⟨⟨4, by decide⟩, ⟨5, by decide⟩, ⟨6, by decide⟩⟩
  obtain ⟨hdraws, hcalls⟩ := names?_source coinciding ["a", "ab"]
  obtain ⟨hnodup, hends⟩ := hcalls _ _ hsecond
  refine ⟨(hdraws _ _ _).mpr ⟨4, by decide, hsecond, by decide⟩, hnodup, by decide, hcoming, ?_⟩
  exact hends _ (by decide) (by decide) hcoming "a"

end TableExport.FlagName
