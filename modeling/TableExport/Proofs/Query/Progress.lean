import Mathlib.Data.List.Perm.Subperm
import TableExport.Proofs.Query.Run

/-! # Runs that come to their end

A draft refuses a step in one case only, that a given name is bound already or of the generated
form; and the supply of names refuses one when its suffixes have run out.

A source is never short of suffixes if, however many of them were taken, one more is still to come
that differs from those seen, as long as fewer are seen than the run draws names
(`FlagName.KeepsFresh`).  It may repeat itself: so many suffixes that return again and again are
enough (`FlagName.KeepsFresh.of_recurring`), and a run that draws no name asks for nothing.  Then
some first part of the source is as good as all of it (`exists_perform`). -/

namespace TableExport

/-! ### Sources of suffixes -/

namespace FlagName

/-- However many suffixes were taken and whichever were seen, if fewer than a given number, one that
was not seen is still to come. -/
def KeepsFresh (source : Nat → String) (count : Nat) : Prop :=
  ∀ (taken : Nat) (seen : List String), seen.length < count →
    ∃ number, taken ≤ number ∧ source number ∉ seen

/-- The first suffixes of a source. -/
def firstSuffixes (source : Nat → String) (count : Nat) : List String :=
  (List.range count).map source

theorem firstSuffixes_succ (source : Nat → String) (count : Nat) :
    firstSuffixes source (count + 1) =
      source 0 :: firstSuffixes (fun number => source (number + 1)) count := by
  unfold firstSuffixes
  rw [List.range_succ_eq_map, List.map_cons, List.map_map]
  rfl

/-- Of more different texts than were seen, one was not seen. -/
theorem exists_mem_not_mem {distinct seen : List String} (hnodup : distinct.Nodup)
    (hlength : seen.length < distinct.length) : ∃ text ∈ distinct, text ∉ seen := by
  by_contra hall
  push Not at hall
  exact Nat.not_le.mpr hlength (hnodup.subperm hall).length_le

variable {source : Nat → String} {count : Nat}

/-- Different suffixes that return again and again are enough for as many names. -/
theorem KeepsFresh.of_recurring {distinct : List String} (hnodup : distinct.Nodup)
    (h : ∀ suffix ∈ distinct, ∀ taken, ∃ number, taken ≤ number ∧ source number = suffix) :
    KeepsFresh source distinct.length := by
  intro taken seen hlength
  obtain ⟨suffix, hsuffix, hnew⟩ := exists_mem_not_mem hnodup hlength
  obtain ⟨number, hle, rfl⟩ := h suffix hsuffix taken
  exact ⟨number, hle, hnew⟩

theorem KeepsFresh.mono {fewer : Nat} (h : KeepsFresh source count) (hle : fewer ≤ count) :
    KeepsFresh source fewer :=
  fun taken seen hlength => h taken seen (Nat.lt_of_lt_of_le hlength hle)

theorem KeepsFresh.tail (h : KeepsFresh source count) :
    KeepsFresh (fun number => source (number + 1)) count := by
  intro taken seen hlength
  obtain ⟨number, hle, hnew⟩ := h (taken + 1) seen hlength
  refine ⟨number - 1, by omega, ?_⟩
  have hnumber : number - 1 + 1 = number := by omega
  show source (number - 1 + 1) ∉ seen
  rw [hnumber]
  exact hnew

/-- For every column a suffix will come that makes a new name. -/
theorem KeepsFresh.exists_append_not_mem (h : KeepsFresh source count) {issued : List String}
    (hlength : issued.length < count) (column : String) :
    ∃ number, column ++ source number ∉ issued := by
  -- A suffix that repeats a name can be read off the name behind the column.
  obtain ⟨number, -, hnew⟩ := h 0 (issued.map fun name =>
    String.ofList (name.toList.drop column.toList.length)) (by rwa [List.length_map])
  refine ⟨number, fun hmem => hnew (List.mem_map.mpr ⟨_, hmem, ?_⟩)⟩
  rw [String.toList_append, List.drop_left, String.ofList_toList]

/-- A draw succeeds on every list that is long enough, and what it leaves is a first part of a
source that keeps yielding new suffixes. -/
theorem KeepsFresh.exists_draw? (h : KeepsFresh source count) {issued : List String}
    (hlength : issued.length < count) (column : String) :
    ∃ name left used, KeepsFresh left count ∧ ∀ more,
      draw? issued column (firstSuffixes source (used + more)) =
        some (name, firstSuffixes left more) := by
  obtain ⟨number, hnew⟩ := h.exists_append_not_mem hlength column
  induction number generalizing source with
  | zero =>
      refine ⟨column ++ source 0, _, 1, h.tail, fun more => ?_⟩
      rw [Nat.add_comm 1 more, firstSuffixes_succ, draw?, if_neg hnew]
  | succ number ih =>
      by_cases hfirst : column ++ source 0 ∈ issued
      · obtain ⟨name, left, used, hleft, hdraw⟩ := ih h.tail hnew
        refine ⟨name, left, used + 1, hleft, fun more => ?_⟩
        rw [Nat.add_right_comm, firstSuffixes_succ, draw?, if_pos hfirst, hdraw]
      · refine ⟨column ++ source 0, _, 1, h.tail, fun more => ?_⟩
        rw [Nat.add_comm 1 more, firstSuffixes_succ, draw?, if_neg hfirst]

end FlagName

/-! ### Names that a draft accepts -/

theorem Parameter.isReserved_generated (number : Nat) :
    isReserved (generated number) = true := by
  have hdigits : number.repr.toList.all Char.isDigit = true :=
    List.all_eq_true.mpr fun _ hc => Numeral.isDigit_of_mem_repr hc
  have hne : number.repr.toList.isEmpty = false := by
    rw [List.isEmpty_eq_false_iff, Nat.toList_repr]
    exact Nat.toDigits_ne_nil
  have hlength : stem.length = stem.toList.length := rfl
  unfold isReserved generated
  rw [String.toList_append, hlength, List.take_left, List.drop_left]
  dsimp only
  rw [hdigits, hne]
  rfl

/-- The name under which a step binds, if it was given. -/
def Step.givenName? : Step → Option String
  | .requireNamed name _ _ _ _ => some name
  | _ => none

/-- The names can be given one after the other, whatever else is bound in between. -/
structure Draft.Accepts (draft : Draft) (names : List String) : Prop where
  nodup : names.Nodup
  fresh : ∀ name ∈ names, name ∉ draft.values.keys
  free : ∀ name ∈ names, Parameter.isReserved name = false

namespace Draft.Accepts

variable {draft next : Draft} {names : List String}

theorem of_values_eq (h : draft.Accepts names) (hvalues : next.values = draft.values) :
    next.Accepts names where
  nodup := h.nodup
  fresh name hname := hvalues ▸ h.fresh name hname
  free := h.free

theorem bindNext (h : draft.Accepts names) (type : ParameterType) (value : BoundValue) :
    (draft.bindNext type value).Accepts names := by
  refine ⟨h.nodup, fun name hname hbound => ?_, h.free⟩
  rw [keys_values_bindNext, List.mem_append, List.mem_singleton] at hbound
  rcases hbound with hbound | rfl
  · exact h.fresh name hname hbound
  · have hfree := h.free _ hname
    rw [nextName, Parameter.isReserved_generated] at hfree
    cases hfree

theorem bind {name : String} (h : draft.Accepts (name :: names)) (type : ParameterType)
    (value : BoundValue) : (draft.bind name type value).Accepts names := by
  obtain ⟨hname, hnodup⟩ := List.nodup_cons.mp h.nodup
  refine ⟨hnodup, fun other hother hbound => ?_,
    fun other hother => h.free other (List.mem_cons_of_mem _ hother)⟩
  have hkeys : (draft.values.put name value).keys = draft.values.keys ++ [name] := by
    rw [Bindings.keys_put, if_neg (h.fresh name List.mem_cons_self)]
  have hmem : other ∈ draft.values.keys ++ [name] := hkeys ▸ hbound
  rcases List.mem_append.mp hmem with hold | hnew
  · exact h.fresh other (List.mem_cons_of_mem _ hother) hold
  · rw [List.mem_singleton.mp hnew] at hother
    exact hname hother

theorem bindNamed?_eq_ok {name : String} (h : draft.Accepts (name :: names))
    (type : ParameterType) (value : BoundValue) :
    draft.bindNamed? name type value = .ok (draft.bind name type value) := by
  have hfree := h.free name List.mem_cons_self
  unfold bindNamed?
  rw [if_neg (h.fresh name List.mem_cons_self), hfree]
  rfl

end Draft.Accepts

/-! ### Progress -/

open FlagName (KeepsFresh firstSuffixes)

variable {source : Nat → String}

/-- With enough suffixes the step can be taken; the draft then accepts the names that are left, and
what is left of the source suffices for the names issued and those still to be drawn. -/
def Step.Succeeds (step : Step) (rest : List Step) (draft : Draft) (issued : List String)
    (source : Nat → String) : Prop :=
  ∃ next issued' left used, KeepsFresh left (issued'.length + rest.countP drawsName) ∧
    next.Accepts (rest.filterMap givenName?) ∧
    ∀ more, step.take? ⟨draft, ⟨issued, firstSuffixes source (used + more)⟩⟩ =
      .ok ⟨next, ⟨issued', firstSuffixes left more⟩⟩

section steps

variable {step : Step} {rest : List Step} {draft : Draft} {issued : List String}

/-- A step that draws no name leaves the source as it is. -/
theorem Step.succeeds_of_keeps
    (hsource : KeepsFresh source (issued.length + (step :: rest).countP drawsName))
    (next : Draft) (hdraws : step.drawsName = false)
    (hnext : next.Accepts (rest.filterMap givenName?))
    (htake : ∀ names, step.take? ⟨draft, names⟩ = .ok ⟨next, names⟩) :
    step.Succeeds rest draft issued source := by
  rw [List.countP_cons_of_neg (Bool.not_eq_true _ ▸ hdraws)] at hsource
  refine ⟨next, issued, source, 0, hsource, hnext, fun more => ?_⟩
  rw [Nat.zero_add]
  exact htake _

theorem Step.succeeds
    (hsource : KeepsFresh source (issued.length + (step :: rest).countP drawsName))
    (haccepts : draft.Accepts ((step :: rest).filterMap givenName?)) :
    step.Succeeds rest draft issued source := by
  cases step with
  | select item =>
      exact succeeds_of_keeps hsource (draft.addItem item) rfl (haccepts.of_values_eq rfl)
        fun _ => rfl
  | selectFlag flag column =>
      rw [List.countP_cons_of_pos (rfl : (selectFlag flag column).drawsName = true)] at hsource
      have hlength : issued.length < issued.length + (rest.countP drawsName + 1) := by omega
      obtain ⟨name, left, used, hleft, hdraw⟩ := hsource.exists_draw? hlength column
      have hcount : (name :: issued).length + rest.countP drawsName =
          issued.length + (rest.countP drawsName + 1) := by
        rw [List.length_cons]
        omega
      refine ⟨draft.addItem (.aliased flag name), name :: issued, left, used, hcount ▸ hleft,
        haccepts.of_values_eq rfl, fun more => ?_⟩
      simp only [take?, FlagName.Supply.next?, hdraw, Option.map_some]
  | require subject relation type value =>
      exact succeeds_of_keeps hsource
        ((draft.bindNext type value).addCondition (.test subject relation draft.nextName)) rfl
        ((haccepts.bindNext type value).of_values_eq rfl) fun _ => rfl
  | requireNamed name subject relation type value =>
      refine succeeds_of_keeps hsource
        ((draft.bind name type value).addCondition (.test subject relation name)) rfl
        ((haccepts.bind type value).of_values_eq rfl) fun names => ?_
      simp only [take?, haccepts.bindNamed?_eq_ok type value]
  | sort term =>
      exact succeeds_of_keeps hsource (draft.addTerm term) rfl (haccepts.of_values_eq rfl)
        fun _ => rfl
  | limit rows =>
      exact succeeds_of_keeps hsource (draft.setLimit rows) rfl (haccepts.of_values_eq rfl)
        fun _ => rfl

end steps

/-- With enough suffixes a run comes to its end, and more of them make no difference to the
draft. -/
theorem exists_perform {steps : List Step} {draft : Draft} {issued : List String}
    (hsource : KeepsFresh source (issued.length + steps.countP Step.drawsName))
    (haccepts : draft.Accepts (steps.filterMap Step.givenName?)) :
    ∃ last used, ∀ more, ∃ names,
      perform steps ⟨draft, ⟨issued, firstSuffixes source (used + more)⟩⟩ =
        (⟨last, names⟩, none) := by
  induction steps generalizing draft issued source with
  | nil => exact ⟨draft, 0, fun more => ⟨_, rfl⟩⟩
  | cons step rest ih =>
      obtain ⟨next, issued', left, used, hleft, hnext, htake⟩ :=
        Step.succeeds hsource haccepts
      obtain ⟨last, usedLater, hrest⟩ := ih hleft hnext
      refine ⟨last, used + usedLater, fun more => ?_⟩
      obtain ⟨names, hperform⟩ := hrest more
      refine ⟨names, ?_⟩
      rw [perform, Nat.add_assoc, htake]
      exact hperform

end TableExport
