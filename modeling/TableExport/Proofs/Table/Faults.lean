import TableExport.Proofs.Json.Check
import TableExport.Table.Json

/-! # Why a table cannot be read

Reading a table or a column is meant to fail in one way: the data has problems that are named.  A
second way exists.  The class of a column is derived from its type before the type is checked, and
a type that is not a text then ends the check of the whole table at once.

Main statement: exactly which data ends the check at once, and that all other data is read or has
named problems (`Table.ofJson?_outcomes`).  The same type is a named problem as soon as a class is
given (`Column.ofJson?_of_class`). -/

namespace TableExport

open Json (Checked Value)

/-! ### Data that ends the check at once -/

/-- An object with a type that is not a text, although its class is to be derived from the type. -/
inductive Column.Underivable : Value → OtherKind → Prop
  | intro {members : Json.Check.Members} {type : Value} {kind : OtherKind}
      (htype : members.lookup "type" = some type) (hkind : OtherKind.of? type = some kind)
      (hbase : members.lookup "base_type" = none ∨ members.lookup "base_type" = some .null) :
      Column.Underivable (.object members) kind

/-- An object with such a column among its columns, the first of them. -/
inductive Table.Underivable : Value → OtherKind → Prop
  | intro {members : Json.Check.Members} {before after : List Value} {item : Value}
      {kind : OtherKind}
      (hcolumns : members.lookup "columns" = some (.list (before ++ item :: after)))
      (hbefore : ∀ other ∈ before, ∀ kind, ¬ Column.Underivable other kind)
      (h : Column.Underivable item kind) : Table.Underivable (.object members) kind

theorem Column.leavesBaseOpen_iff (members : Json.Check.Members) :
    Column.leavesBaseOpen members = true ↔
      members.lookup "base_type" = none ∨ members.lookup "base_type" = some .null := by
  unfold leavesBaseOpen
  split
  · next hnone => simp [hnone]
  · next hnull => simp [hnull]
  · next base hne hsome =>
      have hbase : base ≠ .null := hne
      simp [hsome, hbase]

theorem Column.foreignType?_eq_some_iff (value : Value) (kind : OtherKind) :
    Column.foreignType? value = some kind ↔ Column.Underivable value kind := by
  constructor
  · intro h
    unfold foreignType? at h
    split at h
    · next members =>
        split at h
        · next hopen =>
            obtain ⟨type, htype, hkind⟩ := Option.bind_eq_some_iff.mp h
            exact ⟨htype, hkind, (leavesBaseOpen_iff members).mp hopen⟩
        · cases h
    · cases h
  · rintro @⟨members, type, kind, htype, hkind, hbase⟩
    have hopen := (leavesBaseOpen_iff members).mpr hbase
    simp [foreignType?, hopen, htype, hkind]

theorem Column.foreignType?_eq_none_iff (value : Value) :
    Column.foreignType? value = none ↔ ∀ kind, ¬ Column.Underivable value kind := by
  simp [Option.eq_none_iff_forall_ne_some, Column.foreignType?_eq_some_iff]

theorem Table.foreignType?_eq_some_iff (value : Value) (kind : OtherKind) :
    Table.foreignType? value = some kind ↔ Table.Underivable value kind := by
  constructor
  · intro h
    unfold foreignType? at h
    split at h
    · next members =>
        split at h
        · next items hcolumns =>
            obtain ⟨before, item, after, rfl, hitem, hbefore⟩ := List.findSome?_eq_some_iff.mp h
            refine ⟨hcolumns, ?_, (Column.foreignType?_eq_some_iff item kind).mp hitem⟩
            intro other hother
            exact (Column.foreignType?_eq_none_iff other).mp (hbefore other hother)
        · cases h
    · cases h
  · rintro @⟨members, before, after, item, kind, hcolumns, hbefore, hitem⟩
    simp only [foreignType?, hcolumns]
    apply List.findSome?_eq_some_iff.mpr
    refine ⟨before, item, after, rfl, (Column.foreignType?_eq_some_iff item kind).mpr hitem, ?_⟩
    intro other hother
    exact (Column.foreignType?_eq_none_iff other).mpr (hbefore other hother)

/-! ### The outcomes -/

theorem Column.checkBase_founded (members : Json.Check.Members) :
    (Column.checkBase members).Founded := by
  unfold checkBase
  split
  · exact .accepted _
  · exact .required (.choice _) _ members

theorem Column.check_founded (value : Value) : (Column.check value).Founded := by
  apply Checked.Founded.record
  intro members
  have hname := (Checked.Founded.required .text "name" members).map Column.mk
  have htype := (Checked.Founded.required .text "type" members).map TypeName.bare
  have hnullable := Checked.Founded.optional Checked.Founded.truthValue "nullable" true members
  exact ((hname.combine htype).combine (checkBase_founded members)).combine hnullable

theorem Table.check_founded (value : Value) : (Table.check value).Founded := by
  apply Checked.Founded.record
  intro members
  have hname := (Checked.Founded.required .text "name" members).map Table.mk
  exact hname.combine (.optional (.listOf Column.check_founded) "columns" [] members)

/-- Reading gives a value or named problems, or ends at once, exactly for the kinds of a set. -/
structure TableFault.Outcomes {α : Type} (outcome : Except TableFault α) (ends : OtherKind → Prop) :
    Prop where
  exhaustive : (∃ a, outcome = .ok a) ∨
    (∃ problems, problems ≠ [] ∧ outcome = .error (.invalid problems)) ∨
    ∃ kind, outcome = .error (.typeNotText kind)
  ends_iff : ∀ kind, outcome = .error (.typeNotText kind) ↔ ends kind

theorem TableFault.outcomes {α : Type} {outcome : Except TableFault α} {ends : OtherKind → Prop}
    {foreign? : Option OtherKind} {checked : Checked α} (hfounded : checked.Founded)
    (hends : ∀ kind, foreign? = some kind ↔ ends kind)
    (hsome : ∀ kind, foreign? = some kind → outcome = .error (.typeNotText kind))
    (hnone : foreign? = none → outcome = TableFault.ofChecked checked) :
    TableFault.Outcomes outcome ends := by
  cases hforeign : foreign? with
  | some kind =>
      rw [hsome kind hforeign]
      refine ⟨.inr (.inr ⟨kind, rfl⟩), ?_⟩
      intro other
      rw [← hends other, hforeign]
      simp
  | none =>
      have hnot : ∀ kind, ¬ ends kind := by
        intro kind h
        have hkind := (hends kind).mpr h
        rw [hforeign] at hkind
        cases hkind
      rw [hnone hforeign]
      cases checked with
      | accepted a => exact ⟨.inl ⟨a, rfl⟩, by simp [TableFault.ofChecked, hnot]⟩
      | rejected problems =>
          have hproblems := Json.Problem.inPathOrder_ne_nil (hfounded problems rfl)
          exact ⟨.inr (.inl ⟨_, hproblems, rfl⟩), by simp [TableFault.ofChecked, hnot]⟩

/-- Read as a column and as a table, data that does not end the check at once is accepted or has
named problems. -/
theorem Table.ofJson?_outcomes (value : Value) :
    TableFault.Outcomes (Column.ofJson? value) (Column.Underivable value) ∧
      TableFault.Outcomes (Table.ofJson? value) (Table.Underivable value) := by
  constructor
  · apply TableFault.outcomes (Column.check_founded value) (Column.foreignType?_eq_some_iff value)
    · intro kind hforeign
      simp only [Column.ofJson?, hforeign]
    · intro hforeign
      simp only [Column.ofJson?, hforeign]
  · apply TableFault.outcomes (Table.check_founded value) (Table.foreignType?_eq_some_iff value)
    · intro kind hforeign
      simp only [Table.ofJson?, hforeign]
    · intro hforeign
      simp only [Table.ofJson?, hforeign]

/-- One column with a number for its type ends the check of a whole table. -/
theorem Table.ofJson?_numberedType :
    Column.ofJson? (.object [("name", .text "a"), ("type", .integer 5)]) =
        .error (.typeNotText .integer) ∧
      Table.ofJson? (.object [("name", .text "t"),
        ("columns", .list [.object [("name", .text "a"), ("type", .integer 5)]])]) =
          .error (.typeNotText .integer) := by
  decide +kernel

/-- With a class given, a type that is not a text is a named problem. -/
theorem Column.ofJson?_of_class {members : Json.Check.Members} {type base : Value}
    {kind : OtherKind} (htype : members.lookup "type" = some type)
    (hkind : OtherKind.of? type = some kind) (hbase : members.lookup "base_type" = some base)
    (hgiven : base ≠ .null) :
    ∃ problems, ⟨[.name "type"], .notText⟩ ∈ problems ∧
      Column.ofJson? (.object members) = .error (.invalid problems) := by
  have hclosed : Column.leavesBaseOpen members = false := by
    rw [Bool.eq_false_iff, Ne, leavesBaseOpen_iff, hbase]
    simp [hgiven]
  have htext : Json.Check.text type = .reject .notText := by
    cases type <;> simp [OtherKind.of?] at hkind <;> rfl
  have hreports : (Column.check (.object members)).Reports ⟨[.name "type"], .notText⟩ := by
    have htypeReports := (Checked.Reports.required htype htext).map TypeName.bare
    exact ((((htypeReports.combine_right _).combine_left _).combine_left _).map _).combine_left _
  obtain ⟨problems, hproblems, hmem⟩ := hreports
  -- Sorting by path keeps the problem.
  refine ⟨Json.Problem.inPathOrder problems, ?_, ?_⟩
  · exact (Json.Problem.inPathOrder_perm problems).mem_iff.mpr hmem
  · simp [Column.ofJson?, Column.foreignType?, hclosed, hproblems, TableFault.ofChecked]

end TableExport
