import TableExport.Proofs.Json.Check
import TableExport.Proofs.Table.Faults
import TableExport.Proofs.Table.TypeName

/-! # Tables read again

A column that was read can be written as an object with its four members, and a table as an object
with its columns.  Reading that object again changes nothing: the type is a bare name already, and
its class is given.

The class of a column is derived from the text of the type before the bare name is taken.  It is
the class of the bare name, too, so that it does not matter which of the two it is derived from.

Main statement: `Table.readsAgain`. -/

namespace TableExport

open Json (Arranges Check.Members Checked Value)

/-! ### Accepted columns and tables -/

theorem TableFault.ofChecked_eq_ok_iff {α : Type} {outcome : Checked α} {a : α} :
    TableFault.ofChecked outcome = .ok a ↔ outcome = .accepted a := by
  cases outcome with
  | accepted b => simp [TableFault.ofChecked]
  | rejected problems => simp [TableFault.ofChecked]

theorem BaseType.eq_name_of_lookup {name : String} {base : BaseType}
    (h : names.lookup name = some base) : name = base.name := by
  have hmem : (name, base) ∈ names := Entries.mem_of_lookup h
  simp only [names, List.mem_cons, Prod.mk.injEq, List.not_mem_nil, or_false] at hmem
  rcases hmem with ⟨rfl, rfl⟩ | ⟨rfl, rfl⟩ | ⟨rfl, rfl⟩ | ⟨rfl, rfl⟩ | ⟨rfl, rfl⟩ | ⟨rfl, rfl⟩ |
    ⟨rfl, rfl⟩ <;> rfl

namespace Column

variable {members : Check.Members} {value : Value} {column : Column}

/-- An accepted column has the bare name of the text that is given for its type. -/
theorem of_checkMembers (h : checkMembers members = .accepted column) :
    ∃ text, members.lookup "type" = some (.text text) ∧ column.type = TypeName.bare text ∧
      checkBase members = .accepted column.base := by
  obtain ⟨_, nullable, hthree, -, rfl⟩ := Checked.combine_eq_accepted h
  obtain ⟨_, base, htwo, hbase, rfl⟩ := Checked.combine_eq_accepted hthree
  obtain ⟨_, type, hone, htype, rfl⟩ := Checked.combine_eq_accepted htwo
  obtain ⟨name, -, rfl⟩ := Checked.map_eq_accepted hone
  obtain ⟨text, hrequired, rfl⟩ := Checked.map_eq_accepted htype
  obtain ⟨value, hlookup, htext⟩ := Json.required_eq_accepted hrequired
  cases value with
  | text spelled =>
      obtain rfl := Checked.accepted.inj htext
      refine ⟨spelled, hlookup, ?_, hbase⟩
      -- By simplification: left to definitional equality, the bare name would be computed.
      dsimp only
  | _ => cases htext

/-- Left open, the class is derived from the text of the type. -/
theorem base_of_open {text : String} {base : BaseType} (hopen : leavesBaseOpen members = true)
    (htype : members.lookup "type" = some (.text text))
    (h : checkBase members = .accepted base) : base = BaseType.ofTypeName text := by
  rw [checkBase, hopen, htype] at h
  exact (Checked.accepted.inj h).symm

/-- A column whose class is left open is the one that the text of its type gives. -/
theorem eq_ofTypeText {text : String} (hopen : leavesBaseOpen members = true)
    (htype : members.lookup "type" = some (.text text))
    (h : checkMembers members = .accepted column) :
    column = .ofTypeText column.name text column.nullable := by
  obtain ⟨spelled, hspelled, hname, hbase⟩ := of_checkMembers h
  obtain rfl : spelled = text := by simpa using hspelled.symm.trans htype
  rw [ofTypeText, ← hname, ← base_of_open hopen hspelled hbase]

/-- Given, the class is the one with the given name. -/
theorem base_of_given {base : BaseType} (hopen : leavesBaseOpen members = false)
    (h : checkBase members = .accepted base) :
    members.lookup "base_type" = some (.text base.name) := by
  rw [checkBase, hopen] at h
  obtain ⟨value, hlookup, hchoice⟩ := Json.required_eq_accepted h
  obtain ⟨name, rfl, hname⟩ := Json.choice_eq_accepted hchoice
  rw [hlookup, BaseType.eq_name_of_lookup hname]

/-- An accepted column does not end the check at once. -/
theorem foreignType?_of_accepted (h : check value = .accepted column) :
    foreignType? value = none := by
  obtain ⟨members, rfl, hmembers⟩ := Json.record_eq_accepted h
  obtain ⟨text, htype, -⟩ := of_checkMembers hmembers
  rw [foreignType?]
  split
  · rw [htype]
    rfl
  · rfl

theorem ofJson?_eq_ok_iff : ofJson? value = .ok column ↔ check value = .accepted column := by
  constructor
  · intro h
    unfold ofJson? at h
    split at h
    · cases h
    · exact TableFault.ofChecked_eq_ok_iff.mp h
  · intro h
    simp only [ofJson?, foreignType?_of_accepted h]
    exact TableFault.ofChecked_eq_ok_iff.mpr h

end Column

namespace Table

variable {value : Value} {table : Table}

/-- The columns of an accepted table: none if no list is given, or else one for each item. -/
inductive ListsColumns (members : Check.Members) (columns : List Column) : Prop
  | absent (hlookup : members.lookup "columns" = none) (hnone : columns = [])
  | listed {items : List Value} (hlookup : members.lookup "columns" = some (.list items))
      (hitems : List.Forall₂ (fun item column => Column.ofJson? item = .ok column) items columns)

theorem listsColumns_of_check (h : check value = .accepted table) :
    ∃ members, value = .object members ∧ ListsColumns members table.columns := by
  obtain ⟨members, rfl, hmembers⟩ := Json.record_eq_accepted h
  obtain ⟨_, columns, hname, hcolumns, rfl⟩ := Checked.combine_eq_accepted hmembers
  obtain ⟨name, -, rfl⟩ := Checked.map_eq_accepted hname
  refine ⟨members, rfl, ?_⟩
  unfold Json.Check.optional at hcolumns
  cases hlookup : members.lookup "columns" with
  | none =>
      rw [hlookup] at hcolumns
      exact .absent hlookup (Checked.accepted.inj hcolumns).symm
  | some listed =>
      rw [hlookup] at hcolumns
      obtain ⟨items, rfl, hitems⟩ := Json.forall₂_of_listOf (Checked.under_eq_accepted hcolumns)
      exact .listed hlookup (hitems.imp fun _ _ => Column.ofJson?_eq_ok_iff.mpr)

theorem foreignType?_of_accepted (h : check value = .accepted table) :
    foreignType? value = none := by
  obtain ⟨members, rfl, hcolumns⟩ := listsColumns_of_check h
  rw [foreignType?]
  split
  · next items hlookup =>
      cases hcolumns with
      | absent habsent _ =>
          rw [habsent] at hlookup
          cases hlookup
      | listed hlisted hitems =>
          obtain rfl := Value.list.inj (Option.some.inj (hlisted.symm.trans hlookup))
          rw [List.findSome?_eq_none_iff]
          intro item hitem
          obtain ⟨column, -, haccepted⟩ := Json.exists_of_mem_of_forall₂ hitems item hitem
          exact Column.foreignType?_of_accepted (Column.ofJson?_eq_ok_iff.mp haccepted)
  · rfl

theorem ofJson?_eq_ok_iff : ofJson? value = .ok table ↔ check value = .accepted table := by
  constructor
  · intro h
    unfold ofJson? at h
    split at h
    · cases h
    · exact TableFault.ofChecked_eq_ok_iff.mp h
  · intro h
    simp only [ofJson?, foreignType?_of_accepted h]
    exact TableFault.ofChecked_eq_ok_iff.mpr h

end Table

/-! ### Written columns and tables -/

namespace Column

/-- The members of a column. -/
def members (column : Column) : Check.Members :=
  [("name", .text column.name), ("type", .text column.type),
    ("base_type", .text column.base.name), ("nullable", .bool column.nullable)]

/-- The members of a column that have a default.  The class is none of them: an absent class is
derived from the type. -/
def defaults : Check.Members :=
  [("nullable", .bool true)]

/-- The ways to write a column. -/
inductive IsWrittenAs (column : Column) : Value → Prop
  | intro {members : Check.Members} (h : Arranges defaults column.members members) :
      IsWrittenAs column (.object members)

theorem nodup_keys_members (column : Column) : (Entries.keys column.members).Nodup := by
  simp [Entries.keys, Column.members]

theorem isWrittenAs_members (column : Column) : column.IsWrittenAs (.object column.members) :=
  .intro (.self column.nodup_keys_members)

/-- A written column is accepted if its type is a bare name. -/
theorem check_of_isWrittenAs {column : Column} (hbare : TypeName.bare column.type = column.type)
    {value : Value} (h : column.IsWrittenAs value) : check value = .accepted column := by
  obtain @⟨members, h⟩ := h
  have hnames := column.nodup_keys_members
  have hname : Json.Check.required "name" Json.Check.text members = .accepted column.name :=
    h.required hnames (.text column.name) (by simp [Column.members]) rfl (by simp [defaults])
  have htype : Checked.map TypeName.bare (Json.Check.required "type" Json.Check.text members) =
      .accepted column.type := by
    have htext : Json.Check.required "type" Json.Check.text members = .accepted column.type :=
      h.required hnames (.text column.type) (by simp [Column.members]) rfl (by simp [defaults])
    rw [htext, Checked.map, hbare]
  have hgiven : members.lookup "base_type" = some (.text column.base.name) :=
    (h.lookup hnames (by simp [Column.members])).resolve_right fun hout => by
      simp [defaults] at hout
  have hclosed : leavesBaseOpen members = false := by
    rw [leavesBaseOpen, hgiven]
  have hbase : checkBase members = .accepted column.base := by
    rw [checkBase, hclosed]
    apply h.required hnames (.text column.base.name) (by simp [Column.members])
    · simp only [Json.Check.choice, BaseType.lookup_name]
    · simp [defaults]
  have hnullable : Json.Check.optional "nullable" true Json.Check.truthValue members =
      .accepted column.nullable :=
    h.optional hnames (.bool column.nullable) (by simp [Column.members]) rfl (by simp [defaults])
  apply h.record
  · simp [Column.members, memberNames]
  · rw [checkMembers, hname, htype, hbase, hnullable]
    rfl

end Column

namespace Table

/-- The members of a table, given its columns in writing. -/
def members (table : Table) (columns : List Value) : Check.Members :=
  [("name", .text table.name), ("columns", .list columns)]

/-- The members of a table that have a default. -/
def defaults : Check.Members :=
  [("columns", .list [])]

/-- The ways to write a table. -/
inductive IsWrittenAs (table : Table) : Value → Prop
  | intro {columns : List Value} {members : Check.Members}
      (hcolumns : List.Forall₂ Column.IsWrittenAs table.columns columns)
      (h : Arranges defaults (table.members columns) members) : IsWrittenAs table (.object members)

theorem nodup_keys_members (table : Table) (columns : List Value) :
    (Entries.keys (table.members columns)).Nodup := by
  simp [Entries.keys, Table.members]

theorem isWrittenAs_members (table : Table) {columns : List Value}
    (hcolumns : List.Forall₂ Column.IsWrittenAs table.columns columns) :
    table.IsWrittenAs (.object (table.members columns)) :=
  .intro hcolumns (.self (table.nodup_keys_members columns))

theorem check_of_isWrittenAs {table : Table}
    (hbare : ∀ column ∈ table.columns, TypeName.bare column.type = column.type) {value : Value}
    (h : table.IsWrittenAs value) : check value = .accepted table := by
  obtain @⟨columns, members, hcolumns, h⟩ := h
  have hnames := table.nodup_keys_members columns
  have hname : Json.Check.required "name" Json.Check.text members = .accepted table.name :=
    h.required hnames (.text table.name) (by simp [Table.members]) rfl (by simp [defaults])
  have hlist : Json.Check.optional "columns" [] (Json.Check.listOf Column.check) members =
      .accepted table.columns := by
    apply h.optional hnames (.list columns) (by simp [Table.members])
    · apply Json.listOf_accepted
      have hboth := (List.forall₂_and_left table.columns columns).mpr ⟨hbare, hcolumns⟩
      exact hboth.imp fun _ _ hcolumn => Column.check_of_isWrittenAs hcolumn.1 hcolumn.2
    · intro hdefault
      obtain rfl : columns = [] := by simpa [defaults] using hdefault
      exact List.forall₂_nil_right_iff.mp hcolumns
  apply h.record
  · simp [Table.members, memberNames]
  · rw [hname, hlist]
    rfl

end Table

/-! ### Reading again -/

/-- What was read as a column is read again as the same column.  Its type is a bare name; a class
that was left open is the class of that name, and a class that was given is kept. -/
structure Column.ReadsAgain (value : Value) (column : Column) : Prop where
  again : ∀ written, column.IsWrittenAs written → Column.ofJson? written = .ok column
  bare : TypeName.bare column.type = column.type
  base : ∃ members, value = .object members ∧
    (members.lookup "base_type" = none ∨ members.lookup "base_type" = some .null →
      ∃ text, members.lookup "type" = some (.text text) ∧
        column.base = BaseType.ofTypeName text ∧
        column.base = BaseType.ofTypeName column.type) ∧
    (∀ base, members.lookup "base_type" = some base → base ≠ .null →
      base = .text column.base.name)

/-- What was read as a table is read again as the same table, with each column in its place. -/
structure Table.ReadsAgain (value : Value) (table : Table) : Prop where
  again : ∀ written, table.IsWrittenAs written → Table.ofJson? written = .ok table
  columns : ∃ members, value = .object members ∧ Table.ListsColumns members table.columns

theorem Column.bare_type_of_ofJson? {value : Value} {column : Column}
    (h : ofJson? value = .ok column) : TypeName.bare column.type = column.type := by
  obtain ⟨members, -, hmembers⟩ := Json.record_eq_accepted (ofJson?_eq_ok_iff.mp h)
  obtain ⟨text, -, htype, -⟩ := of_checkMembers hmembers
  rw [htype, TypeName.bare_bare]

theorem Column.readsAgain_of_ofJson? {value : Value} {column : Column}
    (h : ofJson? value = .ok column) : column.ReadsAgain value := by
  have hbare := bare_type_of_ofJson? h
  obtain ⟨members, rfl, hmembers⟩ := Json.record_eq_accepted (ofJson?_eq_ok_iff.mp h)
  obtain ⟨text, htype, hname, hbase⟩ := of_checkMembers hmembers
  refine ⟨?_, hbare, members, rfl, ?_, ?_⟩
  · intro written hwritten
    exact ofJson?_eq_ok_iff.mpr (check_of_isWrittenAs hbare hwritten)
  · intro hopen
    have hderived := base_of_open ((leavesBaseOpen_iff members).mpr hopen) htype hbase
    refine ⟨text, htype, hderived, ?_⟩
    rw [hname, BaseType.ofTypeName_bare, hderived]
  · intro base hgiven hsome
    have hclosed : leavesBaseOpen members = false := by
      rw [Bool.eq_false_iff, Ne, leavesBaseOpen_iff, hgiven]
      simp [hsome]
    exact Option.some.inj (hgiven.symm.trans (base_of_given hclosed hbase))

theorem Table.bare_types_of_listsColumns {members : Check.Members} {columns : List Column}
    (h : ListsColumns members columns) :
    ∀ column ∈ columns, TypeName.bare column.type = column.type := by
  cases h with
  | absent _ hnone =>
      rw [hnone]
      nofun
  | listed _ hitems =>
      intro column hmem
      obtain ⟨item, -, hread⟩ := Json.exists_of_mem_of_forall₂ hitems.flip column hmem
      exact Column.bare_type_of_ofJson? hread

/-- Columns and tables that were read are stable: written in any way, they are read as themselves
again. -/
theorem Table.readsAgain (value : Value) :
    (∀ column, Column.ofJson? value = .ok column → column.ReadsAgain value) ∧
      (∀ table, Table.ofJson? value = .ok table → table.ReadsAgain value) := by
  constructor
  · intro column h
    exact Column.readsAgain_of_ofJson? h
  · intro table h
    obtain ⟨members, rfl, hcolumns⟩ := listsColumns_of_check (ofJson?_eq_ok_iff.mp h)
    refine ⟨?_, members, rfl, hcolumns⟩
    intro written hwritten
    exact ofJson?_eq_ok_iff.mpr
      (check_of_isWrittenAs (bare_types_of_listsColumns hcolumns) hwritten)

/-- Two columns of one name, one with a ligature in its type and one with a class that is not the
one of its type, are read again, each in its place. -/
theorem Table.readsAgain_ledger :
    let amount : Value := .object [("name", .text "amount"), ("type", .text "\u2003ﬂoat64 (3)")]
    let value : Value := .object [("columns", .list [amount,
      .object [("base_type", .text "DATE"), ("type", .text "record<x ß>"),
        ("nullable", .text "No"), ("name", .text "amount")]]), ("name", .text "ledger")]
    let stored : Column := ⟨"amount", "FLOAT64", .float, true⟩
    let table : Table := ⟨"ledger", [stored, ⟨"amount", "STRUCT", .date, false⟩]⟩
    Column.ofJson? amount = .ok stored ∧ Column.ofJson? (.object stored.members) = .ok stored ∧
      Table.ofJson? value = .ok table ∧
      Table.ofJson? (.object (table.members (table.columns.map fun column =>
        .object column.members))) = .ok table := by
  intro amount value stored table
  have hcolumn : Column.ofJson? amount = .ok stored := by decide +kernel
  have htable : Table.ofJson? value = .ok table := by decide +kernel
  have hcolumns : List.Forall₂ Column.IsWrittenAs table.columns
      (table.columns.map fun column => .object column.members) := by
    rw [List.forall₂_map_right_iff]
    exact List.forall₂_same.mpr fun column _ => column.isWrittenAs_members
  refine ⟨hcolumn, ?_, htable, ?_⟩
  · exact ((Table.readsAgain amount).1 stored hcolumn).again _ stored.isWrittenAs_members
  · exact ((Table.readsAgain value).2 table htable).again _ (table.isWrittenAs_members hcolumns)

end TableExport
