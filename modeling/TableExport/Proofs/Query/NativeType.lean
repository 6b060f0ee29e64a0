import TableExport.Proofs.Query.KnownTable
import TableExport.Proofs.Table.Reading

/-! # Which casts are skipped

The default converter skips a cast if the class of the stored column is the class of the data type.
A class is coarser than a type: it has the names of the type that the cast would go to
(`Sql.CastType.names`) and, for numbers with a fixed point and for moments, names of other types
(`Sql.CastType.classmates`).

Main statement: for tables whose classes were derived from the types, the cast to a type is skipped
exactly for columns stored under one of these names (`casting_eq_reference_iff`), so that a
`DATETIME` is compared as a `TIMESTAMP` without a cast (`casting_datetime`). -/

namespace TableExport

/-! ### Names of a type -/

/-- The names under which the type of a cast can be stored. -/
def Sql.CastType.names : Sql.CastType → List String
  | .int64 => ["INT64", "INT", "SMALLINT", "INTEGER", "BIGINT", "TINYINT", "BYTEINT"]
  | .float64 => ["FLOAT64", "FLOAT"]
  | .numeric => ["NUMERIC", "DECIMAL"]
  | .bool => ["BOOL", "BOOLEAN"]
  | .date => ["DATE"]
  | .timestamp => ["TIMESTAMP"]

/-- The names of other types in the class of the type of a cast. -/
def Sql.CastType.classmates : Sql.CastType → List String
  | .numeric => ["BIGNUMERIC", "BIGDECIMAL"]
  | .timestamp => ["DATETIME"]
  | _ => []

/-- A class other than text has the names that the table of classes lists for it. -/
theorem BaseType.getD_lookup_eq_iff {base : BaseType} (hbase : base ≠ .string) (name : String) :
    (ofBareName.lookup name).getD .string = base ↔ (name, base) ∈ ofBareName := by
  have hnodup : (Entries.keys ofBareName).Nodup := by decide
  constructor
  · intro h
    cases hlookup : ofBareName.lookup name with
    | none =>
        rw [hlookup] at h
        exact absurd h.symm hbase
    | some found =>
        rw [hlookup] at h
        obtain rfl : found = base := h
        exact Entries.mem_of_lookup hlookup
  · intro hmem
    have hlookup : ofBareName.lookup name = some base := Entries.get?_of_mem hnodup hmem
    rw [hlookup]
    rfl

/-- The class of a data type consists of the names of its cast and their classmates. -/
theorem DataType.mem_nativeBase?_iff {type : DataType} {base : BaseType} {target : Sql.CastType}
    (hbase : type.nativeBase? = some base) (htarget : type.castType? = some target)
    (name : String) :
    (name, base) ∈ BaseType.ofBareName ↔ name ∈ target.names ∨ name ∈ target.classmates := by
  cases type <;> cases hbase <;> cases htarget <;>
    simp [BaseType.ofBareName, Sql.CastType.names, Sql.CastType.classmates, or_assoc]
  -- The table of classes has the two names for moments in the other order.
  exact or_comm

/-! ### Derived classes -/

/-- The class was derived from a text for the type. -/
def Column.IsDerived (column : Column) : Prop :=
  ∃ text, column = .ofTypeText column.name text column.nullable

/-- All classes were derived from the types. -/
def Table.IsDerived (table : Table) : Prop :=
  ∀ column ∈ table.columns, column.IsDerived

theorem Column.IsDerived.base_eq {column : Column} (h : column.IsDerived) :
    column.base = (BaseType.ofBareName.lookup column.type).getD .string := by
  obtain ⟨text, htext⟩ := h
  -- Unfolding by name: left to definitional equality, the bare name would be computed.
  rw [htext, Column.ofTypeText, BaseType.ofTypeName]

/-- The JSON data of a table gives no class for any column. -/
def Table.LeavesClassesOpen (value : Json.Value) : Prop :=
  ∀ members items column, value = .object members → members.lookup "columns" = some (.list items) →
    .object column ∈ items → Column.leavesBaseOpen column = true

theorem Column.isDerived_of_checkMembers {members : Json.Check.Members} {column : Column}
    (hopen : leavesBaseOpen members = true) (h : checkMembers members = .accepted column) :
    column.IsDerived := by
  obtain ⟨text, htype, -, -⟩ := of_checkMembers h
  exact ⟨text, eq_ofTypeText hopen htype h⟩

/-- A table read from data without classes has derived classes. -/
theorem Table.isDerived_of_ofJson? {value : Json.Value} {table : Table}
    (hopen : LeavesClassesOpen value) (h : ofJson? value = .ok table) : table.IsDerived := by
  obtain ⟨members, rfl, hcolumns⟩ := listsColumns_of_check (ofJson?_eq_ok_iff.mp h)
  intro column hmem
  cases hcolumns with
  | absent _ hnone =>
      rw [hnone] at hmem
      cases hmem
  | listed hlookup hitems =>
      obtain ⟨item, hitem, hread⟩ := Json.exists_of_mem_of_forall₂ hitems.flip column hmem
      obtain ⟨columnMembers, rfl, haccepted⟩ :=
        Json.record_eq_accepted (Column.ofJson?_eq_ok_iff.mp hread)
      exact Column.isDerived_of_checkMembers (hopen _ _ _ rfl hlookup hitem) haccepted

/-! ### Skipped casts -/

/-- The first column with the name is stored under one of the type names. -/
def Table.StoresAs (table : Table) (column : String) (names : List String) : Prop :=
  ∃ found, table.columns.find? (·.name = column) = some found ∧ found.type ∈ names

theorem DataType.exists_castType? {type : DataType} (h : type ≠ .string) :
    ∃ target base, type.castType? = some target ∧ type.nativeBase? = some base ∧
      base ≠ .string := by
  cases type with
  | string => exact absurd rfl h
  | _ => exact ⟨_, _, rfl, rfl, nofun⟩

/-- With derived classes, the class of a data type is stored under one of its names. -/
theorem Table.IsDerived.storesNatively_iff {known : Table} (h : known.IsDerived) {type : DataType}
    {target : Sql.CastType} {base : BaseType} (htarget : type.castType? = some target)
    (hbase : type.nativeBase? = some base) (hclass : base ≠ .string) (column : String) :
    StoresNatively (some known) column type ↔
      known.StoresAs column target.names ∨ known.StoresAs column target.classmates := by
  have hnames : ∀ found ∈ known.columns, type.nativeBase? = some found.base ↔
      found.type ∈ target.names ∨ found.type ∈ target.classmates := by
    intro found hmem
    rw [← DataType.mem_nativeBase?_iff hbase htarget, ← BaseType.getD_lookup_eq_iff hclass,
      ← (h found hmem).base_eq, hbase, Option.some_inj, eq_comm]
  constructor
  · rintro ⟨_, found, ⟨⟩, hfound, hnative⟩
    obtain hname | hmate := (hnames found (List.mem_of_find?_eq_some hfound)).mp hnative
    · exact .inl ⟨found, hfound, hname⟩
    · exact .inr ⟨found, hfound, hmate⟩
  · rintro (⟨found, hfound, hname⟩ | ⟨found, hfound, hmate⟩)
    · exact ⟨known, found, rfl, hfound,
        (hnames found (List.mem_of_find?_eq_some hfound)).mpr (.inl hname)⟩
    · exact ⟨known, found, rfl, hfound,
        (hnames found (List.mem_of_find?_eq_some hfound)).mpr (.inr hmate)⟩

/-- The default converter leaves the reference bare exactly if the column is stored under a name of
the type that the cast would go to, or of one of its classmates; every other column is cast. -/
theorem casting_eq_reference_iff {known : Table} (hderived : known.IsDerived) (type : DataType)
    (htype : type ≠ .string) (table column : String) :
    ∃ target, type.castType? = some target ∧
      (Converter.casting (some known) table column type = .ok (columnReference table column) ↔
        known.StoresAs column target.names ∨ known.StoresAs column target.classmates) ∧
      (¬ (known.StoresAs column target.names ∨ known.StoresAs column target.classmates) →
        Converter.casting (some known) table column type =
          .ok (.safeCast (columnReference table column) target)) := by
  obtain ⟨target, base, htarget, hbase, hclass⟩ := DataType.exists_castType? htype
  refine ⟨target, htarget, ?_⟩
  rw [← hderived.storesNatively_iff htarget hbase hclass column, ← isNative_iff]
  unfold Converter.casting typedColumn
  rw [htarget]
  cases isNative (some known) column type with
  | true => exact ⟨⟨fun _ => rfl, fun _ => rfl⟩, fun h => absurd rfl h⟩
  | false => exact ⟨⟨nofun, nofun⟩, fun _ => rfl⟩

/-- In a table read without classes, a column of type `decimal(10, 2)` needs no cast to a decimal,
and a column of type `datetime` is cast to a date. -/
theorem casting_eq_reference_iff_receipts :
    ∃ known,
      Table.ofJson? (.object [("name", .text "receipts"),
          ("columns", .list [
            .object [("name", .text "total"), ("type", .text "decimal(10, 2)")],
            .object [("name", .text "issued"), ("type", .text "datetime")]])]) = .ok known ∧
        Converter.casting (some known) "receipts" "total" .decimal =
          .ok (columnReference "receipts" "total") ∧
        Converter.casting (some known) "receipts" "issued" .date =
          .ok (.safeCast (columnReference "receipts" "issued") .date) := by
  have hread : Table.ofJson? (.object [("name", .text "receipts"),
      ("columns", .list [
        .object [("name", .text "total"), ("type", .text "decimal(10, 2)")],
        .object [("name", .text "issued"), ("type", .text "datetime")]])]) =
      .ok ⟨"receipts", [⟨"total", "DECIMAL", .numeric, true⟩,
        ⟨"issued", "DATETIME", .timestamp, true⟩]⟩ := by decide +kernel
  have hderived := Table.isDerived_of_ofJson? (by
    rintro members items column ⟨⟩ ⟨⟩ hitem
    obtain rfl | rfl : column = _ ∨ column = _ := by simpa using hitem
    · rfl
    · rfl) hread
  refine ⟨_, hread, ?_, ?_⟩
  · obtain ⟨_, ⟨⟩, hbare, -⟩ :=
      casting_eq_reference_iff hderived .decimal nofun "receipts" "total"
    exact hbare.mpr (.inl ⟨_, rfl, by decide⟩)
  · obtain ⟨_, ⟨⟩, -, hcast⟩ :=
      casting_eq_reference_iff hderived .date nofun "receipts" "issued"
    apply hcast
    rintro (⟨found, ⟨⟩, hname⟩ | ⟨found, ⟨⟩, hmate⟩)
    · exact absurd hname (by decide)
    · cases hmate

/-- A column stored as `DATETIME` is compared as a `TIMESTAMP` without a cast. -/
theorem casting_datetime :
    ∃ known found,
      Table.ofJson? (.object [("name", .text "t"),
          ("columns", .list [.object [("name", .text "c"), ("type", .text "DATETIME")]])]) =
        .ok known ∧
      Converter.casting (some known) "t" "c" .timestamp = .ok (columnReference "t" "c") ∧
      DataType.castType? .timestamp = some .timestamp ∧
      known.columns.find? (·.name = "c") = some found ∧
      found.type ∉ Sql.CastType.timestamp.names :=
  ⟨⟨"t", [⟨"c", "DATETIME", .timestamp, true⟩]⟩, ⟨"c", "DATETIME", .timestamp, true⟩,
    by decide +kernel, by decide, rfl, by decide, by decide⟩

end TableExport
