import TableExport.Proofs.Query.NativeType
import TableExport.Proofs.Query.Projection
import TableExport.Proofs.Table.Spelling

/-! # Spellings of a type in a query

A query depends on the type of a column through its shape, which decides on the excerpt, and through
its class, which decides on the cast.  Both are found from the bare name if the class was derived,
so that columns whose types are spelled differently are compiled alike (`Column.CompiledAlike`).

Of the shapes, only those of columns with a class of their own are not cut: the columns that are not
cut are those with a type of fixed size (`TypeName.IsFixedSize`), and any other text for a type,
empty or unknown, gives a column that is cut (`Column.CutUnlessFixed`).  The texts of value and flag
are those of the shape, `Shape.valueText` and `Shape.flagText`.

Main statement: `spelling_compiledAlike`. -/

namespace TableExport

/-! ### Cuts -/

/-- Something is cut in the expression, apart from what is given as text. -/
def Sql.Expr.hasCut : Sql.Expr → Bool
  | .raw _ => false
  | .reference _ => false
  | .safeCast operand _ => operand.hasCut
  | .asText operand => operand.hasCut
  | .asJson operand => operand.hasCut
  | .asGeoJson operand => operand.hasCut
  | .cut _ _ => true
  | .unlessEmpty subject value => subject.hasCut || value.hasCut
  | .unlessNull subject value => subject.hasCut || value.hasCut
  | .isLonger operand _ => operand.hasCut
  | .zero => false

theorem Excerpt.hasCut_ofShape (shape : Shape) {reference : Sql.Expr}
    (h : reference.hasCut = false) (budget : Int) :
    (ofShape shape reference budget).value.hasCut = shape.isCut := by
  cases shape with
  | array => simp [ofShape, Sql.Expr.hasCut, Shape.isCut]
  | geography => simp [ofShape, Sql.Expr.hasCut, Shape.isCut]
  | document => simp [ofShape, Sql.Expr.hasCut, Shape.isCut]
  | text => rfl
  | moment => exact h
  | plain => exact h

/-- A value of a shape that is not cut stays as it is or becomes text. -/
theorem Excerpt.ofShape?_of_isCut_eq_false {shape : Shape} (h : shape.isCut = false)
    (reference : Sql.Expr) (budget : Int) :
    ∃ value, ofShape? shape reference budget = .ok ⟨value, .zero⟩ ∧
      (value = reference ∨ value = .asText reference) := by
  rw [ofShape?, h]
  cases shape with
  | moment => exact ⟨_, rfl, .inl rfl⟩
  | plain => exact ⟨_, rfl, .inr rfl⟩
  | _ => cases h

/-- A value of a shape that is cut is cut to the budget, if the budget can be written. -/
theorem Excerpt.ofShape?_of_isCut {shape : Shape} (h : shape.isCut = true) (reference : Sql.Expr)
    {budget : Int} (hbudget : (Numeral.write? budget).isSome = true) :
    ∃ text value, ofShape? shape reference budget = .ok ⟨value, .isLonger text budget⟩ ∧
      text.Cuts budget value := by
  have hwritten : (Numeral.write? budget).isNone = false := by
    rw [← Option.not_isSome, hbudget]
    rfl
  rw [ofShape?, hwritten, Bool.and_false]
  cases hmatched : ofShape shape reference budget with
  | mk value flag =>
      have hexcerpt := hmatched ▸ matched_ofShape shape reference budget
      cases hexcerpt with
      | cut _ hvalue => exact ⟨_, value, rfl, hvalue⟩
      | whole hwhole => exact absurd (h.symm.trans hwhole) (by decide)

/-! ### Types of fixed size -/

/-- The stem in capitals is one of the names in the table of classes. -/
def TypeName.IsFixedSize (text : String) : Prop :=
  String.ofList (Text.upper (stem text)) ∈ Entries.keys BaseType.ofBareName

theorem TypeName.bare_mem_keys_iff (text : String) :
    bare text ∈ Entries.keys BaseType.ofBareName ↔ IsFixedSize text := by
  rw [IsFixedSize, bare_eq, head_eq]
  split
  · next hrecord =>
    -- Neither of the two names for a nested type is in the table.
    rw [hrecord]
    decide
  · rfl

/-- The types that are cut whatever their class is. -/
def nestedNames : List String := ["ARRAY", "GEOGRAPHY", "JSON", "STRUCT"]

theorem Column.isCut_shape_iff (column : Column) :
    column.shape.isCut = true ↔ column.type ∈ nestedNames ∨ column.base = .string := by
  rw [nestedNames, List.mem_cons, List.mem_cons, List.mem_cons, List.mem_singleton]
  unfold shape
  by_cases harray : column.type = "ARRAY"
  · simp [harray, Shape.isCut]
  by_cases hgeography : column.type = "GEOGRAPHY"
  · simp [hgeography, Shape.isCut]
  by_cases hdocument : column.type = "JSON" ∨ column.type = "STRUCT"
  · simp [harray, hgeography, hdocument, Shape.isCut]
  by_cases hbase : column.base = .string
  · simp [harray, hgeography, hdocument, hbase, Shape.isCut]
  · rw [if_neg harray, if_neg hgeography, if_neg hdocument, if_neg hbase]
    split <;> simp [harray, hgeography, hdocument, hbase, Shape.isCut]

/-- The class of text is the class of every name that is not in the table of classes. -/
theorem BaseType.getD_lookup_eq_string_iff (name : String) :
    (ofBareName.lookup name).getD .string = .string ↔ name ∉ Entries.keys ofBareName := by
  constructor
  · intro hclass hknown
    have hclasses : ∀ entry ∈ ofBareName, entry.2 ≠ .string := by decide
    obtain ⟨base, hlookup⟩ := Entries.exists_get?_of_mem hknown
    rw [Entries.get?] at hlookup
    rw [hlookup] at hclass
    exact hclasses _ (Entries.mem_of_lookup hlookup) hclass
  · intro hunknown
    have hlookup : ofBareName.lookup name = none := Entries.get?_eq_none_of_not_mem hunknown
    rw [hlookup]
    rfl

/-- With a derived class, a column is cut unless its type is in the table of classes. -/
theorem Column.IsDerived.isCut_shape_iff {column : Column} (h : column.IsDerived) :
    column.shape.isCut = true ↔ column.type ∉ Entries.keys BaseType.ofBareName := by
  have hnested : ∀ name ∈ nestedNames, name ∉ Entries.keys BaseType.ofBareName := by decide
  rw [Column.isCut_shape_iff, h.base_eq, BaseType.getD_lookup_eq_string_iff]
  exact ⟨fun hcut => hcut.elim (hnested _) id, .inr⟩

/-! ### Declared columns -/

/-- The JSON data declare the column with a text for its type, and leave its class open. -/
def Column.DeclaredAs (value : Json.Value) (text : String) (column : Column) : Prop :=
  ∃ members, value = .object members ∧ leavesBaseOpen members = true ∧
    members.lookup "type" = some (.text text) ∧ ofJson? value = .ok column

theorem Column.DeclaredAs.eq_ofTypeText {value : Json.Value} {text : String} {column : Column}
    (h : DeclaredAs value text column) :
    column = .ofTypeText column.name text column.nullable := by
  obtain ⟨members, rfl, hopen, htype, hread⟩ := h
  obtain ⟨members', hmembers, haccepted⟩ := Json.record_eq_accepted (ofJson?_eq_ok_iff.mp hread)
  obtain rfl := Json.Value.object.inj hmembers
  exact Column.eq_ofTypeText hopen htype haccepted

theorem Column.DeclaredAs.type_eq {value : Json.Value} {text : String} {column : Column}
    (h : DeclaredAs value text column) : column.type = TypeName.bare text := by
  rw [h.eq_ofTypeText]
  dsimp only [ofTypeText]

theorem Column.DeclaredAs.base_eq {value : Json.Value} {text : String} {column : Column}
    (h : DeclaredAs value text column) : column.base = BaseType.ofTypeName text := by
  rw [h.eq_ofTypeText]
  dsimp only [ofTypeText]

/-- Two columns have the same type, class and shape; their excerpts are the same for all references
and budgets; and in tables that have them, the default converter gives the same expression for
them as any data type. -/
structure Column.CompiledAlike (column other : Column) : Prop where
  type_eq : column.type = other.type
  base_eq : column.base = other.base
  shape_eq : column.shape = other.shape
  excerpt_eq : ∀ reference budget,
    Excerpt.ofShape? column.shape reference budget = Excerpt.ofShape? other.shape reference budget
  casting_eq : ∀ (known known' : Table) (name : String), known.column? name = some column →
    known'.column? name = some other → ∀ (table : String) (type : DataType),
      Converter.casting (some known) table name type =
        Converter.casting (some known') table name type

theorem Excerpt.render_of_ofShape? {shape : Shape} {reference : Sql.Expr} {budget : Int}
    {excerpt : Excerpt} (h : ofShape? shape reference budget = .ok excerpt) :
    excerpt.value.render = shape.valueText reference.render budget ∧
      excerpt.flag.render = shape.flagText reference.render budget := by
  unfold ofShape? at h
  split at h
  · cases h
  · obtain rfl := Except.ok.inj h
    exact render_ofShape shape reference budget

/-- A column whose type is a text of fixed size is exported as it is or as text, with a flag that is
zero; any other column is cut to the budget, if that can be written.  So the value has no cut
exactly if the size is fixed.  The texts of value and flag are those of a shape that is cut exactly
if the size is not fixed. -/
structure Column.CutUnlessFixed (text : String) (column : Column) : Prop where
  uncut : TypeName.IsFixedSize text → ∀ reference budget,
    ∃ value, Excerpt.ofShape? column.shape reference budget = .ok ⟨value, .zero⟩ ∧
      (value = reference ∨ value = .asText reference)
  cut : ¬ TypeName.IsFixedSize text → ∀ reference budget,
    (Numeral.write? budget).isSome = true →
      ∃ whole value,
        Excerpt.ofShape? column.shape reference budget = .ok ⟨value, .isLonger whole budget⟩ ∧
        whole.Cuts budget value
  hasCut_iff : ∀ reference budget, reference.hasCut = false →
    ((Excerpt.ofShape column.shape reference budget).value.hasCut = false ↔
      TypeName.IsFixedSize text)
  shape_isCut : column.shape.isCut = true ↔ ¬ TypeName.IsFixedSize text
  texts : ∀ reference budget excerpt,
    Excerpt.ofShape? column.shape reference budget = .ok excerpt →
      excerpt.value.render = column.shape.valueText reference.render budget ∧
      excerpt.flag.render = column.shape.flagText reference.render budget

theorem Column.compiledAlike {column other : Column} (htype : column.type = other.type)
    (hbase : column.base = other.base) : column.CompiledAlike other where
  type_eq := htype
  base_eq := hbase
  shape_eq := by rw [shape, htype, hbase, shape]
  excerpt_eq reference budget := by rw [shape, htype, hbase, shape]
  casting_eq known known' name hcolumn hother table type := by
    have hnative : isNative (some known) name type = isNative (some known') name type := by
      rw [isNative, isNative, Option.bind_some, Option.bind_some, hcolumn, hother]
      simp only [hbase]
    rw [Converter.casting, Converter.casting, typedColumn, hnative, typedColumn]

theorem Column.IsDerived.cutUnlessFixed {column : Column} (h : column.IsDerived) {text : String}
    (htype : column.type = TypeName.bare text) : column.CutUnlessFixed text := by
  have hcut : column.shape.isCut = true ↔ ¬ TypeName.IsFixedSize text := by
    rw [h.isCut_shape_iff, htype, TypeName.bare_mem_keys_iff]
  have hwhole : column.shape.isCut = false ↔ TypeName.IsFixedSize text := by
    rw [← Bool.not_eq_true, hcut, Classical.not_not]
  refine ⟨?_, ?_, ?_, hcut, fun _ _ _ => Excerpt.render_of_ofShape?⟩
  · intro hfixed reference budget
    exact Excerpt.ofShape?_of_isCut_eq_false (hwhole.mpr hfixed) reference budget
  · intro hfixed reference budget hbudget
    exact Excerpt.ofShape?_of_isCut (hcut.mpr hfixed) reference hbudget
  · intro reference budget hreference
    rw [Excerpt.hasCut_ofShape _ hreference, hwhole]

/-! ### Main statement -/

/-- For every text: any text of the same stem, up to the case of ASCII letters, stands for it in the
data of a column that leaves the class open, and the columns that are declared with the two texts
are compiled alike; and a column that is declared with the text is cut unless the stem in capitals
is in the table of classes. -/
theorem spelling_compiledAlike (text : String) :
    (∀ other, TypeName.SameStem text other →
      (∀ members, Column.leavesBaseOpen members = true →
        Column.ofJson? (.object (Entries.put "type" (.text text) members)) =
          Column.ofJson? (.object (Entries.put "type" (.text other) members))) ∧
      ∀ value value' column column', Column.DeclaredAs value text column →
        Column.DeclaredAs value' other column' → column.CompiledAlike column') ∧
    ∀ value column, Column.DeclaredAs value text column → column.CutUnlessFixed text := by
  refine ⟨?_, ?_⟩
  · intro other hstem
    refine ⟨fun members hopen => Column.ofJson?_put_type hstem hopen, ?_⟩
    intro value value' column column' hcolumn hcolumn'
    apply Column.compiledAlike
    · rw [hcolumn.type_eq, hcolumn'.type_eq, hstem.bare_eq]
    · rw [hcolumn.base_eq, hcolumn'.base_eq, hstem.ofTypeName_eq]
  · intro value column hcolumn
    have hderived : column.IsDerived := ⟨text, hcolumn.eq_ofTypeText⟩
    exact hderived.cutUnlessFixed hcolumn.type_eq

/-- Blanks, letter case and parameters in any brackets do not matter for a number with a fixed
point, which is not cut, nor for a moment without a date, which is cut like an unknown type. -/
theorem spelling_compiledAlike_numeric :
    let spelled : Json.Value :=
      .object [("name", .text "n"), ("type", .text "\u2003numeric \n(38, 9)")]
    let other : Json.Value := .object [("base_type", .null), ("nullable", .text "no"),
      ("type", .text "Numeric<a(b>"), ("name", .text "m")]
    let moment : Json.Value := .object [("name", .text "at"), ("type", .text "time(6)")]
    let column : Column := ⟨"n", "NUMERIC", .numeric, true⟩
    let otherColumn : Column := ⟨"m", "NUMERIC", .numeric, false⟩
    let momentColumn : Column := ⟨"at", "TIME", .string, true⟩
    Column.DeclaredAs spelled "\u2003numeric \n(38, 9)" column ∧
      Column.DeclaredAs other "Numeric<a(b>" otherColumn ∧
      Column.ofJson? (.object [("name", .text "n"), ("type", .text "Numeric<a(b>")]) =
        Column.ofJson? spelled ∧
      column.CompiledAlike otherColumn ∧
      Excerpt.ofShape? column.shape (columnReference "t" "n") 5 =
        .ok ⟨.asText (columnReference "t" "n"), .zero⟩ ∧
      (Excerpt.ofShape column.shape (columnReference "t" "n") 5).value.hasCut = false ∧
      Column.DeclaredAs moment "time(6)" momentColumn ∧
      (Excerpt.ofShape momentColumn.shape (columnReference "t" "at") 5).value.hasCut = true ∧
      (Excerpt.ofShape momentColumn.shape (columnReference "t" "at") 5).value.render =
        "SUBSTRING(CAST(`t`.`at` as STRING), 0, 5)" := by
  intro spelled other moment column otherColumn momentColumn
  have hspelled : Column.DeclaredAs spelled "\u2003numeric \n(38, 9)" column :=
    ⟨_, rfl, rfl, rfl, by decide +kernel⟩
  have hother : Column.DeclaredAs other "Numeric<a(b>" otherColumn :=
    ⟨_, rfl, rfl, rfl, by decide +kernel⟩
  have hmoment : Column.DeclaredAs moment "time(6)" momentColumn :=
    ⟨_, rfl, rfl, rfl, by decide +kernel⟩
  have hstem : TypeName.SameStem "\u2003numeric \n(38, 9)" "Numeric<a(b>" := by
    rw [TypeName.SameStem]
    decide +kernel
  have hfixed : TypeName.IsFixedSize "\u2003numeric \n(38, 9)" := by
    rw [TypeName.IsFixedSize]
    decide +kernel
  have hunfixed : ¬ TypeName.IsFixedSize "time(6)" := by
    rw [TypeName.IsFixedSize]
    decide +kernel
  obtain ⟨halike, hcut⟩ := spelling_compiledAlike "\u2003numeric \n(38, 9)"
  obtain ⟨hread, hcompiled⟩ := halike "Numeric<a(b>" hstem
  have hcutMoment := (spelling_compiledAlike "time(6)").2 moment momentColumn hmoment
  refine ⟨hspelled, hother, ?_, hcompiled _ _ _ _ hspelled hother, rfl, ?_, hmoment, ?_, ?_⟩
  · exact (hread [("name", .text "n"), ("type", .null)] rfl).symm
  · exact ((hcut _ _ hspelled).hasCut_iff _ _ rfl).mpr hfixed
  · rw [← Bool.not_eq_false, hcutMoment.hasCut_iff _ _ rfl]
    exact hunfixed
  · have hexcerpt : Excerpt.ofShape? momentColumn.shape (columnReference "t" "at") 5 =
        .ok (Excerpt.ofShape momentColumn.shape (columnReference "t" "at") 5) := by decide +kernel
    exact (hcutMoment.texts _ _ _ hexcerpt).1

end TableExport
