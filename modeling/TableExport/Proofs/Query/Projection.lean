import Mathlib.Data.List.TakeWhile
import TableExport.Proofs.Query.FirstFault
import TableExport.Proofs.Query.FlagName

/-! # What a projection selects

With excerpts wanted, a projection selects two items for each column in order, a value under the
name of the column and a flag under a name drawn for it, up to the first column that has no excerpt
(`excerptFault?`).  A value that is cut is flagged by the length of the very text that is cut,
against the same budget; the flag of any other value is zero (`Excerpt.Matched`).  Without excerpts
there is one reference for each column, and everything is selected if no column is listed.  The
texts of all items are given as well, shape by shape (`Shape.valueText`, `Shape.flagText`).

Main statement: `carryOut_projectionParts`, for any draft and any supply of names that suffices. -/

namespace TableExport

/-! ### Value and flag -/

/-- The value is a text cut to a budget, perhaps replaced by null. -/
inductive Sql.Expr.Cuts (text : Sql.Expr) (budget : Int) : Sql.Expr → Prop
  | always : Cuts text budget (.cut text budget)
  | unlessEmpty (subject : Sql.Expr) : Cuts text budget (.unlessEmpty subject (.cut text budget))
  | unlessNull (subject : Sql.Expr) : Cuts text budget (.unlessNull subject (.cut text budget))

/-- The flag of a value that is cut measures the text that is cut, and any other flag is zero. -/
inductive Excerpt.Matched (budget : Int) (shape : Shape) : Excerpt → Prop
  | cut {text value : Sql.Expr} (hshape : shape.isCut = true) (hvalue : text.Cuts budget value) :
      Matched budget shape ⟨value, .isLonger text budget⟩
  | whole {value : Sql.Expr} (hshape : shape.isCut = false) : Matched budget shape ⟨value, .zero⟩

theorem Excerpt.matched_ofShape (shape : Shape) (column : Sql.Expr) (budget : Int) :
    (ofShape shape column budget).Matched budget shape := by
  cases shape with
  | array => exact .cut rfl (.unlessEmpty column)
  | geography => exact .cut rfl (.unlessNull column)
  | document => exact .cut rfl (.unlessNull column)
  | text => exact .cut rfl .always
  | moment => exact .whole rfl
  | plain => exact .whole rfl

/-! ### The texts of value and flag -/

namespace Shape

variable (shape : Shape) (column : String) (budget : Int)

/-- The text for a whole value of a column. -/
def wholeText : String :=
  match shape with
  | .array => "TO_JSON_STRING(" ++ column ++ ")"
  | .geography => "ST_ASGEOJSON(" ++ column ++ ")"
  | .document => "TO_JSON_STRING(" ++ column ++ ")"
  | .text => "CAST(" ++ column ++ " as STRING)"
  | .moment => column
  | .plain => "CAST(" ++ column ++ " as STRING)"

/-- The text for a value that is cut to a budget. -/
def cutText : String :=
  "SUBSTRING(" ++ shape.wholeText column ++ ", 0, " ++ budget.repr ++ ")"

/-- The text for the value of a column. -/
def valueText : String :=
  match shape with
  | .array => "IF(ARRAY_LENGTH(" ++ column ++ ") = 0, NULL, " ++ shape.cutText column budget ++ ")"
  | .geography => "IF(" ++ column ++ " IS NULL, NULL, " ++ shape.cutText column budget ++ ")"
  | .document => "IF(" ++ column ++ " IS NULL, NULL, " ++ shape.cutText column budget ++ ")"
  | .text => shape.cutText column budget
  | .moment => shape.wholeText column
  | .plain => shape.wholeText column

/-- The text for the flag of a column. -/
def flagText : String :=
  if shape.isCut then
    "(CASE WHEN LENGTH(" ++ shape.wholeText column ++ ") > " ++ budget.repr ++ " THEN 1 ELSE 0 END)"
  else "0"

end Shape

theorem Excerpt.render_ofShape (shape : Shape) (column : Sql.Expr) (budget : Int) :
    (ofShape shape column budget).value.render = shape.valueText column.render budget ∧
      (ofShape shape column budget).flag.render = shape.flagText column.render budget := by
  cases shape <;> exact ⟨rfl, rfl⟩

/-! ### Columns with an excerpt -/

variable {settings : Settings} {known? : Option Table} {table column : String}
  {columns names : List String} {left : FlagName.Supply}

theorem excerptOf_eq {found : Column} (h : known?.bind (·.column? column) = some found) :
    excerptOf settings known? table column =
      Excerpt.ofShape found.shape (columnReference table column) settings.budget := by
  rw [excerptOf, h]
  rfl

/-- The columns up to the first one without an excerpt. -/
def excerptedColumns (settings : Settings) (known? : Option Table) (columns : List String) :
    List String :=
  columns.takeWhile fun column => (excerptFault? settings known? column).isNone

theorem exists_column?_of_mem_excerptedColumns
    (h : column ∈ excerptedColumns settings known? columns) :
    ∃ found, known?.bind (·.column? column) = some found := by
  have hnone := List.mem_takeWhile_imp h
  unfold excerptFault? at hnone
  cases hfound : known?.bind (·.column? column) with
  | none =>
      rw [hfound] at hnone
      cases hnone
  | some found => exact ⟨found, rfl⟩

/-! ### Selecting -/

/-- The draft with more items behind its own. -/
def Draft.addItems (draft : Draft) (items : List Sql.SelectItem) : Draft :=
  { draft with select := draft.select ++ items }

theorem Draft.addItems_nil (draft : Draft) : draft.addItems [] = draft := by
  rw [addItems, List.append_nil]

theorem Draft.map_render_select_addItems (draft : Draft) (items : List Sql.SelectItem) :
    (draft.addItems items).select.map Sql.SelectItem.render =
      draft.select.map Sql.SelectItem.render ++ items.map Sql.SelectItem.render :=
  List.map_append

theorem Draft.addItems_append (draft : Draft) (items others : List Sql.SelectItem) :
    draft.addItems (items ++ others) = (draft.addItems items).addItems others := by
  simp only [addItems, List.append_assoc]

/-- The items for columns with names for their flags. -/
def namedExcerpts (settings : Settings) (known? : Option Table) (table : String)
    (columns names : List String) : List Sql.SelectItem :=
  (columns.zip names).flatMap fun (column, name) =>
    excerptItems (excerptOf settings known? table) column name

theorem perform_excerptSteps_of_next? {excerpt : String → Excerpt} {s : Session} {name : String}
    {next : FlagName.Supply} (h : s.names.next? column = some (name, next)) :
    perform (excerptSteps column (excerpt column)) s =
      (⟨s.draft.addItems (excerptItems excerpt column name), next⟩, none) := by
  have hflag : Step.take? (.selectFlag (excerpt column).flag column)
      ⟨s.draft.addItem (.aliased (excerpt column).value column), s.names⟩ =
        .ok ⟨s.draft.addItems (excerptItems excerpt column name), next⟩ := by
    simp only [Step.take?, h, Draft.addItem, Draft.addItems, excerptItems, List.append_assoc]
    rfl
  simp only [excerptSteps, perform, Step.take?] at hflag ⊢
  rw [hflag]

/-- Selecting excerpts draws names for the columns in order, up to the first one without an excerpt,
and adds two items for each of them. -/
theorem carryOut_excerptParts {s : Session}
    (hnames : s.names.names? (excerptedColumns settings known? columns) = some (names, left)) :
    (Plan.ofParts (columns.map (excerptPart settings known? table))).carryOut s =
      (⟨s.draft.addItems (namedExcerpts settings known? table
          (excerptedColumns settings known? columns) names), left⟩,
        columns.findSome? (excerptFault? settings known?)) := by
  induction columns generalizing s names with
  | nil =>
      obtain ⟨rfl, rfl⟩ := Prod.mk.inj (Option.some.inj hnames)
      change _ = ((⟨s.draft.addItems [], s.names⟩ : Session), _)
      rw [Draft.addItems_nil]
      rfl
  | cons column columns ih =>
      have hfault := faultOf?_excerptPart settings known? table column
      rw [List.map_cons, List.findSome?_cons, ← hfault]
      rw [excerptedColumns, List.takeWhile_cons, ← hfault] at hnames ⊢
      cases hpart : excerptPart settings known? table column with
      | error fault =>
          rw [hpart] at hnames
          obtain ⟨rfl, rfl⟩ := Prod.mk.inj (Option.some.inj hnames)
          change _ = ((⟨s.draft.addItems [], s.names⟩ : Session), _)
          rw [Draft.addItems_nil]
          rfl
      | ok steps =>
          rw [hpart] at hnames
          obtain ⟨name, next, others, hnext, hothers, rfl⟩ := FlagName.Supply.names?_cons hnames
          obtain ⟨found, hfound, rfl⟩ := excerptPart_eq_ok hpart
          rw [← excerptOf_eq hfound, Plan.carryOut_ofParts_ok (perform_excerptSteps_of_next? hnext)]
          refine (ih hothers).trans ?_
          rw [← Draft.addItems_append]
          rfl

theorem carryOut_referenceParts (table : String) (columns : List String) (s : Session) :
    (Plan.ofParts (columns.map fun column =>
      .ok [.select (.plain (columnReference table column))])).carryOut s =
      (⟨s.draft.addItems (columns.map fun column => .plain (columnReference table column)),
        s.names⟩, none) := by
  induction columns generalizing s with
  | nil =>
      rw [List.map_nil, List.map_nil, Draft.addItems_nil]
      rfl
  | cons column columns ih =>
      rw [List.map_cons, List.map_cons, Plan.carryOut_ofParts_ok rfl]
      refine (ih _).trans ?_
      rw [← List.singleton_append, Draft.addItems_append]
      rfl

/-! ### The items by position -/

theorem getElem?_flatMap_pair {α β : Type} (f g : α → β) (l : List α) (index : Nat) :
    (l.flatMap fun a => [f a, g a])[2 * index]? = l[index]?.map f ∧
      (l.flatMap fun a => [f a, g a])[2 * index + 1]? = l[index]?.map g := by
  induction l generalizing index with
  | nil => exact ⟨rfl, rfl⟩
  | cons a l ih =>
      rw [List.flatMap_cons, List.cons_append, List.cons_append, List.nil_append]
      cases index with
      | zero => exact ⟨rfl, rfl⟩
      | succ index => exact ih index

theorem getElem?_namedExcerpts (settings : Settings) (known? : Option Table) (table : String)
    {index : Nat} {name : String} (hcolumn : columns[index]? = some column)
    (hname : names[index]? = some name) :
    (namedExcerpts settings known? table columns names)[2 * index]? =
        some (.aliased (excerptOf settings known? table column).value column) ∧
      (namedExcerpts settings known? table columns names)[2 * index + 1]? =
        some (.aliased (excerptOf settings known? table column).flag name) := by
  have hzipped : (columns.zip names)[index]? = some (column, name) :=
    List.getElem?_zip_eq_some.mpr ⟨hcolumn, hname⟩
  have hpair := getElem?_flatMap_pair
    (fun entry : String × String =>
      Sql.SelectItem.aliased (excerptOf settings known? table entry.1).value entry.1)
    (fun entry => .aliased (excerptOf settings known? table entry.1).flag entry.2)
    (columns.zip names) index
  rwa [hzipped] at hpair

/-- For each column in order there are two items: an excerpt of the first column of the table with
the name, as its shape has it, and the flag under the name drawn for it.  Both are written with the
words of the statement. -/
structure SelectsExcerpts (settings : Settings) (known? : Option Table) (table : String)
    (suffixes columns names : List String) (items : List Sql.SelectItem) : Prop where
  length_eq : items.length = 2 * columns.length
  pair : ∀ index column, columns[index]? = some column →
    ∃ (found : Column) (suffix : String) (excerpt : Excerpt),
      known?.bind (·.column? column) = some found ∧
      suffix ∈ suffixes ∧ names[index]? = some (column ++ suffix) ∧
      excerpt = .ofShape found.shape (columnReference table column) settings.budget ∧
      excerpt.Matched settings.budget found.shape ∧
      items[2 * index]? = some (.aliased excerpt.value column) ∧
      items[2 * index + 1]? = some (.aliased excerpt.flag (column ++ suffix))
  texts : ∀ (index : Nat) (column name : String) (found : Column), columns[index]? = some column →
    names[index]? = some name → known?.bind (·.column? column) = some found →
      (items.map Sql.SelectItem.render)[2 * index]? =
        some (found.shape.valueText (Sql.qualified [table, column]) settings.budget ++ " AS "
          ++ Sql.identifier column) ∧
      (items.map Sql.SelectItem.render)[2 * index + 1]? =
        some (found.shape.flagText (Sql.qualified [table, column]) settings.budget ++ " AS "
          ++ Sql.identifier name)

theorem selectsExcerpts_namedExcerpts {supply : FlagName.Supply}
    (hdefined : ∀ column ∈ columns, ∃ found, known?.bind (·.column? column) = some found)
    (hnames : supply.names? columns = some (names, left)) :
    SelectsExcerpts settings known? table supply.suffixes columns names
      (namedExcerpts settings known? table columns names) := by
  have hsuffixes := FlagName.names?_suffix hnames
  have hzip : (columns.zip names).length = columns.length := by
    rw [List.length_zip, hsuffixes.length_eq, Nat.min_self]
  refine ⟨?_, ?_, ?_⟩
  · rw [namedExcerpts, List.length_flatMap]
    simp [excerptItems, hzip, Nat.mul_comm]
  · intro index column hcolumn
    obtain ⟨found, hfound⟩ := hdefined column (List.mem_of_getElem? hcolumn)
    obtain ⟨_, hname, suffix, hmem, rfl⟩ := exists_getElem?_of_forall₂ hsuffixes hcolumn
    obtain ⟨hvalue, hflag⟩ := getElem?_namedExcerpts settings known? table hcolumn hname
    exact ⟨found, suffix, excerptOf settings known? table column, hfound, hmem, hname,
      excerptOf_eq hfound, excerptOf_eq hfound ▸ Excerpt.matched_ofShape _ _ _, hvalue, hflag⟩
  · intro index column name found hcolumn hname hfound
    obtain ⟨hvalue, hflag⟩ := getElem?_namedExcerpts settings known? table hcolumn hname
    obtain ⟨hvalueText, hflagText⟩ :=
      Excerpt.render_ofShape found.shape (columnReference table column) settings.budget
    rw [excerptOf_eq hfound] at hvalue hflag
    rw [List.getElem?_map, List.getElem?_map, hvalue, hflag, Option.map_some, Option.map_some,
      Sql.SelectItem.render, Sql.SelectItem.render, hvalueText, hflagText]
    exact ⟨rfl, rfl⟩

/-- Any draft gets, for a projection without columns, an item for everything; without excerpts, a
reference for each column; and with excerpts, two items for each column up to the first one without
an excerpt, with whose fault the projection ends.  Names are drawn for excerpts only, in order.  The
texts of the items stand behind those of the items that were there. -/
theorem carryOut_projectionParts (settings : Settings) (known? : Option Table) (table : String)
    (truncate : Bool) (columns : List String) (session : Session) :
    let run := (Plan.ofParts
      (projectionParts settings known? table truncate columns)).carryOut session
    let before := session.draft.select.map Sql.SelectItem.render
    let after := run.1.draft.select.map Sql.SelectItem.render
    (columns = [] → run = (⟨session.draft.addItems [.everything], session.names⟩, none) ∧
        after = before ++ ["*"]) ∧
      (columns ≠ [] → truncate = false →
        run = (⟨session.draft.addItems (columns.map fun column =>
          .plain (columnReference table column)), session.names⟩, none) ∧
        after = before ++ columns.map fun column => Sql.qualified [table, column]) ∧
      (columns ≠ [] → truncate = true → ∀ names left,
        session.names.names? (excerptedColumns settings known? columns) = some (names, left) →
        ∃ items,
          run = (⟨session.draft.addItems items, left⟩,
            columns.findSome? (excerptFault? settings known?)) ∧
          after = before ++ items.map Sql.SelectItem.render ∧
          SelectsExcerpts settings known? table session.names.suffixes
            (excerptedColumns settings known? columns) names items) := by
  dsimp only
  refine ⟨?_, ?_, ?_⟩
  · rintro rfl
    exact ⟨rfl, Draft.map_render_select_addItems _ _⟩
  · rintro hcolumns rfl
    rw [projectionParts_false, if_neg hcolumns, carryOut_referenceParts]
    refine ⟨rfl, ?_⟩
    rw [Draft.map_render_select_addItems, List.map_map]
    rfl
  · rintro hcolumns rfl names left hnames
    rw [projectionParts_true hcolumns, carryOut_excerptParts hnames]
    exact ⟨_, rfl, Draft.map_render_select_addItems _ _,
      selectsExcerpts_namedExcerpts (fun _ => exists_column?_of_mem_excerptedColumns) hnames⟩

/-- A table with a column that is cut and one that is not. -/
def mixedTable : Table :=
  ⟨"t", [⟨"a", "JSON", .string, true⟩, ⟨"b", "TIME", .timestamp, true⟩]⟩

/-- A column that is listed twice has two excerpts with different names for their flags, and a
column without a definition ends the projection behind six items.  The flag of the column that is
cut measures the text that is cut, and the flag of the other one is zero. -/
theorem carryOut_projectionParts_missing :
    ∃ items,
      (Plan.ofParts (projectionParts Settings.standard (some mixedTable) "t" true
        ["a", "b", "a", "c", "b"])).carryOut ⟨Draft.empty, ⟨["a1"], ["1", "2", "3", "4"]⟩⟩ =
          (⟨Draft.empty.addItems items, ⟨["a4", "b3", "a2", "a1"], []⟩⟩,
            some (.columnMissing "c")) ∧
      items.length = 6 ∧
      items[0]? = some (.aliased (.unlessNull (.reference ["t", "a"])
        (.cut (.asJson (.reference ["t", "a"])) 16384)) "a") ∧
      items[1]? = some (.aliased (.isLonger (.asJson (.reference ["t", "a"])) 16384) "a2") ∧
      items[3]? = some (.aliased .zero "b3") ∧
      (items.map Sql.SelectItem.render)[4]? = some
        "IF(`t`.`a` IS NULL, NULL, SUBSTRING(TO_JSON_STRING(`t`.`a`), 0, 16384)) AS `a`" ∧
      (items.map Sql.SelectItem.render)[5]? = some
        "(CASE WHEN LENGTH(TO_JSON_STRING(`t`.`a`)) > 16384 THEN 1 ELSE 0 END) AS `a4`" := by
  obtain ⟨-, -, hexcerpts⟩ := carryOut_projectionParts Settings.standard (some mixedTable) "t"
    true ["a", "b", "a", "c", "b"] ⟨Draft.empty, ⟨["a1"], ["1", "2", "3", "4"]⟩⟩
  obtain ⟨items, hrun, -, hitems⟩ := hexcerpts (by decide) rfl ["a2", "b3", "a4"]
    ⟨["a4", "b3", "a2", "a1"], []⟩ (by decide +kernel)
  have hcolumns : excerptedColumns Settings.standard (some mixedTable)
      ["a", "b", "a", "c", "b"] = ["a", "b", "a"] := by decide +kernel
  rw [hcolumns] at hitems
  have hfault : ["a", "b", "a", "c", "b"].findSome? (excerptFault? Settings.standard
      (some mixedTable)) = some (.columnMissing "c") := by decide +kernel
  rw [hfault] at hrun
  obtain ⟨cut, suffix, excerpt, hcut, -, hname, rfl, -, hvalue, hflag⟩ := hitems.pair 0 "a" rfl
  obtain ⟨whole, other, excerpt', hwhole, -, hname', rfl, -, -, hzero⟩ := hitems.pair 1 "b" rfl
  obtain rfl := Option.some.inj hcut
  obtain rfl := Option.some.inj hwhole
  rw [← Option.some.inj hname] at hflag
  rw [← Option.some.inj hname'] at hzero
  obtain ⟨htext, htext'⟩ := hitems.texts 2 "a" "a4" _ rfl rfl rfl
  exact ⟨items, hrun, hitems.length_eq, hvalue, hflag, hzero, htext, htext'⟩

end TableExport
