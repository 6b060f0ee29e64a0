import Mathlib.Data.List.Forall2
import TableExport.Proofs.Query.Part

/-! # The names of flag columns

Names for flag columns are drawn one after the other.  They differ from each other and from those
issued before, and each is its column with a suffix of the supply (`FlagName.names?_fresh`,
`FlagName.names?_suffix`).

With excerpts a statement selects two items for each column, the excerpt under the column's name and
the flag under the name drawn.  No two flags have one name.  The supply does not know the listed
columns, so that a flag may get the name of one of them (`Request.flagName_eq_column`), but only of
one that is named like a listed column with a suffix of the supply; without such columns no alias of
a flag occurs a second time (`Request.flagNames_compileWith`). -/

namespace TableExport

theorem exists_getElem?_of_forall₂ {α β : Type} {R : α → β → Prop} {as : List α} {bs : List β}
    (h : List.Forall₂ R as bs) {index : Nat} {a : α} (ha : as[index]? = some a) :
    ∃ b, bs[index]? = some b ∧ R a b := by
  induction h generalizing index with
  | nil => cases ha
  | cons hhead _ ih =>
      cases index with
      | zero =>
          obtain rfl := Option.some.inj ha
          exact ⟨_, rfl, hhead⟩
      | succ index => exact ih ha

namespace FlagName

/-! ### Drawing several names -/

/-- The names for several columns, drawn one after the other, and the supply that is left. -/
def Supply.names? (supply : Supply) : List String → Option (List String × Supply)
  | [] => some ([], supply)
  | column :: rest =>
      match supply.next? column with
      | none => none
      | some (name, next) => (next.names? rest).map fun (names, last) => (name :: names, last)

variable {supply next last : Supply} {column name : String} {columns names : List String}

/-- A name that is drawn is new and is remembered; the suffixes that are left are some of those that
were there. -/
theorem Supply.next?_eq_some (h : supply.next? column = some (name, next)) :
    name ∉ supply.issued ∧ next.issued = name :: supply.issued ∧
      next.suffixes ⊆ supply.suffixes ∧ ∃ suffix ∈ supply.suffixes, name = column ++ suffix := by
  unfold next? at h
  obtain ⟨⟨drawn, rest⟩, hdraw, heq⟩ := Option.map_eq_some_iff.mp h
  obtain ⟨rfl, rfl⟩ := Prod.mk.inj heq
  obtain ⟨skipped, suffix, hsuffixes, hname, hnew, -⟩ := (draw?_eq_some_iff _ _ _ _ _).mp hdraw
  have hmem : suffix ∈ supply.suffixes := by
    rw [hsuffixes]
    exact List.mem_append_right _ List.mem_cons_self
  refine ⟨hnew, rfl, fun other hother => ?_, suffix, hmem, hname⟩
  rw [hsuffixes]
  exact List.mem_append_right _ (List.mem_cons_of_mem _ hother)

theorem Supply.names?_cons (h : supply.names? (column :: columns) = some (names, last)) :
    ∃ name next rest, supply.next? column = some (name, next) ∧
      next.names? columns = some (rest, last) ∧ names = name :: rest := by
  rw [names?] at h
  cases hnext : supply.next? column with
  | none =>
      rw [hnext] at h
      cases h
  | some drawn =>
      obtain ⟨name, next⟩ := drawn
      rw [hnext] at h
      obtain ⟨⟨rest, left⟩, hrest, heq⟩ := Option.map_eq_some_iff.mp h
      obtain ⟨rfl, rfl⟩ := Prod.mk.inj heq
      exact ⟨name, next, rest, rfl, hrest, rfl⟩

/-- Names that are drawn one after the other differ from each other and from those issued before. -/
theorem names?_fresh (h : supply.names? columns = some (names, last)) :
    names.Nodup ∧ ∀ name ∈ names, name ∉ supply.issued := by
  induction columns generalizing supply names with
  | nil =>
      obtain ⟨rfl, -⟩ := Prod.mk.inj (Option.some.inj h)
      exact ⟨List.nodup_nil, fun _ hname => by cases hname⟩
  | cons column columns ih =>
      obtain ⟨name, next, rest, hnext, hrest, rfl⟩ := Supply.names?_cons h
      obtain ⟨hnew, hissued, -, -⟩ := Supply.next?_eq_some hnext
      obtain ⟨hnodup, hfresh⟩ := ih hrest
      rw [hissued] at hfresh
      refine ⟨List.nodup_cons.mpr ⟨fun hmem => hfresh name hmem List.mem_cons_self, hnodup⟩, ?_⟩
      intro other hother
      rcases List.mem_cons.mp hother with rfl | hmem
      · exact hnew
      · exact fun hold => hfresh other hmem (List.mem_cons_of_mem _ hold)

/-- Each name is its column with a suffix of the supply. -/
theorem names?_suffix (h : supply.names? columns = some (names, last)) :
    List.Forall₂ (fun column name => ∃ suffix ∈ supply.suffixes, name = column ++ suffix) columns
      names := by
  induction columns generalizing supply names with
  | nil =>
      obtain ⟨rfl, -⟩ := Prod.mk.inj (Option.some.inj h)
      exact .nil
  | cons column columns ih =>
      obtain ⟨name, next, rest, hnext, hrest, rfl⟩ := Supply.names?_cons h
      obtain ⟨-, -, hleft, hsuffix⟩ := Supply.next?_eq_some hnext
      refine .cons hsuffix ((ih hrest).imp ?_)
      rintro column name ⟨suffix, hmem, hname⟩
      exact ⟨suffix, hleft hmem, hname⟩

/-- Each name belongs to one of the columns. -/
theorem names?_mem (h : supply.names? columns = some (names, last)) (hname : name ∈ names) :
    ∃ column ∈ columns, ∃ suffix ∈ supply.suffixes, name = column ++ suffix := by
  have hsuffix := names?_suffix h
  clear h
  induction hsuffix with
  | nil => cases hname
  | cons hhead _ ih =>
      rcases List.mem_cons.mp hname with rfl | hmem
      · exact ⟨_, List.mem_cons_self, hhead⟩
      · obtain ⟨column, hcolumn, hsuffix⟩ := ih hmem
        exact ⟨column, List.mem_cons_of_mem _ hcolumn, hsuffix⟩

end FlagName

/-! ### Selecting excerpts -/

/-- The two items that are selected for a column with an excerpt and a name for its flag. -/
def excerptItems (excerpt : String → Excerpt) (column name : String) : List Sql.SelectItem :=
  [.aliased (excerpt column).value column, .aliased (excerpt column).flag name]

/-- Selecting excerpts draws a name for each column and adds the items in order, nothing else. -/
theorem perform_excerptSteps (excerpt : String → Excerpt) {columns : List String}
    {s last : Session}
    (h : perform (columns.flatMap fun column => excerptSteps column (excerpt column)) s =
      (last, none)) :
    ∃ names, s.names.names? columns = some (names, last.names) ∧
      last.draft = { s.draft with
        select := s.draft.select ++ (columns.zip names).flatMap fun (column, name) =>
          excerptItems excerpt column name } := by
  induction columns generalizing s with
  | nil =>
      cases h
      refine ⟨[], rfl, ?_⟩
      rw [List.zip_nil_left, List.flatMap_nil, List.append_nil]
  | cons column columns ih =>
      rw [List.flatMap_cons, excerptSteps, List.cons_append, List.cons_append, List.nil_append] at h
      obtain ⟨selected, hselected, h⟩ := perform_cons_eq_ok h
      obtain ⟨flagged, hflagged, h⟩ := perform_cons_eq_ok h
      cases hselected
      obtain ⟨name, next, hnext, rfl⟩ := Step.take?_selectFlag hflagged
      obtain ⟨names, hnames, hdraft⟩ := ih h
      refine ⟨name :: names, ?_, ?_⟩
      · rw [FlagName.Supply.names?, hnext]
        dsimp only
        rw [hnames]
        rfl
      · rw [hdraft, List.zip_cons_cons, List.flatMap_cons, ← List.append_assoc]
        simp only [Draft.addItem, List.append_assoc]
        rfl

/-- The excerpt of a column, if the table is known to have it. -/
def excerptOf (settings : Settings) (known? : Option Table) (table column : String) : Excerpt :=
  Excerpt.ofShape ((known?.bind (·.column? column)).elim .plain Column.shape)
    (columnReference table column) settings.budget

theorem partSteps_excerptPart {settings : Settings} {known? : Option Table} {table column : String}
    (h : excerptPart settings known? table column =
      .ok (partSteps (excerptPart settings known? table column))) :
    partSteps (excerptPart settings known? table column) =
      excerptSteps column (excerptOf settings known? table column) := by
  obtain ⟨found, hfound, hsteps⟩ := excerptPart_eq_ok h
  rw [hsteps, excerptOf, hfound]
  rfl

namespace Request

variable {settings : Settings} {converter : Converter} {known? : Option Table}
  {suffixes : List String} {request : Request} {query : Query}

/-- The parts behind the projection. -/
def laterParts (converter : Converter) (request : Request) : List (Except Fault (List Step)) :=
  request.filters.map (filterPart converter request.table)
    ++ changeWindowParts request.changedSince request.changedUntil
    ++ orderParts converter request.table request.order
    ++ [limitPart request.limit]

theorem parts_eq (settings : Settings) (converter : Converter) (known? : Option Table)
    (request : Request) :
    request.parts settings converter known? =
      projectionParts settings known? request.table request.truncate request.columns
        ++ request.laterParts converter := by
  unfold parts laterParts
  simp only [List.append_assoc]

/-- Only the projection selects. -/
theorem selects_of_mem_laterParts {steps : List Step}
    (h : .ok steps ∈ request.laterParts converter) :
    ∀ step ∈ steps, step.item? = none ∧ step.drawsName = false := by
  intro step hstep
  simp only [laterParts, List.mem_append] at h
  rcases h with ((hfilter | hwindow) | hkey) | hlimit
  · obtain ⟨filter, -, hfilter⟩ := List.mem_map.mp hfilter
    obtain ⟨_, _, _, _, -, -, rfl⟩ := filterPart_eq_ok hfilter
    rw [List.mem_singleton.mp hstep]
    exact ⟨rfl, rfl⟩
  · have hbound : ∀ {name text : String} {operator : Operator},
        changeBoundPart name operator text = .ok steps →
          step.item? = none ∧ step.drawsName = false := by
      intro name text operator hpart
      rcases changeBoundPart_eq_ok hpart with ⟨-, rfl⟩ | ⟨-, moment, rfl⟩
      · cases hstep
      · rw [List.mem_singleton.mp hstep]
        exact ⟨rfl, rfl⟩
    rcases List.mem_pair.mp hwindow with hpart | hpart
    · exact hbound hpart.symm
    · exact hbound hpart.symm
  · rw [orderParts_eq] at hkey
    obtain ⟨key, -, hkey⟩ := List.mem_map.mp hkey
    obtain ⟨expr, rfl⟩ := sortPart_eq_ok hkey
    rw [List.mem_singleton.mp hstep]
    exact ⟨rfl, rfl⟩
  · rw [limitPart_eq] at hlimit
    obtain rfl := Except.ok.inj (List.mem_singleton.mp hlimit)
    obtain ⟨rows, -, rfl⟩ := List.mem_map.mp hstep
    exact ⟨rfl, rfl⟩

theorem selects_of_mem_laterSteps {step : Step}
    (h : step ∈ (request.laterParts converter).flatMap partSteps) :
    step.item? = none ∧ step.drawsName = false := by
  obtain ⟨part, hpart, hmem⟩ := List.mem_flatMap.mp h
  cases part with
  | error fault => cases hmem
  | ok steps => exact selects_of_mem_laterParts hpart step hmem

/-- The items that a run for a request with excerpts selects. -/
theorem select_of_perform (htruncate : request.truncate = true) (hcolumns : request.columns ≠ [])
    {last : Session} (hfault : (request.plan settings converter known?).fault = none)
    (h : perform (request.plan settings converter known?).steps (request.start suffixes) =
      (last, none)) :
    ∃ (names : List String) (left : FlagName.Supply),
      FlagName.Supply.names? ⟨[], suffixes⟩ request.columns = some (names, left) ∧
      last.draft.select = (request.columns.zip names).flatMap fun (column, name) =>
        excerptItems (excerptOf settings known? request.table) column name := by
  have hparts : ∀ column ∈ request.columns,
      partSteps (excerptPart settings known? request.table column) =
        excerptSteps column (excerptOf settings known? request.table column) := by
    intro column hcolumn
    refine partSteps_excerptPart (part_eq_ok hfault ?_)
    rw [parts_eq, htruncate, projectionParts_true hcolumns]
    exact List.mem_append_left _ (List.mem_map_of_mem hcolumn)
  have hsteps : (request.plan settings converter known?).steps =
      (request.columns.flatMap fun column =>
        excerptSteps column (excerptOf settings known? request.table column))
        ++ (request.laterParts converter).flatMap partSteps := by
    unfold plan at hfault ⊢
    rw [Plan.steps_ofParts hfault, parts_eq, htruncate, projectionParts_true hcolumns,
      List.flatMap_append, List.flatMap_map, List.flatMap_congr hparts]
  rw [hsteps] at h
  obtain ⟨selected, hselected, hrest⟩ := perform_append_eq_ok h
  obtain ⟨names, hnames, hdraft⟩ := perform_excerptSteps _ hselected
  have hselect := select_perform (fun _ hstep => (selects_of_mem_laterSteps hstep).2) hrest
  rw [List.filterMap_eq_nil_iff.mpr fun _ hstep => (selects_of_mem_laterSteps hstep).1,
    List.append_nil, hdraft] at hselect
  exact ⟨names, selected.names, hnames, hselect⟩

/-- The items of a compiled request with excerpts. -/
theorem select_of_compileWith (htruncate : request.truncate = true)
    (hcolumns : request.columns ≠ [])
    (h : (request.compileWith settings converter known? suffixes).1 = .ok query) :
    ∃ (statement : Sql.Statement) (names : List String) (left : FlagName.Supply),
      query.sql = statement.render ∧
      FlagName.Supply.names? ⟨[], suffixes⟩ request.columns = some (names, left) ∧
      statement.select = (request.columns.zip names).flatMap fun (column, name) =>
        excerptItems (excerptOf settings known? request.table) column name := by
  obtain ⟨hfault, last, hperform, rfl⟩ := run_of_compileWith h
  obtain ⟨names, left, hnames, hselect⟩ := select_of_perform htruncate hcolumns hfault hperform
  exact ⟨request.statement last.draft, names, left, rfl, hnames, hselect⟩

/-- A compiled request with excerpts selects for each column an excerpt, under the column's name,
and a flag.  The names of the flags differ from each other, and each is its column with a suffix of
the supply; if no listed column is named like this too, they differ from the columns' names. -/
theorem flagNames_compileWith (htruncate : request.truncate = true)
    (hcolumns : request.columns ≠ [])
    (h : (request.compileWith settings converter known? suffixes).1 = .ok query) :
    ∃ (statement : Sql.Statement) (names : List String), query.sql = statement.render ∧
      (statement.select = (request.columns.zip names).flatMap fun (column, name) =>
        excerptItems (excerptOf settings known? request.table) column name) ∧
      List.Forall₂ (fun column name => ∃ suffix ∈ suffixes, name = column ++ suffix)
        request.columns names ∧
      names.Nodup ∧
      ((∀ column ∈ request.columns, ∀ suffix ∈ suffixes, column ++ suffix ∉ request.columns) →
        names.Disjoint request.columns) := by
  obtain ⟨statement, names, left, hsql, hnames, hselect⟩ :=
    select_of_compileWith htruncate hcolumns h
  refine ⟨statement, names, hsql, hselect, FlagName.names?_suffix hnames,
    (FlagName.names?_fresh hnames).1, ?_⟩
  intro hapart name hname hcolumn
  obtain ⟨column, hlisted, suffix, hmem, rfl⟩ := FlagName.names?_mem hnames hname
  exact hapart column hlisted suffix hmem hcolumn

/-- A table with a column that has the name of another one with a suffix. -/
def clashing : Table :=
  ⟨"t", [⟨"a", "INT64", .integer, true⟩, ⟨"a0123456789ab4", "INT64", .integer, true⟩]⟩

/-- A request for excerpts of both columns. -/
def clash : Request :=
  ⟨"t", none, ["a", "a0123456789ab4"], [], [], 0, "", "", true⟩

/-- With other suffixes no alias of a flag occurs a second time. -/
theorem flagNames_compileWith_apart :
    ∃ (query : Query) (statement : Sql.Statement) (names : List String),
      (clash.compileWith Settings.standard (Converter.casting none) (some clashing)
        ["1123456789ab4", "2123456789ab4"]).1 = .ok query ∧
      query.sql = statement.render ∧
      (statement.select = (clash.columns.zip names).flatMap fun (column, name) =>
        excerptItems (excerptOf Settings.standard (some clashing) "t") column name) ∧
      names.Nodup ∧ names.Disjoint clash.columns := by
  have hok : (clash.compileWith Settings.standard (Converter.casting none) (some clashing)
      ["1123456789ab4", "2123456789ab4"]).1.isOk = true := by
    decide +kernel
  obtain ⟨query, hquery⟩ := exists_eq_ok_of_isOk hok
  obtain ⟨statement, names, hsql, hselect, -, hnodup, hdisjoint⟩ :=
    flagNames_compileWith rfl (by decide) hquery
  exact ⟨query, statement, names, hquery, hsql, hselect, hnodup, hdisjoint (by decide)⟩

/-- The flag of the first column gets the name of the second column. -/
theorem flagName_eq_column :
    (clash.compile Settings.standard (some clashing) ["0123456789ab4", "1123456789ab4"]).map
        Query.sql =
      .ok ("SELECT CAST(`t`.`a` as STRING) AS `a`, 0 AS `a0123456789ab4`, "
        ++ "CAST(`t`.`a0123456789ab4` as STRING) AS `a0123456789ab4`, "
        ++ "0 AS `a0123456789ab41123456789ab4` FROM `t`") := by
  decide +kernel

end Request
end TableExport
