import Mathlib.Data.List.Basic
import TableExport.Proofs.Query.Parameters
import TableExport.Proofs.Sql.Reading

/-! # What the text of a query tells of its request

The outline of a request is what a reader of the compiled text can see of it: the source, the
columns, for each filter its column, its operator, whether it tests membership, and the type it
casts to, the bounds that are set, the sort keys that count, and the limit.  Two requests without
excerpts whose texts are equal have the same outline, whatever their names contain
(`Request.outline_eq_of_sql_eq`).

The text determines the statement (`Sql.Statement.render_injective`).  The rest of this module says
which statement a request gives, list by list, and reads the outline off it. -/

namespace TableExport

/-! ### Outlines -/

/-- What a statement shows of a filter. -/
structure FilterOutline where
  column : String
  operator : Operator
  several : Bool
  cast : Option Sql.CastType
  deriving DecidableEq, Repr

/-- What a statement shows of a sort key. -/
structure SortOutline where
  column : String
  cast : Option Sql.CastType
  direction : Direction
  deriving DecidableEq, Repr

/-- What a statement shows of a request. -/
structure Outline where
  dataset : Option String
  table : String
  columns : List String
  filters : List FilterOutline
  hasSince : Bool
  hasUntil : Bool
  order : List SortOutline
  limit : Int
  deriving DecidableEq, Repr

/-- The outline of a filter. -/
def Filter.outline (filter : Filter) : FilterOutline :=
  ⟨filter.column, filter.operator, filter.hasSeveral, filter.type.castType?⟩

/-- The outline of a sort key. -/
def SortKey.outline (key : SortKey) : SortOutline :=
  ⟨key.column, key.type.castType?, key.direction⟩

/-- The outline of a request: an empty dataset is none, sort keys after the first one that is not a
text do not count, and a negative limit is none. -/
def Request.outline (request : Request) : Outline where
  dataset := request.dataset.filter (· ≠ "")
  table := request.table
  columns := request.columns
  filters := request.filters.map Filter.outline
  hasSince := request.changedSince ≠ ""
  hasUntil := request.changedUntil ≠ ""
  order := (SortKey.effective request.order).map SortKey.outline
  limit := max request.limit 0

/-! ### Single expressions and relations -/

theorem Filter.relation_inj {first second : Filter} (hf : first.isAllowed = true)
    (hs : second.isAllowed = true) (h : first.relation = second.relation) :
    first.operator = second.operator ∧ first.hasSeveral = second.hasSeveral := by
  unfold isAllowed at hf hs
  unfold relation at h
  cases hfirst : first.hasSeveral <;> cases hsecond : second.hasSeveral <;>
    cases hop : first.operator <;> cases hop' : second.operator <;>
      simp_all [Operator.membership?]

/-- Without a known table a column is cast whenever its type has a cast. -/
theorem typedColumn_none (table column : String) (type : DataType) :
    typedColumn none table column type =
      match type.castType? with
      | none => .reference [table, column]
      | some target => .safeCast (.reference [table, column]) target := by
  cases type <;> rfl

theorem typedColumn_none_inj {table other column column' : String} {type type' : DataType}
    (h : typedColumn none table column type = typedColumn none other column' type') :
    column = column' ∧ type.castType? = type'.castType? := by
  rw [typedColumn_none, typedColumn_none] at h
  cases hcast : type.castType? <;> cases hcast' : type'.castType? <;> simp_all

theorem isColumn_typedColumn_none (table column : String) (type : DataType) :
    (typedColumn none table column type).IsColumn := by
  rw [typedColumn_none]
  split
  · exact .reference (List.cons_ne_nil _ _)
  · exact .cast (List.cons_ne_nil _ _) _

/-- The column of a row's last change is named without its table, unlike the columns of filters. -/
theorem typedColumn_none_ne_changeTime (table column : String) (type : DataType) :
    typedColumn none table column type ≠ .reference [changeTimeColumn] := by
  rw [typedColumn_none]
  split <;> simp

/-- If equal images under some functions come from elements with equal images under others, so it
is for lists. -/
theorem map_eq_map_of_imp {α β γ : Type} {f f' : α → β} {g g' : α → γ} {p : α → Prop}
    (himp : ∀ a b, p a → p b → f a = f' b → g a = g' b) {xs ys : List α} (hxs : ∀ a ∈ xs, p a)
    (hys : ∀ b ∈ ys, p b) (h : xs.map f = ys.map f') : xs.map g = ys.map g' := by
  induction xs generalizing ys with
  | nil =>
      rw [List.map_eq_nil_iff.mp h.symm]
      rfl
  | cons x xs ih =>
      obtain ⟨y, ys, rfl, hy, htail⟩ := List.map_eq_cons_iff.mp h.symm
      rw [List.map_cons, List.map_cons,
        himp x y (hxs x List.mem_cons_self) (hys y List.mem_cons_self) hy.symm,
        ih (List.forall_mem_of_forall_mem_cons hxs) (List.forall_mem_of_forall_mem_cons hys)
          htail.symm]

/-! ### The statement of a request -/

namespace Request

/-- The items that a request without excerpts selects. -/
def items (request : Request) : List Sql.SelectItem :=
  if request.columns = [] then [.everything]
  else request.columns.map fun column => .plain (columnReference request.table column)

/-- The relations that the filters require. -/
def filterTests (request : Request) : List (Sql.Expr × Sql.Relation) :=
  request.filters.map fun filter =>
    (typedColumn none request.table filter.column filter.type, filter.relation)

/-- The relations that the change window requires. -/
def windowTests (request : Request) : List (Sql.Expr × Sql.Relation) :=
  (if request.changedSince = "" then [] else [(.reference [changeTimeColumn], .compares .ge)])
    ++ if request.changedUntil = "" then [] else [(.reference [changeTimeColumn], .compares .lt)]

theorem fst_of_mem_windowTests {request : Request} {test : Sql.Expr × Sql.Relation}
    (h : test ∈ request.windowTests) : test.1 = .reference [changeTimeColumn] := by
  unfold windowTests at h
  rcases List.mem_append.mp h with hbound | hbound <;> split at hbound <;> simp_all

/-- The terms that a request sorts by. -/
def terms (request : Request) : List Sql.OrderTerm :=
  (SortKey.effective request.order).map fun key =>
    ⟨typedColumn none request.table key.column key.type, key.direction⟩

/-- The statement is the one of the request, up to the names of parameters. -/
structure Shows (request : Request) (statement : Sql.Statement) : Prop where
  select : statement.select = request.items
  source : statement.source = request.source
  tests : statement.conditions.filterMap Sql.Condition.test? =
    request.filterTests ++ request.windowTests
  order : statement.order = request.terms
  limit : statement.limit = request.rows

/-- The steps for a request without excerpts, without the values that they bind. -/
theorem map_mask_steps_none {settings : Settings} {request : Request}
    (htruncate : request.truncate = false)
    (h : (request.plan settings (Converter.casting none) none).fault = none) :
    (request.plan settings (Converter.casting none) none).steps.map Step.mask =
      request.items.map .select
        ++ request.filters.map (fun filter =>
          .require (typedColumn none request.table filter.column filter.type) filter.relation
            filter.boundType (.scalar .null))
        ++ (changeBoundShape "changedSince" .ge (request.changedSince == "")
          ++ changeBoundShape "changedUntil" .lt (request.changedUntil == ""))
        ++ request.terms.map .sort
        ++ request.rows.toList.map .limit := by
  have hitems : ((projectionParts settings none request.table false request.columns).flatMap
      partSteps).map Step.mask = request.items.map .select := by
    rw [projectionParts_false, items]
    split
    · rfl
    · rw [List.flatMap_map, List.map_flatMap, List.map_map, List.map_eq_flatMap]
      rfl
  have hterms : ((SortKey.effective request.order).flatMap fun key =>
      partSteps (sortPart (Converter.casting none) request.table key)) =
        request.terms.map .sort := by
    rw [flatMap_sortPart_casting, terms, List.map_map]
    rfl
  rw [map_mask_steps h, htruncate, hitems, hterms, map_mask_limitPart, filterShape_casting,
    ← List.map_eq_flatMap]

/-- Without excerpts no name is drawn. -/
theorem drawsName_steps_none {settings : Settings} {request : Request}
    (htruncate : request.truncate = false)
    (h : (request.plan settings (Converter.casting none) none).fault = none) :
    ∀ step ∈ (request.plan settings (Converter.casting none) none).steps,
      step.drawsName = false := by
  have hmasked : ∀ step ∈ (request.plan settings (Converter.casting none) none).steps.map
      Step.mask, step.drawsName = false := by
    rw [map_mask_steps_none htruncate h]
    unfold changeBoundShape
    simp only [List.mem_append, List.mem_map]
    rintro step
      ((((⟨item, -, rfl⟩ | ⟨filter, -, rfl⟩) | hwindow) | ⟨term, -, rfl⟩) | ⟨rows, -, rfl⟩)
    · rfl
    · rfl
    · rcases hwindow with hbound | hbound <;> split at hbound <;> simp_all [Step.drawsName]
    · rfl
    · rfl
  intro step hstep
  rw [← Step.drawsName_mask]
  exact hmasked step.mask (List.mem_map_of_mem hstep)

/-- The draft at the end of a request without excerpts shows the request. -/
theorem shows_perform {settings : Settings} {suffixes : List String} {request : Request}
    {last : Session} (htruncate : request.truncate = false)
    (hfault : (request.plan settings (Converter.casting none) none).fault = none)
    (h : perform (request.plan settings (Converter.casting none) none).steps
      (request.start suffixes) = (last, none)) :
    request.Shows (request.statement last.draft) := by
  have hmask := map_mask_steps_none htruncate hfault
  have hselect := select_perform (drawsName_steps_none htruncate hfault) h
  have htests := tests_perform h
  have horder := order_perform h
  have hlimit := limit_perform h
  rw [← filterMap_map_mask Step.item?_mask, hmask] at hselect
  rw [← filterMap_map_mask Step.test?_mask, hmask] at htests
  rw [← filterMap_map_mask Step.term?_mask, hmask] at horder
  rw [← filterMap_map_mask Step.rows?_mask, hmask] at hlimit
  simp only [List.filterMap_append, List.filterMap_map, filterMap_changeBoundShape,
    Function.comp_def, Step.item?, Step.test?, Step.term?, Step.rows?]
    at hselect htests horder hlimit
  constructor
  · simpa [start, statement, Draft.empty, Draft.setSource] using hselect
  · rfl
  · simpa [start, statement, Draft.empty, Draft.setSource, filterTests, windowTests] using htests
  · simpa [start, statement, Draft.empty, Draft.setSource] using horder
  · cases hrows : request.rows <;>
      simpa [start, statement, Draft.empty, Draft.setSource, hrows] using hlimit

/-- Among structured statements, one that shows a request is plain. -/
theorem Shows.isPlain {request : Request} {statement : Sql.Statement}
    (h : request.Shows statement) (hstructured : statement.IsStructured) : statement.IsPlain := by
  constructor
  · rw [h.select, items]
    split
    · exact .inl rfl
    · next hcolumns =>
        refine .inr ⟨fun hnil => hcolumns (List.map_eq_nil_iff.mp hnil), ?_⟩
        intro item hitem
        obtain ⟨column, -, rfl⟩ := List.mem_map.mp hitem
        exact .plain (.reference (List.cons_ne_nil _ _))
  · obtain ⟨parts, hparts, hsource⟩ := request.source_eq_reference
    exact ⟨parts, hparts, h.source.trans hsource⟩
  · intro condition hcondition
    have hproper := hstructured.conditions condition hcondition
    cases condition with
    | raw sql => cases hproper
    | test subject relation parameter =>
        have htest : (subject, relation) ∈ request.filterTests ++ request.windowTests := by
          rw [← h.tests]
          exact List.mem_filterMap.mpr ⟨_, hcondition, rfl⟩
        refine .test ?_ hproper.2
        rcases List.mem_append.mp htest with hfilter | hwindow
        · obtain ⟨filter, -, heq⟩ := List.mem_map.mp hfilter
          obtain ⟨rfl, -⟩ := Prod.mk.inj heq
          exact isColumn_typedColumn_none _ _ _
        · have hsubject := fst_of_mem_windowTests hwindow
          dsimp only at hsubject
          rw [hsubject]
          exact .reference (List.cons_ne_nil _ _)
  · intro term hterm
    rw [h.order] at hterm
    obtain ⟨key, -, rfl⟩ := List.mem_map.mp hterm
    exact isColumn_typedColumn_none _ _ _

/-! ### Reading the outline -/

section reading

variable {request other : Request}

theorem dataset_table_of_source_eq (h : request.source = other.source) :
    request.dataset.filter (· ≠ "") = other.dataset.filter (· ≠ "") ∧
      request.table = other.table := by
  have hsource : ∀ r : Request, r.source =
      .reference ((r.dataset.filter (· ≠ "")).toList ++ [r.table]) := by
    intro r
    unfold source
    cases r.dataset with
    | none => rfl
    | some dataset => by_cases hempty : dataset = "" <;> simp [Option.filter, hempty]
  rw [hsource, hsource, Sql.Source.reference.injEq] at h
  obtain ⟨hdataset, htable⟩ := List.append_inj' h rfl
  have hhead := congrArg List.head? hdataset
  rw [Option.head?_toList, Option.head?_toList] at hhead
  exact ⟨hhead, (List.cons.inj htable).1⟩

theorem columns_of_items_eq (h : request.items = other.items) :
    request.columns = other.columns := by
  unfold items at h
  by_cases hcolumns : request.columns = []
  · by_cases hothers : other.columns = []
    · rw [hcolumns, hothers]
    · rw [if_pos hcolumns, if_neg hothers] at h
      obtain ⟨column, rest, -, hitem, -⟩ := List.map_eq_cons_iff.mp h.symm
      cases hitem
  · by_cases hothers : other.columns = []
    · rw [if_neg hcolumns, if_pos hothers] at h
      obtain ⟨column, rest, -, hitem, -⟩ := List.map_eq_cons_iff.mp h
      cases hitem
    · rw [if_neg hcolumns, if_neg hothers] at h
      have hplain : ∀ column column' : String,
          Sql.SelectItem.plain (columnReference request.table column) =
            .plain (columnReference other.table column') → id column = id column' := by
        simp [columnReference]
      have hnames := map_eq_map_of_imp (p := fun _ => True) (fun a b _ _ => hplain a b)
        (fun _ _ => trivial) (fun _ _ => trivial) h
      rwa [List.map_id, List.map_id] at hnames

/-- The relations of a statement fall apart into those of the filters and those of the window. -/
theorem tests_inj
    (h : request.filterTests ++ request.windowTests = other.filterTests ++ other.windowTests) :
    request.filterTests = other.filterTests ∧ request.windowTests = other.windowTests := by
  have hfilters : ∀ r : Request, (r.filterTests ++ r.windowTests).filter
      (fun test => test.1 ≠ .reference [changeTimeColumn]) = r.filterTests := by
    intro r
    have hkept : ∀ test ∈ r.filterTests, test.1 ≠ .reference [changeTimeColumn] := by
      intro test htest
      obtain ⟨filter, -, rfl⟩ := List.mem_map.mp htest
      exact typedColumn_none_ne_changeTime _ _ _
    have hdropped : ∀ test ∈ r.windowTests, ¬ test.1 ≠ .reference [changeTimeColumn] :=
      fun test htest hne => hne (fst_of_mem_windowTests htest)
    rw [List.filter_append, List.filter_eq_self.mpr (by simpa using hkept),
      List.filter_eq_nil_iff.mpr (by simpa using hdropped), List.append_nil]
  have hfilter := congrArg (List.filter fun test => test.1 ≠ .reference [changeTimeColumn]) h
  rw [hfilters, hfilters] at hfilter
  rw [hfilter] at h
  exact ⟨hfilter, List.append_cancel_left h⟩

theorem bounds_of_windowTests_eq (h : request.windowTests = other.windowTests) :
    (request.changedSince ≠ "" ↔ other.changedSince ≠ "") ∧
      (request.changedUntil ≠ "" ↔ other.changedUntil ≠ "") := by
  unfold windowTests at h
  by_cases hs : request.changedSince = "" <;> by_cases hs' : other.changedSince = "" <;>
    by_cases hu : request.changedUntil = "" <;> by_cases hu' : other.changedUntil = "" <;>
      simp_all

theorem filterOutlines_of_filterTests_eq (hr : ∀ filter ∈ request.filters, filter.isAllowed)
    (ho : ∀ filter ∈ other.filters, filter.isAllowed)
    (h : request.filterTests = other.filterTests) :
    request.filters.map Filter.outline = other.filters.map Filter.outline := by
  refine map_eq_map_of_imp (p := fun filter => filter.isAllowed) ?_ hr ho h
  intro filter filter' hallowed hallowed' htest
  obtain ⟨hsubject, hrelation⟩ := Prod.mk.inj htest
  obtain ⟨hcolumn, hcast⟩ := typedColumn_none_inj hsubject
  obtain ⟨hoperator, hseveral⟩ := Filter.relation_inj hallowed hallowed' hrelation
  unfold Filter.outline
  rw [hcolumn, hcast, hoperator, hseveral]

theorem sortOutlines_of_terms_eq (h : request.terms = other.terms) :
    (SortKey.effective request.order).map SortKey.outline =
      (SortKey.effective other.order).map SortKey.outline := by
  refine map_eq_map_of_imp (p := fun _ => True) ?_ (fun _ _ => trivial) (fun _ _ => trivial) h
  intro key key' _ _ hterm
  obtain ⟨hexpr, hdirection⟩ := Sql.OrderTerm.mk.inj hterm
  obtain ⟨hcolumn, hcast⟩ := typedColumn_none_inj hexpr
  unfold SortKey.outline
  rw [hcolumn, hcast, hdirection]

theorem limit_of_rows_eq (h : request.rows = other.rows) :
    max request.limit 0 = max other.limit 0 := by
  unfold rows at h
  split at h <;> split at h <;> simp at h <;> omega

/-- A statement shows the outline of its request. -/
theorem Shows.outline_eq {statement : Sql.Statement} (hr : request.Shows statement)
    (ho : other.Shows statement) (hallowed : ∀ filter ∈ request.filters, filter.isAllowed)
    (hallowed' : ∀ filter ∈ other.filters, filter.isAllowed) : request.outline = other.outline := by
  obtain ⟨hdataset, htable⟩ := dataset_table_of_source_eq (hr.source.symm.trans ho.source)
  have hcolumns := columns_of_items_eq (hr.select.symm.trans ho.select)
  obtain ⟨hfilterTests, hwindowTests⟩ := tests_inj (hr.tests.symm.trans ho.tests)
  have hfilters := filterOutlines_of_filterTests_eq hallowed hallowed' hfilterTests
  obtain ⟨hsince, huntil⟩ := bounds_of_windowTests_eq hwindowTests
  have horder := sortOutlines_of_terms_eq (hr.order.symm.trans ho.order)
  have hlimit := limit_of_rows_eq (hr.limit.symm.trans ho.limit)
  unfold outline
  rw [hdataset, htable, hcolumns, hfilters, horder, hlimit, decide_eq_decide.mpr hsince,
    decide_eq_decide.mpr huntil]

end reading

/-- Two requests without excerpts that compile to the same text have the same outline. -/
theorem outline_eq_of_sql_eq {settings settings' : Settings} {suffixes suffixes' : List String}
    {request other : Request} {query query' : Query} (hr : request.truncate = false)
    (ho : other.truncate = false) (h : request.compile settings none suffixes = .ok query)
    (h' : other.compile settings' none suffixes' = .ok query') (hsql : query.sql = query'.sql) :
    request.outline = other.outline := by
  obtain ⟨hfault, last, hperform, -, hstructured, rfl⟩ := finished_of_compile h
  obtain ⟨hfault', last', hperform', -, hstructured', rfl⟩ := finished_of_compile h'
  have hshows := shows_perform hr hfault hperform
  have hshows' := shows_perform ho hfault' hperform'
  have hstatement := Sql.Statement.render_injective (hshows.isPlain hstructured)
    (hshows'.isPlain hstructured') hsql
  rw [← hstatement] at hshows'
  exact hshows.outline_eq hshows' (isAllowed_of_fault_eq_none hfault)
    (isAllowed_of_fault_eq_none hfault')

/-- A request without excerpts whose names are hostile. -/
def hostileColumns : Request :=
  { hostile with truncate := false }

/-- Another request with the same names: the literals, the two names of one cast, the limits and the
sort keys that do not count are different. -/
def lookalike : Request :=
  { hostileColumns with
    filters := [⟨"@param_1 ", .ne, "7", ["8", "9"], .bigint⟩, ⟨"`", .eq, "", [], .string⟩]
    order := [⟨"` DESC LIMIT 1", .string, .ascending⟩, ⟨"d`", .double, .descending⟩,
      ⟨"e", .string, .ascending⟩]
    changedSince := "5" }

theorem outline_eq_of_sql_eq_lookalike :
    hostileColumns ≠ lookalike ∧ ∃ query query',
      hostileColumns.compile Settings.standard none [] = .ok query ∧
        lookalike.compile Settings.standard none [] = .ok query' ∧ query.sql = query'.sql ∧
          hostileColumns.outline = lookalike.outline := by
  have hsql : (hostileColumns.compile Settings.standard none []).map Query.sql =
      (lookalike.compile Settings.standard none []).map Query.sql := by
    decide +kernel
  have hok : (hostileColumns.compile Settings.standard none []).isOk = true := by decide +kernel
  have hok' : (lookalike.compile Settings.standard none []).isOk = true := by decide +kernel
  obtain ⟨query, hquery⟩ := exists_eq_ok_of_isOk hok
  obtain ⟨query', hquery'⟩ := exists_eq_ok_of_isOk hok'
  rw [hquery, hquery'] at hsql
  have htexts : query.sql = query'.sql := Except.ok.inj hsql
  exact ⟨by decide, query, query', hquery, hquery', htexts,
    outline_eq_of_sql_eq rfl rfl hquery hquery' htexts⟩

end Request
end TableExport
