import Mathlib.Data.List.Basic
import TableExport.Proofs.Query.Outline
import TableExport.Proofs.Query.Simulation

/-! # What a known table changes

The default converter may know the table or not.  With the same table for the excerpts, the same
settings and the same suffixes, it makes hardly any difference which of the two compiles a request:
both fail for the same reason, or both give the same parameters and statements that are the same but
for casts, which are left out where the table stores the column natively
(`Request.compile_recast`).  What it is to leave out a cast is said of expressions (`SkipsCast`) and
of texts (`SkipsCastText`).

The two plans have the same steps but for the expressions of filters and sort keys (`Step.Recast`),
and on these expressions neither the counter nor the names nor the bindings depend
(`Session.Recast`). -/

namespace TableExport

/-! ### Casts -/

/-- The first column of the table with the name is of the class that needs no cast to the type. -/
def StoresNatively (known? : Option Table) (column : String) (type : DataType) : Prop :=
  ∃ known found, known? = some known ∧ known.columns.find? (·.name = column) = some found ∧
    type.nativeBase? = some found.base

theorem isNative_iff (known? : Option Table) (column : String) (type : DataType) :
    isNative known? column type = true ↔ StoresNatively known? column type := by
  unfold isNative
  cases known? with
  | none =>
      refine ⟨nofun, ?_⟩
      rintro ⟨known, found, hknown, -, -⟩
      cases hknown
  | some known =>
      rw [Option.bind_some]
      cases hfound : known.column? column with
      | none =>
          refine ⟨nofun, ?_⟩
          rintro ⟨_, found, ⟨⟩, hother, -⟩
          rw [← Table.column?, hfound] at hother
          cases hother
      | some found =>
          refine ⟨fun h => ⟨known, found, rfl, hfound, (of_decide_eq_true h).symm⟩, ?_⟩
          rintro ⟨_, other, ⟨⟩, hother, hbase⟩
          rw [← Table.column?, hfound] at hother
          obtain rfl := Option.some.inj hother
          exact decide_eq_true hbase.symm

/-- A column as a data type where the table is known and where it is not: the one has no cast where
the other has one just if the table stores the column natively. -/
inductive SkipsCast (known? : Option Table) (table column : String) (type : DataType) :
    Sql.Expr → Sql.Expr → Prop
  | text (htype : type = .string) :
      SkipsCast known? table column type (columnReference table column)
        (columnReference table column)
  | skipped {target : Sql.CastType} (htarget : type.castType? = some target)
      (hstored : StoresNatively known? column type) :
      SkipsCast known? table column type (columnReference table column)
        (.safeCast (columnReference table column) target)
  | kept {target : Sql.CastType} (htarget : type.castType? = some target)
      (hstored : ¬ StoresNatively known? column type) :
      SkipsCast known? table column type (.safeCast (columnReference table column) target)
        (.safeCast (columnReference table column) target)

/-- The name of the type in the text of a cast. -/
def castNames : List (DataType × String) :=
  [(.integer, "INT64"), (.bigint, "INT64"), (.real, "FLOAT64"), (.double, "FLOAT64"),
    (.decimal, "NUMERIC"), (.boolean, "BOOL"), (.date, "DATE"), (.timestamp, "TIMESTAMP")]

/-- The texts for a column as a data type where the table is known and where it is not. -/
inductive SkipsCastText (known? : Option Table) (table column : String) (type : DataType) :
    String → String → Prop
  | text (htype : type = .string) :
      SkipsCastText known? table column type (Sql.qualified [table, column])
        (Sql.qualified [table, column])
  | skipped {name : String} (hname : (type, name) ∈ castNames)
      (hstored : StoresNatively known? column type) :
      SkipsCastText known? table column type (Sql.qualified [table, column])
        ("SAFE_CAST(" ++ Sql.qualified [table, column] ++ " AS " ++ name ++ ")")
  | kept {name : String} (hname : (type, name) ∈ castNames)
      (hstored : ¬ StoresNatively known? column type) :
      SkipsCastText known? table column type
        ("SAFE_CAST(" ++ Sql.qualified [table, column] ++ " AS " ++ name ++ ")")
        ("SAFE_CAST(" ++ Sql.qualified [table, column] ++ " AS " ++ name ++ ")")

theorem mem_castNames {type : DataType} {target : Sql.CastType}
    (h : type.castType? = some target) : (type, target.name) ∈ castNames := by
  cases type with
  | string => cases h
  | _ =>
      obtain rfl := Option.some.inj h
      decide

theorem SkipsCast.texts {known? : Option Table} {table column : String} {type : DataType}
    {expr expr' : Sql.Expr} (h : SkipsCast known? table column type expr expr') :
    SkipsCastText known? table column type expr.render expr'.render := by
  cases h with
  | text htype => exact .text htype
  | skipped htarget hstored => exact .skipped (mem_castNames htarget) hstored
  | kept htarget hstored => exact .kept (mem_castNames htarget) hstored

theorem DataType.eq_string_of_castType? {type : DataType} (h : type.castType? = none) :
    type = .string := by
  cases type <;> first | rfl | cases h

theorem skipsCast_typedColumn (known? : Option Table) (table column : String) (type : DataType) :
    SkipsCast known? table column type (typedColumn known? table column type)
      (typedColumn none table column type) := by
  rw [typedColumn_none]
  unfold typedColumn
  cases hcast : type.castType? with
  | none => exact .text (DataType.eq_string_of_castType? hcast)
  | some target =>
      dsimp only
      by_cases hstored : StoresNatively known? column type
      · rw [if_pos ((isNative_iff known? column type).mpr hstored)]
        exact .skipped hcast hstored
      · rw [if_neg fun hnative => hstored ((isNative_iff known? column type).mp hnative)]
        exact .kept hcast hstored

/-! ### Recast steps -/

/-- The steps are the same but for the expression that is compared or sorted by. -/
inductive Step.Recast : Step → Step → Prop
  | same (step : Step) : Recast step step
  | require (subject other : Sql.Expr) (relation : Sql.Relation) (type : ParameterType)
      (value : BoundValue) :
      Recast (.require subject relation type value) (.require other relation type value)
  | sort (expr other : Sql.Expr) (direction : Direction) :
      Recast (.sort ⟨expr, direction⟩) (.sort ⟨other, direction⟩)

/-- The sessions are the same but for conditions and order. -/
def Session.Recast (s t : Session) : Prop :=
  ∃ conditions order,
    t = { s with draft := { s.draft with conditions := conditions, order := order } }

theorem Session.Recast.refl (s : Session) : s.Recast s :=
  ⟨s.draft.conditions, s.draft.order, rfl⟩

theorem Step.Recast.simulates {step other : Step} (h : step.Recast other) :
    Step.Simulates Session.Recast step other := by
  rintro s _ ⟨conditions, order, rfl⟩
  cases h with
  | require subject other relation type value => exact .inl ⟨_, _, rfl, rfl, _, _, rfl⟩
  | sort expr other direction => exact .inl ⟨_, _, rfl, rfl, _, _, rfl⟩
  | same =>
      cases step with
      | select item => exact .inl ⟨_, _, rfl, rfl, _, _, rfl⟩
      | selectFlag flag column =>
          simp only [take?]
          cases s.names.next? column with
          | none => exact .inr ⟨_, rfl, rfl⟩
          | some drawn => exact .inl ⟨_, _, rfl, rfl, _, _, rfl⟩
      | require subject relation type value => exact .inl ⟨_, _, rfl, rfl, _, _, rfl⟩
      | requireNamed name subject relation type value =>
          simp only [take?, Draft.bindNamed?]
          by_cases hbound : name ∈ s.draft.values.keys
          · rw [if_pos hbound, if_pos hbound]
            exact .inr ⟨_, rfl, rfl⟩
          · rw [if_neg hbound, if_neg hbound]
            cases Parameter.isReserved name with
            | true => exact .inr ⟨_, rfl, rfl⟩
            | false => exact .inl ⟨_, _, rfl, rfl, _, _, rfl⟩
      | sort term => exact .inl ⟨_, _, rfl, rfl, _, _, rfl⟩
      | limit rows => exact .inl ⟨_, _, rfl, rfl, _, _, rfl⟩

/-- Whether a draft can be finished depends neither on its conditions nor on its order. -/
theorem Draft.finish?_recast (draft : Draft) (conditions : List Sql.Condition)
    (order : List Sql.OrderTerm) :
    (∃ fault, draft.finish? = .error fault ∧
        { draft with conditions := conditions, order := order }.finish? = .error fault) ∨
      ∃ query query', draft.finish? = .ok query ∧
        { draft with conditions := conditions, order := order }.finish? = .ok query' :=
  finish?_alike rfl rfl

/-! ### Recast plans -/

section parts

variable {typed? other? : Option Table} {table : String}

theorem partsAlike_refl (part : Except Fault (List Step)) :
    Plan.PartsAlike Step.Recast part part := by
  cases part with
  | ok steps => exact .ok (List.forall₂_same.mpr fun step _ => .same step)
  | error fault => exact .error fault

theorem partsAlike_filterPart (filter : Filter) :
    Plan.PartsAlike Step.Recast (filterPart (Converter.casting typed?) table filter)
      (filterPart (Converter.casting other?) table filter) := by
  unfold filterPart
  cases filterTest filter with
  | error fault => exact .error fault
  | ok test =>
      obtain ⟨relation, type, value⟩ := test
      dsimp only
      rw [filterSubject_casting, filterSubject_casting]
      exact .ok (.cons (.require _ _ relation type value) .nil)

theorem partsAlike_sortPart (key : SortKey) :
    Plan.PartsAlike Step.Recast (sortPart (Converter.casting typed?) table key)
      (sortPart (Converter.casting other?) table key) := by
  rw [sortPart_casting, sortPart_casting]
  exact .ok (.cons (.sort _ _ key.direction) .nil)

end parts

namespace Request

variable {settings : Settings} {known? typed? : Option Table} {request : Request}

theorem parts_recast (settings : Settings) (known? typed? other? : Option Table)
    (request : Request) :
    List.Forall₂ (Plan.PartsAlike Step.Recast)
      (request.parts settings (Converter.casting typed?) known?)
      (request.parts settings (Converter.casting other?) known?) := by
  have hsame : ∀ parts, List.Forall₂ (Plan.PartsAlike Step.Recast) parts parts :=
    fun parts => List.forall₂_same.mpr fun part _ => partsAlike_refl part
  have hfilters : List.Forall₂ (Plan.PartsAlike Step.Recast)
      (request.filters.map (filterPart (Converter.casting typed?) request.table))
      (request.filters.map (filterPart (Converter.casting other?) request.table)) := by
    rw [List.forall₂_map_left_iff, List.forall₂_map_right_iff]
    exact List.forall₂_same.mpr fun filter _ => partsAlike_filterPart filter
  have horder : List.Forall₂ (Plan.PartsAlike Step.Recast)
      (orderParts (Converter.casting typed?) request.table request.order)
      (orderParts (Converter.casting other?) request.table request.order) := by
    rw [orderParts_eq, orderParts_eq, List.forall₂_map_left_iff, List.forall₂_map_right_iff]
    exact List.forall₂_same.mpr fun key _ => partsAlike_sortPart key
  exact List.rel_append (List.rel_append (List.rel_append (List.rel_append (hsame _) hfilters)
    (hsame _)) horder) (hsame _)

/-- Whether the converter knows the table or not, a request ends with the same fault, or with none,
and the sessions are the same but for conditions and order. -/
theorem populate_recast (settings : Settings) (known? typed? other? : Option Table)
    (suffixes : List String) (draft : Draft) (request : Request) :
    (request.populate settings (Converter.casting typed?) known? suffixes draft).1.Recast
        (request.populate settings (Converter.casting other?) known? suffixes draft).1 ∧
      (request.populate settings (Converter.casting typed?) known? suffixes draft).2 =
        (request.populate settings (Converter.casting other?) known? suffixes draft).2 := by
  obtain ⟨hsteps, hfault⟩ := Plan.ofParts_alike
    (request.parts_recast settings known? typed? other?)
  have hsimulates := hsteps.imp fun _ _ hstep => hstep.simulates
  exact Plan.carryOut_simulates hsimulates hfault (Session.Recast.refl _)

/-! ### The statement of a compiled request -/

/-- The relations that a request requires where the converter knows a table. -/
def testsFor (typed? : Option Table) (request : Request) : List (Sql.Expr × Sql.Relation) :=
  request.filters.map (fun filter =>
    (typedColumn typed? request.table filter.column filter.type, filter.relation))
      ++ request.windowTests

/-- The terms that a request sorts by where the converter knows a table. -/
def termsFor (typed? : Option Table) (request : Request) : List Sql.OrderTerm :=
  (SortKey.effective request.order).map fun key =>
    ⟨typedColumn typed? request.table key.column key.type, key.direction⟩

/-- What the steps of a plan without fault have, clause by clause. -/
theorem filterMap_steps {α : Type} {view : Step → Option α}
    (hmask : ∀ step, view step.mask = view step) (hselect : ∀ item, view (.select item) = none)
    (hflag : ∀ flag column, view (.selectFlag flag column) = none)
    (h : (request.plan settings (Converter.casting typed?) known?).fault = none) :
    (request.plan settings (Converter.casting typed?) known?).steps.filterMap view =
      (request.filters.filterMap fun filter =>
          view (.require (typedColumn typed? request.table filter.column filter.type)
            filter.relation filter.boundType (.scalar .null)))
        ++ ((changeBoundShape "changedSince" .ge (request.changedSince == "")).filterMap view
          ++ (changeBoundShape "changedUntil" .lt (request.changedUntil == "")).filterMap view)
        ++ (request.termsFor typed?).filterMap (fun term => view (.sort term))
        ++ request.rows.toList.filterMap fun rows => view (.limit rows) := by
  have hprojection : (((projectionParts settings known? request.table request.truncate
      request.columns).flatMap partSteps).map Step.mask).filterMap view = [] := by
    rw [filterMap_map_mask hmask, List.filterMap_flatMap]
    refine List.flatMap_eq_nil_iff.mpr fun part hpart => filterMap_partSteps_eq_nil ?_
    rintro steps rfl
    exact eq_none_of_mem_projectionParts hselect hflag hpart
  have hterms : ((SortKey.effective request.order).flatMap fun key =>
      partSteps (sortPart (Converter.casting typed?) request.table key)) =
        (request.termsFor typed?).map .sort := by
    rw [flatMap_sortPart_casting, termsFor, List.map_map]
    rfl
  rw [← filterMap_map_mask hmask, map_mask_steps h, filterShape_casting, hterms,
    map_mask_limitPart, ← List.map_eq_flatMap]
  simp only [List.filterMap_append, hprojection, List.nil_append, List.filterMap_map]
  rfl

theorem tests_steps (h : (request.plan settings (Converter.casting typed?) known?).fault = none) :
    (request.plan settings (Converter.casting typed?) known?).steps.filterMap Step.test? =
      request.testsFor typed? := by
  rw [filterMap_steps Step.test?_mask (fun _ => rfl) (fun _ _ => rfl) h]
  simp only [filterMap_changeBoundShape, Step.test?, List.filterMap_eq_map', testsFor, windowTests,
    List.filterMap_none, List.append_nil, Option.toList_some, beq_iff_eq]

theorem terms_steps (h : (request.plan settings (Converter.casting typed?) known?).fault = none) :
    (request.plan settings (Converter.casting typed?) known?).steps.filterMap Step.term? =
      request.termsFor typed? := by
  rw [filterMap_steps Step.term?_mask (fun _ => rfl) (fun _ _ => rfl) h]
  simp [filterMap_changeBoundShape, Step.term?]

end Request

/-! ### Conditions -/

/-- The condition that a name be related to an expression. -/
def Sql.Condition.ofTest (test : Sql.Expr × Sql.Relation) (name : String) : Sql.Condition :=
  .test test.1 test.2 name

/-- Conditions that are not raw can be put together again from their relations and their names. -/
theorem Sql.Condition.eq_zipWith_ofTest {conditions : List Sql.Condition}
    (h : ∀ condition ∈ conditions, condition.IsStructured) :
    conditions = List.zipWith ofTest (conditions.filterMap test?) (conditions.filterMap parameter?)
      ∧ (conditions.filterMap test?).length = (conditions.filterMap parameter?).length := by
  induction conditions with
  | nil => exact ⟨rfl, rfl⟩
  | cons condition rest ih =>
      obtain ⟨hrest, hlength⟩ := ih fun other hother => h other (List.mem_cons_of_mem _ hother)
      cases condition with
      | raw sql => exact (h (.raw sql) List.mem_cons_self).elim
      | test subject relation name =>
          exact ⟨congrArg (Sql.Condition.test subject relation name :: ·) hrest,
            congrArg Nat.succ hlength⟩

namespace Request

variable {settings : Settings} {known? typed? : Option Table} {suffixes : List String}
  {request : Request} {query : Query}

/-- The conditions and the order of a compiled request. -/
theorem lists_of_compileWith
    (h : (request.compileWith settings (Converter.casting typed?) known? suffixes).1 = .ok query) :
    ∃ last, request.populate settings (Converter.casting typed?) known? suffixes
          (Draft.empty.setSource request.source) = (last, none) ∧
      query = ⟨(request.statement last.draft).render, .bigquery, last.draft.values,
        last.draft.types⟩ ∧
      last.draft.conditions =
        List.zipWith Sql.Condition.ofTest (request.testsFor typed?) query.values.keys ∧
      (request.testsFor typed?).length = query.values.keys.length ∧
      last.draft.order = request.termsFor typed? := by
  obtain ⟨hfault, last, hperform, hpaired, hstructured, rfl⟩ := finished_of_compileWith h
  have hrun := Plan.carryOut_of_perform hperform
  rw [hfault] at hrun
  have htests := tests_perform hperform
  rw [tests_steps hfault] at htests
  have horder := order_perform hperform
  rw [terms_steps hfault] at horder
  have hzip := Sql.Condition.eq_zipWith_ofTest hstructured.conditions
  have hnames : (request.statement last.draft).conditions.filterMap Sql.Condition.parameter? =
      last.draft.values.keys := hpaired.parameters
  have htests' : (request.statement last.draft).conditions.filterMap Sql.Condition.test? =
      request.testsFor typed? := htests
  rw [hnames, htests'] at hzip
  exact ⟨last, hrun, rfl, hzip.1, hzip.2, horder⟩

/-! ### Statements that are the same but for casts -/

/-- The statements are the same but for the casts of filters and sort keys. -/
structure CastsApart (known? : Option Table) (request : Request)
    (statement other : Sql.Statement) : Prop where
  select : statement.select = other.select
  source : statement.source = other.source
  limit : statement.limit = other.limit
  conditionsLength : statement.conditions.length = other.conditions.length
  filters : ∀ (index : Nat) (filter : Filter), request.filters[index]? = some filter →
    ∃ (subject subject' : Sql.Expr) (relation : Sql.Relation) (name : String),
      SkipsCast known? request.table filter.column filter.type subject subject' ∧
      statement.conditions[index]? = some (.test subject relation name) ∧
      other.conditions[index]? = some (.test subject' relation name)
  window : statement.conditions.drop request.filters.length =
    other.conditions.drop request.filters.length
  orderLength : statement.order.length = (SortKey.effective request.order).length
  orderLength' : other.order.length = (SortKey.effective request.order).length
  order : ∀ (index : Nat) (key : SortKey), (SortKey.effective request.order)[index]? = some key →
    ∃ expr expr' : Sql.Expr, SkipsCast known? request.table key.column key.type expr expr' ∧
      statement.order[index]? = some ⟨expr, key.direction⟩ ∧
      other.order[index]? = some ⟨expr', key.direction⟩

theorem length_testsFor (typed? : Option Table) (request : Request) :
    (request.testsFor typed?).length = request.filters.length + request.windowTests.length := by
  rw [testsFor, List.length_append, List.length_map]

theorem drop_testsFor (typed? : Option Table) (request : Request) :
    (request.testsFor typed?).drop request.filters.length = request.windowTests :=
  List.drop_left' (List.length_map _)

theorem getElem?_testsFor (typed? : Option Table) {request : Request} {index : Nat}
    {filter : Filter} (h : request.filters[index]? = some filter) :
    (request.testsFor typed?)[index]? =
      some (typedColumn typed? request.table filter.column filter.type, filter.relation) := by
  have hlt : index < request.filters.length := (List.getElem?_eq_some_iff.mp h).1
  rw [testsFor, List.getElem?_append_left (by rwa [List.length_map]), List.getElem?_map, h]
  rfl

theorem getElem?_termsFor (typed? : Option Table) {request : Request} {index : Nat}
    {key : SortKey} (h : (SortKey.effective request.order)[index]? = some key) :
    (request.termsFor typed?)[index]? =
      some ⟨typedColumn typed? request.table key.column key.type, key.direction⟩ := by
  rw [termsFor, List.getElem?_map, h]
  rfl

/-- Drafts with the same parts but for these conditions and this order have statements that are the
same but for casts. -/
theorem castsApart_of_lists {draft other : Draft} {names : List String}
    (hselect : draft.select = other.select) (hlimit : draft.limit = other.limit)
    (hconditions : draft.conditions =
      List.zipWith Sql.Condition.ofTest (request.testsFor known?) names)
    (hconditions' : other.conditions =
      List.zipWith Sql.Condition.ofTest (request.testsFor none) names)
    (hlength : (request.testsFor known?).length = names.length)
    (horder : draft.order = request.termsFor known?)
    (horder' : other.order = request.termsFor none) :
    request.CastsApart known? (request.statement draft) (request.statement other) where
  select := hselect
  source := rfl
  limit := hlimit
  conditionsLength := by
    show draft.conditions.length = other.conditions.length
    rw [hconditions, hconditions', List.length_zipWith, List.length_zipWith, length_testsFor,
      length_testsFor]
  filters index filter hfilter := by
    have htest := getElem?_testsFor known? hfilter
    have htest' := getElem?_testsFor none hfilter
    have hlt : index < names.length := by
      rw [← hlength]
      exact (List.getElem?_eq_some_iff.mp htest).1
    refine ⟨_, _, filter.relation, names[index],
      skipsCast_typedColumn known? request.table filter.column filter.type, ?_, ?_⟩
    · show draft.conditions[index]? = _
      rw [hconditions, List.getElem?_zipWith, htest, List.getElem?_eq_getElem hlt]
      rfl
    · show other.conditions[index]? = _
      rw [hconditions', List.getElem?_zipWith, htest', List.getElem?_eq_getElem hlt]
      rfl
  window := by
    show draft.conditions.drop _ = other.conditions.drop _
    rw [hconditions, hconditions', List.drop_zipWith, List.drop_zipWith, drop_testsFor,
      drop_testsFor]
  orderLength := by
    show draft.order.length = _
    rw [horder, termsFor, List.length_map]
  orderLength' := by
    show other.order.length = _
    rw [horder', termsFor, List.length_map]
  order index key hkey := by
    refine ⟨_, _, skipsCast_typedColumn known? request.table key.column key.type, ?_, ?_⟩
    · show draft.order[index]? = _
      rw [horder, getElem?_termsFor known? hkey]
    · show other.order[index]? = _
      rw [horder', getElem?_termsFor none hkey]

/-- The texts of the statements are the same but for the casts of filters and sort keys. -/
structure WritesCastsApart (known? : Option Table) (request : Request)
    (statement other : Sql.Statement) : Prop where
  filters : ∀ (index : Nat) (filter : Filter), request.filters[index]? = some filter →
    ∃ text text' rest : String,
      SkipsCastText known? request.table filter.column filter.type text text' ∧
      (statement.conditions.map Sql.Condition.render)[index]? = some (text ++ rest) ∧
      (other.conditions.map Sql.Condition.render)[index]? = some (text' ++ rest)
  order : ∀ (index : Nat) (key : SortKey), (SortKey.effective request.order)[index]? = some key →
    ∃ text text' : String,
      SkipsCastText known? request.table key.column key.type text text' ∧
      (statement.order.map Sql.OrderTerm.render)[index]? =
        some (text ++ " " ++ key.direction.name) ∧
      (other.order.map Sql.OrderTerm.render)[index]? =
        some (text' ++ " " ++ key.direction.name)

theorem CastsApart.writes {statement other : Sql.Statement}
    (h : request.CastsApart known? statement other) :
    request.WritesCastsApart known? statement other where
  filters index filter hfilter := by
    obtain ⟨subject, subject', relation, name, hskips, hcondition, hcondition'⟩ :=
      h.filters index filter hfilter
    refine ⟨_, _, " " ++ relation.render name, hskips.texts, ?_, ?_⟩
    · rw [List.getElem?_map, hcondition, ← String.append_assoc]
      rfl
    · rw [List.getElem?_map, hcondition', ← String.append_assoc]
      rfl
  order index key hkey := by
    obtain ⟨expr, expr', hskips, hterm, hterm'⟩ := h.order index key hkey
    refine ⟨_, _, hskips.texts, ?_, ?_⟩
    · rw [List.getElem?_map, hterm]
      rfl
    · rw [List.getElem?_map, hterm']
      rfl

/-- Runs to drafts with the same parts but for conditions and order give queries that are the same
but for casts. -/
theorem castsApart_of_runs {last : Session} {conditions : List Sql.Condition}
    {order : List Sql.OrderTerm} {query query' : Query}
    (hrun : request.populate settings (Converter.casting known?) known? suffixes
      (Draft.empty.setSource request.source) = (last, none))
    (hrun' : request.populate settings (Converter.casting none) known? suffixes
      (Draft.empty.setSource request.source) =
        ({ last with draft := { last.draft with conditions := conditions, order := order } }, none))
    (hquery : request.compile settings known? suffixes = .ok query)
    (hquery' : (request.compileWith settings (Converter.casting none) known? suffixes).1 =
      .ok query') :
    query.values = query'.values ∧ query.types = query'.types ∧ query.dialect = query'.dialect ∧
      ∃ statement statement' : Sql.Statement,
        query.sql = statement.render ∧ query'.sql = statement'.render ∧
        request.CastsApart known? statement statement' ∧
        request.WritesCastsApart known? statement statement' := by
  obtain ⟨reached, hreached, rfl, hconditions, hlength, horder⟩ := lists_of_compileWith hquery
  obtain ⟨reached', hreached', rfl, hconditions', -, horder'⟩ := lists_of_compileWith hquery'
  obtain ⟨rfl, -⟩ := Prod.mk.inj (hrun.symm.trans hreached)
  obtain ⟨rfl, -⟩ := Prod.mk.inj (hrun'.symm.trans hreached')
  have hapart : request.CastsApart known? (request.statement last.draft)
      (request.statement { last.draft with conditions := conditions, order := order }) :=
    castsApart_of_lists rfl rfl hconditions hconditions' hlength horder horder'
  exact ⟨rfl, rfl, rfl, _, _, rfl, rfl, hapart, hapart.writes⟩

/-- Whether the default converter knows the table or not, a request leaves the same suffixes and
fails for the same reason, or it gives the same parameters and statements that are the same but for
the casts that the table makes needless, as expressions and as texts. -/
theorem compile_recast (settings : Settings) (known? : Option Table) (suffixes : List String)
    (request : Request) :
    (request.compileWith settings (Converter.casting known?) known? suffixes).2 =
        (request.compileWith settings (Converter.casting none) known? suffixes).2 ∧
      ((∃ fault, request.compile settings known? suffixes = .error fault ∧
          (request.compileWith settings (Converter.casting none) known? suffixes).1 =
            .error fault) ∨
        ∃ (query query' : Query) (statement statement' : Sql.Statement),
          request.compile settings known? suffixes = .ok query ∧
          (request.compileWith settings (Converter.casting none) known? suffixes).1 = .ok query' ∧
          query.values = query'.values ∧ query.types = query'.types ∧
          query.dialect = query'.dialect ∧
          query.sql = statement.render ∧ query'.sql = statement'.render ∧
          request.CastsApart known? statement statement' ∧
          request.WritesCastsApart known? statement statement') := by
  obtain ⟨⟨conditions, order, hlast⟩, hfault⟩ := request.populate_recast settings known? known? none
    suffixes (Draft.empty.setSource request.source)
  cases hfirst : request.populate settings (Converter.casting known?) known? suffixes
      (Draft.empty.setSource request.source) with
  | mk last fault? =>
      rw [hfirst] at hlast hfault
      have hsecond : request.populate settings (Converter.casting none) known? suffixes
          (Draft.empty.setSource request.source) =
            ({ last with draft := { last.draft with conditions := conditions, order := order } },
              fault?) :=
        Prod.ext hlast hfault.symm
      cases fault? with
      | some fault =>
          unfold compile compileWith
          rw [hfirst, hsecond]
          exact ⟨rfl, .inl ⟨fault, rfl, rfl⟩⟩
      | none =>
          -- Both runs come to their end, so that only finishing the draft can fail.
          have hcompile : request.compileWith settings (Converter.casting known?) known? suffixes =
              (last.draft.finish?, last.names.suffixes) := by
            rw [compileWith, hfirst]
          have hcompile' : request.compileWith settings (Converter.casting none) known? suffixes =
              ({ last.draft with conditions := conditions, order := order }.finish?,
                last.names.suffixes) := by
            rw [compileWith, hsecond]
          refine ⟨by rw [hcompile, hcompile'], ?_⟩
          rcases last.draft.finish?_recast conditions order with
            ⟨fault, herror, herror'⟩ | ⟨query, query', hok, hok'⟩
          · exact .inl ⟨fault, by rw [compile, hcompile, herror], by rw [hcompile', herror']⟩
          · have hquery := (congrArg Prod.fst hcompile).trans hok
            have hquery' := (congrArg Prod.fst hcompile').trans hok'
            obtain ⟨hvalues, htypes, hdialect, statement, statement', hapart⟩ :=
              castsApart_of_runs hfirst hsecond hquery hquery'
            exact .inr ⟨query, query', statement, statement', hquery, hquery', hvalues, htypes,
              hdialect, hapart⟩

/-- The first of two columns with one name counts, and an unknown one is cast. -/
example :
    let request : Request := ⟨"t", none, [], [⟨"n", .lt, "7", [], .bigint⟩],
      [⟨"x", .real, .descending⟩], 0, "", "", false⟩
    let known? : Option Table :=
      some ⟨"t", [⟨"n", "INT64", .integer, true⟩, ⟨"n", "STRING", .string, true⟩]⟩
    (request.compile Settings.standard known? []).map Query.sql = .ok ("SELECT * FROM `t` "
        ++ "WHERE `t`.`n` < @param_0 ORDER BY SAFE_CAST(`t`.`x` AS FLOAT64) DESC") ∧
      (request.compileWith Settings.standard (Converter.casting none) known? []).1.map Query.sql =
        .ok ("SELECT * FROM `t` WHERE SAFE_CAST(`t`.`n` AS INT64) < @param_0 "
          ++ "ORDER BY SAFE_CAST(`t`.`x` AS FLOAT64) DESC") := by
  decide +kernel

end Request
end TableExport
