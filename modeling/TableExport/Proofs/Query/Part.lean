import Mathlib.Data.List.Basic
import TableExport.Proofs.Query.Run

/-! # The parts of a request

For each clause, what a part consists of when it is not at fault.  A column gives one item, or an
excerpt and its flag; a filter gives one relation to a generated name; a bound of the change window
gives one relation to its own name, or nothing; a sort key gives one term.

The literals of a request occur nowhere but in the values that its steps bind.  With these left out
(`Step.mask`), the steps of a plan without fault are given by the rest of the request
(`Request.map_mask_steps`). -/

namespace TableExport

theorem except_map_eq_ok {ε α β : Type} {f : α → β} {x : Except ε α} {b : β}
    (h : x.map f = .ok b) : ∃ a, x = .ok a ∧ f a = b := by
  cases x with
  | error fault => cases h
  | ok a => exact ⟨a, rfl, Except.ok.inj h⟩

theorem exists_eq_ok_of_isOk {ε α : Type} {x : Except ε α} (h : x.isOk = true) :
    ∃ a, x = .ok a := by
  cases x with
  | error fault => cases h
  | ok a => exact ⟨a, rfl⟩

variable {settings : Settings} {converter : Converter} {known? : Option Table} {table : String}
  {steps : List Step}

/-! ### Projection -/

theorem excerptPart_eq_ok {column : String}
    (h : excerptPart settings known? table column = .ok steps) :
    ∃ found, known?.bind (·.column? column) = some found ∧
      steps = excerptSteps column
        (Excerpt.ofShape found.shape (columnReference table column) settings.budget) := by
  unfold excerptPart at h
  cases hfound : known?.bind (·.column? column) with
  | none =>
      rw [hfound] at h
      cases h
  | some found =>
      rw [hfound] at h
      obtain ⟨excerpt, hexcerpt, rfl⟩ := except_map_eq_ok h
      unfold Excerpt.ofShape? at hexcerpt
      split at hexcerpt
      · cases hexcerpt
      · exact ⟨found, rfl, congrArg _ (Except.ok.inj hexcerpt).symm⟩

/-- The parts of a projection without excerpts are single items. -/
theorem projectionParts_false (columns : List String) :
    projectionParts settings known? table false columns =
      if columns = [] then [.ok [.select .everything]]
      else columns.map fun column => .ok [.select (.plain (columnReference table column))] := by
  cases columns <;> rfl

theorem projectionParts_true {columns : List String} (h : columns ≠ []) :
    projectionParts settings known? table true columns =
      columns.map (excerptPart settings known? table) := by
  cases columns with
  | nil => exact absurd rfl h
  | cons column others => rfl

/-- What the steps of a part of a projection are. -/
theorem steps_of_mem_projectionParts {truncate : Bool} {columns : List String}
    (h : .ok steps ∈ projectionParts settings known? table truncate columns) :
    steps = [.select .everything] ∨
      (∃ column, steps = [.select (.plain (columnReference table column))]) ∨
        ∃ column shape, steps = excerptSteps column
          (Excerpt.ofShape shape (columnReference table column) settings.budget) := by
  by_cases hcolumns : columns = []
  · rw [hcolumns] at h
    exact .inl (Except.ok.inj (List.mem_singleton.mp h))
  · cases truncate with
    | false =>
        rw [projectionParts_false, if_neg hcolumns] at h
        obtain ⟨column, -, hpart⟩ := List.mem_map.mp h
        exact .inr (.inl ⟨column, (Except.ok.inj hpart).symm⟩)
    | true =>
        rw [projectionParts_true hcolumns] at h
        obtain ⟨column, -, hpart⟩ := List.mem_map.mp h
        obtain ⟨found, -, hsteps⟩ := excerptPart_eq_ok hpart
        exact .inr (.inr ⟨column, found.shape, hsteps⟩)

/-- What neither items nor flags have, the steps of a projection do not have. -/
theorem eq_none_of_mem_projectionParts {α : Type} {view : Step → Option α}
    (hselect : ∀ item, view (.select item) = none)
    (hflag : ∀ flag column, view (.selectFlag flag column) = none) {truncate : Bool}
    {columns : List String}
    (h : .ok steps ∈ projectionParts settings known? table truncate columns) :
    ∀ step ∈ steps, view step = none := by
  intro step hstep
  rcases steps_of_mem_projectionParts h with rfl | ⟨column, rfl⟩ | ⟨column, shape, rfl⟩
  · rw [List.mem_singleton.mp hstep]
    exact hselect _
  · rw [List.mem_singleton.mp hstep]
    exact hselect _
  · rcases List.mem_pair.mp hstep with rfl | rfl
    · exact hselect _
    · exact hflag _ _

/-! ### Filters and change window -/

/-- The relation that a filter requires, if its operator allows it. -/
def Filter.relation (filter : Filter) : Sql.Relation :=
  if filter.hasSeveral then filter.operator.membership?.getD .isMember
  else .compares filter.operator

/-- The declared type of what a filter binds. -/
def Filter.boundType (filter : Filter) : ParameterType :=
  if filter.hasSeveral then filter.type.arrayType else filter.type.parameterType

/-- The operator allows as many literals as the filter has. -/
def Filter.isAllowed (filter : Filter) : Bool :=
  !filter.hasSeveral || filter.operator.membership?.isSome

theorem filterTest_eq_ok {filter : Filter} {relation : Sql.Relation} {type : ParameterType}
    {value : BoundValue} (h : filterTest filter = .ok (relation, type, value)) :
    filter.isAllowed = true ∧ relation = filter.relation ∧ type = filter.boundType := by
  unfold filterTest at h
  cases hseveral : filter.hasSeveral with
  | false =>
      simp only [hseveral, Bool.false_eq_true, if_false] at h
      obtain ⟨scalar, -, heq⟩ := except_map_eq_ok h
      obtain ⟨rfl, hpair⟩ := Prod.mk.inj heq
      obtain ⟨rfl, -⟩ := Prod.mk.inj hpair
      simp [Filter.isAllowed, Filter.relation, Filter.boundType, hseveral]
  | true =>
      simp only [hseveral, if_true] at h
      cases hmember : filter.operator.membership? with
      | none =>
          rw [hmember] at h
          cases h
      | some found =>
          rw [hmember] at h
          obtain ⟨scalars, -, heq⟩ := except_map_eq_ok h
          obtain ⟨rfl, hpair⟩ := Prod.mk.inj heq
          obtain ⟨rfl, -⟩ := Prod.mk.inj hpair
          simp [Filter.isAllowed, Filter.relation, Filter.boundType, hseveral, hmember]

theorem filterPart_eq_ok {filter : Filter} (h : filterPart converter table filter = .ok steps) :
    ∃ subject relation type value, filterTest filter = .ok (relation, type, value) ∧
      filterSubject converter table filter = .ok subject ∧
      steps = [.require subject relation type value] := by
  unfold filterPart at h
  cases htest : filterTest filter with
  | error fault =>
      rw [htest] at h
      cases h
  | ok test =>
      obtain ⟨relation, type, value⟩ := test
      rw [htest] at h
      obtain ⟨subject, hsubject, rfl⟩ := except_map_eq_ok h
      exact ⟨subject, relation, type, value, rfl, hsubject, rfl⟩

theorem changeBoundPart_eq_ok {name text : String} {operator : Operator}
    (h : changeBoundPart name operator text = .ok steps) :
    (text = "" ∧ steps = []) ∨
      (text ≠ "" ∧ ∃ moment, steps = [.requireNamed name (.reference [changeTimeColumn])
        (.compares operator) .timestamp (.scalar (.text moment))]) := by
  unfold changeBoundPart at h
  by_cases htext : text = ""
  · rw [if_pos htext] at h
    exact .inl ⟨htext, (Except.ok.inj h).symm⟩
  · rw [if_neg htext] at h
    obtain ⟨moment, -, rfl⟩ := except_map_eq_ok h
    exact .inr ⟨htext, moment, rfl⟩

/-! ### Order -/

/-- The expression by which a key sorts. -/
def sortSubject (converter : Converter) (table : String) (key : SortKey) :
    Except Misuse Sql.Expr :=
  if key.type = .string then .ok (columnReference table key.column)
  else converted converter table key.column key.type

/-- The sort keys that count: those before the first one that is not a text, and that one. -/
def SortKey.effective (keys : List SortKey) : List SortKey :=
  keys.takeWhile (fun key => key.type = .string)
    ++ (keys.dropWhile fun key => key.type = .string).head?.toList

/-- The part of a single sort key. -/
def sortPart (converter : Converter) (table : String) (key : SortKey) :
    Except Fault (List Step) :=
  match sortSubject converter table key with
  | .ok expr => .ok [.sort ⟨expr, key.direction⟩]
  | .error cause => .error (.sortRefused cause)

theorem orderParts_eq (keys : List SortKey) :
    orderParts converter table keys = (SortKey.effective keys).map (sortPart converter table) := by
  induction keys with
  | nil => rfl
  | cons key rest ih =>
      by_cases htype : key.type = .string
      · rw [orderParts, if_pos htype, ih]
        simp [SortKey.effective, htype, sortPart, sortSubject]
      · have heffective : SortKey.effective (key :: rest) = [key] := by
          simp [SortKey.effective, htype]
        have hsubject : sortSubject converter table key =
            converted converter table key.column key.type := if_neg htype
        cases hanswer : converted converter table key.column key.type with
        | ok expr =>
            have hpart : sortPart converter table key = .ok [.sort ⟨expr, key.direction⟩] := by
              rw [sortPart, hsubject, hanswer]
            rw [orderParts, if_neg htype, heffective, List.map_singleton, hpart, hanswer]
        | error cause =>
            have hpart : sortPart converter table key = .error (.sortRefused cause) := by
              rw [sortPart, hsubject, hanswer]
            rw [orderParts, if_neg htype, heffective, List.map_singleton, hpart, hanswer]

theorem sortPart_eq_ok {key : SortKey} (h : sortPart converter table key = .ok steps) :
    ∃ expr, steps = [.sort ⟨expr, key.direction⟩] := by
  unfold sortPart at h
  split at h
  · next expr _ => exact ⟨expr, (Except.ok.inj h).symm⟩
  · cases h

/-! ### The default converter and the limit -/

theorem filterSubject_casting (filter : Filter) :
    filterSubject (Converter.casting known?) table filter =
      .ok (typedColumn known? table filter.column filter.type) := by
  unfold filterSubject
  by_cases htype : filter.type = .string
  · rw [if_pos htype, htype]
    rfl
  · rw [if_neg htype]
    rfl

theorem sortPart_casting (key : SortKey) :
    sortPart (Converter.casting known?) table key =
      .ok [.sort ⟨typedColumn known? table key.column key.type, key.direction⟩] := by
  unfold sortPart sortSubject
  by_cases htype : key.type = .string
  · rw [if_pos htype, htype]
    rfl
  · rw [if_neg htype]
    rfl

/-- The number of rows to which a request is limited. -/
def Request.rows (request : Request) : Option Nat :=
  if 0 < request.limit then some request.limit.toNat else none

theorem limitPart_eq (request : Request) :
    limitPart request.limit = .ok (request.rows.toList.map .limit) := by
  unfold limitPart Request.rows
  split <;> rfl

/-! ### A plan without fault -/

namespace Request

variable {request : Request}

theorem part_eq_ok (h : (request.plan settings converter known?).fault = none)
    {part : Except Fault (List Step)} (hpart : part ∈ request.parts settings converter known?) :
    part = .ok (partSteps part) := by
  rw [plan, Plan.fault_ofParts] at h
  exact part_ok_of_findSome?_none h hpart

theorem filterPart_eq (h : (request.plan settings converter known?).fault = none)
    {filter : Filter} (hfilter : filter ∈ request.filters) :
    filterPart converter request.table filter =
      .ok (partSteps (filterPart converter request.table filter)) := by
  refine part_eq_ok h ?_
  simp only [parts, List.mem_append]
  exact .inl (.inl (.inl (.inr (List.mem_map_of_mem hfilter))))

theorem isAllowed_of_fault_eq_none
    (h : (request.plan settings converter known?).fault = none) :
    ∀ filter ∈ request.filters, filter.isAllowed = true := by
  intro filter hfilter
  obtain ⟨_, _, _, _, htest, -, -⟩ := filterPart_eq_ok (filterPart_eq h hfilter)
  exact (filterTest_eq_ok htest).1

/-- The steps of a plan without fault, clause by clause. -/
theorem steps_plan (h : (request.plan settings converter known?).fault = none) :
    (request.plan settings converter known?).steps =
      (projectionParts settings known? request.table request.truncate request.columns).flatMap
          partSteps
        ++ (request.filters.flatMap fun filter =>
          partSteps (filterPart converter request.table filter))
        ++ (partSteps (changeBoundPart "changedSince" .ge request.changedSince)
          ++ partSteps (changeBoundPart "changedUntil" .lt request.changedUntil))
        ++ ((SortKey.effective request.order).flatMap fun key =>
          partSteps (sortPart converter request.table key))
        ++ partSteps (limitPart request.limit) := by
  unfold plan at h ⊢
  rw [Plan.steps_ofParts h, parts, orderParts_eq, changeWindowParts]
  simp only [List.flatMap_append, List.flatMap_map, List.flatMap_cons, List.flatMap_nil,
    List.append_nil]

end Request

/-! ### Steps without their values -/

/-- The step with nothing in place of the value that it binds. -/
def Step.mask : Step → Step
  | .require subject relation type _ => .require subject relation type (.scalar .null)
  | .requireNamed name subject relation type _ =>
      .requireNamed name subject relation type (.scalar .null)
  | step => step

/-- What a step adds apart from its value can be read off without the value. -/
theorem filterMap_map_mask {α : Type} {view : Step → Option α}
    (hview : ∀ step, view step.mask = view step) (steps : List Step) :
    (steps.map Step.mask).filterMap view = steps.filterMap view := by
  rw [List.filterMap_map]
  congr 1
  funext step
  exact hview step

theorem Step.item?_mask (step : Step) : step.mask.item? = step.item? := by
  cases step <;> rfl

theorem Step.drawsName_mask (step : Step) : step.mask.drawsName = step.drawsName := by
  cases step <;> rfl

theorem Step.test?_mask (step : Step) : step.mask.test? = step.test? := by
  cases step <;> rfl

theorem Step.term?_mask (step : Step) : step.mask.term? = step.term? := by
  cases step <;> rfl

theorem Step.rows?_mask (step : Step) : step.mask.rows? = step.rows? := by
  cases step <;> rfl

/-- The steps for a filter without the values that they bind. -/
def filterShape (converter : Converter) (table : String) (filter : Filter) : List Step :=
  match filterSubject converter table filter with
  | .ok subject => [.require subject filter.relation filter.boundType (.scalar .null)]
  | .error _ => []

/-- The steps for a bound of the change window without the values that they bind. -/
def changeBoundShape (name : String) (operator : Operator) (isOpen : Bool) : List Step :=
  if isOpen then []
  else
    [.requireNamed name (.reference [changeTimeColumn]) (.compares operator) .timestamp
      (.scalar .null)]

theorem filterMap_changeBoundShape {α : Type} (view : Step → Option α) (name : String)
    (operator : Operator) (isOpen : Bool) :
    (changeBoundShape name operator isOpen).filterMap view =
      if isOpen then []
      else (view (.requireNamed name (.reference [changeTimeColumn]) (.compares operator)
        .timestamp (.scalar .null))).toList := by
  unfold changeBoundShape
  split
  · rfl
  · rw [List.filterMap_cons]
    split
    · next hnone => rw [hnone]; rfl
    · next hsome => rw [hsome]; rfl

theorem map_mask_filterPart {filter : Filter}
    (h : filterPart converter table filter = .ok steps) :
    steps.map Step.mask = filterShape converter table filter := by
  obtain ⟨subject, relation, type, value, htest, hsubject, rfl⟩ := filterPart_eq_ok h
  obtain ⟨-, rfl, rfl⟩ := filterTest_eq_ok htest
  unfold filterShape
  rw [hsubject]
  rfl

theorem map_mask_changeBoundPart {name text : String} {operator : Operator}
    (h : changeBoundPart name operator text = .ok steps) :
    steps.map Step.mask = changeBoundShape name operator (text == "") := by
  unfold changeBoundShape
  rcases changeBoundPart_eq_ok h with ⟨rfl, rfl⟩ | ⟨htext, moment, rfl⟩
  · rfl
  · have hbound : (text == "") = false := beq_eq_false_iff_ne.mpr htext
    rw [hbound]
    rfl

theorem filterShape_casting :
    filterShape (Converter.casting known?) table = fun filter =>
      [.require (typedColumn known? table filter.column filter.type) filter.relation
        filter.boundType (.scalar .null)] := by
  funext filter
  unfold filterShape
  rw [filterSubject_casting]

theorem flatMap_sortPart_casting (keys : List SortKey) :
    (keys.flatMap fun key => partSteps (sortPart (Converter.casting known?) table key)) =
      keys.map fun key =>
        .sort ⟨typedColumn known? table key.column key.type, key.direction⟩ := by
  rw [List.map_eq_flatMap]
  exact List.flatMap_congr fun key _ => by rw [sortPart_casting]; rfl

theorem map_mask_limitPart (request : Request) :
    (partSteps (limitPart request.limit)).map Step.mask = request.rows.toList.map .limit := by
  rw [limitPart_eq, partSteps, List.map_map]
  rfl

theorem map_mask_sortPart (key : SortKey) :
    (partSteps (sortPart converter table key)).map Step.mask =
      partSteps (sortPart converter table key) := by
  unfold sortPart
  split <;> rfl

namespace Request

variable {request : Request}

/-- The steps of a plan without fault, clause by clause, without the values that they bind. -/
theorem map_mask_steps (h : (request.plan settings converter known?).fault = none) :
    (request.plan settings converter known?).steps.map Step.mask =
      ((projectionParts settings known? request.table request.truncate request.columns).flatMap
          partSteps).map Step.mask
        ++ request.filters.flatMap (filterShape converter request.table)
        ++ (changeBoundShape "changedSince" .ge (request.changedSince == "")
          ++ changeBoundShape "changedUntil" .lt (request.changedUntil == ""))
        ++ ((SortKey.effective request.order).flatMap fun key =>
          partSteps (sortPart converter request.table key))
        ++ (partSteps (limitPart request.limit)).map Step.mask := by
  have hfilters : ∀ filter ∈ request.filters,
      (partSteps (filterPart converter request.table filter)).map Step.mask =
        filterShape converter request.table filter :=
    fun filter hfilter => map_mask_filterPart (filterPart_eq h hfilter)
  have hbound : ∀ part ∈ changeWindowParts request.changedSince request.changedUntil,
      part = .ok (partSteps part) := by
    intro part hpart
    refine part_eq_ok h ?_
    simp only [parts, List.mem_append]
    exact .inl (.inl (.inr hpart))
  have hsince := hbound (changeBoundPart "changedSince" .ge request.changedSince)
    List.mem_cons_self
  have huntil := hbound (changeBoundPart "changedUntil" .lt request.changedUntil)
    (List.mem_cons_of_mem _ List.mem_cons_self)
  rw [steps_plan h]
  simp only [List.map_append, List.map_flatMap, map_mask_sortPart]
  rw [List.flatMap_congr hfilters, map_mask_changeBoundPart hsince,
    map_mask_changeBoundPart huntil]

/-! ### An example -/

/-- A request whose names are full of back-ticks, backslashes, at signs and words of SQL. -/
def hostile : Request :=
  ⟨"@t`", some "\\", ["\\`@a", "\\`@a"],
    [⟨"@param_1 ", .ne, "1", ["2"], .integer⟩, ⟨"`", .eq, "@x", [], .string⟩],
    [⟨"` DESC LIMIT 1", .string, .ascending⟩, ⟨"d`", .real, .descending⟩], 3, "0", "1", true⟩

end Request
end TableExport
