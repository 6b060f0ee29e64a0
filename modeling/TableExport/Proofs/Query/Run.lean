import TableExport.Query.Compile

/-! # Runs of steps

A step that is taken adds at most one thing to each list of the draft and never takes anything
away (`Step.take?_growth`).  What a run adds follows by one induction (`perform_collects`), and so
does whatever every single step keeps (`perform_preserves`).

A plan is read off its parts in the same way: its fault is the fault of the first part at fault
(`Plan.fault_ofParts`), and without one its steps are those of all parts (`Plan.steps_ofParts`).
So a compilation that succeeds is a plan without fault, a run to its end, and a draft that can be
finished (`Request.run_of_compileWith`). -/

namespace TableExport

/-! ### Single steps -/

/-- The relation that a condition requires, without the name of the parameter. -/
def Sql.Condition.test? : Sql.Condition → Option (Sql.Expr × Sql.Relation)
  | .test subject relation _ => some (subject, relation)
  | .raw _ => none

namespace Step

/-- The item that a step selects, unless its name has to be drawn. -/
def item? : Step → Option Sql.SelectItem
  | .select item => some item
  | _ => none

/-- The step draws a name for a flag column. -/
def drawsName : Step → Bool
  | .selectFlag _ _ => true
  | _ => false

/-- The relation that a step requires. -/
def test? : Step → Option (Sql.Expr × Sql.Relation)
  | .require subject relation _ _ => some (subject, relation)
  | .requireNamed _ subject relation _ _ => some (subject, relation)
  | _ => none

/-- The term that a step sorts by. -/
def term? : Step → Option Sql.OrderTerm
  | .sort term => some term
  | _ => none

/-- The number of rows that a step sets as the limit. -/
def rows? : Step → Option Nat
  | .limit rows => some rows
  | _ => none

theorem take?_selectFlag {flag : Sql.Expr} {column : String} {s t : Session}
    (h : (selectFlag flag column).take? s = .ok t) :
    ∃ name names, s.names.next? column = some (name, names) ∧
      t = ⟨s.draft.addItem (.aliased flag name), names⟩ := by
  simp only [take?] at h
  split at h
  · next name names hnext => exact ⟨name, names, hnext, (Except.ok.inj h).symm⟩
  · cases h

theorem take?_requireNamed {name : String} {subject : Sql.Expr} {relation : Sql.Relation}
    {type : ParameterType} {value : BoundValue} {s t : Session}
    (h : (requireNamed name subject relation type value).take? s = .ok t) :
    name ∉ s.draft.values.keys ∧ Parameter.isReserved name = false ∧
      t = { s with draft :=
        (s.draft.bind name type value).addCondition (.test subject relation name) } := by
  simp only [take?, Draft.bindNamed?] at h
  by_cases hmem : name ∈ s.draft.values.keys
  · rw [if_pos hmem] at h
    cases h
  · by_cases hres : Parameter.isReserved name = true
    · rw [if_neg hmem, if_pos hres] at h
      cases h
    · rw [if_neg hmem, if_neg hres] at h
      exact ⟨hmem, Bool.eq_false_iff.mpr hres, (Except.ok.inj h).symm⟩

/-- What a step that is taken adds to a draft. -/
structure Growth (step : Step) (before after : Draft) : Prop where
  source : after.source = before.source
  select : step.drawsName = false → after.select = before.select ++ step.item?.toList
  tests : after.conditions.filterMap Sql.Condition.test? =
    before.conditions.filterMap Sql.Condition.test? ++ step.test?.toList
  order : after.order = before.order ++ step.term?.toList
  limit : after.limit = step.rows?.or before.limit

theorem take?_growth {step : Step} {s t : Session} (h : step.take? s = .ok t) :
    step.Growth s.draft t.draft := by
  cases step with
  | select item =>
      cases h
      constructor <;> simp [Draft.addItem, item?, test?, term?, rows?]
  | selectFlag flag column =>
      obtain ⟨name, names, -, rfl⟩ := take?_selectFlag h
      constructor <;> simp [Draft.addItem, drawsName, test?, term?, rows?]
  | require subject relation type value =>
      cases h
      constructor <;>
        simp [Draft.addCondition, Draft.bindNext, Draft.bind, item?, test?, term?, rows?,
          Sql.Condition.test?]
  | requireNamed name subject relation type value =>
      obtain ⟨-, -, rfl⟩ := take?_requireNamed h
      constructor <;>
        simp [Draft.addCondition, Draft.bind, item?, test?, term?, rows?, Sql.Condition.test?]
  | sort term =>
      cases h
      constructor <;> simp [Draft.addTerm, item?, test?, term?, rows?]
  | limit rows =>
      cases h
      constructor <;> simp [Draft.setLimit, item?, test?, term?, rows?]

end Step

/-! ### Whole runs -/

theorem perform_cons_eq_ok {step : Step} {rest : List Step} {s last : Session}
    (h : perform (step :: rest) s = (last, none)) :
    ∃ next, step.take? s = .ok next ∧ perform rest next = (last, none) := by
  rw [perform] at h
  split at h
  · next next hnext => exact ⟨next, hnext, h⟩
  · cases h

theorem perform_append_eq_ok {first second : List Step} {s last : Session}
    (h : perform (first ++ second) s = (last, none)) :
    ∃ reached, perform first s = (reached, none) ∧ perform second reached = (last, none) := by
  rw [perform_append] at h
  split at h
  · next reached hreached => exact ⟨reached, hreached, h⟩
  · cases h

/-- What every step keeps, a run keeps, whether it comes to its end or not. -/
theorem perform_preserves (keeps : Session → Prop) {steps : List Step}
    (hstep : ∀ step ∈ steps, ∀ s t, keeps s → step.take? s = .ok t → keeps t) {s : Session}
    (hs : keeps s) : keeps (perform steps s).1 := by
  induction steps generalizing s with
  | nil => exact hs
  | cons step rest ih =>
      rw [perform]
      cases hnext : step.take? s with
      | ok next =>
          refine ih (fun other hother => hstep other (List.mem_cons_of_mem _ hother)) ?_
          exact hstep step List.mem_cons_self s next hs hnext
      | error fault => exact hs

/-- A list to which every step adds at most one thing gets, by a run, what its steps add. -/
theorem perform_collects {α : Type} (view : Session → List α) {new : Step → Option α}
    {steps : List Step}
    (hstep : ∀ step ∈ steps, ∀ s t, step.take? s = .ok t → view t = view s ++ (new step).toList)
    {s last : Session} (h : perform steps s = (last, none)) :
    view last = view s ++ steps.filterMap new := by
  induction steps generalizing s with
  | nil =>
      cases h
      simp
  | cons step rest ih =>
      obtain ⟨next, hnext, hrest⟩ := perform_cons_eq_ok h
      have hlast := ih (fun other hother => hstep other (List.mem_cons_of_mem _ hother)) hrest
      rw [hlast, hstep step List.mem_cons_self s next hnext, List.append_assoc]
      cases hnew : new step with
      | none => simp [hnew]
      | some item => simp [hnew]

section runs

variable {steps : List Step} {s last : Session}

theorem source_perform (steps : List Step) (s : Session) :
    (perform steps s).1.draft.source = s.draft.source :=
  perform_preserves (fun t => t.draft.source = s.draft.source)
    (fun _ _ _ _ hs h => (Step.take?_growth h).source.trans hs) rfl

theorem select_perform (hsteps : ∀ step ∈ steps, step.drawsName = false)
    (h : perform steps s = (last, none)) :
    last.draft.select = s.draft.select ++ steps.filterMap Step.item? :=
  perform_collects (fun t => t.draft.select)
    (fun step hmem _ _ hstep => (Step.take?_growth hstep).select (hsteps step hmem)) h

theorem tests_perform (h : perform steps s = (last, none)) :
    last.draft.conditions.filterMap Sql.Condition.test? =
      s.draft.conditions.filterMap Sql.Condition.test? ++ steps.filterMap Step.test? :=
  perform_collects (fun t => t.draft.conditions.filterMap Sql.Condition.test?)
    (fun _ _ _ _ hstep => (Step.take?_growth hstep).tests) h

theorem order_perform (h : perform steps s = (last, none)) :
    last.draft.order = s.draft.order ++ steps.filterMap Step.term? :=
  perform_collects (fun t => t.draft.order)
    (fun _ _ _ _ hstep => (Step.take?_growth hstep).order) h

/-- The last limit of a run counts. -/
theorem limit_perform (h : perform steps s = (last, none)) :
    last.draft.limit = (steps.filterMap Step.rows?).getLast?.or s.draft.limit := by
  induction steps generalizing s with
  | nil =>
      cases h
      rfl
  | cons step rest ih =>
      obtain ⟨next, hnext, hrest⟩ := perform_cons_eq_ok h
      rw [ih hrest, (Step.take?_growth hnext).limit]
      cases hrows : step.rows? with
      | none => simp [hrows]
      | some rows =>
          rw [List.filterMap_cons_some hrows, List.getLast?_cons]
          cases (rest.filterMap Step.rows?).getLast? <;> rfl

end runs

/-! ### Parts of a plan -/

/-- The steps of a part; a part at fault has none. -/
def partSteps : Except Fault (List Step) → List Step
  | .ok steps => steps
  | .error _ => []

/-- What none of a part's steps has, the steps together do not have. -/
theorem filterMap_partSteps_eq_nil {α : Type} {view : Step → Option α}
    {part : Except Fault (List Step)}
    (h : ∀ steps, part = .ok steps → ∀ step ∈ steps, view step = none) :
    (partSteps part).filterMap view = [] := by
  cases part with
  | error fault => rfl
  | ok steps => exact List.filterMap_eq_nil_iff.mpr (h steps rfl)

/-- The fault of a result, if it has failed. -/
def faultOf? {α : Type} : Except Fault α → Option Fault
  | .ok _ => none
  | .error fault => some fault

namespace Plan

theorem fault_ofParts (parts : List (Except Fault (List Step))) :
    (ofParts parts).fault = parts.findSome? faultOf? := by
  induction parts with
  | nil => rfl
  | cons part rest ih =>
      cases part with
      | ok steps => exact ih
      | error fault => rfl

theorem steps_ofParts {parts : List (Except Fault (List Step))}
    (h : (ofParts parts).fault = none) : (ofParts parts).steps = parts.flatMap partSteps := by
  induction parts with
  | nil => rfl
  | cons part rest ih =>
      cases part with
      | ok steps => exact congrArg (steps ++ ·) (ih h)
      | error fault => cases h

/-- Every step of a plan comes from one of its parts. -/
theorem exists_part_of_mem_steps {parts : List (Except Fault (List Step))} {step : Step}
    (h : step ∈ (ofParts parts).steps) : ∃ steps, .ok steps ∈ parts ∧ step ∈ steps := by
  induction parts with
  | nil => cases h
  | cons part rest ih =>
      cases part with
      | error fault => cases h
      | ok steps =>
          rcases List.mem_append.mp h with hmem | hmem
          · exact ⟨steps, List.mem_cons_self, hmem⟩
          · obtain ⟨others, hothers, hstep⟩ := ih hmem
            exact ⟨others, List.mem_cons_of_mem _ hothers, hstep⟩

theorem ofParts_append (parts others : List (Except Fault (List Step))) :
    ofParts (parts ++ others) =
      match (ofParts parts).fault with
      | none => ⟨(ofParts parts).steps ++ (ofParts others).steps, (ofParts others).fault⟩
      | some fault => ⟨(ofParts parts).steps, some fault⟩ := by
  induction parts with
  | nil => rfl
  | cons part rest ih =>
      cases part with
      | error fault => rfl
      | ok steps =>
          simp only [List.cons_append, ofParts, ih]
          cases (ofParts rest).fault <;> simp

/-- Carrying out two plans in one is carrying out the second after the first, unless that ends in a
fault. -/
theorem carryOut_ofParts_append (parts others : List (Except Fault (List Step))) (s : Session) :
    (ofParts (parts ++ others)).carryOut s =
      match (ofParts parts).carryOut s with
      | (last, none) => (ofParts others).carryOut last
      | (last, some fault) => (last, some fault) := by
  rw [ofParts_append]
  unfold carryOut
  cases hfault : (ofParts parts).fault with
  | none =>
      dsimp only
      rw [perform_append]
      cases hrun : perform (ofParts parts).steps s with
      | mk last fault? => cases fault? <;> rfl
  | some fault =>
      cases hrun : perform (ofParts parts).steps s with
      | mk last fault? => cases fault? <;> rfl

/-- A part whose steps are all taken leads to the plan of the other parts. -/
theorem carryOut_ofParts_ok {steps : List Step} {s last : Session}
    (h : perform steps s = (last, none)) (rest : List (Except Fault (List Step))) :
    (ofParts (.ok steps :: rest)).carryOut s = (ofParts rest).carryOut last := by
  rw [carryOut, carryOut, ofParts, perform_append, h]

theorem fst_carryOut (plan : Plan) (s : Session) :
    (plan.carryOut s).1 = (perform plan.steps s).1 := by
  unfold carryOut
  split <;> simp_all

/-- What every step of a plan keeps, the plan keeps. -/
theorem carryOut_preserves (keeps : Session → Prop) {plan : Plan}
    (hstep : ∀ step ∈ plan.steps, ∀ s t, keeps s → step.take? s = .ok t → keeps t) {s : Session}
    (hs : keeps s) : keeps (plan.carryOut s).1 := by
  rw [fst_carryOut]
  exact perform_preserves keeps hstep hs

theorem carryOut_eq_none {plan : Plan} {s last : Session}
    (h : plan.carryOut s = (last, none)) :
    plan.fault = none ∧ perform plan.steps s = (last, none) := by
  rw [carryOut] at h
  split at h
  · cases h
  · next reached hperform =>
      obtain ⟨rfl, hfault⟩ := Prod.mk.inj h
      exact ⟨hfault, hperform⟩

end Plan

theorem part_ok_of_findSome?_none {parts : List (Except Fault (List Step))}
    (h : parts.findSome? faultOf? = none) {part : Except Fault (List Step)}
    (hpart : part ∈ parts) : part = .ok (partSteps part) := by
  have hnone : faultOf? part = none := List.findSome?_eq_none_iff.mp h part hpart
  cases part with
  | ok steps => rfl
  | error fault => cases hnone

/-! ### Compilations that succeed -/

theorem Draft.finish?_eq_ok {draft : Draft} {query : Query} (h : draft.finish? = .ok query) :
    ∃ source, draft.source = some source ∧
      query = ⟨Sql.Statement.render
        ⟨draft.select, source, draft.conditions, draft.order, draft.limit⟩, .bigquery,
        draft.values, draft.types⟩ := by
  unfold finish? sql? at h
  cases hsource : draft.source with
  | none =>
      rw [hsource] at h
      cases h
  | some source =>
      rw [hsource] at h
      dsimp only at h
      split at h
      · cases h
      · exact ⟨source, rfl, (Except.ok.inj h).symm⟩

/-- Whether a draft can be finished depends on its source and its limit alone. -/
theorem Draft.finish?_alike {draft other : Draft} (hsource : draft.source = other.source)
    (hlimit : draft.limit = other.limit) :
    (∃ fault, draft.finish? = .error fault ∧ other.finish? = .error fault) ∨
      ∃ query query', draft.finish? = .ok query ∧ other.finish? = .ok query' := by
  unfold finish? sql?
  rw [hsource, hlimit]
  cases other.source with
  | none => exact .inl ⟨_, rfl, rfl⟩
  | some source =>
      dsimp only
      split
      · exact .inl ⟨_, rfl, rfl⟩
      · exact .inr ⟨_, _, rfl, rfl⟩

namespace Request

variable {settings : Settings} {converter : Converter} {known? : Option Table}
  {suffixes : List String} {request : Request}

/-- The source of a request is given by its parts. -/
theorem source_eq_reference (request : Request) :
    ∃ parts, parts ≠ [] ∧ request.source = .reference parts := by
  unfold source
  split
  · exact ⟨_, List.cons_ne_nil _ _, rfl⟩
  · split <;> exact ⟨_, List.cons_ne_nil _ _, rfl⟩

/-- The session in which a request is compiled: a draft with nothing but its source. -/
def start (request : Request) (suffixes : List String) : Session :=
  ⟨Draft.empty.setSource request.source, ⟨[], suffixes⟩⟩

/-- The statement of a finished draft for a request. -/
def statement (request : Request) (draft : Draft) : Sql.Statement :=
  ⟨draft.select, request.source, draft.conditions, draft.order, draft.limit⟩

/-- A compilation that succeeds is a plan without fault, a run to its end, and its statement. -/
theorem run_of_compileWith {query : Query}
    (h : (request.compileWith settings converter known? suffixes).1 = .ok query) :
    (request.plan settings converter known?).fault = none ∧
      ∃ last, perform (request.plan settings converter known?).steps (request.start suffixes) =
          (last, none) ∧
        query = ⟨(request.statement last.draft).render, .bigquery, last.draft.values,
          last.draft.types⟩ := by
  unfold compileWith populate at h
  cases hrun : (request.plan settings converter known?).carryOut (request.start suffixes) with
  | mk last fault? =>
      rw [start] at hrun
      rw [hrun] at h
      cases fault? with
      | some fault => cases h
      | none =>
          obtain ⟨hfault, hperform⟩ := Plan.carryOut_eq_none hrun
          obtain ⟨source, hsource, hquery⟩ := Draft.finish?_eq_ok h
          have hkept := source_perform (request.plan settings converter known?).steps
            (request.start suffixes)
          rw [start, hperform, hsource] at hkept
          obtain rfl : source = request.source := Option.some.inj hkept
          exact ⟨hfault, last, hperform, hquery⟩

end Request
end TableExport
