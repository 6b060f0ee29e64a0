import TableExport.Proofs.Query.Part

/-! # Values do not reach the text

Two drafts look alike if they differ in nothing but the values under their names.  A run and the
run of the same steps without their values go side by side, and their drafts look alike at every
point (`perform_mask`).  The steps without values are given by the shape of the request
(`Request.SameShape.map_mask_steps_eq`), so that two requests of one shape compile to the same text,
with the same names and types of parameters, whatever their literals are
(`Request.SameShape.compileWith_eq`). -/

namespace TableExport

/-! ### Drafts that look alike -/

/-- The drafts differ at most in the values of their parameters. -/
structure Draft.Alike (draft other : Draft) : Prop where
  select : draft.select = other.select
  source : draft.source = other.source
  conditions : draft.conditions = other.conditions
  order : draft.order = other.order
  limit : draft.limit = other.limit
  keys : draft.values.keys = other.values.keys
  types : draft.types = other.types
  counter : draft.counter = other.counter

/-- The sessions differ at most in the values of their parameters. -/
structure Session.Alike (session other : Session) : Prop where
  draft : session.draft.Alike other.draft
  names : session.names = other.names

theorem Draft.Alike.refl (draft : Draft) : draft.Alike draft :=
  ⟨rfl, rfl, rfl, rfl, rfl, rfl, rfl, rfl⟩

theorem Session.Alike.refl (session : Session) : session.Alike session :=
  ⟨.refl session.draft, rfl⟩

/-- Two drafts that look like a third one look alike. -/
theorem Draft.Alike.of_common {draft other third : Draft} (h : draft.Alike third)
    (h' : other.Alike third) : draft.Alike other where
  select := h.select.trans h'.select.symm
  source := h.source.trans h'.source.symm
  conditions := h.conditions.trans h'.conditions.symm
  order := h.order.trans h'.order.symm
  limit := h.limit.trans h'.limit.symm
  keys := h.keys.trans h'.keys.symm
  types := h.types.trans h'.types.symm
  counter := h.counter.trans h'.counter.symm

namespace Draft.Alike

variable {draft other : Draft}

theorem nextNumber_eq (h : draft.Alike other) : draft.nextNumber = other.nextNumber := by
  unfold nextNumber
  rw [h.keys, h.counter]

theorem nextName_eq (h : draft.Alike other) : draft.nextName = other.nextName := by
  unfold nextName
  rw [h.nextNumber_eq]

/-- Binding a name to two values keeps drafts alike. -/
theorem bind (h : draft.Alike other) (name : String) (type : ParameterType)
    (value value' : BoundValue) :
    (draft.bind name type value).Alike (other.bind name type value') := by
  have hkeys : (draft.values.put name value).keys = (other.values.put name value').keys := by
    rw [Bindings.keys_put, Bindings.keys_put, h.keys]
  have htypes : draft.types.put name type = other.types.put name type := by rw [h.types]
  exact ⟨h.select, h.source, h.conditions, h.order, h.limit, hkeys, htypes, h.counter⟩

theorem bindNext (h : draft.Alike other) (type : ParameterType) (value value' : BoundValue) :
    (draft.bindNext type value).Alike (other.bindNext type value') := by
  have hbind := h.bind draft.nextName type value value'
  unfold Draft.bindNext
  rw [← h.nextName_eq, ← h.nextNumber_eq]
  exact ⟨hbind.select, hbind.source, hbind.conditions, hbind.order, hbind.limit, hbind.keys,
    hbind.types, rfl⟩

theorem addCondition (h : draft.Alike other) (condition : Sql.Condition) :
    (draft.addCondition condition).Alike (other.addCondition condition) := by
  have hconditions : draft.conditions ++ [condition] = other.conditions ++ [condition] := by
    rw [h.conditions]
  exact ⟨h.select, h.source, hconditions, h.order, h.limit, h.keys, h.types, h.counter⟩

theorem addItem (h : draft.Alike other) (item : Sql.SelectItem) :
    (draft.addItem item).Alike (other.addItem item) := by
  have hselect : draft.select ++ [item] = other.select ++ [item] := by rw [h.select]
  exact ⟨hselect, h.source, h.conditions, h.order, h.limit, h.keys, h.types, h.counter⟩

theorem addTerm (h : draft.Alike other) (term : Sql.OrderTerm) :
    (draft.addTerm term).Alike (other.addTerm term) := by
  have horder : draft.order ++ [term] = other.order ++ [term] := by rw [h.order]
  exact ⟨h.select, h.source, h.conditions, horder, h.limit, h.keys, h.types, h.counter⟩

theorem setLimit (h : draft.Alike other) (rows : Nat) :
    (draft.setLimit rows).Alike (other.setLimit rows) :=
  ⟨h.select, h.source, h.conditions, h.order, rfl, h.keys, h.types, h.counter⟩

/-- A name that one of the drafts can bind, the other can bind to any value. -/
theorem bindNamed? (h : draft.Alike other) {name : String} {type : ParameterType}
    {value : BoundValue} (value' : BoundValue) {bound : Draft}
    (hbound : draft.bindNamed? name type value = .ok bound) :
    ∃ bound', other.bindNamed? name type value' = .ok bound' ∧ bound.Alike bound' := by
  unfold Draft.bindNamed? at hbound ⊢
  rw [← h.keys]
  split at hbound
  · cases hbound
  · split at hbound
    · cases hbound
    · next hfresh hfree =>
        obtain rfl := Except.ok.inj hbound
        rw [if_neg hfresh, if_neg hfree]
        exact ⟨_, rfl, h.bind name type value value'⟩

end Draft.Alike

/-! ### Runs side by side -/

/-- Where a step can be taken, it can be taken without its value, and the sessions stay alike. -/
theorem Step.take?_mask {step : Step} {s t next : Session} (halike : s.Alike t)
    (h : step.take? s = .ok next) : ∃ next', step.mask.take? t = .ok next' ∧ next.Alike next' := by
  obtain ⟨hdraft, hnames⟩ := halike
  cases step with
  | select item =>
      cases h
      exact ⟨_, rfl, hdraft.addItem item, hnames⟩
  | selectFlag flag column =>
      obtain ⟨name, names, hnext, rfl⟩ := take?_selectFlag h
      rw [hnames] at hnext
      refine ⟨⟨t.draft.addItem (.aliased flag name), names⟩, ?_, hdraft.addItem _, rfl⟩
      simp only [mask, take?, hnext]
  | require subject relation type value =>
      cases h
      refine ⟨_, rfl, ?_, hnames⟩
      rw [hdraft.nextName_eq]
      exact (hdraft.bindNext type value _).addCondition _
  | requireNamed name subject relation type value =>
      simp only [take?] at h
      split at h
      · next bound hbound =>
          obtain rfl := Except.ok.inj h
          obtain ⟨bound', hbound', hboth⟩ := hdraft.bindNamed? (.scalar .null) hbound
          refine ⟨{ t with draft := bound'.addCondition (.test subject relation name) }, ?_,
            hboth.addCondition _, hnames⟩
          simp only [mask, take?, hbound']
      · cases h
  | sort term =>
      cases h
      exact ⟨_, rfl, hdraft.addTerm term, hnames⟩
  | limit rows =>
      cases h
      exact ⟨_, rfl, hdraft.setLimit rows, hnames⟩

/-- A run to the end is matched by the run of its steps without their values. -/
theorem perform_mask {steps : List Step} {s t last : Session} (halike : s.Alike t)
    (h : perform steps s = (last, none)) :
    ∃ last', perform (steps.map Step.mask) t = (last', none) ∧ last.Alike last' := by
  induction steps generalizing s t with
  | nil =>
      cases h
      exact ⟨t, rfl, halike⟩
  | cons step rest ih =>
      obtain ⟨next, hnext, hrest⟩ := perform_cons_eq_ok h
      obtain ⟨next', hnext', hboth⟩ := Step.take?_mask halike hnext
      obtain ⟨last', hlast', hend⟩ := ih hboth hrest
      refine ⟨last', ?_, hend⟩
      simp only [List.map_cons, perform, hnext']
      exact hlast'

/-- Two runs from one session whose steps differ only in values end alike. -/
theorem alike_of_perform {steps others : List Step} {s last last' : Session}
    (hsteps : steps.map Step.mask = others.map Step.mask) (h : perform steps s = (last, none))
    (h' : perform others s = (last', none)) : last.draft.Alike last'.draft := by
  obtain ⟨common, hcommon, halike⟩ := perform_mask (.refl s) h
  obtain ⟨common', hcommon', halike'⟩ := perform_mask (.refl s) h'
  rw [hsteps, hcommon'] at hcommon
  obtain ⟨rfl, -⟩ := Prod.mk.inj hcommon
  exact halike.draft.of_common halike'.draft

/-! ### Requests of one shape -/

/-- The filters differ at most in their literals, and both have one or both have several. -/
structure Filter.SameShape (filter other : Filter) : Prop where
  column : filter.column = other.column
  operator : filter.operator = other.operator
  type : filter.type = other.type
  hasSeveral : filter.hasSeveral = other.hasSeveral

/-- The requests differ at most in the literals of their filters and in the times of the bounds
that are set. -/
structure Request.SameShape (request other : Request) : Prop where
  table : request.table = other.table
  dataset : request.dataset = other.dataset
  columns : request.columns = other.columns
  filters : List.Forall₂ Filter.SameShape request.filters other.filters
  order : request.order = other.order
  limit : request.limit = other.limit
  changedSince : request.changedSince = "" ↔ other.changedSince = ""
  changedUntil : request.changedUntil = "" ↔ other.changedUntil = ""
  truncate : request.truncate = other.truncate

theorem Filter.SameShape.filterShape_eq {filter other : Filter} (h : filter.SameShape other)
    (converter : Converter) (table : String) :
    filterShape converter table filter = filterShape converter table other := by
  have hsubject : filterSubject converter table filter = filterSubject converter table other := by
    unfold filterSubject
    rw [h.type, h.column]
  have hrelation : filter.relation = other.relation := by
    unfold relation
    rw [h.hasSeveral, h.operator]
  have htype : filter.boundType = other.boundType := by
    unfold boundType
    rw [h.hasSeveral, h.type]
  unfold filterShape
  rw [hsubject, hrelation, htype]

theorem flatMap_filterShape_eq {filters others : List Filter}
    (h : List.Forall₂ Filter.SameShape filters others) (converter : Converter) (table : String) :
    filters.flatMap (filterShape converter table) =
      others.flatMap (filterShape converter table) := by
  induction h with
  | nil => rfl
  | cons hhead _ ih => rw [List.flatMap_cons, List.flatMap_cons, hhead.filterShape_eq, ih]

namespace Request.SameShape

variable {settings : Settings} {converter : Converter} {known? : Option Table}
  {suffixes : List String} {request other : Request}

theorem source_eq (h : request.SameShape other) : request.source = other.source := by
  unfold source
  rw [h.dataset, h.table]

/-- Without their values the steps for requests of one shape are the same. -/
theorem map_mask_steps_eq (h : request.SameShape other)
    (hfault : (request.plan settings converter known?).fault = none)
    (hfault' : (other.plan settings converter known?).fault = none) :
    (request.plan settings converter known?).steps.map Step.mask =
      (other.plan settings converter known?).steps.map Step.mask := by
  have hsince : (request.changedSince == "") = (other.changedSince == "") := by
    rw [Bool.eq_iff_iff, beq_iff_eq, beq_iff_eq]
    exact h.changedSince
  have huntil : (request.changedUntil == "") = (other.changedUntil == "") := by
    rw [Bool.eq_iff_iff, beq_iff_eq, beq_iff_eq]
    exact h.changedUntil
  rw [map_mask_steps hfault, map_mask_steps hfault', h.table, h.truncate, h.columns, hsince, huntil,
    h.order, h.limit, flatMap_filterShape_eq h.filters]

/-- Requests of one shape that both compile give the same text, the same parameters in the same
order, the same types and the same dialect. -/
theorem compileWith_eq (h : request.SameShape other) {query query' : Query}
    (hquery : (request.compileWith settings converter known? suffixes).1 = .ok query)
    (hquery' : (other.compileWith settings converter known? suffixes).1 = .ok query') :
    query.sql = query'.sql ∧ query.values.keys = query'.values.keys ∧ query.types = query'.types ∧
      query.dialect = query'.dialect := by
  obtain ⟨hfault, last, hperform, rfl⟩ := run_of_compileWith hquery
  obtain ⟨hfault', last', hperform', rfl⟩ := run_of_compileWith hquery'
  have hsteps := h.map_mask_steps_eq hfault hfault'
  have hstart : other.start suffixes = request.start suffixes := by
    unfold start
    rw [h.source_eq]
  rw [hstart] at hperform'
  have halike := alike_of_perform hsteps hperform hperform'
  have hstatement : request.statement last.draft = other.statement last'.draft := by
    unfold statement
    rw [h.source_eq, halike.select, halike.conditions, halike.order, halike.limit]
  exact ⟨congrArg Sql.Statement.render hstatement, halike.keys, halike.types, rfl⟩

end Request.SameShape

/-- The hostile request with other literals, which are hostile too. -/
def Request.injection : Request :=
  { hostile with
    filters := [⟨"@param_1 ", .ne, " +7 ", ["8", "9"], .integer⟩,
      ⟨"`", .eq, "' OR 1 = 1 --", [], .string⟩]
    changedSince := "5"
    changedUntil := "1700000000" }

theorem Request.SameShape.compileWith_eq_injection :
    hostile ≠ injection ∧ ∃ query query',
      (hostile.compileWith Settings.standard (fun _ column _ => .ok (.asText (.reference [column])))
        (some ⟨"t", [⟨"\\`@a", "JSON", .string, true⟩]⟩) ["x", "x", "y"]).1 = .ok query ∧
      (injection.compileWith Settings.standard
        (fun _ column _ => .ok (.asText (.reference [column])))
        (some ⟨"t", [⟨"\\`@a", "JSON", .string, true⟩]⟩) ["x", "x", "y"]).1 = .ok query' ∧
      query.sql = query'.sql ∧ query.types = query'.types := by
  have hok : ∀ request ∈ [hostile, injection], (request.compileWith Settings.standard
      (fun _ column _ => .ok (.asText (.reference [column])))
      (some ⟨"t", [⟨"\\`@a", "JSON", .string, true⟩]⟩) ["x", "x", "y"]).1.isOk = true := by
    decide +kernel
  obtain ⟨query, hquery⟩ := exists_eq_ok_of_isOk (hok hostile (by simp))
  obtain ⟨query', hquery'⟩ := exists_eq_ok_of_isOk (hok injection (by simp))
  have hshape : hostile.SameShape injection :=
    ⟨rfl, rfl, rfl, .cons ⟨rfl, rfl, rfl, rfl⟩ (.cons ⟨rfl, rfl, rfl, rfl⟩ .nil), rfl, rfl,
      by decide, by decide, rfl⟩
  obtain ⟨hsql, -, htypes, -⟩ := compileWith_eq hshape hquery hquery'
  exact ⟨by decide, query, query', hquery, hquery', hsql, htypes⟩

end TableExport
