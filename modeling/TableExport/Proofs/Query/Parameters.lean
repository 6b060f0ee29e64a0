import TableExport.Proofs.Query.Part
import TableExport.Proofs.Query.Run
import TableExport.Proofs.Sql.Placeholder

/-! # Placeholders and parameters

In a draft that only steps have built, every condition names one bound parameter and every bound
parameter is named by one condition, in the order of binding (`Draft.IsPaired`).  The default
converter gives no raw text, so that the statement of a request is structured whatever its names
contain.  Together: the placeholders that can be read in the text of a compiled query are the names
of its values (`placeholders?_compile`). -/

namespace TableExport

/-! ### Conditions and bindings -/

/-- The conditions name the bound parameters one by one, and just these have a type. -/
structure Draft.IsPaired (draft : Draft) : Prop where
  parameters : draft.conditions.filterMap Sql.Condition.parameter? = draft.values.keys
  types : draft.types.keys = draft.values.keys

/-- A fresh name is bound together with the condition that names it. -/
theorem Draft.IsPaired.addBound {draft : Draft} (h : draft.IsPaired) {name : String}
    (hname : name ∉ draft.values.keys) (type : ParameterType) (value : BoundValue)
    (subject : Sql.Expr) (relation : Sql.Relation) :
    ((draft.bind name type value).addCondition (.test subject relation name)).IsPaired := by
  have hvalues : (draft.values.put name value).keys = draft.values.keys ++ [name] := by
    rw [Bindings.keys_put, if_neg hname]
  have htypes : (draft.types.put name type).keys = draft.values.keys ++ [name] := by
    rw [Bindings.keys_put, h.types, if_neg hname]
  constructor
  · show (draft.conditions ++ [_]).filterMap _ = (draft.values.put name value).keys
    rw [hvalues, List.filterMap_append, h.parameters]
    rfl
  · exact htypes.trans hvalues.symm

theorem Step.take?_isPaired {step : Step} {s t : Session} (hs : s.draft.IsPaired)
    (h : step.take? s = .ok t) : t.draft.IsPaired := by
  cases step with
  | select item =>
      cases h
      exact ⟨hs.parameters, hs.types⟩
  | selectFlag flag column =>
      obtain ⟨name, names, -, rfl⟩ := take?_selectFlag h
      exact ⟨hs.parameters, hs.types⟩
  | require subject relation type value =>
      cases h
      have hadded := hs.addBound s.draft.nextName_not_mem type value subject relation
      exact ⟨hadded.parameters, hadded.types⟩
  | requireNamed name subject relation type value =>
      obtain ⟨hname, -, rfl⟩ := take?_requireNamed h
      exact hs.addBound hname type value subject relation
  | sort term =>
      cases h
      exact ⟨hs.parameters, hs.types⟩
  | limit rows =>
      cases h
      exact ⟨hs.parameters, hs.types⟩

theorem isPaired_perform (steps : List Step) {s : Session} (hs : s.draft.IsPaired) :
    (perform steps s).1.draft.IsPaired :=
  perform_preserves (fun t => t.draft.IsPaired) (fun _ _ _ _ => Step.take?_isPaired) hs

/-! ### Structured steps -/

/-- No part of what a step adds was given as text. -/
def Step.IsStructured : Step → Prop
  | .select item => item.IsStructured
  | .selectFlag flag _ => flag.IsStructured
  | .require subject _ _ _ => subject.IsStructured
  | .requireNamed name subject _ _ _ =>
      subject.IsStructured ∧ name.toList.all Sql.isNameChar = true
  | .sort term => term.expr.IsStructured
  | .limit _ => True

theorem Parameter.isNameChar_generated (number : Nat) :
    (Parameter.generated number).toList.all Sql.isNameChar = true := by
  rw [Parameter.generated, String.toList_append, List.all_append, Bool.and_eq_true]
  refine ⟨by decide, List.all_eq_true.mpr fun c hc => ?_⟩
  simp [Sql.isNameChar, Char.isAlphanum, Numeral.isDigit_of_mem_repr hc]

/-- No part of the draft, apart from its source, was given as text. -/
structure Draft.IsStructured (draft : Draft) : Prop where
  select : ∀ item ∈ draft.select, item.IsStructured
  conditions : ∀ condition ∈ draft.conditions, condition.IsStructured
  order : ∀ term ∈ draft.order, term.expr.IsStructured

theorem forall_mem_append_singleton {α : Type} {p : α → Prop} {items : List α} {item : α}
    (h : ∀ other ∈ items, p other) (hitem : p item) : ∀ other ∈ items ++ [item], p other := by
  intro other hother
  rcases List.mem_append.mp hother with hmem | hmem
  · exact h other hmem
  · rw [List.mem_singleton.mp hmem]
    exact hitem

theorem Step.take?_isStructured {step : Step} {s t : Session} (hstep : step.IsStructured)
    (hs : s.draft.IsStructured) (h : step.take? s = .ok t) : t.draft.IsStructured := by
  cases step with
  | select item =>
      cases h
      exact ⟨forall_mem_append_singleton hs.select hstep, hs.conditions, hs.order⟩
  | selectFlag flag column =>
      obtain ⟨name, names, -, rfl⟩ := take?_selectFlag h
      exact ⟨forall_mem_append_singleton hs.select hstep, hs.conditions, hs.order⟩
  | require subject relation type value =>
      cases h
      have hname := Parameter.isNameChar_generated s.draft.nextNumber
      exact ⟨hs.select, forall_mem_append_singleton hs.conditions ⟨hstep, hname⟩, hs.order⟩
  | requireNamed name subject relation type value =>
      obtain ⟨-, -, rfl⟩ := take?_requireNamed h
      exact ⟨hs.select, forall_mem_append_singleton hs.conditions hstep, hs.order⟩
  | sort term =>
      cases h
      exact ⟨hs.select, hs.conditions, forall_mem_append_singleton hs.order hstep⟩
  | limit rows =>
      cases h
      exact ⟨hs.select, hs.conditions, hs.order⟩

theorem isStructured_perform {steps : List Step} (hsteps : ∀ step ∈ steps, step.IsStructured)
    {s : Session} (hs : s.draft.IsStructured) : (perform steps s).1.draft.IsStructured :=
  perform_preserves (fun t => t.draft.IsStructured)
    (fun step hmem _ _ hs h => Step.take?_isStructured (hsteps step hmem) hs h) hs

/-! ### The steps of a request -/

section steps

variable {settings : Settings} {known? : Option Table} {table : String} {steps : List Step}

theorem typedColumn_isStructured (known? : Option Table) (table column : String)
    (type : DataType) : (typedColumn known? table column type).IsStructured := by
  unfold typedColumn
  split
  · trivial
  · split <;> trivial

theorem Excerpt.isStructured_ofShape (shape : Shape) (column : Sql.Expr) (budget : Int)
    (h : column.IsStructured) :
    (ofShape shape column budget).value.IsStructured ∧
      (ofShape shape column budget).flag.IsStructured := by
  cases shape <;> simp [ofShape, serialized, Sql.Expr.IsStructured, h]

theorem isStructured_of_mem_projectionParts {truncate : Bool} {columns : List String}
    (h : .ok steps ∈ projectionParts settings known? table truncate columns) :
    ∀ step ∈ steps, step.IsStructured := by
  intro step hstep
  rcases steps_of_mem_projectionParts h with rfl | ⟨column, rfl⟩ | ⟨column, shape, rfl⟩
  · rw [List.mem_singleton.mp hstep]
    trivial
  · rw [List.mem_singleton.mp hstep]
    trivial
  · have hexcerpt := Excerpt.isStructured_ofShape shape (columnReference table column)
      settings.budget trivial
    rcases List.mem_pair.mp hstep with rfl | rfl
    · exact hexcerpt.1
    · exact hexcerpt.2

theorem isStructured_of_filterPart {filter : Filter}
    (h : filterPart (Converter.casting known?) table filter = .ok steps) :
    ∀ step ∈ steps, step.IsStructured := by
  obtain ⟨subject, relation, type, value, -, hsubject, rfl⟩ := filterPart_eq_ok h
  rw [filterSubject_casting] at hsubject
  obtain rfl := Except.ok.inj hsubject
  intro step hstep
  rw [List.mem_singleton.mp hstep]
  exact typedColumn_isStructured known? table filter.column filter.type

theorem isStructured_of_changeBoundPart {name text : String} {operator : Operator}
    (hname : name.toList.all Sql.isNameChar = true)
    (h : changeBoundPart name operator text = .ok steps) : ∀ step ∈ steps, step.IsStructured := by
  intro step hstep
  rcases changeBoundPart_eq_ok h with ⟨-, rfl⟩ | ⟨-, moment, rfl⟩
  · cases hstep
  · rw [List.mem_singleton.mp hstep]
    exact ⟨trivial, hname⟩

theorem isStructured_of_mem_orderParts {keys : List SortKey}
    (h : .ok steps ∈ orderParts (Converter.casting known?) table keys) :
    ∀ step ∈ steps, step.IsStructured := by
  rw [orderParts_eq] at h
  obtain ⟨key, -, hpart⟩ := List.mem_map.mp h
  rw [sortPart_casting] at hpart
  obtain rfl := Except.ok.inj hpart
  intro step hstep
  rw [List.mem_singleton.mp hstep]
  exact typedColumn_isStructured known? table key.column key.type

end steps

namespace Request

variable {settings : Settings} {typed? known? : Option Table} {suffixes : List String}
  {request : Request} {query : Query}

theorem isStructured_steps (settings : Settings) (typed? known? : Option Table)
    (request : Request) :
    ∀ step ∈ (request.plan settings (Converter.casting typed?) known?).steps,
      step.IsStructured := by
  intro step hmem
  obtain ⟨steps, hpart, hstep⟩ := Plan.exists_part_of_mem_steps hmem
  simp only [parts, List.mem_append] at hpart
  rcases hpart with (((hpart | hpart) | hpart) | hpart) | hpart
  · exact isStructured_of_mem_projectionParts hpart step hstep
  · obtain ⟨filter, -, hfilter⟩ := List.mem_map.mp hpart
    exact isStructured_of_filterPart hfilter step hstep
  · rcases List.mem_pair.mp hpart with hbound | hbound
    · exact isStructured_of_changeBoundPart (by decide) hbound.symm step hstep
    · exact isStructured_of_changeBoundPart (by decide) hbound.symm step hstep
  · exact isStructured_of_mem_orderParts hpart step hstep
  · rw [limitPart_eq] at hpart
    obtain rfl := Except.ok.inj (List.mem_singleton.mp hpart)
    obtain ⟨rows, -, rfl⟩ := List.mem_map.mp hstep
    trivial

/-- A compiled request has run to its end; its draft is paired and its statement structured. -/
theorem finished_of_compileWith
    (h : (request.compileWith settings (Converter.casting typed?) known? suffixes).1 = .ok query) :
    (request.plan settings (Converter.casting typed?) known?).fault = none ∧
      ∃ last, perform (request.plan settings (Converter.casting typed?) known?).steps
          (request.start suffixes) = (last, none) ∧
        last.draft.IsPaired ∧ (request.statement last.draft).IsStructured ∧
        query = ⟨(request.statement last.draft).render, .bigquery, last.draft.values,
          last.draft.types⟩ := by
  obtain ⟨hfault, last, hperform, hquery⟩ := run_of_compileWith h
  have hpaired := isPaired_perform
    (request.plan settings (Converter.casting typed?) known?).steps
    (s := request.start suffixes) ⟨rfl, rfl⟩
  have hstructured := isStructured_perform (isStructured_steps settings typed? known? request)
    (s := request.start suffixes) ⟨by simp [start, Draft.empty, Draft.setSource],
      by simp [start, Draft.empty, Draft.setSource], by simp [start, Draft.empty, Draft.setSource]⟩
  rw [hperform] at hpaired hstructured
  obtain ⟨parts, -, hsource⟩ := request.source_eq_reference
  exact ⟨hfault, last, hperform, hpaired,
    ⟨hstructured.select, ⟨parts, hsource⟩, hstructured.conditions, hstructured.order⟩, hquery⟩

theorem finished_of_compile (h : request.compile settings known? suffixes = .ok query) :
    (request.plan settings (Converter.casting known?) known?).fault = none ∧
      ∃ last, perform (request.plan settings (Converter.casting known?) known?).steps
          (request.start suffixes) = (last, none) ∧
        last.draft.IsPaired ∧ (request.statement last.draft).IsStructured ∧
        query = ⟨(request.statement last.draft).render, .bigquery, last.draft.values,
          last.draft.types⟩ :=
  finished_of_compileWith h

/-- In the text of a compiled query every identifier is closed, and the placeholders outside of
identifiers are the names of the bound values in the order of binding, each of them once.  The
same names have types. -/
theorem placeholders?_compile (h : request.compile settings known? suffixes = .ok query) :
    Sql.placeholders? query.sql.toList = some query.values.keys ∧ query.values.keys.Nodup ∧
      query.types.keys = query.values.keys := by
  obtain ⟨-, last, -, hpaired, hstructured, rfl⟩ := finished_of_compile h
  have hread := Sql.Statement.placeholders?_render hstructured
  have hnames : (request.statement last.draft).conditions.filterMap Sql.Condition.parameter? =
      last.draft.values.keys := hpaired.parameters
  rw [hnames] at hread
  exact ⟨hread, last.draft.values.nodup_keys, hpaired.types⟩

/-- Hostile names do not disturb the placeholders. -/
theorem placeholders?_compile_hostile :
    ∃ query, hostile.compile Settings.standard (some ⟨"t", [⟨"\\`@a", "JSON", .string, true⟩]⟩)
        ["@b`", "c"] = .ok query ∧
      Sql.placeholders? query.sql.toList =
        some ["param_0", "param_1", "changedSince", "changedUntil"] := by
  have hkeys : (hostile.compile Settings.standard
        (some ⟨"t", [⟨"\\`@a", "JSON", .string, true⟩]⟩) ["@b`", "c"]).map
        (fun query => query.values.keys) =
      .ok ["param_0", "param_1", "changedSince", "changedUntil"] := by
    decide +kernel
  obtain ⟨query, hquery, hnames⟩ := except_map_eq_ok hkeys
  refine ⟨query, hquery, ?_⟩
  rw [(placeholders?_compile hquery).1, hnames]

end Request
end TableExport
