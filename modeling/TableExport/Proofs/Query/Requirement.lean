import TableExport.Proofs.Query.Literal
import TableExport.Proofs.Query.SharedDraft

/-! # Filters one by one

What a filter asks of the rows is a requirement (`Filter.Requires`): an expression, and its relation
to a parameter with a declared type and a value.  A filter has none exactly if it is at fault
(`Filter.faultWith?`): its operator does not allow several literals, or else one of its literals is
malformed, or else the converter refuses its column.

Filters are added to a draft in order, up to the first one that is at fault.  Each of those before
it adds one condition and binds the parameter that the condition names, under the next free number
(`Draft.Gathers`); the one at fault and those behind it leave the draft as it is, its counter
included.  What the condition says is fixed as a text as well, with the words and signs of the
statement (`Filter.Writes`).

Main statement: `carryOut_filterParts`. -/

namespace TableExport

/-! ### Requirements -/

/-- A relation of an expression to a parameter, which has a declared type and a value. -/
structure Requirement where
  subject : Sql.Expr
  relation : Sql.Relation
  type : ParameterType
  value : BoundValue

/-- The step that adds a requirement to a draft. -/
def Requirement.step (required : Requirement) : Step :=
  .require required.subject required.relation required.type required.value

/-- The text of a condition that names a parameter. -/
theorem Sql.Condition.render_test (subject : Expr) (relation : Relation) (parameter : String) :
    (test subject relation parameter).render =
      match relation with
      | .compares operator => subject.render ++ " " ++ comparisonSign operator ++ " @" ++ parameter
      | .isMember => subject.render ++ " IN UNNEST(@" ++ parameter ++ ")"
      | .isNoMember => subject.render ++ " NOT IN UNNEST(@" ++ parameter ++ ")" := by
  -- Only the seams between the parts are at other places on the right.
  cases relation with
  | compares operator =>
      show subject.render ++ " " ++ (comparisonSign operator ++ " " ++ ("@" ++ parameter)) =
        subject.render ++ " " ++ comparisonSign operator ++ (" " ++ "@") ++ parameter
      simp only [String.append_assoc]
  | isMember =>
      show subject.render ++ " " ++ ("IN UNNEST(" ++ ("@" ++ parameter) ++ ")") =
        subject.render ++ (" " ++ ("IN UNNEST(" ++ "@")) ++ parameter ++ ")"
      simp only [String.append_assoc]
  | isNoMember =>
      show subject.render ++ " " ++ ("NOT IN UNNEST(" ++ ("@" ++ parameter) ++ ")") =
        subject.render ++ (" " ++ ("NOT IN UNNEST(" ++ "@")) ++ parameter ++ ")"
      simp only [String.append_assoc]

namespace Filter

/-- The expression that a filter compares: texts are compared as they are stored, without asking the
converter. -/
inductive HasSubject (converter : Converter) (table : String) (filter : Filter) : Sql.Expr → Prop
  | stored (htype : filter.type = .string) :
      HasSubject converter table filter (columnReference table filter.column)
  | converted {expr : Sql.Expr} (htype : filter.type ≠ .string)
      (hanswer : converter table filter.column filter.type = .ok expr) :
      HasSubject converter table filter expr

/-- What a filter requires: one literal is compared, several make a set.  A set of texts has the
literals themselves as members, every other set what they denote. -/
inductive Requires (converter : Converter) (table : String) (filter : Filter) : Requirement → Prop
  | single {subject : Sql.Expr} {scalar : Scalar} (hone : filter.moreLiterals = [])
      (hvalue : Literal.value? filter.type filter.literal = some scalar)
      (hsubject : filter.HasSubject converter table subject) :
      Requires converter table filter
        ⟨subject, .compares filter.operator, filter.type.parameterType, .scalar scalar⟩
  | texts {relation : Sql.Relation} (hmore : filter.moreLiterals ≠ [])
      (hrelation : filter.operator.membership? = some relation) (htype : filter.type = .string) :
      Requires converter table filter
        ⟨columnReference table filter.column, relation, .stringArray,
          .array (filter.literals.map .text)⟩
  | several {subject : Sql.Expr} {relation : Sql.Relation} {scalars : List Scalar}
      (hmore : filter.moreLiterals ≠ []) (hrelation : filter.operator.membership? = some relation)
      (htype : filter.type ≠ .string)
      (hvalues : Literal.Denote filter.type filter.literals scalars)
      (hsubject : filter.HasSubject converter table subject) :
      Requires converter table filter ⟨subject, relation, .int64Array, .array scalars⟩

/-- The fault of a filter whose column the converter refuses. -/
def refusal? (converter : Converter) (table : String) (filter : Filter) : Option Fault :=
  if filter.type = .string then none
  else
    match converter table filter.column filter.type with
    | .ok _ => none
    | .error reason => some (.misuse (.noConversion reason))

/-- The fault of a filter: in its literals, or else in the conversion of its column. -/
def faultWith? (converter : Converter) (table : String) (filter : Filter) : Option Fault :=
  filter.fault?.or (filter.refusal? converter table)

/-- The text of the expression that a filter compares. -/
inductive WritesSubject (converter : Converter) (table : String) (filter : Filter) : String → Prop
  | stored (htype : filter.type = .string) :
      WritesSubject converter table filter (Sql.qualified [table, filter.column])
  | converted {expr : Sql.Expr} (htype : filter.type ≠ .string)
      (hanswer : converter table filter.column filter.type = .ok expr) :
      WritesSubject converter table filter expr.render

/-- The signs that compare with one value. -/
def signs : List (Operator × String) :=
  [(.eq, "="), (.ne, "<>"), (.gt, ">"), (.ge, ">="), (.lt, "<"), (.le, "<=")]

/-- The text of the condition of a filter: one literal is compared by a sign, and of several the
expression is to be a member or none. -/
inductive Writes (filter : Filter) (subject parameter : String) : String → Prop
  | single {sign : String} (hone : filter.moreLiterals = [])
      (hsign : (filter.operator, sign) ∈ signs) :
      Writes filter subject parameter (subject ++ " " ++ sign ++ " @" ++ parameter)
  | members (hmore : filter.moreLiterals ≠ []) (hoperator : filter.operator = .eq) :
      Writes filter subject parameter (subject ++ " IN UNNEST(@" ++ parameter ++ ")")
  | noMembers (hmore : filter.moreLiterals ≠ []) (hoperator : filter.operator = .ne) :
      Writes filter subject parameter (subject ++ " NOT IN UNNEST(@" ++ parameter ++ ")")

/-- The texts are those of the conditions of filters in order, with a parameter for each place. -/
structure WriteInOrder (converter : Converter) (table : String) (parameter : Nat → String)
    (filters : List Filter) (texts : List String) : Prop where
  length_eq : texts.length = filters.length
  writes : ∀ (index : Nat) (filter : Filter), filters[index]? = some filter →
    ∃ subject text, texts[index]? = some text ∧ filter.WritesSubject converter table subject ∧
      filter.Writes subject (parameter index) text

variable {converter : Converter} {table : String} {filter : Filter}

theorem hasSubject_of_filterSubject {subject : Sql.Expr}
    (h : filterSubject converter table filter = .ok subject) :
    filter.HasSubject converter table subject := by
  unfold filterSubject converted at h
  by_cases htype : filter.type = .string
  · rw [if_pos htype] at h
    obtain rfl := Except.ok.inj h
    exact .stored htype
  · rw [if_neg htype] at h
    cases hanswer : converter table filter.column filter.type with
    | error reason =>
        rw [hanswer] at h
        cases h
    | ok expr =>
        rw [hanswer] at h
        obtain rfl := Except.ok.inj h
        exact .converted htype hanswer

theorem faultOf?_filterSubject (converter : Converter) (table : String) (filter : Filter) :
    faultOf? (filterSubject converter table filter) = filter.refusal? converter table := by
  unfold filterSubject converted refusal?
  by_cases htype : filter.type = .string
  · rw [if_pos htype, if_pos htype]
    rfl
  · rw [if_neg htype, if_neg htype]
    cases converter table filter.column filter.type <;> rfl

theorem faultOf?_part (converter : Converter) (table : String) (filter : Filter) :
    faultOf? (filterPart converter table filter) = filter.faultWith? converter table := by
  unfold filterPart faultWith?
  rw [← faultOf?_filterTest, ← faultOf?_filterSubject]
  cases filterTest filter with
  | error fault => rfl
  | ok test => exact faultOf?_map _ _

/-- A filter that is not at fault is added by one step, which adds what the filter requires. -/
theorem requires_of_part {steps : List Step} (h : filterPart converter table filter = .ok steps) :
    ∃ required, filter.Requires converter table required ∧ steps = [required.step] := by
  obtain ⟨subject, relation, type, value, htest, hsubject, rfl⟩ := filterPart_eq_ok h
  refine ⟨⟨subject, relation, type, value⟩, ?_, rfl⟩
  have hsubject' := hasSubject_of_filterSubject hsubject
  unfold filterTest at htest
  cases hmore : filter.moreLiterals with
  | nil =>
      have hone : filter.hasSeveral = false := by rw [hasSeveral, hmore]; rfl
      rw [hone, if_neg Bool.false_ne_true, Literal.value] at htest
      cases hvalue : Literal.value? filter.type filter.literal with
      | none =>
          rw [hvalue] at htest
          cases htest
      | some scalar =>
          rw [hvalue] at htest
          obtain ⟨rfl, rfl, rfl⟩ : _ ∧ _ ∧ _ := by simpa using Except.ok.inj htest
          exact .single hmore hvalue hsubject'
  | cons literal others =>
      have hseveral : filter.hasSeveral = true := by rw [hasSeveral, hmore]; rfl
      have hne : filter.moreLiterals ≠ [] := by rw [hmore]; exact List.cons_ne_nil _ _
      rw [hseveral, if_pos rfl] at htest
      cases hrelation : filter.operator.membership? with
      | none =>
          rw [hrelation] at htest
          cases htest
      | some found =>
          rw [hrelation] at htest
          obtain ⟨scalars, hscalars, heq⟩ := except_map_eq_ok htest
          obtain ⟨rfl, rfl, rfl⟩ : _ ∧ _ ∧ _ := by simpa using heq
          have hvalues := Literal.values_eq_ok_iff.mp hscalars
          by_cases htype : filter.type = .string
          · rw [htype] at hvalues
            cases hsubject' with
            | converted hother _ => exact absurd htype hother
            | stored _ =>
                rw [hvalues.eq_map_text, htype]
                exact .texts hne hrelation htype
          · have harray : filter.type.arrayType = .int64Array := by
              cases hkind : filter.type <;> first | rfl | exact absurd hkind htype
            rw [harray]
            exact .several hne hrelation htype hvalues hsubject'

/-! ### The text of a requirement -/

theorem HasSubject.writesSubject {subject : Sql.Expr}
    (h : filter.HasSubject converter table subject) :
    filter.WritesSubject converter table subject.render := by
  cases h with
  | stored htype => exact .stored htype
  | converted htype hanswer => exact .converted htype hanswer

theorem mem_signs (operator : Operator) : (operator, Sql.comparisonSign operator) ∈ signs := by
  cases operator <;> decide

theorem writes_compares (hone : filter.moreLiterals = []) (subject : Sql.Expr)
    (parameter : String) :
    filter.Writes subject.render parameter
      (Sql.Condition.test subject (.compares filter.operator) parameter).render := by
  rw [Sql.Condition.render_test]
  exact .single hone (mem_signs _)

theorem writes_membership (hmore : filter.moreLiterals ≠ []) {relation : Sql.Relation}
    (hrelation : filter.operator.membership? = some relation) (subject : Sql.Expr)
    (parameter : String) :
    filter.Writes subject.render parameter
      (Sql.Condition.test subject relation parameter).render := by
  rw [Sql.Condition.render_test]
  cases hoperator : filter.operator with
  | eq =>
      rw [hoperator] at hrelation
      obtain rfl := Option.some.inj hrelation
      exact .members hmore hoperator
  | ne =>
      rw [hoperator] at hrelation
      obtain rfl := Option.some.inj hrelation
      exact .noMembers hmore hoperator
  | _ =>
      rw [hoperator] at hrelation
      cases hrelation

/-- The condition with what a filter requires has the text that the filter asks for. -/
theorem Requires.writes {required : Requirement} (h : filter.Requires converter table required)
    (parameter : String) :
    filter.WritesSubject converter table required.subject.render ∧
      filter.Writes required.subject.render parameter
        (Sql.Condition.test required.subject required.relation parameter).render := by
  cases h with
  | single hone hvalue hsubject => exact ⟨hsubject.writesSubject, writes_compares hone _ _⟩
  | texts hmore hrelation htype => exact ⟨.stored htype, writes_membership hmore hrelation _ _⟩
  | several hmore hrelation htype hvalues hsubject =>
      exact ⟨hsubject.writesSubject, writes_membership hmore hrelation _ _⟩

end Filter

/-! ### Gathering requirements -/

namespace Draft

/-- The draft with one more requirement, its parameter under the next generated name. -/
def gather (draft : Draft) (required : Requirement) : Draft :=
  (draft.bindNext required.type required.value).addCondition
    (.test required.subject required.relation draft.nextName)

/-- The names of the free numbers of a draft in increasing order, counted from zero. -/
noncomputable def freeName (draft : Draft) (index : Nat) : String :=
  Parameter.generated (draft.freeNumber index)

theorem freeName_not_mem (draft : Draft) (index : Nat) :
    draft.freeName index ∉ draft.values.keys :=
  (draft.isFree_freeNumber index).2

theorem freeNumber_strictMono (draft : Draft) : StrictMono draft.freeNumber :=
  Nat.nth_strictMono draft.infinite_isFree

theorem freeName_injective (draft : Draft) : Function.Injective draft.freeName :=
  fun _ _ h => draft.freeNumber_strictMono.injective (Parameter.generated_injective h)

/-- The draft afterwards holds what it held before and, behind it, one condition and one parameter
for each requirement; the counter stands behind the last number that was taken. -/
structure Gathers (before : Draft) (requirements : List Requirement) (after : Draft) : Prop where
  conditions : after.conditions = before.conditions ++ requirements.mapIdx fun index required =>
    .test required.subject required.relation (before.freeName index)
  values : after.values.entries = before.values.entries ++ requirements.mapIdx
    fun index required => (before.freeName index, required.value)
  newTypes : ∀ index required, requirements[index]? = some required →
    after.types.get? (before.freeName index) = some required.type
  otherTypes : ∀ name, (∀ index < requirements.length, name ≠ before.freeName index) →
    after.types.get? name = before.types.get? name
  counter : after.counter = match requirements.length with
    | 0 => before.counter
    | last + 1 => before.freeNumber last + 1
  select : after.select = before.select
  source : after.source = before.source
  order : after.order = before.order
  limit : after.limit = before.limit

namespace Gathers

variable {before after : Draft} {requirements : List Requirement}

theorem nil (draft : Draft) : draft.Gathers [] draft where
  conditions := (List.append_nil _).symm
  values := (List.append_nil _).symm
  newTypes _ _ h := by cases h
  otherTypes _ _ := rfl
  counter := rfl
  select := rfl
  source := rfl
  order := rfl
  limit := rfl

theorem mem_keys_iff (h : before.Gathers requirements after) (name : String) :
    name ∈ after.values.keys ↔
      name ∈ before.values.keys ∨ ∃ index < requirements.length, before.freeName index = name := by
  unfold Bindings.keys Entries.keys
  rw [h.values, List.map_append, List.mem_append]
  refine or_congr_right ?_
  simp only [List.mem_map, List.mem_mapIdx]
  constructor
  · rintro ⟨_, ⟨index, hindex, rfl⟩, rfl⟩
    exact ⟨index, hindex, rfl⟩
  · rintro ⟨index, hindex, rfl⟩
    exact ⟨_, ⟨index, hindex, rfl⟩, rfl⟩

/-- The next number is the first free one that was not taken. -/
theorem nextNumber_eq (h : before.Gathers requirements after) :
    after.nextNumber = before.freeNumber requirements.length := by
  refine Parameter.firstFree_eq (Nat.le_refl _) ?_ (fun hbound => ?_) fun number hle hlt => ?_
  · rw [h.counter]
    split
    · exact (before.isFree_freeNumber _).1
    · next last hlast =>
        rw [hlast]
        exact before.freeNumber_lt_succ last
  · rcases (h.mem_keys_iff _).mp hbound with hold | ⟨index, hindex, heq⟩
    · exact before.freeName_not_mem _ hold
    · exact absurd (before.freeName_injective heq) (Nat.ne_of_lt hindex)
  · refine (h.mem_keys_iff _).mpr (.inl ?_)
    rw [h.counter] at hle
    split at hle
    · next hnone =>
        rw [hnone] at hlt
        exact generated_mem_of_lt_freeNumber_zero hle hlt
    · next last hlast =>
        rw [hlast] at hlt
        exact generated_mem_of_between_freeNumbers hle hlt

/-- One more requirement takes the next free number. -/
theorem gather (h : before.Gathers requirements after) (required : Requirement) :
    before.Gathers (requirements ++ [required]) (after.gather required) := by
  have hname : after.nextName = before.freeName requirements.length := by
    unfold nextName freeName
    rw [h.nextNumber_eq]
  refine ⟨?_, ?_, fun index other hother => ?_, fun name hname' => ?_, ?_, h.select, h.source,
    h.order, h.limit⟩
  · show after.conditions ++ [_] = _
    rw [h.conditions, hname, List.mapIdx_concat, List.append_assoc]
  · show (after.values.put after.nextName required.value).entries = _
    rw [Bindings.entries_put_of_not_mem after.nextName_not_mem, h.values, hname,
      List.mapIdx_concat, List.append_assoc]
  · show (after.bind after.nextName required.type required.value).types.get? _ = _
    rw [get?_types_bind, hname]
    by_cases hlast : index = requirements.length
    · rw [hlast, List.getElem?_concat_length] at hother
      rw [hlast, if_pos rfl, Option.some.inj hother]
    · have hindex : index < requirements.length := by
        have hlt := (List.getElem?_eq_some_iff.mp hother).1
        rw [List.length_append, List.length_singleton] at hlt
        omega
      rw [List.getElem?_append_left hindex] at hother
      rw [if_neg (before.freeName_injective.ne hlast)]
      exact h.newTypes index other hother
  · show (after.bind after.nextName required.type required.value).types.get? _ = _
    rw [List.length_append, List.length_singleton] at hname'
    rw [get?_types_bind, hname, if_neg (hname' _ (Nat.lt_succ_self _))]
    exact h.otherTypes name fun index hindex => hname' index (Nat.lt_succ_of_lt hindex)
  · show after.nextNumber + 1 = _
    rw [h.nextNumber_eq, List.length_append, List.length_singleton]

end Gathers

theorem gathers_foldl (draft : Draft) (requirements : List Requirement) :
    draft.Gathers requirements (requirements.foldl gather draft) := by
  induction requirements using List.reverseRecOn with
  | nil => exact .nil draft
  | append_singleton requirements required ih =>
      rw [List.foldl_append]
      exact ih.gather required

end Draft

/-- The conditions that were added have the texts that the filters ask for, each with the parameter
that was bound for it. -/
theorem Draft.Gathers.exists_texts {before after : Draft} {requirements : List Requirement}
    {converter : Converter} {table : String} {filters : List Filter}
    (h : before.Gathers requirements after)
    (hrequired : List.Forall₂ (Filter.Requires converter table) filters requirements) :
    ∃ texts,
      after.conditions.map Sql.Condition.render =
        before.conditions.map Sql.Condition.render ++ texts ∧
      Filter.WriteInOrder converter table before.freeName filters texts := by
  refine ⟨(requirements.mapIdx fun index required =>
    .test required.subject required.relation (before.freeName index)).map Sql.Condition.render,
    ?_, ?_, ?_⟩
  · rw [h.conditions, List.map_append]
  · rw [List.length_map, List.length_mapIdx, hrequired.length_eq]
  · intro index filter hfilter
    obtain ⟨required, hindex, hrequires⟩ := exists_getElem?_of_forall₂ hrequired hfilter
    obtain ⟨hsubject, htext⟩ := hrequires.writes (before.freeName index)
    refine ⟨_, _, ?_, hsubject, htext⟩
    rw [List.getElem?_map, List.getElem?_mapIdx, hindex]
    rfl

/-! ### Adding filters -/

/-- Adding filters gathers the requirements of those before the first one at fault, with whose fault
it ends. -/
theorem exists_requirements (converter : Converter) (table : String) (filters : List Filter)
    (session : Session) :
    ∃ requirements,
      List.Forall₂ (Filter.Requires converter table)
        (filters.takeWhile fun filter => (filter.faultWith? converter table).isNone) requirements ∧
      (Plan.ofParts (filters.map (filterPart converter table))).carryOut session =
        (⟨requirements.foldl Draft.gather session.draft, session.names⟩,
          filters.findSome? (Filter.faultWith? converter table)) := by
  induction filters generalizing session with
  | nil => exact ⟨[], .nil, rfl⟩
  | cons filter rest ih =>
      have hfault := filter.faultOf?_part converter table
      cases hpart : filterPart converter table filter with
      | error fault =>
          rw [hpart] at hfault
          refine ⟨[], ?_, ?_⟩
          · rw [List.takeWhile_cons, ← hfault]
            exact .nil
          · rw [List.map_cons, hpart, List.findSome?_cons, ← hfault]
            rfl
      | ok steps =>
          rw [hpart] at hfault
          obtain ⟨required, hrequired, rfl⟩ := Filter.requires_of_part hpart
          obtain ⟨requirements, hrequirements, hrun⟩ :=
            ih ⟨session.draft.gather required, session.names⟩
          refine ⟨required :: requirements, ?_, ?_⟩
          · rw [List.takeWhile_cons, ← hfault]
            exact .cons hrequired hrequirements
          · rw [List.map_cons, hpart, List.findSome?_cons, ← hfault]
            exact (Plan.carryOut_ofParts_ok rfl _).trans hrun

/-- Adding filters to a draft ends with the fault of the first filter that has one.  Of the filters
before it each adds what it requires, one condition with the text that the filter asks for and the
parameter that the condition names; the others change nothing. -/
theorem carryOut_filterParts (converter : Converter) (table : String) (filters : List Filter)
    (session : Session) :
    let run := (Plan.ofParts (filters.map (filterPart converter table))).carryOut session
    let added := filters.takeWhile fun filter => (filter.faultWith? converter table).isNone
    run.2 = filters.findSome? (Filter.faultWith? converter table) ∧
      run.1.names = session.names ∧
      ∃ requirements texts,
        List.Forall₂ (Filter.Requires converter table) added requirements ∧
        session.draft.Gathers requirements run.1.draft ∧
        run.1.draft.conditions.map Sql.Condition.render =
          session.draft.conditions.map Sql.Condition.render ++ texts ∧
        Filter.WriteInOrder converter table session.draft.freeName added texts := by
  obtain ⟨requirements, hrequirements, hrun⟩ :=
    exists_requirements converter table filters session
  have hgathers := session.draft.gathers_foldl requirements
  obtain ⟨texts, htexts⟩ := hgathers.exists_texts hrequirements
  dsimp only
  rw [hrun]
  exact ⟨rfl, rfl, requirements, texts, hrequirements, hgathers, htexts⟩

/-- A malformed literal counts before the refusal of the converter, and too many literals before
both. -/
example :
    ((Plan.ofParts ([⟨"a", .eq, "x", [], .string⟩, ⟨"b", .lt, "x", ["1"], .integer⟩].map
      (filterPart (fun _ _ _ => .error "no") "t"))).fault = some (.severalLiterals "b" .lt)) ∧
    (Plan.ofParts ([⟨"b", .eq, "x", ["1"], .integer⟩].map
      (filterPart (fun _ _ _ => .error "no") "t"))).fault =
        some (.malformedLiteral "x" (.data .integer) (some "b")) := by
  decide +kernel

end TableExport
