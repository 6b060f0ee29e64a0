import Mathlib.Data.Nat.Nth
import TableExport.Proofs.Query.Binding
import TableExport.Proofs.Query.FirstFault
import TableExport.Proofs.Query.Simulation
import TableExport.Proofs.Sql.Placeholder

/-! # Requests on the draft of a larger query

Adding a request to a draft that somebody else works on gives what adding it to a new draft gives,
behind what the draft held before.  Only the generated names differ: where the new draft counts from
zero, the shared one takes its next free numbers (`Draft.freeNumber`).  Nothing that the draft held
is changed (`Draft.Gains`), whether the request is added to its end or stopped by a fault, and it is
stopped by the same fault on both drafts.

The two runs go side by side (`Draft.Mirrors`): the shared draft holds its own part and, renamed,
the whole of the new one.

Main statement: `Request.populate_gains`. -/

namespace TableExport

namespace Draft

/-! ### Free numbers -/

/-- The number is not behind the counter, and its name is unbound. -/
def IsFree (draft : Draft) (number : Nat) : Prop :=
  draft.counter ≤ number ∧ Parameter.generated number ∉ draft.values.keys

/-- The free numbers of a draft in increasing order, counted from zero. -/
noncomputable def freeNumber (draft : Draft) (index : Nat) : Nat :=
  Nat.nth draft.IsFree index

theorem infinite_isFree (draft : Draft) : (Set.ofPred draft.IsFree).Infinite := by
  refine Set.infinite_of_forall_exists_gt fun number => ?_
  have hle := Parameter.le_firstFree draft.values.keys draft.values.keys.length
    (draft.counter + number + 1)
  refine ⟨_, ⟨?_, Parameter.generated_firstFree_not_mem (Nat.le_refl _)
    (draft.counter + number + 1)⟩, ?_⟩ <;> omega

theorem isFree_freeNumber (draft : Draft) (index : Nat) : draft.IsFree (draft.freeNumber index) :=
  Nat.nth_mem_of_infinite draft.infinite_isFree index

theorem freeNumber_lt_succ (draft : Draft) (index : Nat) :
    draft.freeNumber index < draft.freeNumber (index + 1) :=
  Nat.nth_strictMono draft.infinite_isFree (Nat.lt_succ_self index)

/-- Before the first free number all names from the counter on are bound. -/
theorem generated_mem_of_lt_freeNumber_zero {draft : Draft} {number : Nat}
    (hle : draft.counter ≤ number) (hlt : number < draft.freeNumber 0) :
    Parameter.generated number ∈ draft.values.keys := by
  by_contra hfree
  obtain ⟨index, -, rfl⟩ := Nat.exists_lt_card_nth_eq (p := draft.IsFree) ⟨hle, hfree⟩
  have hmono := (Nat.nth_le_nth draft.infinite_isFree).mpr (Nat.zero_le index)
  exact absurd hlt (Nat.not_lt.mpr hmono)

/-- Between two successive free numbers all names are bound. -/
theorem generated_mem_of_between_freeNumbers {draft : Draft} {index number : Nat}
    (hlt : draft.freeNumber index < number) (hlt' : number < draft.freeNumber (index + 1)) :
    Parameter.generated number ∈ draft.values.keys := by
  by_contra hfree
  have hle : draft.counter ≤ number := Nat.le_of_lt
    (Nat.lt_of_le_of_lt (draft.isFree_freeNumber index).1 hlt)
  exact absurd (Nat.le_nth_of_lt_nth_succ hlt' ⟨hle, hfree⟩) (Nat.not_le.mpr hlt)

/-! ### Renaming -/

/-- The name under which a draft binds what a new draft binds under a name. -/
noncomputable def renamed (draft : Draft) (name : String) : String :=
  match Parameter.number? name with
  | some index => Parameter.generated (draft.freeNumber index)
  | none => name

theorem renamed_generated (draft : Draft) (index : Nat) :
    draft.renamed (Parameter.generated index) = Parameter.generated (draft.freeNumber index) := by
  rw [renamed, Parameter.number?_generated]

theorem renamed_of_free (draft : Draft) {name : String} (h : Parameter.isReserved name = false) :
    draft.renamed name = name := by
  rw [renamed, Parameter.number?_eq_none h]

end Draft

/-- The condition with its parameter renamed. -/
def Sql.Condition.rename (naming : String → String) : Sql.Condition → Sql.Condition
  | .raw sql => .raw sql
  | .test subject relation parameter => .test subject relation (naming parameter)

/-! ### What a draft gains -/

/-- One draft holds what a base held before and, behind it, what another one holds, under names that
were unbound in the base. -/
structure Draft.Gains (base added whole : Draft) : Prop where
  select : whole.select = base.select ++ added.select
  source : whole.source = base.source
  conditions : whole.conditions = base.conditions ++ added.conditions.map (.rename base.renamed)
  order : whole.order = base.order ++ added.order
  limit : whole.limit = added.limit.or base.limit
  values : whole.values.entries = base.values.entries
    ++ added.values.entries.map fun entry => (base.renamed entry.1, entry.2)
  unbound : ∀ name ∈ added.values.keys, base.renamed name ∉ base.values.keys
  newTypes : ∀ name ∈ added.values.keys,
    whole.types.get? (base.renamed name) = added.types.get? name
  otherTypes : ∀ name, name ∉ added.values.keys.map base.renamed →
    whole.types.get? name = base.types.get? name

namespace Draft.Gains

variable {base added whole : Draft}

theorem keys (h : base.Gains added whole) :
    whole.values.keys = base.values.keys ++ added.values.keys.map base.renamed := by
  unfold Bindings.keys Entries.keys
  rw [h.values, List.map_append, List.map_map, List.map_map]
  rfl

theorem addItem (h : base.Gains added whole) (item : Sql.SelectItem) :
    base.Gains (added.addItem item) (whole.addItem item) :=
  { h with select := by simp only [Draft.addItem, h.select, List.append_assoc] }

theorem addTerm (h : base.Gains added whole) (term : Sql.OrderTerm) :
    base.Gains (added.addTerm term) (whole.addTerm term) :=
  { h with order := by simp only [Draft.addTerm, h.order, List.append_assoc] }

theorem setLimit (h : base.Gains added whole) (rows : Nat) :
    base.Gains (added.setLimit rows) (whole.setLimit rows) :=
  { h with limit := rfl }

theorem addCondition (h : base.Gains added whole) (condition : Sql.Condition) :
    base.Gains (added.addCondition condition)
      (whole.addCondition (condition.rename base.renamed)) := by
  refine { h with conditions := ?_ }
  simp only [Draft.addCondition, h.conditions, List.map_append, List.append_assoc,
    List.map_singleton]

/-- A name that is new on both sides is bound on both sides. -/
theorem bind (h : base.Gains added whole) {name : String} (hname : name ∉ added.values.keys)
    (hfree : base.renamed name ∉ whole.values.keys) (type : ParameterType) (value : BoundValue) :
    base.Gains (added.bind name type value) (whole.bind (base.renamed name) type value) := by
  have hkeys : (added.bind name type value).values.keys = added.values.keys ++ [name] := by
    show (added.values.put name value).keys = _
    rw [Bindings.keys_put, if_neg hname]
  refine { h with values := ?_, unbound := ?_, newTypes := ?_, otherTypes := ?_ }
  · show (whole.values.put _ value).entries = _ ++ (added.values.put name value).entries.map _
    rw [Bindings.entries_put_of_not_mem hname, Bindings.entries_put_of_not_mem hfree, h.values,
      List.map_append, List.append_assoc]
    rfl
  · intro other hother
    rw [hkeys, List.mem_append, List.mem_singleton] at hother
    rcases hother with hold | rfl
    · exact h.unbound other hold
    · exact fun hmem => hfree (h.keys ▸ List.mem_append_left _ hmem)
  · intro other hother
    rw [get?_types_bind, get?_types_bind]
    rw [hkeys, List.mem_append, List.mem_singleton] at hother
    by_cases hsame : other = name
    · rw [hsame, if_pos rfl, if_pos rfl]
    · have hold : other ∈ added.values.keys := hother.resolve_right hsame
      -- The old names are bound, so that none of them is renamed to the new one.
      have hne : base.renamed other ≠ base.renamed name := by
        intro heq
        refine hfree ?_
        rw [← heq, h.keys]
        exact List.mem_append_right _ (List.mem_map_of_mem hold)
      rw [if_neg hsame, if_neg hne, h.newTypes other hold]
  · intro other hother
    rw [hkeys, List.map_append, List.mem_append, not_or] at hother
    have hne : other ≠ base.renamed name := fun heq => hother.2 (List.mem_singleton.mpr heq)
    rw [get?_types_bind, if_neg hne, h.otherTypes other hother.1]

end Draft.Gains

/-! ### Counting without gaps -/

/-- The generated names that are bound are those of the numbers before the counter. -/
def Draft.CountsUp (draft : Draft) : Prop :=
  ∀ name ∈ draft.values.keys,
    (∃ number, number < draft.counter ∧ name = Parameter.generated number) ∨
      Parameter.isReserved name = false

namespace Draft.CountsUp

variable {draft : Draft}

theorem nextNumber_eq (h : draft.CountsUp) : draft.nextNumber = draft.counter := by
  refine Parameter.firstFree_eq (Nat.le_refl _) (Nat.le_refl _) (fun hbound => ?_)
    fun _ hle hlt => absurd hlt (Nat.not_lt.mpr hle)
  rcases h _ hbound with ⟨number, hlt, heq⟩ | hfree
  · exact absurd (Parameter.generated_injective heq) (Nat.ne_of_gt hlt)
  · rw [Parameter.isReserved_generated] at hfree
    cases hfree

theorem counter_bindNext (h : draft.CountsUp) (type : ParameterType) (value : BoundValue) :
    (draft.bindNext type value).counter = draft.counter + 1 := by
  show draft.nextNumber + 1 = _
  rw [h.nextNumber_eq]

theorem bindNext (h : draft.CountsUp) (type : ParameterType) (value : BoundValue) :
    (draft.bindNext type value).CountsUp := by
  intro name hname
  rw [keys_values_bindNext, List.mem_append, List.mem_singleton] at hname
  rw [h.counter_bindNext]
  rcases hname with hold | rfl
  · rcases h name hold with ⟨number, hlt, heq⟩ | hfree
    · exact .inl ⟨number, Nat.lt_succ_of_lt hlt, heq⟩
    · exact .inr hfree
  · refine .inl ⟨draft.nextNumber, ?_, rfl⟩
    rw [h.nextNumber_eq]
    exact Nat.lt_succ_self _

theorem bind (h : draft.CountsUp) {name : String} (hfree : Parameter.isReserved name = false)
    (type : ParameterType) (value : BoundValue) : (draft.bind name type value).CountsUp := by
  intro other hother
  have hmem : other ∈ (draft.values.put name value).keys := hother
  rw [Bindings.keys_put] at hmem
  split at hmem
  · exact h other hmem
  · rcases List.mem_append.mp hmem with hold | hnew
    · exact h other hold
    · rw [List.mem_singleton.mp hnew]
      exact .inr hfree

end Draft.CountsUp

/-! ### Two drafts side by side -/

/-- The base with what a draft holds that was new in the beginning, both having gone the same way.
The counter of the new one says how many generated names it has bound, and the other one stands
between the free numbers that it has used and the next one. -/
structure Draft.Mirrors (base added whole : Draft) : Prop extends base.Gains added whole where
  countsUp : added.CountsUp
  counter : whole.counter ≤ base.freeNumber added.counter
  passed : ∀ number, whole.counter ≤ number → number < base.freeNumber added.counter →
    Parameter.generated number ∈ base.values.keys

namespace Draft.Mirrors

variable {base added whole : Draft}

/-- At the beginning one draft is new and the other is the base. -/
theorem start (base : Draft) : base.Mirrors Draft.empty base where
  select := (List.append_nil _).symm
  source := rfl
  conditions := (List.append_nil _).symm
  order := (List.append_nil _).symm
  limit := (Option.none_or).symm
  values := (List.append_nil _).symm
  unbound _ hname := by cases hname
  newTypes _ hname := by cases hname
  otherTypes _ _ := rfl
  countsUp _ hname := by cases hname
  counter := (base.isFree_freeNumber 0).1
  passed _ hle hlt := generated_mem_of_lt_freeNumber_zero hle hlt

/-- Among the bound names that are not of the base, the generated ones are behind the next free
number. -/
theorem lt_of_generated_mem (h : base.Mirrors added whole) {number : Nat}
    (hmem : Parameter.generated number ∈ added.values.keys.map base.renamed) :
    number < base.freeNumber added.counter := by
  obtain ⟨name, hname, heq⟩ := List.mem_map.mp hmem
  rcases h.countsUp name hname with ⟨index, hlt, rfl⟩ | hfree
  · rw [renamed_generated] at heq
    obtain rfl := Parameter.generated_injective heq
    exact Nat.nth_strictMono base.infinite_isFree hlt
  · rw [renamed_of_free base hfree] at heq
    rw [heq, Parameter.isReserved_generated] at hfree
    cases hfree

/-- The base takes its free numbers one after the other. -/
theorem nextNumber_whole (h : base.Mirrors added whole) :
    whole.nextNumber = base.freeNumber added.counter := by
  refine Parameter.firstFree_eq (Nat.le_refl _) h.counter (fun hbound => ?_)
    fun number hle hlt => ?_
  · rw [h.keys, List.mem_append] at hbound
    rcases hbound with hold | hnew
    · exact (base.isFree_freeNumber added.counter).2 hold
    · exact absurd (h.lt_of_generated_mem hnew) (Nat.lt_irrefl _)
  · rw [h.keys]
    exact List.mem_append_left _ (h.passed number hle hlt)

theorem nextName_whole (h : base.Mirrors added whole) :
    whole.nextName = base.renamed added.nextName := by
  unfold nextName
  rw [renamed_generated, h.countsUp.nextNumber_eq, h.nextNumber_whole]

theorem bindNext (h : base.Mirrors added whole) (type : ParameterType) (value : BoundValue) :
    base.Mirrors (added.bindNext type value) (whole.bindNext type value) := by
  have hfree : base.renamed added.nextName ∉ whole.values.keys := by
    rw [← h.nextName_whole]
    exact whole.nextName_not_mem
  have hgains := h.toGains.bind added.nextName_not_mem hfree type value
  rw [← h.nextName_whole] at hgains
  have hcounter := h.countsUp.counter_bindNext type value
  have hwhole : (whole.bindNext type value).counter = base.freeNumber added.counter + 1 := by
    show whole.nextNumber + 1 = _
    rw [h.nextNumber_whole]
  refine ⟨⟨hgains.select, hgains.source, hgains.conditions, hgains.order, hgains.limit,
    hgains.values, hgains.unbound, hgains.newTypes, hgains.otherTypes⟩,
    h.countsUp.bindNext type value, ?_, fun number hle hlt => ?_⟩
  · rw [hcounter, hwhole]
    exact base.freeNumber_lt_succ added.counter
  · rw [hwhole] at hle
    rw [hcounter] at hlt
    exact generated_mem_of_between_freeNumbers hle hlt

/-- A given name that the base has not bound is bound on both sides or on neither. -/
theorem mem_keys_iff (h : base.Mirrors added whole) {name : String}
    (hbase : name ∉ base.values.keys) (hfree : Parameter.isReserved name = false) :
    name ∈ whole.values.keys ↔ name ∈ added.values.keys := by
  rw [h.keys, List.mem_append, or_iff_right hbase]
  constructor
  · intro hmem
    obtain ⟨other, hother, heq⟩ := List.mem_map.mp hmem
    rcases h.countsUp other hother with ⟨index, -, rfl⟩ | hfree'
    · rw [renamed_generated] at heq
      rw [← heq, Parameter.isReserved_generated] at hfree
      cases hfree
    · rw [renamed_of_free base hfree'] at heq
      exact heq ▸ hother
  · intro hmem
    exact List.mem_map.mpr ⟨name, hmem, renamed_of_free base hfree⟩

theorem bind (h : base.Mirrors added whole) {name : String} (hbase : name ∉ base.values.keys)
    (hfree : Parameter.isReserved name = false) (hname : name ∉ added.values.keys)
    (type : ParameterType) (value : BoundValue) :
    base.Mirrors (added.bind name type value) (whole.bind name type value) := by
  have hwhole : name ∉ whole.values.keys := fun hmem => hname ((h.mem_keys_iff hbase hfree).mp hmem)
  have hrenamed := renamed_of_free base hfree
  have hgains := h.toGains.bind hname (by rw [hrenamed]; exact hwhole) type value
  rw [hrenamed] at hgains
  exact ⟨hgains, h.countsUp.bind hfree type value, h.counter, h.passed⟩

end Draft.Mirrors

/-- The drafts of the sessions are such that one mirrors the other, and the same flag names come
next. -/
structure Session.Mirrors (base : Draft) (added whole : Session) : Prop where
  draft : base.Mirrors added.draft whole.draft
  names : added.names = whole.names

/-- Every step does the same on both sides, if the base has not bound the name that it gives. -/
theorem Step.simulates_self {base : Draft} {step : Step}
    (hgiven : ∀ name, step.givenName? = some name →
      name ∉ base.values.keys ∧ Parameter.isReserved name = false) :
    Step.Simulates (Session.Mirrors base) step step := by
  rintro s t ⟨hdraft, hnames⟩
  cases step with
  | select item =>
      exact .inl ⟨_, _, rfl, rfl, { hdraft with toGains := hdraft.toGains.addItem item }, hnames⟩
  | selectFlag flag column =>
      simp only [take?, ← hnames]
      cases hnext : s.names.next? column with
      | none => exact .inr ⟨_, rfl, rfl⟩
      | some drawn =>
          exact .inl ⟨_, _, rfl, rfl, { hdraft with toGains := hdraft.toGains.addItem _ }, rfl⟩
  | require subject relation type value =>
      have hbound := hdraft.bindNext type value
      refine .inl ⟨_, _, rfl, rfl, ?_, hnames⟩
      rw [hdraft.nextName_whole]
      exact { hbound with toGains := hbound.toGains.addCondition _ }
  | requireNamed name subject relation type value =>
      obtain ⟨hbase, hfree⟩ := hgiven name rfl
      have hmem := hdraft.mem_keys_iff hbase hfree
      simp only [take?, Draft.bindNamed?]
      by_cases hname : name ∈ s.draft.values.keys
      · rw [if_pos hname, if_pos (hmem.mpr hname)]
        exact .inr ⟨_, rfl, rfl⟩
      · rw [if_neg hname, if_neg (hmem.not.mpr hname), hfree]
        have hbound := hdraft.bind hbase hfree hname type value
        have hgains := hbound.toGains.addCondition (.test subject relation name)
        simp only [Sql.Condition.rename, Draft.renamed_of_free base hfree] at hgains
        exact .inl ⟨_, _, rfl, rfl, { hbound with toGains := hgains }, hnames⟩
  | sort term =>
      exact .inl ⟨_, _, rfl, rfl, { hdraft with toGains := hdraft.toGains.addTerm term }, hnames⟩
  | limit rows =>
      exact .inl ⟨_, _, rfl, rfl, { hdraft with toGains := hdraft.toGains.setLimit rows }, hnames⟩

/-! ### The names in the conditions of a new draft -/

/-- The names under which steps bind parameters on a draft that counts without gaps. -/
def parameterNames : Nat → List Step → List String
  | _, [] => []
  | count, .require .. :: rest => Parameter.generated count :: parameterNames (count + 1) rest
  | count, .requireNamed name .. :: rest => name :: parameterNames count rest
  | count, .select _ :: rest => parameterNames count rest
  | count, .selectFlag .. :: rest => parameterNames count rest
  | count, .sort _ :: rest => parameterNames count rest
  | count, .limit _ :: rest => parameterNames count rest

/-- A step that is taken adds the name that it takes to the conditions, and goes on counting. -/
theorem Step.take?_parameterNames {step : Step} {s t : Session} (hs : s.draft.CountsUp)
    (h : step.take? s = .ok t) :
    t.draft.CountsUp ∧ ∀ rest,
      t.draft.conditions.map Sql.Condition.parameter?
          ++ (parameterNames t.draft.counter rest).map some =
        s.draft.conditions.map Sql.Condition.parameter?
          ++ (parameterNames s.draft.counter (step :: rest)).map some := by
  cases step with
  | select item =>
      cases h
      exact ⟨hs, fun _ => rfl⟩
  | selectFlag flag column =>
      obtain ⟨name, names, -, rfl⟩ := take?_selectFlag h
      exact ⟨hs, fun _ => rfl⟩
  | require subject relation type value =>
      cases h
      refine ⟨hs.bindNext type value, fun rest => ?_⟩
      have hname : s.draft.nextName = Parameter.generated s.draft.counter := by
        unfold Draft.nextName
        rw [hs.nextNumber_eq]
      show (s.draft.conditions ++ [_]).map _
        ++ (parameterNames (s.draft.bindNext type value).counter rest).map some = _
      rw [hs.counter_bindNext, hname, List.map_append, List.append_assoc]
      rfl
  | requireNamed name subject relation type value =>
      obtain ⟨-, hfree, rfl⟩ := take?_requireNamed h
      refine ⟨hs.bind hfree type value, fun rest => ?_⟩
      show (s.draft.conditions ++ [_]).map _ ++ (parameterNames s.draft.counter rest).map some = _
      rw [List.map_append, List.append_assoc]
      rfl
  | sort term =>
      cases h
      exact ⟨hs, fun _ => rfl⟩
  | limit rows =>
      cases h
      exact ⟨hs, fun _ => rfl⟩

/-- The conditions that a run has added name, one by one, the first of the names of its steps. -/
theorem map_parameter?_perform (steps : List Step) {s : Session} (hs : s.draft.CountsUp) :
    (perform steps s).1.draft.conditions.map Sql.Condition.parameter? <+:
      s.draft.conditions.map Sql.Condition.parameter?
        ++ (parameterNames s.draft.counter steps).map some := by
  induction steps generalizing s with
  | nil => exact List.prefix_append _ _
  | cons step rest ih =>
      rw [perform]
      cases hnext : step.take? s with
      | error fault => exact List.prefix_append _ _
      | ok next =>
          obtain ⟨hcounts, hnames⟩ := Step.take?_parameterNames hs hnext
          rw [← hnames rest]
          exact ih hcounts

section parameterNames

variable (rest : List (Except Fault (List Step))) (count : Nat)

theorem parameterNames_append_of_none {front : List Step}
    (h : ∀ step ∈ front, step.test? = none) (steps : List Step) (count : Nat) :
    parameterNames count (front ++ steps) = parameterNames count steps := by
  induction front with
  | nil => rfl
  | cons step front ih =>
      have hfront := ih fun other hother => h other (List.mem_cons_of_mem _ hother)
      have hstep := h step List.mem_cons_self
      cases step with
      | require subject relation type value => cases hstep
      | requireNamed name subject relation type value => cases hstep
      | select item => exact hfront
      | selectFlag flag column => exact hfront
      | sort term => exact hfront
      | limit rows => exact hfront

/-- Parts that require nothing bind no parameter; they can only keep the rest from being reached. -/
theorem parameterNames_ofParts_of_none {front : List (Except Fault (List Step))}
    (h : ∀ steps, .ok steps ∈ front → ∀ step ∈ steps, step.test? = none) :
    parameterNames count (Plan.ofParts (front ++ rest)).steps <+:
      parameterNames count (Plan.ofParts rest).steps := by
  have hfront : ∀ step ∈ (Plan.ofParts front).steps, step.test? = none := by
    intro step hstep
    obtain ⟨steps, hpart, hmem⟩ := Plan.exists_part_of_mem_steps hstep
    exact h steps hpart step hmem
  rw [Plan.ofParts_append]
  cases (Plan.ofParts front).fault with
  | none =>
      dsimp only
      rw [parameterNames_append_of_none hfront]
  | some fault =>
      have hnil := parameterNames_append_of_none hfront [] count
      rw [List.append_nil] at hnil
      dsimp only
      rw [hnil]
      exact List.nil_prefix

/-- The filters bind the next generated names, up to the first one that is at fault. -/
theorem parameterNames_filters (converter : Converter) (table : String) (filters : List Filter)
    (count : Nat) :
    parameterNames count
        (Plan.ofParts (filters.map (filterPart converter table) ++ rest)).steps <+:
      (List.range' count filters.length).map Parameter.generated
        ++ parameterNames (count + filters.length) (Plan.ofParts rest).steps := by
  induction filters generalizing count with
  | nil => exact List.prefix_refl _
  | cons filter filters ih =>
      rw [List.map_cons, List.cons_append]
      cases hpart : filterPart converter table filter with
      | error fault => exact List.nil_prefix
      | ok steps =>
          obtain ⟨subject, relation, type, value, -, -, rfl⟩ := filterPart_eq_ok hpart
          have hrest := ih (count + 1)
          rw [Nat.add_right_comm] at hrest
          exact (List.prefix_cons_inj _).mpr hrest

/-- A bound of the change window that is set binds its own name. -/
theorem parameterNames_changeBound (name text : String) (operator : Operator) :
    parameterNames count (Plan.ofParts (changeBoundPart name operator text :: rest)).steps <+:
      (if text = "" then [] else [name]) ++ parameterNames count (Plan.ofParts rest).steps := by
  cases hpart : changeBoundPart name operator text with
  | error fault => exact List.nil_prefix
  | ok steps =>
      rcases changeBoundPart_eq_ok hpart with ⟨htext, rfl⟩ | ⟨htext, moment, rfl⟩
      · rw [if_pos htext]
        exact List.prefix_refl _
      · rw [if_neg htext]
        exact List.prefix_refl _

end parameterNames

namespace Request

/-- The parts of a request behind its change window. -/
def endParts (converter : Converter) (request : Request) : List (Except Fault (List Step)) :=
  orderParts converter request.table request.order ++ [limitPart request.limit]

theorem test?_of_mem_endParts {converter : Converter} {request : Request} {steps : List Step}
    (h : .ok steps ∈ request.endParts converter) : ∀ step ∈ steps, step.test? = none := by
  intro step hstep
  rcases List.mem_append.mp h with hkey | hlimit
  · rw [orderParts_eq] at hkey
    obtain ⟨key, -, hkey⟩ := List.mem_map.mp hkey
    obtain ⟨expr, rfl⟩ := sortPart_eq_ok hkey
    rw [List.mem_singleton.mp hstep]
    rfl
  · rw [limitPart_eq] at hlimit
    obtain rfl := Except.ok.inj (List.mem_singleton.mp hlimit)
    obtain ⟨rows, -, rfl⟩ := List.mem_map.mp hstep
    rfl

/-- From the change window on, a request binds the names of its bounds. -/
theorem parameterNames_window (converter : Converter) (request : Request) (count : Nat) :
    parameterNames count (Plan.ofParts (changeWindowParts request.changedSince
      request.changedUntil ++ request.endParts converter)).steps <+: request.windowNames := by
  have htests : ∀ steps, .ok steps ∈ request.endParts converter →
      ∀ step ∈ steps, step.test? = none := fun _ => test?_of_mem_endParts
  have hend := parameterNames_ofParts_of_none [] count htests
  rw [List.append_nil] at hend
  have huntil := parameterNames_changeBound (request.endParts converter) count "changedUntil"
    request.changedUntil .lt
  rw [List.prefix_nil.mp hend, List.append_nil] at huntil
  have hsince := parameterNames_changeBound
    (changeBoundPart "changedUntil" .lt request.changedUntil :: request.endParts converter) count
    "changedSince" request.changedSince .ge
  exact hsince.trans ((List.prefix_append_right_inj _).mpr huntil)

/-- On a draft that counts from zero, the filters of a request bind the first generated names in
order, and the bounds of its change window their own. -/
theorem parameterNames_plan (settings : Settings) (converter : Converter) (known? : Option Table)
    (request : Request) :
    parameterNames 0 (request.plan settings converter known?).steps <+:
      (List.range request.filters.length).map Parameter.generated ++ request.windowNames := by
  let window := changeWindowParts request.changedSince request.changedUntil
    ++ request.endParts converter
  have hparts : request.parts settings converter known? =
      projectionParts settings known? request.table request.truncate request.columns
        ++ (request.filters.map (filterPart converter request.table) ++ window) := by
    simp only [parts, endParts, List.append_assoc, window]
  have hprojection : ∀ steps, .ok steps ∈ projectionParts settings known? request.table
      request.truncate request.columns → ∀ step ∈ steps, step.test? = none :=
    fun _ => eq_none_of_mem_projectionParts (fun _ => rfl) fun _ _ => rfl
  have hplan := parameterNames_ofParts_of_none
    (request.filters.map (filterPart converter request.table) ++ window) 0 hprojection
  have hfilters := parameterNames_filters window converter request.table request.filters 0
  rw [Nat.zero_add, ← List.range_eq_range'] at hfilters
  have hwindow := request.parameterNames_window converter request.filters.length
  unfold plan
  rw [hparts]
  exact hplan.trans (hfilters.trans ((List.prefix_append_right_inj _).mpr hwindow))

/-! ### Adding a request -/

/-- The parts before the limit, which is the last part. -/
def frontParts (settings : Settings) (converter : Converter) (known? : Option Table)
    (request : Request) : List (Except Fault (List Step)) :=
  projectionParts settings known? request.table request.truncate request.columns
    ++ request.filters.map (filterPart converter request.table)
    ++ changeWindowParts request.changedSince request.changedUntil
    ++ orderParts converter request.table request.order

theorem parts_eq_front (settings : Settings) (converter : Converter) (known? : Option Table)
    (request : Request) :
    request.parts settings converter known? =
      request.frontParts settings converter known? ++ [limitPart request.limit] := rfl

theorem rows?_frontParts (settings : Settings) (converter : Converter) (known? : Option Table)
    (request : Request) :
    ((request.frontParts settings converter known?).flatMap partSteps).filterMap Step.rows? =
      [] := by
  have hrows := request.rows?_parts settings converter known?
  rw [parts_eq_front, List.flatMap_append, List.filterMap_append, List.flatMap_singleton,
    limitPart_eq, partSteps, List.filterMap_map] at hrows
  have hlimit : request.rows.toList.filterMap (Step.rows? ∘ Step.limit) = request.rows.toList :=
    List.filterMap_some
  rw [hlimit] at hrows
  exact List.append_left_eq_self.mp hrows

/-- The parts before the limit leave the limit of a draft as it is. -/
theorem limit_frontParts (settings : Settings) (converter : Converter) (known? : Option Table)
    (request : Request) (s : Session) :
    ((Plan.ofParts (request.frontParts settings converter known?)).carryOut s).1.draft.limit =
      s.draft.limit := by
  refine Plan.carryOut_preserves (fun t => t.draft.limit = s.draft.limit) ?_ rfl
  intro step hstep t next ht htake
  have hnone : step.rows? = none :=
    List.filterMap_eq_nil_iff.mp (request.rows?_frontParts settings converter known?) step
      ((Plan.steps_ofParts_prefix _).subset hstep)
  rw [(Step.take?_growth htake).limit, hnone, ht]
  rfl

/-- A request sets the limit if it has one and its clauses are all added, and otherwise leaves it as
it was. -/
theorem limit_populate (settings : Settings) (converter : Converter) (known? : Option Table)
    (suffixes : List String) (draft : Draft) (request : Request) :
    (request.populate settings converter known? suffixes draft).1.draft.limit =
      (if (request.populate settings converter known? suffixes draft).2 = none then request.rows
        else none).or draft.limit := by
  have hkept := request.limit_frontParts settings converter known? ⟨draft, ⟨[], suffixes⟩⟩
  rw [populate, plan, parts_eq_front, Plan.carryOut_ofParts_append]
  cases hrun : (Plan.ofParts (request.frontParts settings converter known?)).carryOut
      ⟨draft, ⟨[], suffixes⟩⟩ with
  | mk last fault? =>
      rw [hrun] at hkept
      cases fault? with
      | some fault => exact hkept
      | none =>
          rw [limitPart_eq]
          cases request.rows with
          | none => exact hkept
          | some rows => rfl

/-- Adding a request to a draft gives what adding it to a new draft gives, with the generated names
of the filters replaced by those of the free numbers of the draft, and changes nothing else; it ends
with the same fault, or with none, and leaves the same suffixes. -/
theorem populate_gains (settings : Settings) (converter : Converter) (known? : Option Table)
    (suffixes : List String) (draft : Draft) (request : Request)
    (h : ∀ name ∈ request.windowNames, name ∉ draft.values.keys) :
    let shared := request.populate settings converter known? suffixes draft
    let alone := request.populate settings converter known? suffixes Draft.empty
    shared.2 = alone.2 ∧ shared.1.names = alone.1.names ∧
      draft.Gains alone.1.draft shared.1.draft ∧
      alone.1.draft.conditions.map Sql.Condition.parameter? <+:
        ((List.range request.filters.length).map Parameter.generated
          ++ request.windowNames).map some ∧
      alone.1.draft.limit = if alone.2 = none then request.rows else none := by
  have hgiven : ∀ step ∈ (request.plan settings converter known?).steps, ∀ name,
      step.givenName? = some name →
        name ∉ draft.values.keys ∧ Parameter.isReserved name = false := by
    intro step hstep name hname
    have hmem : name ∈ request.windowNames :=
      (request.givenNames_sublist settings converter known?).subset
        (List.mem_filterMap.mpr ⟨step, hstep, hname⟩)
    exact ⟨h name hmem, isReserved_of_mem_windowNames hmem⟩
  have hstart : Session.Mirrors draft ⟨Draft.empty, ⟨[], suffixes⟩⟩ ⟨draft, ⟨[], suffixes⟩⟩ :=
    ⟨.start draft, rfl⟩
  have hsteps : List.Forall₂ (Step.Simulates (Session.Mirrors draft))
      (request.plan settings converter known?).steps
      (request.plan settings converter known?).steps :=
    List.forall₂_same.mpr fun step hstep => Step.simulates_self (hgiven step hstep)
  obtain ⟨hlast, hfault⟩ := Plan.carryOut_simulates hsteps rfl hstart
  have hparameters := map_parameter?_perform (request.plan settings converter known?).steps
    (s := ⟨Draft.empty, ⟨[], suffixes⟩⟩) hstart.draft.countsUp
  rw [← Plan.fst_carryOut] at hparameters
  have hlimit := request.limit_populate settings converter known? suffixes Draft.empty
  refine ⟨hfault.symm, hlast.names.symm, hlast.draft.toGains,
    hparameters.trans ((request.parameterNames_plan settings converter known?).map some), ?_⟩
  rw [hlimit]
  exact Option.or_none

/-- A draft of which somebody has taken a generated name and a name of the change window. -/
def crowded : Draft :=
  { Draft.empty.setLimit 9 with
    conditions := [.raw "`n` > @param_1"]
    values :=
      (Bindings.empty.put "param_1" (.scalar (.integer 5))).put "changedUntil" (.scalar .null)
    types := (Bindings.empty.put "param_1" .int64).put "changedUntil" .timestamp }

/-- A request with two filters and a lower bound of the change window. -/
def hostileSince : Request :=
  { hostile with changedUntil := "", truncate := false }

/-- The second filter skips the name that is taken. -/
theorem populate_gains_crowded :
    ∃ shared alone,
      hostileSince.populate Settings.standard (Converter.casting none) none [] crowded =
        (shared, none) ∧
      hostileSince.populate Settings.standard (Converter.casting none) none [] Draft.empty =
        (alone, none) ∧
      crowded.Gains alone.draft shared.draft ∧
      crowded.freeNumber 0 = 0 ∧ crowded.freeNumber 1 = 2 := by
  have hwindow : ∀ name ∈ hostileSince.windowNames, name ∉ crowded.values.keys := by decide
  have h := populate_gains Settings.standard (Converter.casting none) none [] crowded
    hostileSince hwindow
  -- Only what is decided here of the two runs counts for the rest.
  generalize hshared : hostileSince.populate Settings.standard (Converter.casting none) none []
    crowded = shared at h
  generalize halone : hostileSince.populate Settings.standard (Converter.casting none) none []
    Draft.empty = alone at h
  have hsharedKeys : shared.1.draft.values.keys =
      ["param_1", "changedUntil", "param_0", "param_2", "changedSince"] := by
    rw [← hshared]
    decide +kernel
  have haloneKeys : alone.1.draft.values.keys = ["param_0", "param_1", "changedSince"] := by
    rw [← halone]
    decide +kernel
  have hnone : alone.2 = none := by
    rw [← halone]
    decide +kernel
  obtain ⟨hfault, -, hgains, -, -⟩ := h
  have hkeys := hgains.keys
  rw [hsharedKeys, haloneKeys] at hkeys
  injection hkeys with _ hkeys
  injection hkeys with _ hkeys
  injection hkeys with hzero hkeys
  injection hkeys with hone _
  refine ⟨shared.1, alone.1, Prod.ext rfl (hfault.trans hnone), Prod.ext rfl hnone, hgains, ?_, ?_⟩
  · exact Parameter.generated_injective ((crowded.renamed_generated 0).symm.trans hzero.symm)
  · exact Parameter.generated_injective ((crowded.renamed_generated 1).symm.trans hone.symm)

end Request
end TableExport
