import TableExport.Proofs.Query.Calls
import TableExport.Proofs.Query.Parameters
import TableExport.Proofs.Query.Requirement

/-! # Bound values and their declared types

A compiled query binds, in order, what each filter requires and then the bounds of the change window
(`Request.exists_listed`).  A single value fits its declared type: an integer, a real number in the
finite range of binary64, or a text (`Request.WellTyped`).

Integers are read from literals of any length up to the limit for numerals, so that the value of a
parameter declared with 64 bits may have more.  Main statement: the integers of all parameters are
of 64 bits exactly if those of all literals are (`Request.wellTyped_of_compileWith`); one literal
with the value `2 ^ 63` is enough (`Request.compile_beyondWord`). -/

namespace TableExport

/-! ### Values of a type -/

/-- The integers of 64 bits. -/
def IsWord (n : Int) : Prop :=
  -2 ^ 63 ≤ n ∧ n < 2 ^ 63

/-- A scalar is a value of a declared type; an integer has to be of a kind besides. -/
inductive Scalar.Inhabits (kind : Int → Prop) : ParameterType → Scalar → Prop
  | integer {n : Int} (h : kind n) : Inhabits kind .int64 (.integer n)
  | real {x : Binary64} (h : x.units < Nat.pow 2 1024 * Binary64.unitsPerOne) :
      Inhabits kind .float64 (.real x)
  | string (text : String) : Inhabits kind .string (.text text)
  | bool (text : String) : Inhabits kind .bool (.text text)
  | date (text : String) : Inhabits kind .date (.text text)
  | timestamp (text : String) : Inhabits kind .timestamp (.text text)

/-- All integers that the literals of a filter denote are of a kind. -/
def Filter.DenotesOnly (kind : Int → Prop) (filter : Filter) : Prop :=
  filter.type.IsInteger → ∀ literal ∈ filter.literals, ∀ n,
    Literal.integer? literal = some n → kind n

section literals

variable {kind : Int → Prop} {type : DataType} {literal : String} {scalar : Scalar}

theorem Literal.inhabits_int64_iff (htype : type.IsInteger)
    (h : value? type literal = some scalar) :
    scalar.Inhabits kind .int64 ↔ ∀ n, integer? literal = some n → kind n := by
  rw [value?_of_isInteger htype] at h
  obtain ⟨n, hn, rfl⟩ := Option.map_eq_some_iff.mp h
  constructor
  · rintro ⟨hkind⟩ m hm
    obtain rfl := Option.some.inj (hn.symm.trans hm)
    exact hkind
  · exact fun hall => .integer (hall n hn)

theorem DataType.IsInteger.parameterType_eq (h : type.IsInteger) :
    type.parameterType = .int64 := by
  obtain rfl | rfl := h
  · rfl
  · rfl

/-- A literal that denotes no integer denotes a value of its type. -/
theorem Literal.inhabits_of_not_isInteger (htype : ¬ type.IsInteger)
    (h : value? type literal = some scalar) : scalar.Inhabits kind type.parameterType := by
  have hreal : ∀ {x? : Option Binary64}, x?.map Scalar.real = some scalar →
      scalar.Inhabits kind .float64 := by
    intro x? hx
    obtain ⟨x, -, rfl⟩ := Option.map_eq_some_iff.mp hx
    exact .real x.units_lt
  have htext : ∀ {declared : ParameterType}, (∀ text, (Scalar.text text).Inhabits kind declared) →
      some (.text literal) = some scalar → scalar.Inhabits kind declared := by
    rintro declared hall ⟨⟩
    exact hall literal
  cases type with
  | integer => exact absurd (.inl rfl) htype
  | bigint => exact absurd (.inr rfl) htype
  | real => exact hreal h
  | double => exact hreal h
  | decimal => exact hreal h
  | string => exact htext .string h
  | boolean => exact htext .bool h
  | date => exact htext .date h
  | timestamp => exact htext .timestamp h

theorem Literal.inhabits_iff (h : value? type literal = some scalar) :
    scalar.Inhabits kind type.parameterType ↔
      (type.IsInteger → ∀ n, integer? literal = some n → kind n) := by
  by_cases htype : type.IsInteger
  · rw [htype.parameterType_eq, inhabits_int64_iff htype h]
    exact ⟨fun hall _ => hall, fun hall => hall htype⟩
  · exact iff_of_true (inhabits_of_not_isInteger htype h) fun hinteger => absurd hinteger htype

theorem Literal.Denote.inhabits_iff {literals : List String} {scalars : List Scalar}
    (htype : type.IsInteger) (h : Denote type literals scalars) :
    (∀ scalar ∈ scalars, scalar.Inhabits kind .int64) ↔
      ∀ literal ∈ literals, ∀ n, integer? literal = some n → kind n := by
  induction h with
  | nil => exact ⟨nofun, nofun⟩
  | cons hvalue _ ih =>
      rw [List.forall_mem_cons, List.forall_mem_cons, ih, inhabits_int64_iff htype hvalue]

end literals

/-! ### What a filter binds -/

/-- A single value is a value of its declared type, and so are all members of a set of integers. -/
structure Filter.Binds (kind : Int → Prop) (filter : Filter) (type : ParameterType)
    (value : BoundValue) : Prop where
  single : ∀ scalar, value = .scalar scalar → scalar.Inhabits kind type
  several : filter.type.IsInteger → filter.moreLiterals ≠ [] →
    ∃ scalars, type = .int64Array ∧ value = .array scalars ∧
      ∀ scalar ∈ scalars, scalar.Inhabits kind .int64

theorem Filter.Requires.binds_iff {kind : Int → Prop} {converter : Converter} {table : String}
    {filter : Filter} {required : Requirement} (h : filter.Requires converter table required) :
    filter.Binds kind required.type required.value ↔ filter.DenotesOnly kind := by
  cases h with
  | @single subject scalar hone hvalue _ =>
      have hliterals : filter.literals = [filter.literal] := by rw [literals, hone]
      constructor
      · intro hbinds htype
        rw [hliterals, List.forall_mem_singleton]
        exact (Literal.inhabits_iff hvalue).mp (hbinds.single scalar rfl) htype
      · intro hdenotes
        refine ⟨?_, fun _ hmore => absurd hone hmore⟩
        rintro _ ⟨⟩
        refine (Literal.inhabits_iff hvalue).mpr fun htype => ?_
        exact hdenotes htype filter.literal (hliterals ▸ List.mem_singleton_self _)
  | texts _ _ htype =>
      have hnot : ¬ filter.type.IsInteger := by
        rw [htype]
        rintro (hinteger | hbigint)
        · cases hinteger
        · cases hbigint
      exact iff_of_true ⟨nofun, fun hinteger => absurd hinteger hnot⟩
        fun hinteger => absurd hinteger hnot
  | @several subject relation scalars hmore _ _ hvalues _ =>
      constructor
      · intro hbinds htype
        obtain ⟨_, -, ⟨⟩, hscalars⟩ := hbinds.several htype hmore
        exact (hvalues.inhabits_iff htype).mp hscalars
      · exact fun hdenotes => ⟨nofun, fun htype _ =>
          ⟨scalars, rfl, rfl, (hvalues.inhabits_iff htype).mpr (hdenotes htype)⟩⟩

/-! ### What a run binds -/

/-- The value that a step binds, with its declared type. -/
def Step.binding? : Step → Option (ParameterType × BoundValue)
  | .require _ _ type value => some (type, value)
  | .requireNamed _ _ _ type value => some (type, value)
  | _ => none

/-- The bound values in order, each with its declared type if it has one. -/
def Draft.bound (draft : Draft) : List (Option ParameterType × BoundValue) :=
  draft.values.entries.map fun entry => (draft.types.get? entry.1, entry.2)

theorem Draft.bound_bind {draft : Draft} {name : String} (h : name ∉ draft.values.keys)
    (type : ParameterType) (value : BoundValue) :
    (draft.bind name type value).bound = draft.bound ++ [(some type, value)] := by
  unfold bound
  have hentries : (draft.bind name type value).values.entries =
      draft.values.entries ++ [(name, value)] := Bindings.entries_put_of_not_mem h value
  rw [hentries, List.map_append, List.map_singleton, get?_types_bind, if_pos rfl]
  congr 1
  apply List.map_congr_left
  intro entry hentry
  have hne : entry.1 ≠ name := fun heq => h (heq ▸ List.mem_map_of_mem hentry)
  rw [get?_types_bind, if_neg hne]

theorem Step.take?_bound {step : Step} {s t : Session} (h : step.take? s = .ok t) :
    t.draft.bound =
      s.draft.bound ++ (step.binding?.map (Prod.map some id)).toList := by
  cases step with
  | select item =>
      cases h
      exact (List.append_nil _).symm
  | selectFlag flag column =>
      obtain ⟨name, names, -, rfl⟩ := take?_selectFlag h
      exact (List.append_nil _).symm
  | require subject relation type value =>
      cases h
      exact Draft.bound_bind s.draft.nextName_not_mem type value
  | requireNamed name subject relation type value =>
      obtain ⟨hname, -, rfl⟩ := take?_requireNamed h
      exact Draft.bound_bind hname type value
  | sort term =>
      cases h
      exact (List.append_nil _).symm
  | limit rows =>
      cases h
      exact (List.append_nil _).symm

theorem bound_perform {steps : List Step} {s last : Session}
    (h : perform steps s = (last, none)) :
    last.draft.bound =
      s.draft.bound ++ (steps.filterMap Step.binding?).map (Prod.map some id) := by
  rw [List.map_filterMap]
  exact perform_collects (fun t => t.draft.bound) (fun _ _ _ _ => Step.take?_bound) h

/-- The parameters of a draft that steps have built are listed as the steps bind them. -/
theorem exists_listed_of_perform {steps : List Step} {s last : Session} (query : Query)
    (hstart : s.draft.IsPaired) (hempty : s.draft.bound = [])
    (h : perform steps s = (last, none)) (hvalues : query.values = last.draft.values)
    (htypes : query.types = last.draft.types) :
    ∃ listed, query.typedParameters = .ok listed ∧
      listed.map Prod.snd = steps.filterMap Step.binding? := by
  have hpaired := isPaired_perform steps hstart
  rw [h] at hpaired
  obtain ⟨listed, hlisted, hentries, hdeclared⟩ := query.typedParameters_eq_ok (by
    intro name hname
    rw [hvalues, ← hpaired.types] at hname
    rw [htypes]
    exact Bindings.exists_get?_of_mem hname)
  refine ⟨listed, hlisted, ?_⟩
  have hbound : (listed.map Prod.snd).map (Prod.map some id) = last.draft.bound := by
    rw [Draft.bound, ← hvalues, ← htypes, ← hentries, List.map_map, List.map_map]
    apply List.map_congr_left
    intro entry hentry
    dsimp only [Function.comp, Prod.map, id]
    rw [hdeclared entry hentry]
  rw [bound_perform h, hempty, List.nil_append] at hbound
  have hinjective : Function.Injective
      (Prod.map some id : ParameterType × BoundValue → Option ParameterType × BoundValue) :=
    (Option.some_injective _).prodMap Function.injective_id
  exact List.map_injective_iff.mpr hinjective hbound

/-! ### What a request binds -/

theorem binding?_changeBoundPart (name : String) (operator : Operator) (text : String) :
    ∃ moments : List String,
      (partSteps (changeBoundPart name operator text)).filterMap Step.binding? =
        moments.map fun moment => (.timestamp, .scalar (.text moment)) := by
  cases hpart : changeBoundPart name operator text with
  | error fault => exact ⟨[], rfl⟩
  | ok steps =>
      obtain ⟨-, rfl⟩ | ⟨-, moment, rfl⟩ := changeBoundPart_eq_ok hpart
      · exact ⟨[], rfl⟩
      · exact ⟨[moment], rfl⟩

/-- What none of the steps of some parts has, the steps of the parts together do not have. -/
theorem filterMap_flatMap_partSteps_eq_nil {α : Type} {view : Step → Option α}
    {parts : List (Except Fault (List Step))}
    (h : ∀ steps, .ok steps ∈ parts → ∀ step ∈ steps, view step = none) :
    (parts.flatMap partSteps).filterMap view = [] := by
  rw [List.filterMap_flatMap, List.flatMap_eq_nil_iff]
  intro part hpart
  exact filterMap_partSteps_eq_nil fun steps hsteps => h steps (hsteps ▸ hpart)

theorem exists_requires_of_parts {converter : Converter} {table : String} {filters : List Filter}
    (h : ∀ filter ∈ filters, filterPart converter table filter =
      .ok (partSteps (filterPart converter table filter))) :
    ∃ requirements : List Requirement,
      List.Forall₂ (Filter.Requires converter table) filters requirements ∧
      (filters.flatMap fun filter =>
          partSteps (filterPart converter table filter)).filterMap Step.binding? =
        requirements.map fun required => (required.type, required.value) := by
  induction filters with
  | nil => exact ⟨[], .nil, rfl⟩
  | cons filter filters ih =>
      obtain ⟨requirements, hrequires, hbindings⟩ :=
        ih fun other hother => h other (List.mem_cons_of_mem _ hother)
      obtain ⟨required, hrequired, hsteps⟩ :=
        Filter.requires_of_part (h filter List.mem_cons_self)
      refine ⟨required :: requirements, .cons hrequired hrequires, ?_⟩
      rw [List.flatMap_cons, List.filterMap_append, hbindings, hsteps]
      rfl

namespace Request

variable {settings : Settings} {converter : Converter} {known? : Option Table}
  {suffixes : List String} {request : Request} {query : Query} {kind : Int → Prop}

/-- The parameters of a request are what its filters require, in order, and then moments, which
bound the change window. -/
structure Lists (converter : Converter) (request : Request) (requirements : List Requirement)
    (moments : List String) (listed : List (String × ParameterType × BoundValue)) : Prop where
  requires :
    List.Forall₂ (Filter.Requires converter request.table) request.filters requirements
  bindings : listed.map Prod.snd =
    (requirements.map fun required => (required.type, required.value))
      ++ moments.map fun moment => (.timestamp, .scalar (.text moment))

theorem exists_listed
    (h : (request.compileWith settings converter known? suffixes).1 = .ok query) :
    ∃ listed requirements moments, query.typedParameters = .ok listed ∧
      request.Lists converter requirements moments listed := by
  obtain ⟨hfault, last, hperform, rfl⟩ := run_of_compileWith h
  obtain ⟨listed, hlisted, hbindings⟩ :=
    exists_listed_of_perform ⟨_, _, _, _⟩ ⟨rfl, rfl⟩ rfl hperform rfl rfl
  obtain ⟨requirements, hrequires, hfilters⟩ :=
    exists_requires_of_parts fun filter hfilter => filterPart_eq hfault hfilter
  obtain ⟨since, hsince⟩ := binding?_changeBoundPart "changedSince" .ge request.changedSince
  obtain ⟨before, hbefore⟩ := binding?_changeBoundPart "changedUntil" .lt request.changedUntil
  have hprojection : ((projectionParts settings known? request.table request.truncate
      request.columns).flatMap partSteps).filterMap Step.binding? = [] :=
    filterMap_flatMap_partSteps_eq_nil fun _ =>
      eq_none_of_mem_projectionParts (fun _ => rfl) fun _ _ => rfl
  have horder : ((SortKey.effective request.order).flatMap fun key =>
      partSteps (sortPart converter request.table key)).filterMap Step.binding? = [] := by
    rw [← List.flatMap_map]
    apply filterMap_flatMap_partSteps_eq_nil
    intro steps hsteps step hstep
    obtain ⟨key, -, hkey⟩ := List.mem_map.mp hsteps
    obtain ⟨expr, rfl⟩ := sortPart_eq_ok hkey
    rw [List.mem_singleton.mp hstep]
    rfl
  have hlimit : (partSteps (limitPart request.limit)).filterMap Step.binding? = [] := by
    rw [limitPart_eq, partSteps, List.filterMap_map]
    exact List.filterMap_eq_nil_iff.mpr fun _ _ => rfl
  refine ⟨listed, requirements, since ++ before, hlisted, hrequires, ?_⟩
  rw [hbindings, steps_plan hfault]
  simp only [List.filterMap_append, hprojection, hfilters, hsince, hbefore, horder, hlimit,
    List.nil_append, List.append_nil, List.map_append]

namespace Lists

variable {requirements : List Requirement} {moments : List String}
  {listed : List (String × ParameterType × BoundValue)} {index : Nat} {filter : Filter}
  {required : Requirement}

theorem exists_required (h : request.Lists converter requirements moments listed)
    (hfilter : request.filters[index]? = some filter) :
    ∃ required, requirements[index]? = some required ∧
      filter.Requires converter request.table required :=
  exists_getElem?_of_forall₂ h.requires hfilter

/-- What a filter requires is bound at the position of the filter. -/
theorem exists_entry (h : request.Lists converter requirements moments listed)
    (hrequired : requirements[index]? = some required) :
    ∃ name, listed[index]? = some (name, required.type, required.value) := by
  have hindex : index < requirements.length := (List.getElem?_eq_some_iff.mp hrequired).1
  have hbinding : (listed.map Prod.snd)[index]? = some (required.type, required.value) := by
    rw [h.bindings, List.getElem?_append_left (by rwa [List.length_map]), List.getElem?_map,
      hrequired]
    rfl
  rw [List.getElem?_map] at hbinding
  obtain ⟨⟨name, binding⟩, hentry, rfl⟩ := Option.map_eq_some_iff.mp hbinding
  exact ⟨name, hentry⟩

/-- A single value that is bound comes from a filter or from the change window. -/
theorem scalar_cases (h : request.Lists converter requirements moments listed) {name : String}
    {type : ParameterType} {scalar : Scalar} (hmem : (name, type, .scalar scalar) ∈ listed) :
    (∃ filter ∈ request.filters, ∃ required, filter.Requires converter request.table required ∧
        required.type = type ∧ required.value = .scalar scalar) ∨
      type = .timestamp ∧ ∃ moment, scalar = .text moment := by
  have hbinding : (type, .scalar scalar) ∈ listed.map Prod.snd := List.mem_map_of_mem hmem
  rw [h.bindings] at hbinding
  rcases List.mem_append.mp hbinding with hrequirement | hmoment
  · obtain ⟨required, hrequired, heq⟩ := List.mem_map.mp hrequirement
    obtain ⟨htype, hvalue⟩ := Prod.mk.inj heq
    obtain ⟨index, hindex⟩ := List.getElem?_of_mem hrequired
    obtain ⟨filter, hfilter, hrequires⟩ := exists_getElem?_of_forall₂ h.requires.flip hindex
    exact .inl ⟨filter, List.mem_of_getElem? hfilter, required, hrequires, htype, hvalue⟩
  · obtain ⟨moment, -, heq⟩ := List.mem_map.mp hmoment
    obtain ⟨htype, hvalue⟩ := Prod.mk.inj heq
    exact .inr ⟨htype.symm, moment, (BoundValue.scalar.inj hvalue).symm⟩

end Lists

/-- The single values that a request binds are values of their declared types, and so are the
members of the sets that its filters on integers bind, each at the position of its filter. -/
structure WellTyped (kind : Int → Prop) (request : Request)
    (listed : List (String × ParameterType × BoundValue)) : Prop where
  single : ∀ name type scalar, (name, type, .scalar scalar) ∈ listed → scalar.Inhabits kind type
  several : ∀ (index : Nat) (filter : Filter), request.filters[index]? = some filter →
    filter.type.IsInteger → filter.moreLiterals ≠ [] → ∃ name scalars,
      listed[index]? = some (name, .int64Array, .array scalars) ∧
      ∀ scalar ∈ scalars, scalar.Inhabits kind .int64

/-- What is bound is of its type, with integers of a kind, exactly if the literals of the filters
denote such integers only. -/
theorem Lists.wellTyped_iff {requirements : List Requirement} {moments : List String}
    {listed : List (String × ParameterType × BoundValue)}
    (h : request.Lists converter requirements moments listed) :
    request.WellTyped kind listed ↔ ∀ filter ∈ request.filters, filter.DenotesOnly kind := by
  constructor
  · intro hwell filter hfilter
    obtain ⟨index, hindex⟩ := List.getElem?_of_mem hfilter
    obtain ⟨required, hrequired, hrequires⟩ := h.exists_required hindex
    obtain ⟨name, hentry⟩ := h.exists_entry hrequired
    refine hrequires.binds_iff.mp ⟨?_, ?_⟩
    · intro scalar hscalar
      rw [hscalar] at hentry
      exact hwell.single name required.type scalar (List.mem_of_getElem? hentry)
    · intro htype hmore
      obtain ⟨other, scalars, hother, hscalars⟩ := hwell.several index filter hindex htype hmore
      obtain ⟨-, htypes, hvalues⟩ : _ ∧ _ ∧ _ := by simpa using hentry.symm.trans hother
      exact ⟨scalars, htypes, hvalues, hscalars⟩
  · intro hdenotes
    constructor
    · intro name type scalar hmem
      obtain ⟨filter, hfilter, required, hrequires, rfl, hvalue⟩ | ⟨rfl, moment, rfl⟩ :=
        h.scalar_cases hmem
      · exact (hrequires.binds_iff.mpr (hdenotes filter hfilter)).single scalar hvalue
      · exact .timestamp moment
    · intro index filter hfilter htype hmore
      obtain ⟨required, hrequired, hrequires⟩ := h.exists_required hfilter
      obtain ⟨name, hentry⟩ := h.exists_entry hrequired
      have hbinds := hrequires.binds_iff.mpr (hdenotes filter (List.mem_of_getElem? hfilter))
      obtain ⟨scalars, htypes, hvalues, hscalars⟩ := hbinds.several htype hmore
      rw [htypes, hvalues] at hentry
      exact ⟨name, scalars, hentry, hscalars⟩

/-- Every parameter of a compiled request is listed with a value of its declared type.  All integers
among them are of 64 bits exactly if the literals of filters on integers denote only such. -/
theorem wellTyped_of_compileWith
    (h : (request.compileWith settings converter known? suffixes).1 = .ok query) :
    ∃ listed, query.typedParameters = .ok listed ∧
      request.WellTyped (fun _ => True) listed ∧
      (request.WellTyped IsWord listed ↔
        ∀ filter ∈ request.filters, filter.DenotesOnly IsWord) := by
  obtain ⟨listed, requirements, moments, hlisted, hlists⟩ := exists_listed h
  refine ⟨listed, hlisted, ?_, hlists.wellTyped_iff⟩
  exact hlists.wellTyped_iff.mpr fun _ _ _ _ _ _ _ => trivial

/-- A request with a filter on an integer and one on a decimal. -/
def amounts : Request :=
  ⟨"t", none, [], [⟨"a", .ge, " +7 ", [], .integer⟩, ⟨"b", .lt, "1.5", [], .decimal⟩], [], 0, "0",
    "", false⟩

theorem wellTyped_of_compileWith_amounts :
    ∃ query listed,
      (amounts.compileWith Settings.standard (Converter.casting none) none []).1 = .ok query ∧
      query.typedParameters = .ok listed ∧ amounts.WellTyped IsWord listed := by
  have hok : (amounts.compileWith Settings.standard (Converter.casting none) none []).1.isOk =
      true := by
    decide +kernel
  obtain ⟨query, hquery⟩ := exists_eq_ok_of_isOk hok
  obtain ⟨listed, hlisted, -, hwords⟩ := wellTyped_of_compileWith hquery
  refine ⟨query, listed, hquery, hlisted, hwords.mpr ?_⟩
  intro filter hfilter htype literal hliteral n hn
  obtain rfl | rfl : filter = _ ∨ filter = _ := by simpa [amounts] using hfilter
  · obtain rfl : literal = " +7 " := by simpa [Filter.literals] using hliteral
    have hseven : Literal.integer? " +7 " = some 7 := by decide +kernel
    obtain rfl := Option.some.inj (hseven.symm.trans hn)
    constructor <;> decide
  · rcases htype with hinteger | hbigint
    · cases hinteger
    · cases hbigint

/-- A request with a filter on an integer that 64 bits cannot hold. -/
def beyondWord : Request :=
  ⟨"t", none, [], [⟨"a", .eq, "9223372036854775808", [], .integer⟩], [], 0, "", "", false⟩

/-- A literal with the value `2 ^ 63` is bound with the declared type of 64 bits. -/
theorem compile_beyondWord :
    (beyondWord.compile Settings.standard none []).bind Query.typedParameters =
        .ok [("param_0", .int64, .scalar (.integer (2 ^ 63)))] ∧ ¬ IsWord (2 ^ 63) := by
  refine ⟨by decide +kernel, ?_⟩
  rintro ⟨-, hbelow⟩
  exact absurd hbelow (by decide)

end Request
end TableExport
