import TableExport.Proofs.Query.FlagName
import TableExport.Proofs.Query.Progress

/-! # The first fault of a request

Which requests cannot be compiled can be read off the request and the table, clause by clause
(`Request.firstFault?`): an excerpt of a column that the table does not have, a filter that is
malformed, a bound that is no Unix time.  The plan is at fault in the same way
(`Request.fault_plan`) and no step of it is ever refused while there are suffixes for its flags.
A request asks for one flag for each of its columns, or for none (`Request.countP_drawsName_le`);
with a source that yields so many different suffixes again and again a compilation fails exactly
with the first fault (`Request.compile_eq_error_iff`). -/

namespace TableExport

/-! ### Faults that can be read off a request -/

/-- The fault of a filter: too many literals for its operator, or else its first malformed one. -/
def Filter.fault? (filter : Filter) : Option Fault :=
  if filter.hasSeveral = true ∧ filter.operator ≠ .eq ∧ filter.operator ≠ .ne then
    some (.severalLiterals filter.column filter.operator)
  else
    (filter.literals.find? fun literal => (Literal.value? filter.type literal).isNone).map
      fun literal => .malformedLiteral literal (.data filter.type) (some filter.column)

/-- The fault of a bound of the change window: a text that is not empty and no Unix time. -/
def changeBoundFault? (text : String) : Option Fault :=
  if text ≠ "" ∧ UnixTime.format? text = none then
    some (.malformedLiteral text .unixTime (some changeTimeColumn))
  else none

/-- Why there is no excerpt of a column: it has no definition, or its values are to be cut to a
budget that is too long to write. -/
def excerptFault? (settings : Settings) (known? : Option Table) (column : String) : Option Fault :=
  match known?.bind (·.column? column) with
  | none => some (.columnMissing column)
  | some found =>
      if found.shape.isCut = true ∧ Numeral.tooLong ≤ settings.budget then some .integerTooLong
      else none

/-- The fault of a projection: the first column without a definition, if excerpts are wanted. -/
def projectionFault? (known? : Option Table) (truncate : Bool) (columns : List String) :
    Option Fault :=
  if truncate then
    (columns.find? fun column => (known?.bind (·.column? column)).isNone).map .columnMissing
  else none

/-- The first fault of a request: in the projection, in the filters, or in the change window. -/
def Request.firstFault? (known? : Option Table) (request : Request) : Option Fault :=
  (projectionFault? known? request.truncate request.columns).or
    ((request.filters.findSome? Filter.fault?).or
      ((changeBoundFault? request.changedSince).or (changeBoundFault? request.changedUntil)))

/-! ### Faults of parts -/

theorem Numeral.isNone_write?_iff (n : Nat) : (write? n).isNone = true ↔ tooLong ≤ n := by
  rw [Option.isNone_iff_eq_none, write?_eq_none_iff, Int.natAbs_natCast]

theorem Numeral.isNone_write?_eq_false {n : Nat} (h : n < tooLong) :
    (write? n).isNone = false := by
  rw [Bool.eq_false_iff, ne_eq, isNone_write?_iff]
  exact Nat.not_le.mpr h

theorem faultOf?_map {α β : Type} (f : α → β) (x : Except Fault α) :
    faultOf? (x.map f) = faultOf? x := by
  cases x <;> rfl

theorem faultOf?_eq_some_iff {α : Type} {x : Except Fault α} {fault : Fault} :
    faultOf? x = some fault ↔ x = .error fault := by
  cases x <;> simp [faultOf?]

/-- The first of the faults of those items that have one. -/
theorem findSome?_eq_map_find? {α β : Type} {f : α → Option β} {bad : α → Bool} {fault : α → β}
    (hf : ∀ item, f item = if bad item then some (fault item) else none) (items : List α) :
    items.findSome? f = (items.find? bad).map fault := by
  induction items with
  | nil => rfl
  | cons item rest ih =>
      rw [List.findSome?_cons, List.find?_cons, hf item]
      cases bad item with
      | true => rfl
      | false => exact ih

theorem faultOf?_value (type : DataType) (column : Option String) (text : String) :
    faultOf? (Literal.value type column text) =
      if (Literal.value? type text).isNone then
        some (.malformedLiteral text (.data type) column)
      else none := by
  unfold Literal.value
  cases Literal.value? type text <;> rfl

theorem faultOf?_values (type : DataType) (column : Option String) (texts : List String) :
    faultOf? (Literal.values type column texts) =
      texts.findSome? fun text => faultOf? (Literal.value type column text) := by
  induction texts with
  | nil => rfl
  | cons text rest ih =>
      rw [Literal.values, List.findSome?_cons]
      cases Literal.value type column text with
      | error fault => rfl
      | ok scalar =>
          rw [faultOf?_map, ih]
          rfl

theorem faultOf?_filterTest (filter : Filter) : faultOf? (filterTest filter) = filter.fault? := by
  unfold filterTest Filter.fault?
  cases hseveral : filter.hasSeveral with
  | false =>
      have hliterals : filter.literals = [filter.literal] := by
        unfold Filter.hasSeveral at hseveral
        unfold Filter.literals
        simpa using hseveral
      simp only [Bool.false_eq_true, false_and, if_false]
      rw [faultOf?_map, faultOf?_value, hliterals, List.find?_singleton]
      split <;> rfl
  | true =>
      have hvalues : ∀ pair : List Scalar → Sql.Relation × ParameterType × BoundValue,
          faultOf? ((Literal.values filter.type (some filter.column) filter.literals).map pair) =
            (filter.literals.find? fun literal => (Literal.value? filter.type literal).isNone).map
              fun literal =>
                .malformedLiteral literal (.data filter.type) (some filter.column) := by
        intro pair
        rw [faultOf?_map, faultOf?_values]
        exact findSome?_eq_map_find? (faultOf?_value filter.type (some filter.column)) _
      cases hoperator : filter.operator with
      | eq => simpa [Operator.membership?] using hvalues _
      | ne => simpa [Operator.membership?] using hvalues _
      | gt => rfl
      | ge => rfl
      | lt => rfl
      | le => rfl

variable {settings : Settings} {known? : Option Table} {table : String}

theorem faultOf?_filterPart (filter : Filter) :
    faultOf? (filterPart (Converter.casting known?) table filter) = filter.fault? := by
  rw [← faultOf?_filterTest]
  unfold filterPart
  cases filterTest filter with
  | error fault => rfl
  | ok test =>
      dsimp only
      rw [filterSubject_casting]
      rfl

theorem faultOf?_changeBoundPart (name text : String) (operator : Operator) :
    faultOf? (changeBoundPart name operator text) = changeBoundFault? text := by
  unfold changeBoundPart changeBoundFault? changeTime
  by_cases htext : text = ""
  · simp [htext, faultOf?]
  · rw [if_neg htext, faultOf?_map]
    cases UnixTime.format? text <;> simp [htext, faultOf?]

theorem faultOf?_excerptPart (settings : Settings) (known? : Option Table)
    (table column : String) :
    faultOf? (excerptPart settings known? table column) = excerptFault? settings known? column := by
  unfold excerptPart excerptFault?
  cases known?.bind (·.column? column) with
  | none => rfl
  | some found =>
      dsimp only
      rw [faultOf?_map, Excerpt.ofShape?]
      simp only [Bool.and_eq_true, Numeral.isNone_write?_iff]
      split
      · rfl
      · rfl

theorem excerptFault?_of_lt (hbudget : settings.budget < Numeral.tooLong) (column : String) :
    excerptFault? settings known? column =
      if (known?.bind (·.column? column)).isNone then some (.columnMissing column) else none := by
  unfold excerptFault?
  cases known?.bind (·.column? column) with
  | none => rfl
  | some found => exact if_neg fun h => Nat.not_le.mpr hbudget h.2

theorem findSome?_projectionParts (hbudget : settings.budget < Numeral.tooLong) (truncate : Bool)
    (columns : List String) :
    (projectionParts settings known? table truncate columns).findSome? faultOf? =
      projectionFault? known? truncate columns := by
  unfold projectionFault?
  by_cases hcolumns : columns = []
  · rw [hcolumns]
    cases truncate <;> rfl
  · cases truncate with
    | false =>
        rw [projectionParts_false, if_neg hcolumns, List.findSome?_map]
        exact List.findSome?_eq_none_iff.mpr fun _ _ => rfl
    | true =>
        rw [projectionParts_true hcolumns, List.findSome?_map, if_pos rfl]
        refine findSome?_eq_map_find? (fun column => ?_) columns
        exact (faultOf?_excerptPart settings known? table column).trans
          (excerptFault?_of_lt hbudget column)

/-- The fault of the plan is the first fault of the request. -/
theorem Request.fault_plan (hbudget : settings.budget < Numeral.tooLong) (known? : Option Table)
    (request : Request) :
    (request.plan settings (Converter.casting known?) known?).fault =
      request.firstFault? known? := by
  have hfilters : (request.filters.map
      (filterPart (Converter.casting known?) request.table)).findSome? faultOf? =
        request.filters.findSome? Filter.fault? := by
    rw [List.findSome?_map]
    congr 1
    funext filter
    exact faultOf?_filterPart filter
  have horder : (orderParts (Converter.casting known?) request.table request.order).findSome?
      faultOf? = none := by
    rw [orderParts_eq, List.findSome?_map]
    refine List.findSome?_eq_none_iff.mpr fun key _ => ?_
    rw [Function.comp_apply, sortPart_casting]
    rfl
  rw [plan, Plan.fault_ofParts, parts, limitPart_eq]
  simp only [List.findSome?_append, findSome?_projectionParts hbudget, hfilters, horder,
    changeWindowParts, List.findSome?_cons, faultOf?_changeBoundPart]
  unfold firstFault?
  cases changeBoundFault? request.changedSince <;> cases changeBoundFault? request.changedUntil <;>
    simp [faultOf?]

/-! ### Steps are not refused -/

/-- The steps of a plan are the first ones of its parts. -/
theorem Plan.steps_ofParts_prefix (parts : List (Except Fault (List Step))) :
    (ofParts parts).steps <+: parts.flatMap partSteps := by
  induction parts with
  | nil => exact List.prefix_refl _
  | cons part rest ih =>
      cases part with
      | error fault => exact List.nil_prefix
      | ok steps =>
          rw [List.flatMap_cons]
          exact (List.prefix_append_right_inj _).mpr ih

/-- What only bounds of the change window and limits have comes from these clauses. -/
theorem Request.filterMap_parts {α : Type} (view : Step → Option α)
    (hselect : ∀ item, view (.select item) = none)
    (hflag : ∀ flag column, view (.selectFlag flag column) = none)
    (hrequire : ∀ subject relation type value, view (.require subject relation type value) = none)
    (hsort : ∀ term, view (.sort term) = none) (settings : Settings) (converter : Converter)
    (known? : Option Table) (request : Request) :
    ((request.parts settings converter known?).flatMap partSteps).filterMap view =
      ((partSteps (changeBoundPart "changedSince" .ge request.changedSince)
        ++ partSteps (changeBoundPart "changedUntil" .lt request.changedUntil)).filterMap view)
        ++ request.rows.toList.filterMap fun rows => view (.limit rows) := by
  have hprojection : ((projectionParts settings known? request.table request.truncate
      request.columns).flatMap fun part => (partSteps part).filterMap view) = [] := by
    refine List.flatMap_eq_nil_iff.mpr fun part hpart => filterMap_partSteps_eq_nil ?_
    rintro steps rfl
    exact eq_none_of_mem_projectionParts hselect hflag hpart
  have hfilters : (request.filters.flatMap fun filter =>
      (partSteps (filterPart converter request.table filter)).filterMap view) = [] := by
    refine List.flatMap_eq_nil_iff.mpr fun filter _ => filterMap_partSteps_eq_nil ?_
    intro steps hpart step hstep
    obtain ⟨_, _, _, _, -, -, rfl⟩ := filterPart_eq_ok hpart
    rw [List.mem_singleton.mp hstep]
    exact hrequire _ _ _ _
  have horder : ((SortKey.effective request.order).flatMap fun key =>
      (partSteps (sortPart converter request.table key)).filterMap view) = [] := by
    refine List.flatMap_eq_nil_iff.mpr fun key _ => filterMap_partSteps_eq_nil ?_
    intro steps hpart step hstep
    obtain ⟨expr, rfl⟩ := sortPart_eq_ok hpart
    rw [List.mem_singleton.mp hstep]
    exact hsort _
  rw [parts, orderParts_eq, changeWindowParts, limitPart_eq]
  simp only [List.flatMap_append, List.filterMap_append, List.filterMap_flatMap, List.flatMap_map,
    List.flatMap_cons, List.flatMap_nil, List.append_nil, hprojection, hfilters, horder,
    List.nil_append]
  rw [partSteps, List.filterMap_map]
  rfl

/-- The names that a request gives to its parameters: those of the bounds that are set. -/
def Request.windowNames (request : Request) : List String :=
  (if request.changedSince = "" then [] else ["changedSince"])
    ++ if request.changedUntil = "" then [] else ["changedUntil"]

theorem Request.windowNames_sublist (request : Request) :
    request.windowNames.Sublist ["changedSince", "changedUntil"] := by
  unfold windowNames
  split <;> split <;> decide

/-- Names of the change window are not of the generated form. -/
theorem Request.isReserved_of_mem_windowNames {request : Request} {name : String}
    (h : name ∈ request.windowNames) : Parameter.isReserved name = false := by
  rcases List.mem_pair.mp (request.windowNames_sublist.subset h) with rfl | rfl <;> decide

/-- Only the bounds of the change window that are set have given names. -/
theorem Request.givenNames_sublist (settings : Settings) (converter : Converter)
    (known? : Option Table) (request : Request) :
    ((request.plan settings converter known?).steps.filterMap Step.givenName?).Sublist
      request.windowNames := by
  have hbound : ∀ (name text : String) (operator : Operator),
      ((partSteps (changeBoundPart name operator text)).filterMap Step.givenName?).Sublist
        (if text = "" then [] else [name]) := by
    intro name text operator
    cases hpart : changeBoundPart name operator text with
    | error fault => exact List.nil_sublist _
    | ok steps =>
        rcases changeBoundPart_eq_ok hpart with ⟨-, rfl⟩ | ⟨htext, moment, rfl⟩
        · exact List.nil_sublist _
        · rw [if_neg htext]
          exact List.Sublist.refl _
  have hprefix := (Plan.steps_ofParts_prefix (request.parts settings converter known?)).filterMap
    Step.givenName?
  rw [request.filterMap_parts Step.givenName? (fun _ => rfl) (fun _ _ => rfl)
    (fun _ _ _ _ => rfl) (fun _ => rfl), List.filterMap_append] at hprefix
  have hlimit : (request.rows.toList.filterMap fun rows => (Step.limit rows).givenName?) = [] :=
    List.filterMap_eq_nil_iff.mpr fun _ _ => rfl
  rw [hlimit, List.append_nil] at hprefix
  exact hprefix.sublist.trans ((hbound _ _ _).append (hbound _ _ _))

/-- A new draft accepts the names that a request gives. -/
theorem Request.accepts_givenNames (settings : Settings) (converter : Converter)
    (known? : Option Table) (request : Request) :
    (Draft.empty.setSource request.source).Accepts
      ((request.plan settings converter known?).steps.filterMap Step.givenName?) := by
  have hnames := request.givenNames_sublist settings converter known?
  refine ⟨(hnames.trans request.windowNames_sublist).nodup (by decide), fun name _ hbound => ?_,
    fun name hname => isReserved_of_mem_windowNames (hnames.subset hname)⟩
  cases hbound

/-! ### Counting flags -/

theorem countP_flatMap_le_length {α β : Type} {p : β → Bool} {f : α → List β}
    (h : ∀ a, (f a).countP p ≤ 1) (as : List α) : (as.flatMap f).countP p ≤ as.length := by
  induction as with
  | nil => exact Nat.le_refl 0
  | cons a as ih =>
      have hfirst := h a
      rw [List.flatMap_cons, List.countP_append, List.length_cons]
      omega

/-- An excerpt has one flag. -/
theorem countP_excerptPart (settings : Settings) (known? : Option Table) (table column : String) :
    (partSteps (excerptPart settings known? table column)).countP Step.drawsName ≤ 1 := by
  cases hexcerpt : excerptPart settings known? table column with
  | error fault => exact Nat.zero_le 1
  | ok steps =>
      obtain ⟨found, -, rfl⟩ := excerptPart_eq_ok hexcerpt
      exact Nat.le_refl 1

/-- A projection has at most as many flags as there are columns. -/
theorem countP_projectionParts (settings : Settings) (known? : Option Table) (table : String)
    (truncate : Bool) (columns : List String) :
    ((projectionParts settings known? table truncate columns).flatMap partSteps).countP
      Step.drawsName ≤ if truncate then columns.length else 0 := by
  by_cases hcolumns : columns = []
  · rw [hcolumns]
    exact Nat.zero_le _
  · cases truncate with
    | false =>
        rw [projectionParts_false, if_neg hcolumns, List.flatMap_map]
        refine Nat.le_of_eq (List.countP_eq_zero.mpr fun step hstep => ?_)
        obtain ⟨column, -, hmem⟩ := List.mem_flatMap.mp hstep
        rw [List.mem_singleton.mp hmem]
        exact Bool.false_ne_true
    | true =>
        rw [projectionParts_true hcolumns, List.flatMap_map, if_pos rfl]
        exact countP_flatMap_le_length (countP_excerptPart settings known? table) columns

/-- The number of flags that a request asks for: one for each column, if excerpts are wanted. -/
def Request.flagCount (request : Request) : Nat :=
  if request.truncate then request.columns.length else 0

theorem Request.countP_drawsName_le (settings : Settings) (converter : Converter)
    (known? : Option Table) (request : Request) :
    (request.plan settings converter known?).steps.countP Step.drawsName ≤ request.flagCount := by
  have hlater : ((request.laterParts converter).flatMap partSteps).countP Step.drawsName = 0 :=
    List.countP_eq_zero.mpr fun step hstep => by
      rw [(selects_of_mem_laterSteps hstep).2]
      exact Bool.false_ne_true
  calc (request.plan settings converter known?).steps.countP Step.drawsName
      ≤ ((request.parts settings converter known?).flatMap partSteps).countP Step.drawsName :=
        (Plan.steps_ofParts_prefix _).sublist.countP_le
    _ ≤ request.flagCount := by
        rw [parts_eq, List.flatMap_append, List.countP_append, hlater, Nat.add_zero]
        exact countP_projectionParts settings known? request.table request.truncate request.columns

/-! ### Finishing -/

/-- Only the limit of a request limits the rows. -/
theorem Request.rows?_parts (settings : Settings) (converter : Converter) (known? : Option Table)
    (request : Request) :
    ((request.parts settings converter known?).flatMap partSteps).filterMap Step.rows? =
      request.rows.toList := by
  have hbound : ∀ (name text : String) (operator : Operator),
      (partSteps (changeBoundPart name operator text)).filterMap Step.rows? = [] := by
    intro name text operator
    refine filterMap_partSteps_eq_nil fun steps hpart step hstep => ?_
    rcases changeBoundPart_eq_ok hpart with ⟨-, rfl⟩ | ⟨-, moment, rfl⟩
    · cases hstep
    · rw [List.mem_singleton.mp hstep]
      rfl
  rw [request.filterMap_parts Step.rows? (fun _ => rfl) (fun _ _ => rfl)
    (fun _ _ _ _ => rfl) (fun _ => rfl), List.filterMap_append, hbound, hbound]
  exact List.filterMap_some

theorem Request.rows?_steps {settings : Settings} {converter : Converter} {known? : Option Table}
    {request : Request} (h : (request.plan settings converter known?).fault = none) :
    (request.plan settings converter known?).steps.filterMap Step.rows? =
      request.rows.toList := by
  unfold plan at h ⊢
  rw [Plan.steps_ofParts h, request.rows?_parts]

/-- A limit that is not too long can be written. -/
theorem Draft.any_limit_eq_false {draft : Draft}
    (hlimit : ∀ rows, draft.limit = some rows → rows < Numeral.tooLong) :
    (draft.limit.any fun rows => (Numeral.write? rows).isNone) = false := by
  cases hrows : draft.limit with
  | none => rfl
  | some rows =>
      have hshort := Numeral.isNone_write?_eq_false (hlimit rows hrows)
      simpa using hshort

/-- A draft with a source and a limit that can be written can be finished. -/
theorem Draft.exists_finish? {draft : Draft} {source : Sql.Source}
    (hsource : draft.source = some source)
    (hlimit : ∀ rows, draft.limit = some rows → rows < Numeral.tooLong) :
    ∃ query, draft.finish? = .ok query := by
  unfold finish? sql?
  rw [hsource]
  dsimp only
  rw [any_limit_eq_false hlimit]
  exact ⟨_, rfl⟩

namespace Request

variable {request : Request}

theorem rows_lt_tooLong (hlimit : request.limit < Numeral.tooLong) {rows : Nat}
    (h : request.rows = some rows) : rows < Numeral.tooLong := by
  unfold Request.rows at h
  split at h
  · obtain rfl := Option.some.inj h
    omega
  · cases h

/-- A run to the end of a plan without fault leaves a draft that can be finished. -/
theorem exists_finish?_of_perform {converter : Converter} {names : FlagName.Supply} {last : Session}
    (hlimit : request.limit < Numeral.tooLong)
    (hfault : (request.plan settings converter known?).fault = none)
    (h : perform (request.plan settings converter known?).steps
      ⟨Draft.empty.setSource request.source, names⟩ = (last, none)) :
    ∃ query, last.draft.finish? = .ok query := by
  have hsource := source_perform (request.plan settings converter known?).steps
    ⟨Draft.empty.setSource request.source, names⟩
  have hrows := limit_perform h
  rw [h] at hsource
  rw [rows?_steps hfault] at hrows
  refine Draft.exists_finish? hsource fun rows hset => rows_lt_tooLong hlimit ?_
  rw [← hset, hrows]
  cases request.rows <;> rfl

/-- With suffixes from a source that keeps yielding ones that were not seen, as many as the request
asks for flags, and enough of them, the result of a compilation is always the same, and it is a
fault exactly if the request has a first fault, which it then is. -/
theorem compile_eq_error_iff (settings : Settings) (known? : Option Table) (request : Request)
    {source : Nat → String} (hsource : FlagName.KeepsFresh source request.flagCount)
    (hlimit : request.limit < Numeral.tooLong) (hbudget : settings.budget < Numeral.tooLong) :
    ∃ enough result,
      (∀ count, enough ≤ count →
        request.compile settings known? (FlagName.firstSuffixes source count) = result) ∧
      ∀ fault, result = .error fault ↔ request.firstFault? known? = some fault := by
  have hdrawn : FlagName.KeepsFresh source (([] : List String).length +
      (request.plan settings (Converter.casting known?) known?).steps.countP Step.drawsName) := by
    rw [List.length_nil, Nat.zero_add]
    exact hsource.mono (request.countP_drawsName_le settings (Converter.casting known?) known?)
  obtain ⟨last, enough, hperform⟩ := exists_perform hdrawn
    (request.accepts_givenNames settings (Converter.casting known?) known?)
  have hfault := request.fault_plan hbudget known?
  refine ⟨enough, match request.firstFault? known? with
    | some fault => .error fault
    | none => last.finish?, ?_, ?_⟩
  · intro count hcount
    obtain ⟨names, hrun⟩ := hperform (count - enough)
    rw [Nat.add_sub_cancel' hcount] at hrun
    unfold compile compileWith populate
    rw [Plan.carryOut_of_perform hrun, hfault]
    cases request.firstFault? known? <;> rfl
  · intro fault
    cases hfirst : request.firstFault? known? with
    | some first => simp
    | none =>
        obtain ⟨names, hrun⟩ := hperform 0
        rw [hfirst] at hfault
        obtain ⟨query, hquery⟩ := exists_finish?_of_perform hlimit hfault hrun
        dsimp only at hquery ⊢
        rw [hquery]
        simp

/-- A request with several faults: too many literals for an operator, malformed ones there and in
the filter after it, and a bound that is no time. -/
def faulty : Request :=
  ⟨"t", none, ["a", "a"],
    [⟨"a", .ne, "1", ["-2"], .integer⟩, ⟨"b", .gt, "x", ["y"], .integer⟩,
      ⟨"b", .gt, "x", [], .real⟩],
    [⟨"c", .date, .ascending⟩], 3, "yesterday", "", true⟩

/-- Suffixes made from two random tokens in turn. -/
def recurringSuffix (number : Nat) : String :=
  FlagName.suffixOfToken (if number % 2 = 0 then "0123456789ab4cde8f0123456789abcd"
    else "1123456789ab4cde8f0123456789abcd")

theorem compile_eq_error_iff_faulty :
    ∃ enough, ∀ count, enough ≤ count →
      faulty.compile Settings.standard (some ⟨"t", [⟨"a", "JSON", .string, true⟩]⟩)
        (FlagName.firstSuffixes recurringSuffix count) = .error (.severalLiterals "b" .gt) := by
  -- Two flags are asked for, and the two suffixes are found behind every place.
  have hsource : FlagName.KeepsFresh recurringSuffix
      ["0123456789ab4", "1123456789ab4"].length := by
    refine FlagName.KeepsFresh.of_recurring (by decide) fun suffix hsuffix taken => ?_
    rcases List.mem_pair.mp hsuffix with rfl | rfl
    · refine ⟨2 * taken, by omega, ?_⟩
      rw [recurringSuffix, if_pos (by omega)]
      decide +kernel
    · refine ⟨2 * taken + 1, by omega, ?_⟩
      rw [recurringSuffix, if_neg (by omega)]
      decide +kernel
  obtain ⟨enough, result, hresult, hfault⟩ := compile_eq_error_iff Settings.standard
    (some ⟨"t", [⟨"a", "JSON", .string, true⟩]⟩) faulty hsource (by decide +kernel)
    (by decide +kernel)
  refine ⟨enough, fun count hcount => ?_⟩
  rw [hresult count hcount, hfault]
  decide +kernel

end Request
end TableExport
