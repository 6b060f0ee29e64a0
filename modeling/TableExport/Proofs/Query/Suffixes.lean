import TableExport.Proofs.Query.FlagName

/-! # What the suffixes decide

The suffixes of a supply reach a statement in one place only, the names of its flag columns.  Two
runs of the same steps with different supplies keep their drafts the same but for the items they
select, and end with the same fault, unless one of the supplies runs out (`perform_selectsApart`).
So the queries of one request with two supplies have the same parameters, and their statements are
one statement in which the names of the flags are filled in from either supply
(`Request.compileWith_sameButFlags`).  A request without excerpts takes nothing from the supply.

Requests that are compiled one after the other share a supply: each takes its suffixes from what
the ones before it have left (`compileAll_append`). -/

namespace TableExport

/-! ### Suffixes taken from a supply -/

namespace FlagName

variable {supply next last : Supply} {column name : String} {columns names : List String}

/-- A name takes its suffix from the supply, and what is left stands behind that suffix. -/
theorem Supply.suffixes_eq (h : supply.next? column = some (name, next)) :
    ∃ skipped suffix, name = column ++ suffix ∧
      supply.suffixes = skipped ++ suffix :: next.suffixes := by
  unfold next? at h
  obtain ⟨⟨drawn, rest⟩, hdraw, heq⟩ := Option.map_eq_some_iff.mp h
  obtain ⟨rfl, rfl⟩ := Prod.mk.inj heq
  obtain ⟨skipped, suffix, hsuffixes, hname, -, -⟩ := (draw?_eq_some_iff _ _ _ _ _).mp hdraw
  exact ⟨skipped, suffix, hname, hsuffixes⟩

/-- Names for several columns take their suffixes from the supply in order. -/
theorem names?_drawn (h : supply.names? columns = some (names, last)) :
    ∃ drawn : List String, drawn.length = columns.length ∧
      names = List.zipWith (· ++ ·) columns drawn ∧
      (drawn ++ last.suffixes).Sublist supply.suffixes := by
  induction columns generalizing supply names with
  | nil =>
      obtain ⟨rfl, rfl⟩ := Prod.mk.inj (Option.some.inj h)
      exact ⟨[], rfl, rfl, List.Sublist.refl _⟩
  | cons column columns ih =>
      obtain ⟨name, next, rest, hnext, hrest, rfl⟩ := Supply.names?_cons h
      obtain ⟨skipped, suffix, rfl, hsuffixes⟩ := Supply.suffixes_eq hnext
      obtain ⟨drawn, hlength, rfl, hdrawn⟩ := ih hrest
      refine ⟨suffix :: drawn, ?_, rfl, ?_⟩
      · simp [hlength]
      · rw [hsuffixes]
        exact (hdrawn.cons_cons suffix).trans (List.sublist_append_right skipped _)

end FlagName

/-! ### Items whose names are open -/

/-- An item to select, or a flag whose name is its column with a suffix that is still open. -/
inductive Sql.OpenItem
  | item (known : Sql.SelectItem)
  | flag (expr : Sql.Expr) (column : String)
  deriving DecidableEq, Repr

namespace Sql.OpenItem

/-- The column of a flag. -/
def column? : OpenItem → Option String
  | .item _ => none
  | .flag _ column => some column

/-- The items with suffixes filled in, one for each flag. -/
def fill : List OpenItem → List String → List SelectItem
  | .item known :: rest, suffixes => known :: fill rest suffixes
  | .flag expr column :: rest, suffix :: suffixes =>
      .aliased expr (column ++ suffix) :: fill rest suffixes
  | _, _ => []

/-- Items without flags take no suffixes. -/
theorem fill_map_item (items : List SelectItem) (suffixes : List String) :
    fill (items.map item) suffixes = items := by
  induction items with
  | nil => rfl
  | cons known items ih => rw [List.map_cons, fill, ih]

theorem column?_map_item (items : List SelectItem) :
    (items.map item).filterMap column? = [] := by
  simp [List.filterMap_map, Function.comp_def, column?]

/-- For each column its excerpt, and the flag whose name is open. -/
def ofExcerpts (excerpt : String → Excerpt) (columns : List String) : List OpenItem :=
  columns.flatMap fun column =>
    [item (.aliased (excerpt column).value column), flag (excerpt column).flag column]

theorem column?_ofExcerpts (excerpt : String → Excerpt) (columns : List String) :
    (ofExcerpts excerpt columns).filterMap column? = columns := by
  induction columns with
  | nil => rfl
  | cons column columns ih =>
      unfold ofExcerpts at ih ⊢
      rw [List.flatMap_cons, List.filterMap_append, ih]
      rfl

theorem fill_ofExcerpts (excerpt : String → Excerpt) {columns drawn : List String}
    (h : drawn.length = columns.length) :
    fill (ofExcerpts excerpt columns) drawn =
      (columns.zip (List.zipWith (· ++ ·) columns drawn)).flatMap fun (column, name) =>
        excerptItems excerpt column name := by
  induction columns generalizing drawn with
  | nil => simp [ofExcerpts, fill]
  | cons column columns ih =>
      cases drawn with
      | nil => simp at h
      | cons suffix drawn =>
          have hrest := ih (Nat.succ.inj h)
          unfold ofExcerpts at hrest ⊢
          simp only [List.flatMap_cons, List.cons_append, List.nil_append, fill,
            List.zipWith_cons_cons, List.zip_cons_cons, excerptItems, hrest]

end Sql.OpenItem

/-! ### Runs with different supplies -/

/-- The sessions are the same but for the items they select and for their supplies. -/
def Session.SelectsApart (s t : Session) : Prop :=
  ∃ select names, t = ⟨{ s.draft with select := select }, names⟩

/-- Where neither supply runs out, a step is taken in both sessions or refused in both. -/
theorem Step.take?_selectsApart {step : Step} {s t : Session} (h : s.SelectsApart t)
    (hs : step.take? s ≠ .error .suffixesExhausted)
    (ht : step.take? t ≠ .error .suffixesExhausted) :
    (∃ s' t', step.take? s = .ok s' ∧ step.take? t = .ok t' ∧ s'.SelectsApart t') ∨
      ∃ fault, step.take? s = .error fault ∧ step.take? t = .error fault := by
  obtain ⟨select, names, rfl⟩ := h
  cases step with
  | select item => exact .inl ⟨_, _, rfl, rfl, _, _, rfl⟩
  | selectFlag flag column =>
      simp only [take?] at hs ht ⊢
      cases hnext : s.names.next? column with
      | none =>
          rw [hnext] at hs
          exact absurd rfl hs
      | some drawn =>
          cases hnext' : names.next? column with
          | none =>
              rw [hnext'] at ht
              exact absurd rfl ht
          | some drawn' => exact .inl ⟨_, _, rfl, rfl, _, _, rfl⟩
  | require subject relation type value => exact .inl ⟨_, _, rfl, rfl, _, _, rfl⟩
  | requireNamed name subject relation type value =>
      simp only [take?, Draft.bindNamed?]
      by_cases hbound : name ∈ s.draft.values.keys
      · simp only [if_pos hbound]
        exact .inr ⟨_, rfl, rfl⟩
      · simp only [if_neg hbound]
        cases Parameter.isReserved name with
        | true => exact .inr ⟨_, rfl, rfl⟩
        | false => exact .inl ⟨_, _, rfl, rfl, _, _, rfl⟩
  | sort term => exact .inl ⟨_, _, rfl, rfl, _, _, rfl⟩
  | limit rows => exact .inl ⟨_, _, rfl, rfl, _, _, rfl⟩

theorem perform_selectsApart {steps : List Step} {s t : Session} (h : s.SelectsApart t)
    (hs : (perform steps s).2 ≠ some .suffixesExhausted)
    (ht : (perform steps t).2 ≠ some .suffixesExhausted) :
    (perform steps s).1.SelectsApart (perform steps t).1 ∧
      (perform steps s).2 = (perform steps t).2 := by
  induction steps generalizing s t with
  | nil => exact ⟨h, rfl⟩
  | cons step rest ih =>
      have hne : ∀ {u : Session}, (perform (step :: rest) u).2 ≠ some .suffixesExhausted →
          step.take? u ≠ .error .suffixesExhausted := by
        intro u hu hexhausted
        apply hu
        rw [perform, hexhausted]
      rcases Step.take?_selectsApart h (hne hs) (hne ht) with
        ⟨s', t', hs', ht', hnext⟩ | ⟨fault, hs', ht'⟩
      · rw [perform, hs'] at hs
        rw [perform, ht'] at ht
        rw [perform, perform, hs', ht']
        exact ih hnext hs ht
      · rw [perform, perform, hs', ht']
        exact ⟨h, rfl⟩

theorem Plan.carryOut_selectsApart {plan : Plan} {s t : Session} (h : s.SelectsApart t)
    (hs : (plan.carryOut s).2 ≠ some .suffixesExhausted)
    (ht : (plan.carryOut t).2 ≠ some .suffixesExhausted) :
    (plan.carryOut s).1.SelectsApart (plan.carryOut t).1 ∧
      (plan.carryOut s).2 = (plan.carryOut t).2 := by
  have hne : ∀ {u : Session}, (plan.carryOut u).2 ≠ some .suffixesExhausted →
      (perform plan.steps u).2 ≠ some .suffixesExhausted := by
    intro u hu hexhausted
    apply hu
    unfold carryOut
    split
    · next heq => rw [heq] at hexhausted; exact hexhausted
    · next heq => rw [heq] at hexhausted; cases hexhausted
  obtain ⟨hlast, hfault⟩ := perform_selectsApart h (hne hs) (hne ht)
  refine ⟨?_, ?_⟩
  · rw [fst_carryOut, fst_carryOut]
    exact hlast
  · unfold carryOut
    cases hrun : perform plan.steps s with
    | mk last fault? =>
        cases hrun' : perform plan.steps t with
        | mk last' fault?' =>
            rw [hrun, hrun'] at hfault
            obtain rfl : fault? = fault?' := hfault
            cases fault? <;> rfl

/-! ### Runs that draw no name -/

/-- A step that draws no name leaves the supply alone and does not look at it. -/
theorem Step.take?_of_drawsName {step : Step} (h : step.drawsName = false) (draft : Draft)
    (names names' : FlagName.Supply) :
    step.take? ⟨draft, names⟩ =
      (step.take? ⟨draft, names'⟩).map fun next => ⟨next.draft, names⟩ := by
  cases step with
  | selectFlag flag column => cases h
  | requireNamed name subject relation type value =>
      simp only [take?]
      cases draft.bindNamed? name type value <;> rfl
  | select item => rfl
  | require subject relation type value => rfl
  | sort term => rfl
  | limit rows => rfl

theorem perform_of_drawsName {steps : List Step} (h : ∀ step ∈ steps, step.drawsName = false)
    (draft : Draft) (names names' : FlagName.Supply) :
    perform steps ⟨draft, names⟩ =
      (⟨(perform steps ⟨draft, names'⟩).1.draft, names⟩, (perform steps ⟨draft, names'⟩).2) := by
  induction steps generalizing draft with
  | nil => rfl
  | cons step rest ih =>
      have hstep := Step.take?_of_drawsName (h step List.mem_cons_self) draft names names'
      have hkeep := Step.take?_of_drawsName (h step List.mem_cons_self) draft names' names'
      rw [perform, perform, hstep]
      cases htake : step.take? ⟨draft, names'⟩ with
      | error fault => rfl
      | ok next =>
          rw [htake] at hkeep
          have hnext : next = ⟨next.draft, names'⟩ := Except.ok.inj hkeep
          rw [hnext]
          exact ih (fun other hother => h other (List.mem_cons_of_mem _ hother)) next.draft

namespace Request

variable {settings : Settings} {converter : Converter} {known? : Option Table}
  {suffixes : List String} {request : Request}

/-- Without excerpts, or without columns, a request draws no names. -/
theorem drawsName_steps (hplain : request.truncate = false ∨ request.columns = []) :
    ∀ step ∈ (request.plan settings converter known?).steps, step.drawsName = false := by
  intro step hstep
  obtain ⟨steps, hpart, hmem⟩ := Plan.exists_part_of_mem_steps hstep
  rw [parts_eq] at hpart
  rcases List.mem_append.mp hpart with hprojection | hlater
  · have hselect : ∃ item, steps = [.select item] := by
      by_cases hcolumns : request.columns = []
      · rw [hcolumns] at hprojection
        exact ⟨_, Except.ok.inj (List.mem_singleton.mp hprojection)⟩
      · rw [hplain.resolve_right hcolumns, projectionParts_false, if_neg hcolumns] at hprojection
        obtain ⟨column, -, hsteps⟩ := List.mem_map.mp hprojection
        exact ⟨_, (Except.ok.inj hsteps).symm⟩
    obtain ⟨item, rfl⟩ := hselect
    rw [List.mem_singleton.mp hmem]
    rfl
  · exact (selects_of_mem_laterParts hlater step hmem).2

/-- Without excerpts, or without columns, a request takes nothing from the supply and does not
depend on it. -/
theorem compileWith_of_plain (hplain : request.truncate = false ∨ request.columns = [])
    (suffixes suffixes' : List String) :
    request.compileWith settings converter known? suffixes =
      ((request.compileWith settings converter known? suffixes').1, suffixes) := by
  have hrun := perform_of_drawsName (@drawsName_steps settings converter known? request hplain)
    (Draft.empty.setSource request.source) ⟨[], suffixes⟩ ⟨[], suffixes'⟩
  unfold compileWith populate Plan.carryOut
  rw [hrun]
  cases perform (request.plan settings converter known?).steps
      ⟨Draft.empty.setSource request.source, ⟨[], suffixes'⟩⟩ with
  | mk last fault? =>
      cases fault? with
      | some fault => rfl
      | none => cases (request.plan settings converter known?).fault <;> rfl

end Request

/-! ### What is left of a supply -/

theorem Step.suffixes_take? {step : Step} {s t : Session} (h : step.take? s = .ok t) :
    t.names.suffixes <:+ s.names.suffixes := by
  cases step with
  | selectFlag flag column =>
      obtain ⟨name, names, hnext, rfl⟩ := take?_selectFlag h
      obtain ⟨skipped, suffix, -, hsuffixes⟩ := FlagName.Supply.suffixes_eq hnext
      exact ⟨skipped ++ [suffix], by simp [hsuffixes]⟩
  | requireNamed name subject relation type value =>
      obtain ⟨-, -, rfl⟩ := take?_requireNamed h
      exact List.suffix_refl _
  | select item =>
      cases h
      exact List.suffix_refl _
  | require subject relation type value =>
      cases h
      exact List.suffix_refl _
  | sort term =>
      cases h
      exact List.suffix_refl _
  | limit rows =>
      cases h
      exact List.suffix_refl _

/-- A compilation takes suffixes from the front of the supply, whether it succeeds or not. -/
theorem Request.suffixes_compileWith (settings : Settings) (converter : Converter)
    (known? : Option Table) (suffixes : List String) (request : Request) :
    (request.compileWith settings converter known? suffixes).2 <:+ suffixes := by
  have hkept : (request.populate settings converter known? suffixes
      (Draft.empty.setSource request.source)).1.names.suffixes <:+ suffixes := by
    apply Plan.carryOut_preserves (fun s => s.names.suffixes <:+ suffixes)
    · intro step _ s t hs hstep
      exact (Step.suffixes_take? hstep).trans hs
    · exact List.suffix_refl _
  unfold compileWith
  split <;> simp_all

/-- Requests that are compiled after others take their suffixes from what the others have left. -/
theorem compileAll_append (settings : Settings) (converter : Converter) (known? : Option Table)
    (suffixes : List String) (earlier : List Request) :
    ∃ left, left <:+ suffixes ∧ ∀ later,
      compileAll settings converter known? suffixes (earlier ++ later) =
        compileAll settings converter known? suffixes earlier
          ++ compileAll settings converter known? left later := by
  induction earlier generalizing suffixes with
  | nil => exact ⟨suffixes, List.suffix_refl _, fun later => rfl⟩
  | cons request earlier ih =>
      obtain ⟨left, hleft, hlater⟩ :=
        ih (request.compileWith settings converter known? suffixes).2
      refine ⟨left, hleft.trans (request.suffixes_compileWith _ _ _ _), fun later => ?_⟩
      simp only [List.cons_append, compileAll, hlater later]

/-! ### One request, two supplies -/

/-- The columns of a request that get a flag. -/
def Request.flagColumns (request : Request) : List String :=
  if request.truncate then request.columns else []

/-- The queries have the same parameters, and their statements are one statement with open names of
flags for the columns, filled in with suffixes from the one or the other supply. -/
structure Query.SameButFlags (columns suffixes suffixes' : List String)
    (query query' : Query) : Prop where
  values : query.values = query'.values
  types : query.types = query'.types
  dialect : query.dialect = query'.dialect
  sql : ∃ (statement : Sql.Statement) (items : List Sql.OpenItem) (drawn drawn' : List String),
    items.filterMap Sql.OpenItem.column? = columns ∧
    drawn.length = columns.length ∧ drawn.Sublist suffixes ∧
    drawn'.length = columns.length ∧ drawn'.Sublist suffixes' ∧
    query.sql = { statement with select := Sql.OpenItem.fill items drawn }.render ∧
    query'.sql = { statement with select := Sql.OpenItem.fill items drawn' }.render

namespace Request

variable {settings : Settings} {converter : Converter} {known? : Option Table}
  {suffixes suffixes' : List String} {request : Request} {query query' : Query}

theorem populate_ne_exhausted
    (h : (request.compileWith settings converter known? suffixes).1 ≠ .error .suffixesExhausted) :
    (request.populate settings converter known? suffixes
      (Draft.empty.setSource request.source)).2 ≠ some .suffixesExhausted := by
  intro hexhausted
  apply h
  unfold compileWith
  split
  · simp_all
  · simp_all

/-- Two supplies that do not run out give the same fault, or both a query. -/
theorem compileWith_resupply
    (h : (request.compileWith settings converter known? suffixes).1 ≠ .error .suffixesExhausted)
    (h' : (request.compileWith settings converter known? suffixes').1 ≠
      .error .suffixesExhausted) :
    (∃ fault, (request.compileWith settings converter known? suffixes).1 = .error fault ∧
        (request.compileWith settings converter known? suffixes').1 = .error fault) ∨
      ∃ query query', (request.compileWith settings converter known? suffixes).1 = .ok query ∧
        (request.compileWith settings converter known? suffixes').1 = .ok query' := by
  have hne := populate_ne_exhausted h
  have hne' := populate_ne_exhausted h'
  obtain ⟨⟨select, names, hlast⟩, hfault⟩ :
      (request.populate settings converter known? suffixes
          (Draft.empty.setSource request.source)).1.SelectsApart
        (request.populate settings converter known? suffixes'
          (Draft.empty.setSource request.source)).1 ∧ _ :=
    Plan.carryOut_selectsApart ⟨_, _, rfl⟩ hne hne'
  clear hne hne' h h'
  unfold compileWith
  cases hrun : request.populate settings converter known? suffixes
      (Draft.empty.setSource request.source) with
  | mk last fault? =>
      cases hrun' : request.populate settings converter known? suffixes'
          (Draft.empty.setSource request.source) with
      | mk last' fault?' =>
          rw [hrun, hrun'] at hlast
          change (request.populate settings converter known? suffixes _).2 =
            (request.populate settings converter known? suffixes' _).2 at hfault
          rw [hrun, hrun'] at hfault
          obtain rfl : last' = ⟨{ last.draft with select := select }, names⟩ := hlast
          obtain rfl : fault? = fault?' := hfault
          cases fault? with
          | some fault => exact .inl ⟨fault, rfl, rfl⟩
          | none => exact Draft.finish?_alike rfl rfl

/-- Without excerpts, or without columns, the query has no flags. -/
theorem sameButFlags_of_plain (hplain : request.truncate = false ∨ request.columns = [])
    (h : (request.compileWith settings converter known? suffixes).1 = .ok query) :
    query.SameButFlags request.flagColumns suffixes suffixes' query := by
  obtain ⟨-, last, -, rfl⟩ := run_of_compileWith h
  have hcolumns : request.flagColumns = [] := by
    unfold flagColumns
    rcases hplain with htruncate | hnil
    · simp [htruncate]
    · simp [hnil]
  have hselect : Sql.OpenItem.fill (last.draft.select.map .item) [] = last.draft.select :=
    Sql.OpenItem.fill_map_item _ _
  refine ⟨rfl, rfl, rfl, request.statement last.draft, last.draft.select.map .item, [], [], ?_⟩
  rw [hcolumns, Sql.OpenItem.column?_map_item, hselect]
  exact ⟨rfl, rfl, List.nil_sublist _, rfl, List.nil_sublist _, rfl, rfl⟩

/-- With excerpts the flags take their names from either supply. -/
theorem sameButFlags_of_excerpts (htruncate : request.truncate = true)
    (hcolumns : request.columns ≠ [])
    (h : (request.compileWith settings converter known? suffixes).1 = .ok query)
    (h' : (request.compileWith settings converter known? suffixes').1 = .ok query') :
    query.SameButFlags request.flagColumns suffixes suffixes' query' := by
  obtain ⟨hfault, last, hperform, rfl⟩ := run_of_compileWith h
  obtain ⟨-, last', hperform', rfl⟩ := run_of_compileWith h'
  obtain ⟨names, left, hnames, hselect⟩ := select_of_perform htruncate hcolumns hfault hperform
  obtain ⟨names', left', hnames', hselect'⟩ :=
    select_of_perform htruncate hcolumns hfault hperform'
  obtain ⟨drawn, hlength, rfl, hdrawn⟩ := FlagName.names?_drawn hnames
  obtain ⟨drawn', hlength', rfl, hdrawn'⟩ := FlagName.names?_drawn hnames'
  -- Apart from their items the two drafts are the same.
  have hstart : (request.start suffixes).SelectsApart (request.start suffixes') := ⟨_, _, rfl⟩
  have hnone : (perform (request.plan settings converter known?).steps
      (request.start suffixes)).2 ≠ some .suffixesExhausted := by
    simp [hperform]
  have hnone' : (perform (request.plan settings converter known?).steps
      (request.start suffixes')).2 ≠ some .suffixesExhausted := by
    simp [hperform']
  obtain ⟨⟨select, supply, hlast⟩, -⟩ := perform_selectsApart hstart hnone hnone'
  rw [hperform, hperform'] at hlast
  obtain rfl : last' = ⟨{ last.draft with select := select }, supply⟩ := hlast
  have hflags : request.flagColumns = request.columns := by simp [flagColumns, htruncate]
  rw [hflags]
  refine ⟨rfl, rfl, rfl, request.statement last.draft,
    Sql.OpenItem.ofExcerpts (excerptOf settings known? request.table) request.columns,
    drawn, drawn', Sql.OpenItem.column?_ofExcerpts _ _, hlength,
    (List.sublist_append_left _ _).trans hdrawn, hlength',
    (List.sublist_append_left _ _).trans hdrawn', ?_, ?_⟩
  · rw [Sql.OpenItem.fill_ofExcerpts _ hlength, ← hselect]
    rfl
  · rw [Sql.OpenItem.fill_ofExcerpts _ hlength', ← hselect']
    rfl

/-- A request compiled with two supplies that do not run out gives the same fault or two queries
that are the same but for the suffixes in the names of flags.  Without excerpts, or without columns,
the results are the same and nothing is taken from the supply.  To be compiled after other requests
is to be compiled with what these have left. -/
theorem compileWith_sameButFlags
    (h : (request.compileWith settings converter known? suffixes).1 ≠ .error .suffixesExhausted)
    (h' : (request.compileWith settings converter known? suffixes').1 ≠
      .error .suffixesExhausted) :
    ((∃ fault, (request.compileWith settings converter known? suffixes).1 = .error fault ∧
        (request.compileWith settings converter known? suffixes').1 = .error fault) ∨
      ∃ query query', (request.compileWith settings converter known? suffixes).1 = .ok query ∧
        (request.compileWith settings converter known? suffixes').1 = .ok query' ∧
        query.SameButFlags request.flagColumns suffixes suffixes' query') ∧
      (request.truncate = false ∨ request.columns = [] → ∀ supply supply',
        request.compileWith settings converter known? supply =
          ((request.compileWith settings converter known? supply').1, supply)) ∧
      ∀ earlier, ∃ left, left <:+ suffixes ∧ ∀ later,
        compileAll settings converter known? suffixes (earlier ++ request :: later) =
          compileAll settings converter known? suffixes earlier
            ++ (request.compileWith settings converter known? left).1
            :: compileAll settings converter known?
              (request.compileWith settings converter known? left).2 later := by
  refine ⟨?_, fun hplain => compileWith_of_plain hplain, fun earlier => ?_⟩
  · rcases compileWith_resupply h h' with hfault | ⟨query, query', hquery, hquery'⟩
    · exact .inl hfault
    · refine .inr ⟨query, query', hquery, hquery', ?_⟩
      by_cases hplain : request.truncate = false ∨ request.columns = []
      · have hsame := congrArg Prod.fst
          (@compileWith_of_plain settings converter known? request hplain suffixes suffixes')
        rw [hquery, hquery'] at hsame
        obtain rfl : query = query' := Except.ok.inj hsame
        exact sameButFlags_of_plain hplain hquery
      · rw [not_or, Bool.not_eq_false] at hplain
        exact sameButFlags_of_excerpts hplain.1 hplain.2 hquery hquery'
  · obtain ⟨left, hleft, hlater⟩ := compileAll_append settings converter known? suffixes earlier
    exact ⟨left, hleft, fun later => hlater (request :: later)⟩

/-- A request for excerpts that lists one column twice. -/
def repeated : Request :=
  ⟨"t", none, ["a", "b", "a"], [⟨"n", .ge, "7", [], .bigint⟩], [⟨"b", .string, .descending⟩], 5,
    "", "1700000000", true⟩

/-- The first supply yields a suffix that would repeat a name, so that another one is drawn. -/
theorem compileWith_sameButFlags_redrawn :
    let known : Table := ⟨"t", [⟨"a", "JSON", .string, true⟩, ⟨"b", "DATE", .date, true⟩]⟩
    let results := fun suffixes =>
      (repeated.compileWith Settings.standard (Converter.casting none) (some known) suffixes).1
    (results ["x", "x", "x", "y"]).map Query.sql ≠ (results ["p", "q", "r"]).map Query.sql ∧
      ∃ query query', results ["x", "x", "x", "y"] = .ok query ∧
        results ["p", "q", "r"] = .ok query' ∧
        query.SameButFlags ["a", "b", "a"] ["x", "x", "x", "y"] ["p", "q", "r"] query' := by
  intro known results
  have hok : ∀ suffixes ∈ [["x", "x", "x", "y"], ["p", "q", "r"]],
      (results suffixes).isOk = true := by
    decide +kernel
  obtain ⟨query, hquery⟩ := exists_eq_ok_of_isOk (hok ["x", "x", "x", "y"] (by simp))
  obtain ⟨query', hquery'⟩ := exists_eq_ok_of_isOk (hok ["p", "q", "r"] (by simp))
  refine ⟨by decide +kernel, ?_⟩
  obtain ⟨⟨fault, hfault, -⟩ | hboth, -, -⟩ :=
    @compileWith_sameButFlags Settings.standard (Converter.casting none) (some known)
      ["x", "x", "x", "y"] ["p", "q", "r"] repeated
      (fun hexhausted => nomatch hquery.symm.trans hexhausted)
      (fun hexhausted => nomatch hquery'.symm.trans hexhausted)
  · exact nomatch hquery.symm.trans hfault
  · exact hboth

end Request
end TableExport
