import TableExport.Proofs.Query.Calls
import TableExport.Proofs.Query.FirstFault

/-! # What a draft is rendered from

The owner of a draft adds parts and parameters in any order, and some of the calls are refused.  The
text of the statement depends only on what the calls that ended well have said about each clause:
the items, conditions and sort keys in order, the last source and the last limit
(`Clauses.ofCalls`).  So calls on different clauses may change places, and refused calls and
parameters leave no trace.

A draft has the same five things (`Draft.clauses`).  A call that ends well puts its own behind them
(`Call.clauses_run`), and by induction a run of calls puts those of its calls
(`Call.clauses_runAll`).

Main statement: `sql?_runAll`. -/

namespace TableExport

/-! ### Clauses -/

/-- The texts of the clauses of a statement; a sort key is an expression and a direction. -/
structure Clauses where
  items : List String
  source : Option String
  conditions : List String
  keys : List (String × String)
  limit : Option Int
  deriving DecidableEq, Repr

namespace Clauses

/-- The clauses with more of each behind them. -/
def join (clauses more : Clauses) : Clauses where
  items := clauses.items ++ more.items
  source := more.source.or clauses.source
  conditions := clauses.conditions ++ more.conditions
  keys := clauses.keys ++ more.keys
  limit := more.limit.or clauses.limit

/-! ### Text -/

/-- The clause that selects: the items with commas between them, or a star. -/
def selectPart (items : List String) : String :=
  "SELECT " ++ if items = [] then "*" else String.intercalate ", " items

/-- The clause of the conditions, if there is one: a single condition bare, or else all of them in
brackets of their own. -/
def wherePart : List String → List String
  | [] => []
  | [condition] => ["WHERE " ++ condition]
  | conditions =>
      ["WHERE " ++ String.intercalate " AND " (conditions.map fun text => "(" ++ text ++ ")")]

/-- The clause of the sort keys, if there is one. -/
def orderPart (keys : List (String × String)) : List String :=
  if keys = [] then []
  else ["ORDER BY " ++ String.intercalate ", " (keys.map fun key => key.1 ++ " " ++ key.2)]

/-- The clause of the limit, if there is one. -/
def limitPart (limit : Option Int) : List String :=
  limit.toList.map fun rows => "LIMIT " ++ rows.repr

/-- The text of the statement: its clauses in order, with single spaces between them.  It needs a
source. -/
def sql? (clauses : Clauses) : Except Fault String :=
  match clauses.source with
  | none => .error (.misuse .noSource)
  | some source =>
      .ok (String.intercalate " " ([selectPart clauses.items, "FROM " ++ source]
        ++ wherePart clauses.conditions ++ orderPart clauses.keys ++ limitPart clauses.limit))

end Clauses

/-- The clauses of a draft. -/
def Draft.clauses (draft : Draft) : Clauses where
  items := draft.select.map Sql.SelectItem.render
  source := draft.source.map Sql.Source.render
  conditions := draft.conditions.map Sql.Condition.render
  keys := draft.order.map fun term => (term.expr.render, term.direction.name)
  limit := draft.limit.map Int.ofNat

theorem Direction.name_of_ofText? {text : String} {direction : Direction}
    (h : ofText? text = some direction) :
    direction.name = String.ofList (Text.upper text.toList) := by
  unfold ofText? at h
  have hmem := Entries.mem_of_lookup h
  simp only [names, List.mem_cons, Prod.mk.injEq, List.not_mem_nil, or_false] at hmem
  rcases hmem with ⟨hname, rfl⟩ | ⟨hname, rfl⟩ <;> exact hname.symm

/-! ### Adding to the clauses of a draft -/

namespace Clauses

theorem join_nil (clauses : Clauses) : clauses.join ⟨[], none, [], [], none⟩ = clauses := by
  simp [join]

theorem nil_join (clauses : Clauses) :
    (⟨[], none, [], [], none⟩ : Clauses).join clauses = clauses := by
  simp [join]

end Clauses

namespace Draft

variable (draft : Draft)

theorem clauses_addItem (item : Sql.SelectItem) :
    (draft.addItem item).clauses = draft.clauses.join ⟨[item.render], none, [], [], none⟩ := by
  simp [addItem, clauses, Clauses.join]

theorem clauses_setSource (source : Sql.Source) :
    (draft.setSource source).clauses =
      draft.clauses.join ⟨[], some source.render, [], [], none⟩ := by
  simp [setSource, clauses, Clauses.join]

theorem clauses_addCondition (condition : Sql.Condition) :
    (draft.addCondition condition).clauses =
      draft.clauses.join ⟨[], none, [condition.render], [], none⟩ := by
  simp [addCondition, clauses, Clauses.join]

theorem clauses_addTerm (term : Sql.OrderTerm) :
    (draft.addTerm term).clauses =
      draft.clauses.join ⟨[], none, [], [(term.expr.render, term.direction.name)], none⟩ := by
  simp [addTerm, clauses, Clauses.join]

theorem clauses_setLimit (rows : Nat) :
    (draft.setLimit rows).clauses = draft.clauses.join ⟨[], none, [], [], some rows⟩ := by
  simp [setLimit, clauses, Clauses.join]

variable {draft}

/-- The direction is a text that is one of the two names in capitals. -/
theorem clauses_sortBy? {next : Draft} {expr : Sql.Expr} {direction : String}
    (h : draft.sortBy? expr direction = .ok next) :
    next.clauses = draft.clauses.join
      ⟨[], none, [], [(expr.render, String.ofList (Text.upper direction.toList))], none⟩ := by
  unfold sortBy? at h
  split at h
  · next found hfound =>
      obtain rfl := Except.ok.inj h
      rw [clauses_addTerm, Direction.name_of_ofText? hfound]
  · cases h

theorem clauses_limitTo? {next : Draft} {rows : Int} (h : draft.limitTo? rows = .ok next) :
    next.clauses = draft.clauses.join ⟨[], none, [], [], some rows⟩ := by
  unfold limitTo? at h
  split at h
  · next hrows =>
      obtain rfl := Except.ok.inj h
      rw [clauses_setLimit, Int.toNat_of_nonneg hrows]
  · split at h <;> cases h

/-- Parameters are no clause. -/
theorem clauses_create? {given? : Option String} {type : ParameterType} {value : BoundValue}
    {name : String} {after : Draft} (h : draft.create? given? type value = .ok (name, after)) :
    after.clauses = draft.clauses := by
  cases given? with
  | none =>
      obtain ⟨-, rfl⟩ := Prod.mk.inj (Except.ok.inj h)
      rfl
  | some given =>
      obtain ⟨bound, hbound, heq⟩ := except_map_eq_ok h
      obtain ⟨-, rfl⟩ := Prod.mk.inj heq
      obtain ⟨-, -, rfl⟩ := bindNamed?_eq_ok hbound
      rfl

end Draft

/-! ### Rendering -/

/-- Texts that each have a space in front. -/
def spaced : List String → String
  | [] => ""
  | text :: rest => " " ++ text ++ spaced rest

theorem spaced_append (texts others : List String) :
    spaced (texts ++ others) = spaced texts ++ spaced others := by
  induction texts with
  | nil => rw [List.nil_append, spaced, String.empty_append]
  | cons text rest ih => simp only [List.cons_append, spaced, ih, String.append_assoc]

theorem intercalate_space (text : String) (rest : List String) :
    String.intercalate " " (text :: rest) = text ++ spaced rest := by
  induction rest generalizing text with
  | nil => rw [String.intercalate_singleton, spaced, String.append_empty]
  | cons next rest ih =>
      rw [String.intercalate_cons_cons, ih, spaced, String.append_assoc, String.append_assoc]

/-- Texts with the end of a bracket, a word and the start of the next bracket between them. -/
theorem intercalate_bracketed (text : String) (rest : List String) :
    String.intercalate " AND " ((text :: rest).map fun text => "(" ++ text ++ ")") =
      "(" ++ String.intercalate ") AND (" (text :: rest) ++ ")" := by
  induction rest generalizing text with
  | nil => rw [List.map_singleton, String.intercalate_singleton, String.intercalate_singleton]
  | cons next rest ih =>
      have hword : ") AND (" = ")" ++ " AND " ++ "(" := rfl
      have htail := ih next
      rw [List.map_cons] at htail
      rw [List.map_cons, List.map_cons, String.intercalate_cons_cons, htail,
        String.intercalate_cons_cons, hword]
      simp only [String.append_assoc]

open Sql (Statement)

theorem selectPart_eq (items : List Sql.SelectItem) :
    Clauses.selectPart (items.map Sql.SelectItem.render) =
      "SELECT " ++ Statement.selectText items := by
  cases items <;> rfl

theorem spaced_wherePart (conditions : List Sql.Condition) :
    spaced (Clauses.wherePart (conditions.map Sql.Condition.render)) =
      Statement.whereText conditions := by
  have hword : " WHERE " = " " ++ "WHERE " := rfl
  match conditions with
  | [] => rfl
  | [condition] =>
      simp only [List.map_cons, List.map_nil, Clauses.wherePart, spaced, Statement.whereText, hword,
        String.append_assoc, String.append_empty]
  | condition :: next :: rest =>
      have hopening : " WHERE (" = " " ++ "WHERE " ++ "(" := rfl
      have htexts := intercalate_bracketed condition.render
        ((next :: rest).map Sql.Condition.render)
      simp only [List.map_cons] at htexts
      simp only [List.map_cons, Clauses.wherePart, spaced, Statement.whereText, hopening,
        String.append_empty]
      rw [htexts]
      simp only [String.append_assoc]

theorem spaced_orderPart (order : List Sql.OrderTerm) :
    spaced (Clauses.orderPart (order.map fun term => (term.expr.render, term.direction.name))) =
      Statement.orderText order := by
  cases order with
  | nil => rfl
  | cons term rest =>
      have hword : " ORDER BY " = " " ++ "ORDER BY " := rfl
      have hkeys : ((term :: rest).map fun term => (term.expr.render, term.direction.name)) ≠ [] :=
        List.cons_ne_nil _ _
      have hrender : (fun key : String × String => key.1 ++ " " ++ key.2) ∘
          (fun term : Sql.OrderTerm => (term.expr.render, term.direction.name)) =
            Sql.OrderTerm.render := rfl
      rw [Clauses.orderPart, if_neg hkeys, List.map_map, hrender, Statement.orderText, hword]
      · simp only [spaced, String.append_assoc, String.append_empty]
      · nofun

theorem spaced_limitPart (limit : Option Nat) :
    spaced (Clauses.limitPart (limit.map Int.ofNat)) = Statement.limitText limit := by
  cases limit with
  | none => rfl
  | some rows =>
      have hword : " LIMIT " = " " ++ "LIMIT " := rfl
      have hrows : (Int.ofNat rows).repr = rows.repr := rfl
      simp only [Clauses.limitPart, Option.map_some, Option.toList_some, List.map_cons,
        List.map_nil, spaced, Statement.limitText, hword, hrows, String.append_assoc,
        String.append_empty]

/-- A draft is rendered from its clauses, unless its limit is too long to write. -/
theorem Draft.sql?_eq {draft : Draft}
    (hlimit : ∀ rows, draft.limit = some rows → rows < Numeral.tooLong) :
    draft.sql? = draft.clauses.sql? := by
  cases hsource : draft.source with
  | none => simp only [sql?, Clauses.sql?, clauses, hsource, Option.map_none]
  | some source =>
      have hword : " FROM " = " " ++ "FROM " := rfl
      simp only [sql?, Clauses.sql?, clauses, hsource, Option.map_some, any_limit_eq_false hlimit,
        Statement.render, List.cons_append, List.nil_append, intercalate_space, spaced,
        spaced_append, selectPart_eq, spaced_wherePart, spaced_orderPart, spaced_limitPart, hword,
        String.append_assoc]
      rfl

/-! ### What calls say about clauses -/

namespace Call

/-- The calls that end well, of calls one after the other. -/
def succeeded : List Call → Draft → List Call
  | [], _ => []
  | call :: rest, draft =>
      match call.run draft with
      | (next, none) => call :: succeeded rest next
      | (next, some _) => succeeded rest next

/-- The item that a call selects. -/
def item? : Call → Option String
  | .select item => some item.render
  | _ => none

/-- The source that a call sets. -/
def source? : Call → Option String
  | .setSource source => some source.render
  | _ => none

/-- The condition that a call adds. -/
def condition? : Call → Option String
  | .require condition => some condition.render
  | _ => none

/-- The sort key that a call adds, with the direction in capitals. -/
def key? : Call → Option (String × String)
  | .sortBy expr direction => some (expr.render, String.ofList (Text.upper direction.toList))
  | _ => none

/-- The limit that a call sets. -/
def rows? : Call → Option Int
  | .limitTo rows => some rows
  | _ => none

end Call

/-- What calls say about each clause: all items, conditions and keys in order, the last source and
the last limit. -/
def Clauses.ofCalls (calls : List Call) : Clauses where
  items := calls.filterMap Call.item?
  source := (calls.filterMap Call.source?).getLast?
  conditions := calls.filterMap Call.condition?
  keys := calls.filterMap Call.key?
  limit := (calls.filterMap Call.rows?).getLast?

theorem getLast?_filterMap_cons {α β : Type} (view : α → Option β) (a : α) (rest : List α) :
    ((a :: rest).filterMap view).getLast? = (rest.filterMap view).getLast?.or (view a) := by
  cases h : view a with
  | none => rw [List.filterMap_cons_none h, Option.or_none]
  | some b =>
      rw [List.filterMap_cons_some h, List.getLast?_cons]
      cases (rest.filterMap view).getLast? <;> rfl

theorem Clauses.join_ofCalls_cons (clauses : Clauses) (call : Call) (rest : List Call) :
    (clauses.join (ofCalls [call])).join (ofCalls rest) =
      clauses.join (ofCalls (call :: rest)) := by
  have hitems : ∀ {β : Type} (view : Call → Option β),
      (call :: rest).filterMap view = [call].filterMap view ++ rest.filterMap view :=
    fun view => List.filterMap_append (l := [call])
  simp only [join, ofCalls, getLast?_filterMap_cons, List.filterMap_nil, List.getLast?_nil,
    Option.none_or, Option.or_assoc, List.append_assoc]
  rw [hitems Call.item?, hitems Call.condition?, hitems Call.key?]

/-! ### Calls one after the other -/

namespace Call

theorem settle_eq_ok {draft next : Draft} {result : Except Fault Draft}
    (h : settle draft result = (next, none)) : result = .ok next := by
  cases result with
  | error fault => cases h
  | ok reached => rw [(Prod.mk.inj h).1]

/-- A call that ends well puts what it says about a clause behind what the draft has. -/
theorem clauses_run {call : Call} {draft next : Draft} (hsingle : call.isSingle = true)
    (h : call.run draft = (next, none)) :
    next.clauses = draft.clauses.join (Clauses.ofCalls [call]) := by
  cases call with
  | select item =>
      cases h
      exact draft.clauses_addItem item
  | setSource source =>
      cases h
      exact draft.clauses_setSource source
  | require condition =>
      cases h
      exact draft.clauses_addCondition condition
  | sortBy expr direction => exact Draft.clauses_sortBy? (settle_eq_ok h)
  | limitTo rows => exact Draft.clauses_limitTo? (settle_eq_ok h)
  | create given? type value =>
      obtain ⟨⟨name, after⟩, hcreated, rfl⟩ := except_map_eq_ok (settle_eq_ok h)
      rw [Draft.clauses_create? hcreated]
      exact draft.clauses.join_nil.symm
  | write name type value =>
      cases h
      exact draft.clauses.join_nil.symm
  | populate settings converter known? suffixes request => cases hsingle

/-- A run of calls puts behind the clauses of a draft what its calls say that end well; by induction
on the calls. -/
theorem clauses_runAll {calls : List Call} (hsingle : ∀ call ∈ calls, call.isSingle = true)
    (draft : Draft) :
    (runAll calls draft).clauses =
      draft.clauses.join (Clauses.ofCalls (succeeded calls draft)) := by
  induction calls generalizing draft with
  | nil => exact draft.clauses.join_nil.symm
  | cons call rest ih =>
      have hcall := hsingle call List.mem_cons_self
      have hrest := ih fun other hother => hsingle other (List.mem_cons_of_mem _ hother)
      rw [runAll, hrest, succeeded]
      cases h : call.run draft with
      | mk next fault? =>
          cases fault? with
          | none => rw [clauses_run hcall h, Clauses.join_ofCalls_cons]
          | some fault =>
              have hkept := run_of_refused hcall (congrArg Prod.snd h)
              rw [h] at hkept
              obtain rfl : next = draft := hkept
              rfl

/-- A source is never refused. -/
theorem setSource_mem_succeeded_iff {source : Sql.Source} {calls : List Call} {draft : Draft} :
    setSource source ∈ succeeded calls draft ↔ setSource source ∈ calls := by
  induction calls generalizing draft with
  | nil => rfl
  | cons call rest ih =>
      rw [succeeded]
      cases h : call.run draft with
      | mk next fault? =>
          cases fault? with
          | none => rw [List.mem_cons, List.mem_cons, ih]
          | some fault =>
              have hother : setSource source ≠ call := by
                rintro rfl
                cases h
              rw [List.mem_cons, ih, or_iff_right hother]

end Call

theorem Clauses.source_ofCalls_eq_none_iff (calls : List Call) :
    (ofCalls calls).source = none ↔ ∀ source, .setSource source ∉ calls := by
  rw [ofCalls, List.getLast?_eq_none_iff, List.filterMap_eq_nil_iff]
  constructor
  · intro h source hmem
    cases h _ hmem
  · intro h call hmem
    cases call with
    | setSource source => exact absurd hmem (h source)
    | _ => rfl

theorem Clauses.sql?_eq_error_iff (clauses : Clauses) :
    clauses.sql? = .error (.misuse .noSource) ↔ clauses.source = none := by
  unfold sql?
  cases clauses.source with
  | none => exact ⟨fun _ => rfl, fun _ => rfl⟩
  | some source => exact ⟨nofun, nofun⟩

/-! ### Whole runs -/

/-- The clauses of a new draft after calls are what the calls say that end well. -/
theorem Call.clauses_runAll_empty {calls : List Call}
    (hsingle : ∀ call ∈ calls, call.isSingle = true) :
    (runAll calls Draft.empty).clauses = Clauses.ofCalls (succeeded calls Draft.empty) := by
  rw [clauses_runAll hsingle]
  exact Clauses.nil_join _

theorem Draft.direction_of_mem_keys {draft : Draft} {key : String × String}
    (h : key ∈ draft.clauses.keys) : key.2 = "ASC" ∨ key.2 = "DESC" := by
  obtain ⟨term, -, rfl⟩ := List.mem_map.mp h
  cases term.direction with
  | ascending => exact .inl rfl
  | descending => exact .inr rfl

theorem Call.sql?_runAll_empty {calls : List Call}
    (hsingle : ∀ call ∈ calls, call.isSingle = true)
    (hlimit : ∀ rows, (Clauses.ofCalls (succeeded calls Draft.empty)).limit = some rows →
      rows < Numeral.tooLong) :
    (runAll calls Draft.empty).sql? = (Clauses.ofCalls (succeeded calls Draft.empty)).sql? := by
  rw [← clauses_runAll_empty hsingle] at hlimit ⊢
  apply Draft.sql?_eq
  intro rows hrows
  have hwritten : (runAll calls Draft.empty).clauses.limit = some (Int.ofNat rows) :=
    congrArg (Option.map Int.ofNat) hrows
  exact Int.ofNat_lt.mp (hlimit _ hwritten)

/-- Calls that say the same about each clause lead to the same text, whatever their order between
clauses, whichever of them are refused, and whatever parameters are created in between.  There is a
text unless no source was set, and it is that of the clauses, in which every sort key has one of the
two directions. -/
theorem sql?_runAll {calls others : List Call}
    (hcalls : ∀ call ∈ calls, call.isSingle = true)
    (hothers : ∀ call ∈ others, call.isSingle = true)
    (hsame : Clauses.ofCalls (Call.succeeded calls Draft.empty) =
      Clauses.ofCalls (Call.succeeded others Draft.empty))
    (hlimit : ∀ rows, (Clauses.ofCalls (Call.succeeded calls Draft.empty)).limit = some rows →
      rows < Numeral.tooLong) :
    (Call.runAll calls Draft.empty).sql? = (Call.runAll others Draft.empty).sql? ∧
      (Call.runAll calls Draft.empty).sql? =
        (Clauses.ofCalls (Call.succeeded calls Draft.empty)).sql? ∧
      ((Call.runAll calls Draft.empty).sql? = .error (.misuse .noSource) ↔
        ∀ source, .setSource source ∉ calls) ∧
      ∀ key ∈ (Clauses.ofCalls (Call.succeeded calls Draft.empty)).keys,
        key.2 = "ASC" ∨ key.2 = "DESC" := by
  have htext := Call.sql?_runAll_empty hcalls hlimit
  refine ⟨?_, htext, ?_, fun key hkey => ?_⟩
  · rw [htext, hsame, Call.sql?_runAll_empty hothers (hsame ▸ hlimit)]
  · rw [htext, Clauses.sql?_eq_error_iff, Clauses.source_ofCalls_eq_none_iff]
    simp only [Call.setSource_mem_succeeded_iff]
  · rw [← Call.clauses_runAll_empty hcalls] at hkey
    exact Draft.direction_of_mem_keys hkey

/-- Calls in an odd order, some of them refused. -/
def disordered : List Call :=
  [.sortBy (.raw "a") "desc", .limitTo (-1), .setSource (.raw "x"), .select (.raw "p"),
    .limitTo 3, .create (some "param_1") .int64 (.scalar .null), .require (.raw "c"),
    .setSource (.raw "t"), .select (.raw "q"), .sortBy (.raw "b") "sideways",
    .require (.raw "d OR e"), .limitTo 0]

/-- Calls in the order of the clauses. -/
def ordered : List Call :=
  [.select (.raw "p"), .select (.raw "q"), .setSource (.raw "t"), .require (.raw "c"),
    .create none .int64 (.scalar .null), .require (.raw "d OR e"), .sortBy (.raw "a") "DESC",
    .limitTo 0]

/-- The calls in the odd order lead to the same text as those in the order of the clauses. -/
theorem sql?_runAll_disordered :
    (Call.runAll disordered Draft.empty).sql? = (Call.runAll ordered Draft.empty).sql? ∧
      (Call.runAll disordered Draft.empty).sql? =
        .ok "SELECT p, q FROM t WHERE (c) AND (d OR e) ORDER BY a DESC LIMIT 0" := by
  have hclauses : Clauses.ofCalls (Call.succeeded disordered Draft.empty) =
      ⟨["p", "q"], some "t", ["c", "d OR e"], [("a", "DESC")], some 0⟩ := by decide +kernel
  have hsame : Clauses.ofCalls (Call.succeeded disordered Draft.empty) =
      Clauses.ofCalls (Call.succeeded ordered Draft.empty) := by decide +kernel
  have hlimit : ∀ rows, (Clauses.ofCalls (Call.succeeded disordered Draft.empty)).limit =
      some rows → rows < Numeral.tooLong := by
    intro rows hrows
    rw [hclauses] at hrows
    obtain rfl : 0 = rows := Option.some.inj hrows
    decide +kernel
  obtain ⟨halike, htext, -⟩ := sql?_runAll (by decide) (by decide) hsame hlimit
  refine ⟨halike, ?_⟩
  rw [htext, hclauses]
  decide +kernel

end TableExport
