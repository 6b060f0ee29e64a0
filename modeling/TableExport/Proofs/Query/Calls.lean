import Mathlib.Data.List.Nodup
import TableExport.Proofs.Query.Binding
import TableExport.Proofs.Query.Part

/-! # Parameters over the life of a draft

The owner of a draft works on it by calls of every kind, in any order: parts are added, parameters
are created under given or generated names, whole requests are added, and names are written
directly, generated ones among them.  Some of these calls are refused, and the work goes on.

What the parameters created on the way from one draft to another have to do with both of them is
said once (`Draft.Leads`): their names were unbound before and are bound afterwards, no two are the
same, and the numbers of the generated ones increase between the two counters.  It holds of a single
creation (`Draft.Leads.single`) and can be put together (`Draft.Leads.trans`), so that it holds of a
step, of a run of steps, of a call, and of calls one after the other.

Main statement: `parameters_safe`. -/

namespace TableExport

/-! ### Creations -/

/-- The draft with one more parameter, under a given name or else under the next generated one, and
the name of the parameter. -/
def Draft.create? (draft : Draft) (given? : Option String) (type : ParameterType)
    (value : BoundValue) : Except Fault (String × Draft) :=
  match given? with
  | none => .ok (draft.nextName, draft.bindNext type value)
  | some name => (draft.bindNamed? name type value).map fun bound => (name, bound)

/-- A parameter that was created, with the drafts before and after. -/
structure Creation where
  before : Draft
  given? : Option String
  type : ParameterType
  value : BoundValue
  name : String
  after : Draft
  created : before.create? given? type value = .ok (name, after)

/-- The creation of a parameter, if it is not refused. -/
def Creation.attempt? (draft : Draft) (given? : Option String) (type : ParameterType)
    (value : BoundValue) : Option Creation :=
  match h : draft.create? given? type value with
  | .ok (name, after) => some ⟨draft, given?, type, value, name, after, h⟩
  | .error _ => none

/-- The parameter that a step creates, if it creates one. -/
def Step.creation? : Step → Draft → Option Creation
  | .require _ _ type value, draft => Creation.attempt? draft none type value
  | .requireNamed name _ _ type value, draft => Creation.attempt? draft (some name) type value
  | _, _ => none

/-- The parameters that a run of steps creates. -/
def createdIn : List Step → Session → List Creation
  | [], _ => []
  | step :: rest, session =>
      match step.take? session with
      | .ok next => (step.creation? session.draft).toList ++ createdIn rest next
      | .error _ => []

/-! ### Calls -/

/-- A call of the owner of a draft. -/
inductive Call
  | select (item : Sql.SelectItem)
  | setSource (source : Sql.Source)
  | require (condition : Sql.Condition)
  | sortBy (expr : Sql.Expr) (direction : String)
  | limitTo (rows : Int)
  /-- Create a parameter. -/
  | create (given? : Option String) (type : ParameterType) (value : BoundValue)
  /-- Write a value and its type under a name, bound or not, of whatever form. -/
  | write (name : String) (type : ParameterType) (value : BoundValue)
  /-- Add all clauses of a request. -/
  | populate (settings : Settings) (converter : Converter) (known? : Option Table)
      (suffixes : List String) (request : Request)

namespace Call

/-- The draft after an operation that may be refused, and the fault if it is. -/
def settle (draft : Draft) : Except Fault Draft → Draft × Option Fault
  | .ok next => (next, none)
  | .error fault => (draft, some fault)

/-- The draft after a call, and the fault with which the call ends if it does not end well. -/
def run : Call → Draft → Draft × Option Fault
  | .select item, draft => (draft.addItem item, none)
  | .setSource source, draft => (draft.setSource source, none)
  | .require condition, draft => (draft.addCondition condition, none)
  | .sortBy expr direction, draft => settle draft (draft.sortBy? expr direction)
  | .limitTo rows, draft => settle draft (draft.limitTo? rows)
  | .create given? type value, draft =>
      settle draft ((draft.create? given? type value).map Prod.snd)
  | .write name type value, draft => (draft.bind name type value, none)
  | .populate settings converter known? suffixes request, draft =>
      let (session, fault) := request.populate settings converter known? suffixes draft
      (session.draft, fault)

/-- The parameters that a call creates. -/
def created : Call → Draft → List Creation
  | .create given? type value, draft => (Creation.attempt? draft given? type value).toList
  | .populate settings converter known? suffixes request, draft =>
      createdIn (request.plan settings converter known?).steps ⟨draft, ⟨[], suffixes⟩⟩
  | _, _ => []

/-- The call adds a single part or parameter, unlike the clauses of a request. -/
def isSingle : Call → Bool
  | .populate .. => false
  | _ => true

/-- The call writes a name directly. -/
def isWrite : Call → Bool
  | .write .. => true
  | _ => false

/-- The draft after calls one after the other, whether they end well or not. -/
def runAll : List Call → Draft → Draft
  | [], draft => draft
  | call :: rest, draft => runAll rest (call.run draft).1

/-- The parameters that calls create one after the other. -/
def createdAll : List Call → Draft → List Creation
  | [], _ => []
  | call :: rest, draft => call.created draft ++ createdAll rest (call.run draft).1

end Call

/-! ### A single creation -/

/-- A given name is refused exactly if it is bound or of the generated form. -/
theorem Draft.create?_given_eq_error_iff (draft : Draft) (name : String) (type : ParameterType)
    (value : BoundValue) :
    (∃ fault, draft.create? (some name) type value = .error fault) ↔
      name ∈ draft.values.keys ∨ Parameter.isReserved name = true := by
  unfold create? bindNamed?
  dsimp only
  split
  · next hname => exact ⟨fun _ => .inl hname, fun _ => ⟨_, rfl⟩⟩
  · next hname =>
      split
      · next hreserved => exact ⟨fun _ => .inr hreserved, fun _ => ⟨_, rfl⟩⟩
      · next hreserved =>
          constructor
          · rintro ⟨fault, hfault⟩
            cases hfault
          · rintro (hmem | hmem)
            · exact absurd hmem hname
            · exact absurd hmem hreserved

namespace Creation

/-- The only change to the bindings is one at the end: a name that was unbound, with a value and a
type. -/
structure IsFresh (creation : Creation) : Prop where
  unbound : creation.name ∉ creation.before.values.keys
  values : creation.after.values.entries =
    creation.before.values.entries ++ [(creation.name, creation.value)]
  types : creation.after.types.entries =
    creation.before.types.entries ++ [(creation.name, creation.type)]

/-- What a creation does to the bindings and the counter. -/
structure Effect (creation : Creation) : Prop where
  unbound : creation.name ∉ creation.before.values.keys
  values : creation.after.values = creation.before.values.put creation.name creation.value
  types : creation.after.types = creation.before.types.put creation.name creation.type
  counter : creation.before.counter ≤ creation.after.counter
  number : ∀ number, Parameter.number? creation.name = some number →
    creation.before.counter ≤ number ∧ number < creation.after.counter

theorem effect (creation : Creation) : creation.Effect := by
  obtain ⟨before, given?, type, value, name, after, hcreated⟩ := creation
  cases given? with
  | none =>
      obtain ⟨rfl, rfl⟩ := Prod.mk.inj (Except.ok.inj hcreated)
      have hle := before.counter_le_nextNumber
      refine ⟨before.nextName_not_mem, rfl, rfl, Nat.le_succ_of_le hle, ?_⟩
      intro number hnumber
      obtain rfl : before.nextNumber = number :=
        Option.some.inj ((Parameter.number?_generated before.nextNumber).symm.trans hnumber)
      exact ⟨hle, Nat.lt_succ_self _⟩
  | some given =>
      obtain ⟨bound, hbound, heq⟩ := except_map_eq_ok hcreated
      obtain ⟨rfl, rfl⟩ := Prod.mk.inj heq
      obtain ⟨hname, hfree, rfl⟩ := Draft.bindNamed?_eq_ok hbound
      refine ⟨hname, rfl, rfl, Nat.le_refl _, fun number hnumber => ?_⟩
      rw [Parameter.number?_eq_none hfree] at hnumber
      cases hnumber

theorem keys_after (creation : Creation) :
    creation.after.values.keys = creation.before.values.keys ++ [creation.name] := by
  rw [creation.effect.values, Bindings.keys_put, if_neg creation.effect.unbound]

theorem isFresh {creation : Creation} (h : creation.before.IsTyped) : creation.IsFresh := by
  have heffect := creation.effect
  have huntyped : creation.name ∉ creation.before.types.keys := h ▸ heffect.unbound
  refine ⟨heffect.unbound, ?_, ?_⟩
  · rw [heffect.values, Bindings.entries_put_of_not_mem heffect.unbound]
  · rw [heffect.types, Bindings.entries_put_of_not_mem huntyped]

end Creation

/-! ### Stretches of a draft's life -/

/-- The drafts have the same parameters and count on from the same number. -/
structure Draft.SameBindings (draft other : Draft) : Prop where
  values : draft.values = other.values
  types : draft.types = other.types
  counter : draft.counter = other.counter

/-- The numbers of the generated names among those of the parameters created. -/
def numbersOf (history : List Creation) : List Nat :=
  (history.map Creation.name).filterMap Parameter.number?

/-- What the parameters created between two drafts have to do with them. -/
structure Draft.Leads (before : Draft) (history : List Creation) (after : Draft) : Prop where
  kept : ∀ name ∈ before.values.keys, name ∈ after.values.keys
  counter : before.counter ≤ after.counter
  typed : before.IsTyped → after.IsTyped ∧ ∀ creation ∈ history, creation.before.IsTyped
  unbound : ∀ creation ∈ history, creation.name ∉ before.values.keys
  bound : ∀ creation ∈ history, creation.name ∈ after.values.keys
  nodup : (history.map Creation.name).Nodup
  numbers : ∀ number ∈ numbersOf history, before.counter ≤ number ∧ number < after.counter
  increasing : (numbersOf history).Pairwise (· < ·)

namespace Draft.Leads

variable {first second third : Draft} {history later : List Creation}

/-- Without creations the bound names and the counter can only grow. -/
theorem of_kept (hkept : ∀ name ∈ first.values.keys, name ∈ second.values.keys)
    (hcounter : first.counter ≤ second.counter) (htyped : first.IsTyped → second.IsTyped) :
    first.Leads [] second where
  kept := hkept
  counter := hcounter
  typed h := ⟨htyped h, by simp⟩
  unbound := by simp
  bound := by simp
  nodup := List.nodup_nil
  numbers := by simp [numbersOf]
  increasing := List.Pairwise.nil

/-- An operation that leaves the parameters as they are creates nothing. -/
theorem of_same (h : second.SameBindings first) : first.Leads [] second := by
  refine of_kept (fun name hname => h.values ▸ hname) (Nat.le_of_eq h.counter.symm) fun htyped => ?_
  unfold IsTyped
  rw [h.values, h.types]
  exact htyped

theorem single (creation : Creation) : creation.before.Leads [creation] creation.after where
  kept name hname := by
    rw [creation.keys_after]
    exact List.mem_append_left _ hname
  counter := creation.effect.counter
  typed h := by
    refine ⟨?_, by simpa using h⟩
    have hbound := h.bind creation.name creation.type creation.value
    unfold IsTyped
    rw [creation.effect.values, creation.effect.types]
    exact hbound
  unbound := by simpa using creation.effect.unbound
  bound := by simp [creation.keys_after]
  nodup := by simp
  numbers number hnumber := by
    obtain ⟨name, hname, hread⟩ := List.mem_filterMap.mp hnumber
    obtain rfl := List.mem_singleton.mp hname
    exact creation.effect.number number hread
  increasing := by
    unfold numbersOf
    cases hnumber : Parameter.number? creation.name <;> simp [hnumber]

theorem trans (h : first.Leads history second) (h' : second.Leads later third) :
    first.Leads (history ++ later) third where
  kept name hname := h'.kept name (h.kept name hname)
  counter := Nat.le_trans h.counter h'.counter
  typed hfirst := by
    obtain ⟨hsecond, hhistory⟩ := h.typed hfirst
    obtain ⟨hthird, hlater⟩ := h'.typed hsecond
    refine ⟨hthird, fun creation hmem => ?_⟩
    rcases List.mem_append.mp hmem with hmem | hmem
    · exact hhistory creation hmem
    · exact hlater creation hmem
  unbound creation hmem := by
    rcases List.mem_append.mp hmem with hmem | hmem
    · exact h.unbound creation hmem
    · exact fun hname => h'.unbound creation hmem (h.kept _ hname)
  bound creation hmem := by
    rcases List.mem_append.mp hmem with hmem | hmem
    · exact h'.kept _ (h.bound creation hmem)
    · exact h'.bound creation hmem
  nodup := by
    -- The names of the first stretch are bound in the middle, those of the second are not.
    rw [List.map_append, List.nodup_append]
    refine ⟨h.nodup, h'.nodup, fun name hname other hother heq => ?_⟩
    obtain ⟨creation, hmem, rfl⟩ := List.mem_map.mp hname
    obtain ⟨creation', hmem', rfl⟩ := List.mem_map.mp hother
    exact h'.unbound creation' hmem' (heq ▸ h.bound creation hmem)
  numbers number hnumber := by
    unfold numbersOf at hnumber
    rw [List.map_append, List.filterMap_append] at hnumber
    rcases List.mem_append.mp hnumber with hmem | hmem
    · obtain ⟨hle, hlt⟩ := h.numbers number hmem
      exact ⟨hle, Nat.lt_of_lt_of_le hlt h'.counter⟩
    · obtain ⟨hle, hlt⟩ := h'.numbers number hmem
      exact ⟨Nat.le_trans h.counter hle, hlt⟩
  increasing := by
    -- The counter in the middle lies between the numbers of the two stretches.
    unfold numbersOf
    rw [List.map_append, List.filterMap_append, List.pairwise_append]
    refine ⟨h.increasing, h'.increasing, fun number hmem other hmem' => ?_⟩
    exact Nat.lt_of_lt_of_le (h.numbers number hmem).2 (h'.numbers other hmem').1

end Draft.Leads

/-! ### Steps and runs -/

theorem Creation.attempt?_eq_some {draft after : Draft} {given? : Option String}
    {type : ParameterType} {value : BoundValue} {name : String}
    (h : draft.create? given? type value = .ok (name, after)) :
    attempt? draft given? type value = some ⟨draft, given?, type, value, name, after, h⟩ := by
  unfold attempt?
  split
  · next name' after' h' =>
      rw [h] at h'
      obtain ⟨rfl, rfl⟩ := Prod.mk.inj (Except.ok.inj h')
      rfl
  · next fault h' =>
      rw [h] at h'
      cases h'

theorem Creation.attempt?_eq_none {draft : Draft} {given? : Option String} {type : ParameterType}
    {value : BoundValue} {fault : Fault} (h : draft.create? given? type value = .error fault) :
    attempt? draft given? type value = none := by
  unfold attempt?
  split
  · next name after h' =>
      rw [h] at h'
      cases h'
  · rfl

/-- A step that is taken creates one parameter, or leaves the parameters as they are. -/
theorem Step.take?_creation? {step : Step} {s t : Session} (h : step.take? s = .ok t) :
    (step.creation? s.draft = none ∧ t.draft.SameBindings s.draft) ∨
      ∃ creation, step.creation? s.draft = some creation ∧ creation.before = s.draft ∧
        t.draft.SameBindings creation.after := by
  cases step with
  | select item =>
      cases h
      exact .inl ⟨rfl, rfl, rfl, rfl⟩
  | selectFlag flag column =>
      obtain ⟨name, names, -, rfl⟩ := take?_selectFlag h
      exact .inl ⟨rfl, rfl, rfl, rfl⟩
  | require subject relation type value =>
      cases h
      have hcreated : s.draft.create? none type value =
          .ok (s.draft.nextName, s.draft.bindNext type value) := rfl
      exact .inr ⟨_, Creation.attempt?_eq_some hcreated, rfl, rfl, rfl, rfl⟩
  | requireNamed name subject relation type value =>
      simp only [take?] at h
      split at h
      · next bound hbound =>
          obtain rfl := Except.ok.inj h
          have hcreated : s.draft.create? (some name) type value = .ok (name, bound) := by
            simp only [Draft.create?, hbound]
            rfl
          exact .inr ⟨_, Creation.attempt?_eq_some hcreated, rfl, rfl, rfl, rfl⟩
      · cases h
  | sort term =>
      cases h
      exact .inl ⟨rfl, rfl, rfl, rfl⟩
  | limit rows =>
      cases h
      exact .inl ⟨rfl, rfl, rfl, rfl⟩

theorem Step.take?_leads {step : Step} {s t : Session} (h : step.take? s = .ok t) :
    s.draft.Leads (step.creation? s.draft).toList t.draft := by
  rcases take?_creation? h with ⟨hnone, hsame⟩ | ⟨creation, hsome, hbefore, hsame⟩
  · rw [hnone]
    exact .of_same hsame
  · rw [hsome, ← hbefore]
    exact (Draft.Leads.single creation).trans (.of_same hsame)

theorem Step.keys_take? {step : Step} {s t : Session} (h : step.take? s = .ok t) :
    t.draft.values.keys =
      s.draft.values.keys ++ (step.creation? s.draft).toList.map Creation.name := by
  rcases take?_creation? h with ⟨hnone, hsame⟩ | ⟨creation, hsome, hbefore, hsame⟩
  · rw [hnone, hsame.values]
    simp
  · rw [hsome, hsame.values, creation.keys_after, hbefore]
    rfl

theorem leads_perform (steps : List Step) (s : Session) :
    s.draft.Leads (createdIn steps s) (perform steps s).1.draft := by
  induction steps generalizing s with
  | nil => exact .of_same ⟨rfl, rfl, rfl⟩
  | cons step rest ih =>
      unfold createdIn perform
      cases hnext : step.take? s with
      | ok next => exact (Step.take?_leads hnext).trans (ih next)
      | error fault => exact .of_same ⟨rfl, rfl, rfl⟩

/-- A run binds the names that it creates, one behind the other, and no others. -/
theorem keys_perform (steps : List Step) (s : Session) :
    (perform steps s).1.draft.values.keys =
      s.draft.values.keys ++ (createdIn steps s).map Creation.name := by
  induction steps generalizing s with
  | nil => simp [perform, createdIn]
  | cons step rest ih =>
      unfold createdIn perform
      cases hnext : step.take? s with
      | ok next =>
          dsimp only
          rw [ih, Step.keys_take? hnext, List.map_append, List.append_assoc]
      | error fault => simp

/-! ### Calls one after the other -/

namespace Call

/-- A call that is refused leaves the draft as it was, unless it adds a whole request. -/
theorem run_of_refused {call : Call} {draft : Draft} {fault : Fault}
    (hsingle : call.isSingle = true) (h : (call.run draft).2 = some fault) :
    (call.run draft).1 = draft := by
  have hsettle : ∀ result : Except Fault Draft, (settle draft result).2 = some fault →
      (settle draft result).1 = draft := by
    intro result hresult
    cases result with
    | ok next => cases hresult
    | error _ => rfl
  cases call with
  | select item => cases h
  | setSource source => cases h
  | require condition => cases h
  | sortBy expr direction => exact hsettle _ h
  | limitTo rows => exact hsettle _ h
  | create given? type value => exact hsettle _ h
  | write name type value => cases h
  | populate settings converter known? suffixes request => cases hsingle

theorem leads_write (draft : Draft) (name : String) (type : ParameterType) (value : BoundValue) :
    draft.Leads [] (draft.bind name type value) := by
  refine .of_kept (fun other hother => ?_) (Nat.le_refl _) fun h => h.bind name type value
  show other ∈ (draft.values.put name value).keys
  rw [Bindings.keys_put]
  split
  · exact hother
  · exact List.mem_append_left _ hother

theorem sameBindings_sortBy (draft : Draft) (expr : Sql.Expr) (direction : String) :
    (settle draft (draft.sortBy? expr direction)).1.SameBindings draft := by
  unfold Draft.sortBy?
  split <;> exact ⟨rfl, rfl, rfl⟩

theorem sameBindings_limitTo (draft : Draft) (rows : Int) :
    (settle draft (draft.limitTo? rows)).1.SameBindings draft := by
  unfold Draft.limitTo?
  split
  · exact ⟨rfl, rfl, rfl⟩
  · split <;> exact ⟨rfl, rfl, rfl⟩

/-- The creation of a parameter is recorded exactly if it is not refused. -/
theorem leads_create (draft : Draft) (given? : Option String) (type : ParameterType)
    (value : BoundValue) :
    draft.Leads (Creation.attempt? draft given? type value).toList
      (settle draft ((draft.create? given? type value).map Prod.snd)).1 := by
  cases h : draft.create? given? type value with
  | ok made =>
      obtain ⟨name, after⟩ := made
      rw [Creation.attempt?_eq_some h]
      exact .single ⟨draft, given?, type, value, name, after, h⟩
  | error fault =>
      rw [Creation.attempt?_eq_none h]
      exact .of_same ⟨rfl, rfl, rfl⟩

theorem leads_run (call : Call) (draft : Draft) :
    draft.Leads (call.created draft) (call.run draft).1 := by
  cases call with
  | select item => exact .of_same ⟨rfl, rfl, rfl⟩
  | setSource source => exact .of_same ⟨rfl, rfl, rfl⟩
  | require condition => exact .of_same ⟨rfl, rfl, rfl⟩
  | sortBy expr direction => exact .of_same (sameBindings_sortBy draft expr direction)
  | limitTo rows => exact .of_same (sameBindings_limitTo draft rows)
  | create given? type value => exact leads_create draft given? type value
  | write name type value => exact leads_write draft name type value
  | populate settings converter known? suffixes request =>
      have hrun := leads_perform (request.plan settings converter known?).steps
        ⟨draft, ⟨[], suffixes⟩⟩
      rw [← Plan.fst_carryOut] at hrun
      exact hrun

theorem leads_runAll (calls : List Call) (draft : Draft) :
    draft.Leads (createdAll calls draft) (runAll calls draft) := by
  induction calls generalizing draft with
  | nil => exact .of_same ⟨rfl, rfl, rfl⟩
  | cons call rest ih => exact (leads_run call draft).trans (ih _)

/-- A call that does not write names directly binds the names that it creates, and no others. -/
theorem keys_run {call : Call} (hwrite : call.isWrite = false) (draft : Draft) :
    (call.run draft).1.values.keys =
      draft.values.keys ++ (call.created draft).map Creation.name := by
  have hsame : ∀ {next : Draft}, next.SameBindings draft →
      next.values.keys = draft.values.keys ++ ([] : List Creation).map Creation.name := by
    intro next h
    rw [h.values, List.map_nil, List.append_nil]
  cases call with
  | select item => exact hsame ⟨rfl, rfl, rfl⟩
  | setSource source => exact hsame ⟨rfl, rfl, rfl⟩
  | require condition => exact hsame ⟨rfl, rfl, rfl⟩
  | sortBy expr direction => exact hsame (sameBindings_sortBy draft expr direction)
  | limitTo rows => exact hsame (sameBindings_limitTo draft rows)
  | create given? type value =>
      simp only [run, created]
      cases h : draft.create? given? type value with
      | ok made =>
          obtain ⟨name, after⟩ := made
          rw [Creation.attempt?_eq_some h]
          exact Creation.keys_after ⟨draft, given?, type, value, name, after, h⟩
      | error fault =>
          rw [Creation.attempt?_eq_none h]
          exact hsame ⟨rfl, rfl, rfl⟩
  | write name type value => cases hwrite
  | populate settings converter known? suffixes request =>
      have hrun := keys_perform (request.plan settings converter known?).steps
        ⟨draft, ⟨[], suffixes⟩⟩
      rw [← Plan.fst_carryOut] at hrun
      exact hrun

end Call

/-! ### Safety -/

/-- Bound names that all have types are listed in order, each with its type and its value. -/
theorem Query.typedParameters_eq_ok {query : Query}
    (h : ∀ name ∈ query.values.keys, ∃ type, query.types.get? name = some type) :
    ∃ listed, query.typedParameters = .ok listed ∧
      listed.map (fun entry => (entry.1, entry.2.2)) = query.values.entries ∧
      ∀ entry ∈ listed, query.types.get? entry.1 = some entry.2.1 := by
  unfold typedParameters
  have hentries : ∀ entry ∈ query.values.entries, ∃ type, query.types.get? entry.1 = some type :=
    fun entry hentry => h entry.1 (List.mem_map_of_mem hentry)
  generalize query.values.entries = entries at hentries
  induction entries with
  | nil => exact ⟨[], rfl, rfl, by simp⟩
  | cons entry rest ih =>
      obtain ⟨name, value⟩ := entry
      obtain ⟨type, htype⟩ := hentries (name, value) List.mem_cons_self
      obtain ⟨listed, hlisted, hvalues, htypes⟩ :=
        ih fun other hother => hentries other (List.mem_cons_of_mem _ hother)
      refine ⟨(name, type, value) :: listed, ?_, ?_, ?_⟩
      · dsimp only at htype
        rw [List.mapM_cons, hlisted]
        dsimp only
        rw [htype]
        rfl
      · rw [List.map_cons, hvalues]
      · intro other hother
        rcases List.mem_cons.mp hother with rfl | hmem
        · exact htype
        · exact htypes other hmem

theorem Draft.IsTyped.exists_get? {draft : Draft} (h : draft.IsTyped) :
    ∀ name ∈ draft.values.keys, ∃ type, draft.types.get? name = some type :=
  fun _ hname => Bindings.exists_get?_of_mem (h.symm ▸ hname)

/-- What the owner of a draft can rely on. -/
structure Draft.IsSafe (draft : Draft) : Prop where
  /-- A given name is refused exactly if it is bound, or the stem of generated names with digits. -/
  given : ∀ name type value, (∃ fault, draft.create? (some name) type value = .error fault) ↔
    name ∈ draft.values.keys ∨ ∃ digits : List Char,
      digits ≠ [] ∧ digits.all Char.isDigit = true ∧ name = "param_" ++ String.ofList digits
  /-- A refused call leaves the draft as it was, its counter included. -/
  refused : ∀ call fault, Call.isSingle call = true → (call.run draft).2 = some fault →
    (call.run draft).1 = draft
  /-- Unless names are written directly, a call binds the names that it creates, and no others. -/
  bound : ∀ call, Call.isWrite call = false → (call.run draft).1.values.keys =
    draft.values.keys ++ (call.created draft).map Creation.name
  /-- Every bound name has a type. -/
  typed : ∀ name ∈ draft.values.keys, ∃ type, draft.types.get? name = some type
  /-- The parameters of the finished query can be listed in order, each with its type. -/
  listed : ∀ query, draft.finish? = .ok query → ∃ listed, query.typedParameters = .ok listed ∧
    listed.map (fun entry => (entry.1, entry.2.2)) = draft.values.entries ∧
    ∀ entry ∈ listed, draft.types.get? entry.1 = some entry.2.1
  /-- Without a given name a parameter is always created, under the first free number from the
  counter on, before which at most as many numbers are passed over as names are bound. -/
  search : ∀ type value, ∃ number after,
    draft.create? none type value = .ok (Parameter.generated number, after) ∧
    draft.counter ≤ number ∧ number ≤ draft.counter + draft.values.keys.length ∧
    Parameter.generated number ∉ draft.values.keys ∧
    ∀ passed, draft.counter ≤ passed → passed < number →
      Parameter.generated passed ∈ draft.values.keys

theorem Draft.IsTyped.isSafe {draft : Draft} (h : draft.IsTyped) : draft.IsSafe where
  given name type value := by
    rw [create?_given_eq_error_iff, Parameter.isReserved_iff]
    rfl
  refused _ _ := Call.run_of_refused
  bound _ hwrite := Call.keys_run hwrite draft
  typed := h.exists_get?
  listed query hquery := by
    obtain ⟨source, -, rfl⟩ := finish?_eq_ok hquery
    exact Query.typedParameters_eq_ok h.exists_get?
  search _ _ := ⟨draft.nextNumber, _, rfl, draft.counter_le_nextNumber,
    Parameter.firstFree_le _ _ _, draft.nextName_not_mem,
    fun _ hle hlt => Parameter.generated_mem_of_lt_firstFree hle hlt⟩

theorem Sql.placeholder_injective : Function.Injective Sql.placeholder := by
  intro name other h
  have hlists := congrArg String.toList h
  unfold placeholder at hlists
  rw [String.toList_append, String.toList_append] at hlists
  exact String.toList_inj.mp (List.append_cancel_left hlists)

/-- Whatever calls are made on a new draft, every parameter created is bound to a name that was
unbound, at the end of the bindings and with no other change to them; no two of them have the same
placeholder; the numbers of the generated names increase; and the draft that is reached is safe. -/
theorem parameters_safe (calls : List Call) :
    (∀ creation ∈ Call.createdAll calls Draft.empty, creation.IsFresh) ∧
      ((Call.createdAll calls Draft.empty).map fun creation =>
        Sql.placeholder creation.name).Nodup ∧
      (numbersOf (Call.createdAll calls Draft.empty)).Pairwise (· < ·) ∧
      (Call.runAll calls Draft.empty).IsSafe := by
  have hleads := Call.leads_runAll calls Draft.empty
  have hempty : Draft.empty.IsTyped := rfl
  obtain ⟨hreached, hhistory⟩ := hleads.typed hempty
  have hplaceholders := List.Nodup.map Sql.placeholder_injective hleads.nodup
  rw [List.map_map] at hplaceholders
  exact ⟨fun creation hmem => creation.isFresh (hhistory creation hmem), hplaceholders,
    hleads.increasing, hreached.isSafe⟩

/-- A generated name that was written directly is passed over, and cannot be given. -/
example : (Call.createdAll [.create none .int64 (.scalar (.integer 7)),
      .write "param_1" .string (.scalar .null), .create (some "param_5") .bool (.scalar .null),
      .create none .string (.scalar .null), .create (some "owner") .string (.scalar .null)]
    Draft.empty).map Creation.name = ["param_0", "param_2", "owner"] := by
  decide +kernel

end TableExport
