import TableExport.Query.Draft
import TableExport.Query.FlagName

/-! # Plans

What a request asks of a draft is a plan: steps that are taken one after the other, possibly ending
in a fault.  A plan is made without looking at the draft or at the supply of flag names; both come
in when the plan is carried out.  So the two sources of failure stay apart: a plan may end in a
fault, and a step may be refused by the draft it is taken on.

Main statements: carrying out the steps of two plans one after the other is carrying out their
concatenation (`perform_append`), and steps that are all taken leave the plan's own fault
(`Plan.carryOut_of_perform`). -/

namespace TableExport

/-- A draft together with the supply of names for flag columns. -/
structure Session where
  draft : Draft
  names : FlagName.Supply

/-- Something a request asks of a draft. -/
inductive Step
  /-- Select an item. -/
  | select (item : Sql.SelectItem)
  /-- Select an expression under a new name made from a column's name. -/
  | selectFlag (flag : Sql.Expr) (column : String)
  /-- Bind a value under a generated name and require a relation to it. -/
  | require (subject : Sql.Expr) (relation : Sql.Relation) (type : ParameterType)
      (value : BoundValue)
  /-- Bind a value under a given name and require a relation to it. -/
  | requireNamed (name : String) (subject : Sql.Expr) (relation : Sql.Relation)
      (type : ParameterType) (value : BoundValue)
  /-- Sort by a term. -/
  | sort (term : Sql.OrderTerm)
  /-- Limit the rows. -/
  | limit (rows : Nat)
  deriving DecidableEq, Repr

/-- The session after a step. -/
def Step.take? : Step → Session → Except Fault Session
  | .select item, session => .ok { session with draft := session.draft.addItem item }
  | .selectFlag flag column, session =>
      match session.names.next? column with
      | some (name, names) => .ok ⟨session.draft.addItem (.aliased flag name), names⟩
      | none => .error .suffixesExhausted
  | .require subject relation type value, session =>
      let bound := session.draft.bindNext type value
      let condition := Sql.Condition.test subject relation session.draft.nextName
      .ok { session with draft := bound.addCondition condition }
  | .requireNamed name subject relation type value, session =>
      match session.draft.bindNamed? name type value with
      | .ok bound =>
          let condition := Sql.Condition.test subject relation name
          .ok { session with draft := bound.addCondition condition }
      | .error fault => .error fault
  | .sort term, session => .ok { session with draft := session.draft.addTerm term }
  | .limit rows, session => .ok { session with draft := session.draft.setLimit rows }

/-- The session after as many steps as can be taken, and the fault of the step that cannot. -/
def perform : List Step → Session → Session × Option Fault
  | [], session => (session, none)
  | step :: rest, session =>
      match step.take? session with
      | .ok next => perform rest next
      | .error fault => (session, some fault)

/-- Steps to take, and the fault with which they end if they do not end well. -/
structure Plan where
  steps : List Step
  fault : Option Fault
  deriving DecidableEq, Repr

namespace Plan

/-- The plan of several parts, up to the first part that is at fault. -/
def ofParts : List (Except Fault (List Step)) → Plan
  | [] => ⟨[], none⟩
  | .error fault :: _ => ⟨[], some fault⟩
  | .ok steps :: rest => ⟨steps ++ (ofParts rest).steps, (ofParts rest).fault⟩

/-- The session after the plan, and the first fault: of a step, or else of the plan. -/
def carryOut (plan : Plan) (session : Session) : Session × Option Fault :=
  match perform plan.steps session with
  | (last, some fault) => (last, some fault)
  | (last, none) => (last, plan.fault)

end Plan

/-! ### Laws -/

theorem perform_append (first second : List Step) (session : Session) :
    perform (first ++ second) session =
      match perform first session with
      | (last, none) => perform second last
      | (last, some fault) => (last, some fault) := by
  induction first generalizing session with
  | nil => rfl
  | cons step rest ih =>
      simp only [List.cons_append, perform]
      cases step.take? session with
      | ok next => exact ih next
      | error fault => rfl

theorem Plan.carryOut_of_perform {plan : Plan} {session last : Session}
    (h : perform plan.steps session = (last, none)) :
    plan.carryOut session = (last, plan.fault) := by
  simp [Plan.carryOut, h]

end TableExport
