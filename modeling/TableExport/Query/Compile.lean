import TableExport.Query.Clauses

/-! # Compiling requests

A request is compiled by carrying out its plan, either on a new draft, which is then finished
(`Request.compile`), or on the draft of a larger query (`Request.populate`).  The suffixes that a
compilation did not use are returned beside its result, because several compilations may share one
supply; the names issued are remembered within one compilation only. -/

namespace TableExport

namespace Request

/-- The source of the rows: the table, qualified by the dataset if there is one. -/
def source (request : Request) : Sql.Source :=
  match request.dataset with
  | none => .reference [request.table]
  | some dataset =>
      if dataset = "" then .reference [request.table] else .reference [dataset, request.table]

/-- The session after adding all clauses of the request to a draft, and the fault that stopped it
if there is one. -/
def populate (settings : Settings) (converter : Converter) (known? : Option Table)
    (suffixes : List String) (draft : Draft) (request : Request) : Session × Option Fault :=
  (request.plan settings converter known?).carryOut ⟨draft, ⟨[], suffixes⟩⟩

/-- The query of the request, or the first fault, with the suffixes that are left. -/
def compileWith (settings : Settings) (converter : Converter) (known? : Option Table)
    (suffixes : List String) (request : Request) : Except Fault Query × List String :=
  match request.populate settings converter known? suffixes (Draft.empty.setSource request.source)
  with
  | (session, some fault) => (.error fault, session.names.suffixes)
  | (session, none) => (session.draft.finish?, session.names.suffixes)

/-- The query of the request for a table that may be known, or the first fault.  The default
converter knows the table. -/
def compile (settings : Settings) (known? : Option Table) (suffixes : List String)
    (request : Request) : Except Fault Query :=
  (request.compileWith settings (Converter.casting known?) known? suffixes).1

end Request

/-- The results of several requests in order, sharing one supply of suffixes. -/
def compileAll (settings : Settings) (converter : Converter) (known? : Option Table) :
    List String → List Request → List (Except Fault Query)
  | _, [] => []
  | suffixes, request :: rest =>
      let (result, left) := request.compileWith settings converter known? suffixes
      result :: compileAll settings converter known? left rest

/-- The session after adding a projection alone to a draft, and the fault that stopped it. -/
def project (settings : Settings) (known? : Option Table) (suffixes : List String) (table : String)
    (truncate : Bool) (columns : List String) (draft : Draft) : Session × Option Fault :=
  (Plan.ofParts (projectionParts settings known? table truncate columns)).carryOut
    ⟨draft, ⟨[], suffixes⟩⟩

end TableExport
