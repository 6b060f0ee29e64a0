import TableExport.Proofs.Query.Run

/-! # How sort keys are added

Sort keys count up to the first one that is not a text (`SortKey.firstTyped?`): the texts before it
(`SortKey.leading`) sort by the columns as they are stored, and that key sorts by what the converter
makes of its column.  No later key is looked at.

How often the converter is asked is counted on a version of the clause in which asking may have any
effect (`orderPartsBy`).  Without an effect it is the clause itself (`orderPartsBy_id`), and
whatever the effect is, it is that of one question at most (`orderPartsBy_eq`).

Main statement: `carryOut_orderParts`, for any draft and any converter. -/

namespace TableExport

/-! ### The keys that count -/

namespace SortKey

/-- The texts at the front. -/
def leading (keys : List SortKey) : List SortKey :=
  keys.takeWhile fun key => key.type = .string

/-- The first key that is not a text. -/
def firstTyped? (keys : List SortKey) : Option SortKey :=
  (keys.dropWhile fun key => key.type = .string).head?

/-- The term for a key that sorts by its column as it is stored. -/
def storedTerm (table : String) (key : SortKey) : Sql.OrderTerm :=
  ⟨columnReference table key.column, key.direction⟩

/-- The part for a key that sorts by its column as it is stored. -/
def storedPart (table : String) (key : SortKey) : Except Fault (List Step) :=
  .ok [.sort (key.storedTerm table)]

variable {key : SortKey} {rest : List SortKey}

theorem leading_cons_of_text (h : key.type = .string) :
    leading (key :: rest) = key :: leading rest := by
  simp [leading, h]

theorem leading_cons_of_typed (h : key.type ≠ .string) : leading (key :: rest) = [] := by
  simp [leading, h]

theorem firstTyped?_cons_of_text (h : key.type = .string) :
    firstTyped? (key :: rest) = firstTyped? rest := by
  simp [firstTyped?, h]

theorem firstTyped?_cons_of_typed (h : key.type ≠ .string) :
    firstTyped? (key :: rest) = some key := by
  simp [firstTyped?, h]

end SortKey

/-! ### Asking the converter -/

/-- The part for a key that is not a text, by the converter's answer. -/
def answeredPart (direction : Direction) : Except String Sql.Expr → Except Fault (List Step)
  | .ok expr => .ok [.sort ⟨expr, direction⟩]
  | .error reason => .error (.sortRefused (.noConversion reason))

/-- The parts of the sort keys by a converter that has effects. -/
def orderPartsBy {m : Type → Type} [Monad m]
    (ask : String → String → DataType → m (Except String Sql.Expr)) (table : String) :
    List SortKey → m (List (Except Fault (List Step)))
  | [] => pure []
  | key :: rest =>
      if key.type = .string then do
        let parts ← orderPartsBy ask table rest
        pure (key.storedPart table :: parts)
      else do
        let answer ← ask table key.column key.type
        pure [answeredPart key.direction answer]

/-- A converter that counts how often it is asked. -/
def Converter.counted (converter : Converter) (table column : String) (type : DataType) :
    StateM Nat (Except String Sql.Expr) := do
  modify (· + 1)
  pure (converter table column type)

theorem orderParts_cons_of_typed (converter : Converter) (table : String) {key : SortKey}
    (h : key.type ≠ .string) (rest : List SortKey) :
    orderParts converter table (key :: rest) =
      [answeredPart key.direction (converter table key.column key.type)] := by
  rw [orderParts, if_neg h, converted]
  cases converter table key.column key.type <;> rfl

theorem orderPartsBy_id (converter : Converter) (table : String) (keys : List SortKey) :
    Id.run (orderPartsBy (fun table column type => pure (converter table column type)) table keys) =
      orderParts converter table keys := by
  induction keys with
  | nil => rfl
  | cons key rest ih =>
      by_cases htext : key.type = .string
      · rw [orderParts, if_pos htext, ← ih, orderPartsBy, if_pos htext]
        rfl
      · rw [orderParts_cons_of_typed converter table htext, orderPartsBy, if_neg htext]
        rfl

/-- Whatever asking does, it is done once for the first key that is not a text, and never without
one. -/
theorem orderPartsBy_eq {m : Type → Type} [Monad m] [LawfulMonad m]
    (ask : String → String → DataType → m (Except String Sql.Expr)) (table : String)
    (keys : List SortKey) :
    orderPartsBy ask table keys =
      match SortKey.firstTyped? keys with
      | none => pure ((SortKey.leading keys).map (SortKey.storedPart table))
      | some key =>
          (fun answer => (SortKey.leading keys).map (SortKey.storedPart table)
            ++ [answeredPart key.direction answer]) <$> ask table key.column key.type := by
  induction keys with
  | nil => rfl
  | cons key rest ih =>
      by_cases htext : key.type = .string
      · rw [orderPartsBy, if_pos htext, ih, SortKey.firstTyped?_cons_of_text htext,
          SortKey.leading_cons_of_text htext]
        cases SortKey.firstTyped? rest <;> simp
      · rw [orderPartsBy, if_neg htext, SortKey.firstTyped?_cons_of_typed htext,
          SortKey.leading_cons_of_typed htext]
        simp

theorem orderParts_eq_append (converter : Converter) (table : String) (keys : List SortKey) :
    orderParts converter table keys =
      (SortKey.leading keys).map (SortKey.storedPart table)
        ++ ((SortKey.firstTyped? keys).map fun key =>
          answeredPart key.direction (converter table key.column key.type)).toList := by
  rw [← orderPartsBy_id, orderPartsBy_eq]
  cases SortKey.firstTyped? keys with
  | none => exact (List.append_nil _).symm
  | some key => rfl

theorem run_orderPartsBy_counted (converter : Converter) (table : String) (keys : List SortKey)
    (calls : Nat) :
    (orderPartsBy converter.counted table keys).run calls =
      (orderParts converter table keys, calls + (SortKey.firstTyped? keys).toList.length) := by
  rw [orderPartsBy_eq, orderParts_eq_append]
  cases SortKey.firstTyped? keys with
  | none =>
      rw [Option.map_none, Option.toList_none, List.append_nil]
      rfl
  | some key => rfl

/-! ### Sorting -/

/-- The draft with more terms to sort by behind its own. -/
def Draft.addTerms (draft : Draft) (terms : List Sql.OrderTerm) : Draft :=
  { draft with order := draft.order ++ terms }

theorem Draft.addTerm_addTerms (draft : Draft) (term : Sql.OrderTerm)
    (terms : List Sql.OrderTerm) :
    (draft.addTerm term).addTerms terms = draft.addTerms (term :: terms) := by
  simp only [addTerm, addTerms, List.append_assoc, List.singleton_append]

theorem Draft.addTerms_append (draft : Draft) (terms others : List Sql.OrderTerm) :
    draft.addTerms (terms ++ others) = (draft.addTerms terms).addTerms others := by
  simp only [addTerms, List.append_assoc]

/-- Terms for stored columns are added one by one, before the rest is carried out. -/
theorem carryOut_storedParts (table : String) (keys : List SortKey)
    (rest : List (Except Fault (List Step))) (session : Session) :
    (Plan.ofParts (keys.map (SortKey.storedPart table) ++ rest)).carryOut session =
      (Plan.ofParts rest).carryOut
        ⟨session.draft.addTerms (keys.map (SortKey.storedTerm table)), session.names⟩ := by
  induction keys generalizing session with
  | nil => simp [Draft.addTerms]
  | cons key keys ih =>
      have hstep : perform [.sort (key.storedTerm table)] session =
          (⟨session.draft.addTerm (key.storedTerm table), session.names⟩, none) := rfl
      rw [List.map_cons, List.cons_append, SortKey.storedPart, Plan.carryOut_ofParts_ok hstep, ih,
        Draft.addTerm_addTerms]
      rfl

/-- Any draft gets a term for each text at the front and then one for the first other key.  If the
converter refuses that key, the run ends with the reason behind the terms for the texts.  The keys
behind it make no difference, and the converter is asked at most once. -/
theorem carryOut_orderParts (converter : Converter) (table : String) (keys : List SortKey)
    (session : Session) :
    let run := fun keys => (Plan.ofParts (orderParts converter table keys)).carryOut session
    let stored := (SortKey.leading keys).map (SortKey.storedTerm table)
    stored.map Sql.OrderTerm.render = (SortKey.leading keys).map (fun key =>
        Sql.qualified [table, key.column] ++ " " ++ key.direction.name) ∧
      (SortKey.firstTyped? keys = none →
        run keys = (⟨session.draft.addTerms stored, session.names⟩, none)) ∧
      (∀ key, SortKey.firstTyped? keys = some key →
        (∀ expr, converter table key.column key.type = .ok expr →
          run keys =
            (⟨session.draft.addTerms (stored ++ [⟨expr, key.direction⟩]), session.names⟩, none)) ∧
        ∀ reason, converter table key.column key.type = .error reason →
          ∃ fault, run keys = (⟨session.draft.addTerms stored, session.names⟩, some fault) ∧
            fault = .sortRefused (.noConversion reason) ∧ fault.message = reason ∧
            fault.column? = none) ∧
      (∀ others, SortKey.leading others = SortKey.leading keys →
        SortKey.firstTyped? others = SortKey.firstTyped? keys → run others = run keys) ∧
      ∃ calls ≤ 1,
        (orderPartsBy converter.counted table keys).run 0 =
          (orderParts converter table keys, calls) := by
  dsimp only
  refine ⟨?_, ?_, ?_, ?_, (SortKey.firstTyped? keys).toList.length, ?_, ?_⟩
  · rw [List.map_map]
    rfl
  · intro hnone
    rw [orderParts_eq_append, hnone, carryOut_storedParts]
    rfl
  · intro key hkey
    refine ⟨fun expr hanswer => ?_, fun reason hanswer => ⟨_, ?_, rfl, rfl, rfl⟩⟩
    · rw [orderParts_eq_append, hkey, carryOut_storedParts, Option.map_some, hanswer,
        Draft.addTerms_append]
      rfl
    · rw [orderParts_eq_append, hkey, carryOut_storedParts, Option.map_some, hanswer]
      rfl
  · intro others hleading hfirst
    rw [orderParts_eq_append, orderParts_eq_append, hleading, hfirst]
  · cases SortKey.firstTyped? keys <;> simp
  · rw [run_orderPartsBy_counted, Nat.zero_add]

/-- A converter that refuses every column. -/
def Converter.refusing : Converter :=
  fun _ _ _ => .error "no view"

/-- A refused key ends the order behind the text in front of it, whatever key stands behind it. -/
theorem carryOut_orderParts_refused :
    let run := fun last => (Plan.ofParts (orderParts .refusing "t"
      [⟨"a", .string, .descending⟩, ⟨"b", .date, .ascending⟩, ⟨"c", last, .ascending⟩])).carryOut
        ⟨Draft.empty, ⟨[], []⟩⟩
    run .string =
        (⟨Draft.empty.addTerms [⟨.reference ["t", "a"], .descending⟩], ⟨[], []⟩⟩,
          some (.sortRefused (.noConversion "no view"))) ∧
      run .real = run .string := by
  obtain ⟨-, -, hkey, hothers, -⟩ := carryOut_orderParts .refusing "t"
    [⟨"a", .string, .descending⟩, ⟨"b", .date, .ascending⟩, ⟨"c", .string, .ascending⟩]
    ⟨Draft.empty, ⟨[], []⟩⟩
  obtain ⟨fault, hrun, rfl, -⟩ := (hkey _ rfl).2 "no view" rfl
  exact ⟨hrun, hothers _ rfl rfl⟩

end TableExport
