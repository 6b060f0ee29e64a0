import TableExport.Proofs.Json.DigitLimit
import TableExport.Proofs.Request.RoundTrip

/-! # Why a request cannot be read

Reading a request is meant to fail in two announced ways: a text is not JSON, or the data has
problems that are named.  A third way exists for texts only, and only for those that contain a run
of more digits than an integer may have.

Main statement: there is no other way (`Request.ofJson?_faults`), and the third way is taken by
every text of a request whose limit is too long. -/

namespace TableExport

open Json (Checked Value)

theorem Filter.checkLiterals_founded (value : Value) : (Filter.checkLiterals value).Founded := by
  unfold checkLiterals
  split
  · exact .accepted _
  · exact .reject _
  · next problems hlist =>
      intro problems' h
      cases h
      exact Checked.Founded.listOf Checked.Founded.text value problems hlist

theorem Filter.check_founded (value : Value) : (Filter.check value).Founded := by
  apply Checked.Founded.record
  intro members
  have hcolumn := Checked.Founded.required .text "column_name" members
  have hoperator :=
    Checked.Founded.optional (.choice Operator.names) "operator" Operator.eq members
  have hliterals := Checked.Founded.required checkLiterals_founded "values" members
  have htype :=
    Checked.Founded.optional (.choice DataType.names) "data_type" DataType.string members
  exact (((hcolumn.map _).combine hoperator).combine hliterals).combine htype

theorem SortKey.check_founded (value : Value) : (SortKey.check value).Founded := by
  apply Checked.Founded.record
  intro members
  have hcolumn := Checked.Founded.required .text "column_name" members
  have htype :=
    Checked.Founded.optional (.choice DataType.names) "data_type" DataType.string members
  have hdirection :=
    Checked.Founded.optional (.choice Direction.names) "direction" Direction.ascending members
  exact ((hcolumn.map _).combine htype).combine hdirection

namespace Request

theorem check_founded (value : Value) : (check value).Founded := by
  apply Checked.Founded.record
  intro members
  have htable := Checked.Founded.required .text "table_name" members
  have hdataset := Checked.Founded.optional Checked.Founded.optionalText "dataset" none members
  have hcolumns := Checked.Founded.optional (.listOf .text) "columns" [] members
  have hfilters := Checked.Founded.optional (.listOf Filter.check_founded) "filters" [] members
  have horder := Checked.Founded.optional (.listOf SortKey.check_founded) "order_by" [] members
  have hlimit := Checked.Founded.optional Checked.Founded.integer "limit" 0 members
  have htext := fun name => Checked.Founded.optional Checked.Founded.text name "" members
  have htruncate :=
    Checked.Founded.optional Checked.Founded.truthValue "truncate_large_columns" false members
  have hlists := (((htable.map Request.mk).combine hdataset).combine hcolumns).combine hfilters
  have hbounds := ((hlists.combine horder).combine hlimit).combine (htext "change_since")
  exact (hbounds.combine (htext "change_until")).combine htruncate

/-- Data is a request or has problems. -/
theorem ofData?_cases (data : Value) :
    (∃ request, ofData? data = .ok request) ∨
      ∃ problems, problems ≠ [] ∧ ofData? data = .error (.invalid problems) := by
  have hfounded := check_founded data
  unfold ofData?
  cases hcheck : check data with
  | accepted request => exact .inl ⟨request, rfl⟩
  | rejected problems =>
      have hsome := hfounded problems hcheck
      exact .inr ⟨_, Json.Problem.inPathOrder_ne_nil hsome, rfl⟩

/-- A request that cannot be read is not JSON, has problems that are named, or is a text with a run
of too many digits; and each text of a request with too long a limit fails in the last way. -/
theorem ofJson?_faults (value : Value) :
    ((∃ request, ofJson? value = .ok request) ∨
      (∃ text complaint place, value = .text text ∧
        ofJson? value = .error (.notJson complaint place)) ∨
      (∃ problems, problems ≠ [] ∧ ofJson? value = .error (.invalid problems)) ∨
      ∃ text run, value = .text text ∧ Json.LongRun Numeral.digitLimit text.toList run ∧
        ofJson? value = .error (.longInteger run.length)) ∧
    ∀ (request : Request) (written : Value) (text : String), value = .text text →
      request.IsWrittenAs written → Json.WrittenDocument written text →
      Numeral.digitLimit < request.limit.natAbs.repr.length →
        ofJson? value = .error (.longInteger request.limit.natAbs.repr.length) := by
  constructor
  · by_cases hvalue : ∃ text, value = .text text
    · obtain ⟨text, rfl⟩ := hvalue
      rw [ofJson?, ofText?]
      rcases Json.read_withLimit Numeral.digitLimit text with ⟨data, hread, -⟩ |
        ⟨complaint, place, hread, -⟩ | ⟨run, hrun, hread⟩
      · rw [hread]
        rcases ofData?_cases data with hrequest | hproblems
        · exact .inl hrequest
        · exact .inr (.inr (.inl hproblems))
      · rw [hread]
        exact .inr (.inl ⟨text, complaint, place, rfl, rfl⟩)
      · rw [hread]
        exact .inr (.inr (.inr ⟨text, run, rfl, hrun, rfl⟩))
    · have hdata : ofJson? value = ofData? value := by
        unfold ofJson?
        split
        · next text => exact absurd ⟨text, rfl⟩ hvalue
        · rfl
      rw [hdata]
      rcases ofData?_cases value with hrequest | hproblems
      · exact .inl hrequest
      · exact .inr (.inr (.inl hproblems))
  · rintro request written text rfl hwritten htext hlimit
    have hlong : Json.longLength? (some Numeral.digitLimit) request.limit =
        some request.limit.natAbs.repr.length := by
      simp [Json.longLength?, hlimit]
    have hread := ofText?_of_writtenDocument hwritten htext
    rw [hlong] at hread
    exact hread

/-! ### A limit that is too long -/

theorem repr_pow_ten (n : Nat) : (Nat.pow 10 n).repr.toList = '1' :: List.replicate n '0' := by
  rw [Nat.toList_repr]
  induction n with
  | zero => rfl
  | succ n ih =>
      have hdigits := Nat.toDigits_append_toDigits (b := 10) (n := Nat.pow 10 n) (d := 0)
        (by decide) (Nat.pow_pos (by decide)) (by decide)
      have hnext : Nat.pow 10 (n + 1) = 10 * Nat.pow 10 n + 0 := Nat.mul_comm _ _
      rw [hnext, ← hdigits, ih, Nat.toDigits_zero, List.replicate_succ', List.cons_append]

/-- A limit that is written as a one and many zeros is too long. -/
theorem ofText?_roundLimit {limit zeros : Nat}
    (hlimit : limit.repr.toList = '1' :: List.replicate zeros '0')
    (h : Numeral.digitLimit ≤ zeros) :
    ofText? ("\x7b\"table_name\":\"t\",\"limit\":1" ++ String.ofList (List.replicate zeros '0')
      ++ "\x7d") = .error (.longInteger (zeros + 1)) := by
  have hrequest : IsWrittenAs ⟨"t", none, [], [], [], limit, "", "", false⟩
      (.object [("table_name", .text "t"), ("limit", .integer limit)]) := by
    refine ⟨.nil, .nil, by simp [Entries.keys], ?_, ?_⟩
    · simp [Request.members]
    · simp [Request.members, Request.defaults, textList, datasetValue]
  have htext : Json.WrittenDocument (.object [("table_name", .text "t"), ("limit", .integer limit)])
      ("\x7b\"table_name\":\"t\",\"limit\":1" ++ String.ofList (List.replicate zeros '0')
        ++ "\x7d") := by
    have hnone := Json.isGap_nil
    have hplain := Json.isQuoted_plain
    have hrepr : (Int.repr limit).toList = '1' :: List.replicate zeros '0' := hlimit
    have hfront : "\x7b\"table_name\":\"t\",\"limit\":1".toList =
        '\x7b' :: '\x22' :: ("table_name".toList ++ '\x22' :: ':' :: '\x22' :: ("t".toList ++
          '\x22' :: ',' :: '\x22' :: ("limit".toList ++ ['\x22', ':', '1']))) := by
      decide +kernel
    have hback : "\x7d".toList = ['\x7d'] := by decide +kernel
    refine .intro hnone (.object (by simp [Entries.keys])
      (.more hnone
        (.intro (hplain "table_name" (by decide)) hnone hnone
          (.text (hplain "t" (by decide)))) hnone
      (.last hnone
        (.intro (hplain "limit" (by decide)) hnone hnone (.integer limit)) hnone))) hnone ?_
    simp only [String.toList_append, String.toList_ofList, hfront, hback, hrepr, List.append_assoc,
      List.cons_append, List.nil_append, List.append_nil]
  have hlong : Json.longLength? (some Numeral.digitLimit) limit = some (zeros + 1) := by
    have hlength : limit.repr.length = zeros + 1 := by
      rw [← String.length_toList, hlimit]
      simp
    have hlt : Numeral.digitLimit < zeros + 1 := by omega
    simp only [Json.longLength?, Int.natAbs_natCast, hlength, Option.any_some,
      decide_eq_true hlt, if_true]
  have hread := ofText?_of_writtenDocument hrequest htext
  simp only [hlong] at hread
  exact hread

/-- The third way is taken: a limit of 4301 digits is no announced fault. -/
theorem ofJson?_longLimit :
    ofJson? (.text ("\x7b\"table_name\":\"t\",\"limit\":1"
      ++ String.ofList (List.replicate 4300 '0') ++ "\x7d")) = .error (.longInteger 4301) := by
  rw [ofJson?]
  exact ofText?_roundLimit (repr_pow_ten 4300) (by decide)

end Request
end TableExport
