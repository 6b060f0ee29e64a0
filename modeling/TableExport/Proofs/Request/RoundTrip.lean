import TableExport.Proofs.Json.Check
import TableExport.Proofs.Json.Written
import TableExport.Request.Json

/-! # Requests read back

A request can be written as an object in many ways: the members stand in any order, and a member of
the request, of a filter or of a sort key can be left out if it has its default.  Each of these
objects can be written as a text in many ways in turn.

Main statement: reading undoes all of this, for objects and for texts, as long as the limit of the
request has no more digits than a text may have (`Request.ofJson?_of_isWrittenAs`).  Every request
can be written in such a way (`Request.exists_writtenDocument`). -/

namespace TableExport

open Json (Arranges Check.Members Checked Value)

/-! ### Filters -/

/-- A list of texts. -/
def textList (texts : List String) : Value :=
  .list (texts.map Value.text)

theorem listOf_text_textList (texts : List String) :
    Json.Check.listOf Json.Check.text (textList texts) = .accepted texts := by
  apply Json.listOf_accepted
  rw [List.forall₂_map_right_iff]
  exact List.forall₂_same.mpr fun _ _ => rfl

/-- The members of a filter. -/
def Filter.members (filter : Filter) : Check.Members :=
  [("column_name", .text filter.column), ("operator", .text filter.operator.name),
    ("values", textList filter.literals), ("data_type", .text filter.type.name)]

/-- The members of a filter that have a default. -/
def Filter.defaults : Check.Members :=
  [("operator", .text Operator.eq.name), ("data_type", .text DataType.string.name)]

/-- The ways to write a filter. -/
inductive Filter.IsWrittenAs (filter : Filter) : Value → Prop
  | intro {members : Check.Members} (h : Arranges Filter.defaults filter.members members) :
      Filter.IsWrittenAs filter (.object members)

theorem Filter.check_of_isWrittenAs {filter : Filter} {value : Value}
    (h : filter.IsWrittenAs value) : Filter.check value = .accepted filter := by
  obtain @⟨members, h⟩ := h
  have hnames : (Entries.keys filter.members).Nodup := by
    simp [Entries.keys, Filter.members]
  have hcolumn : Json.Check.required "column_name" Json.Check.text members =
      .accepted filter.column :=
    h.required hnames (.text filter.column) (by simp [Filter.members]) rfl (by simp [defaults])
  have hoperator : Json.Check.optional "operator" .eq (Json.Check.choice Operator.names) members =
      .accepted filter.operator :=
    h.optionalChoice hnames Operator.lookup_name (by simp [Filter.members]) (by simp [defaults])
  have hliterals : Json.Check.required "values" checkLiterals members =
      .accepted (filter.literal, filter.moreLiterals) := by
    apply h.required hnames (textList filter.literals) (by simp [Filter.members])
    · rw [checkLiterals, listOf_text_textList, literals]
    · simp [defaults]
  have htype : Json.Check.optional "data_type" .string (Json.Check.choice DataType.names) members =
      .accepted filter.type :=
    h.optionalChoice hnames DataType.lookup_name (by simp [Filter.members]) (by simp [defaults])
  apply h.record
  · simp [Filter.members, memberNames]
  · rw [hcolumn, hoperator, hliterals, htype]
    rfl

/-! ### Sort keys -/

/-- The members of a sort key. -/
def SortKey.members (key : SortKey) : Check.Members :=
  [("column_name", .text key.column), ("data_type", .text key.type.name),
    ("direction", .text key.direction.name)]

/-- The members of a sort key that have a default. -/
def SortKey.defaults : Check.Members :=
  [("data_type", .text DataType.string.name), ("direction", .text Direction.ascending.name)]

/-- The ways to write a sort key. -/
inductive SortKey.IsWrittenAs (key : SortKey) : Value → Prop
  | intro {members : Check.Members} (h : Arranges SortKey.defaults key.members members) :
      SortKey.IsWrittenAs key (.object members)

theorem SortKey.check_of_isWrittenAs {key : SortKey} {value : Value} (h : key.IsWrittenAs value) :
    SortKey.check value = .accepted key := by
  obtain @⟨members, h⟩ := h
  have hnames : (Entries.keys key.members).Nodup := by
    simp [Entries.keys, SortKey.members]
  have hcolumn : Json.Check.required "column_name" Json.Check.text members =
      .accepted key.column :=
    h.required hnames (.text key.column) (by simp [SortKey.members]) rfl (by simp [defaults])
  have htype : Json.Check.optional "data_type" .string (Json.Check.choice DataType.names) members =
      .accepted key.type :=
    h.optionalChoice hnames DataType.lookup_name (by simp [SortKey.members]) (by simp [defaults])
  have hdirection : Json.Check.optional "direction" .ascending (Json.Check.choice Direction.names)
      members = .accepted key.direction :=
    h.optionalChoice hnames Direction.lookup_name (by simp [SortKey.members]) (by simp [defaults])
  apply h.record
  · simp [SortKey.members, memberNames]
  · rw [hcolumn, htype, hdirection]
    rfl

/-! ### Requests -/

namespace Request

/-- The data set of a request, or nothing. -/
def datasetValue : Option String → Value
  | none => .null
  | some dataset => .text dataset

/-- The members of a request, given its filters and sort keys in writing. -/
def members (request : Request) (filters order : List Value) : Check.Members :=
  [("table_name", .text request.table), ("dataset", datasetValue request.dataset),
    ("columns", textList request.columns), ("filters", .list filters), ("order_by", .list order),
    ("limit", .integer request.limit), ("change_since", .text request.changedSince),
    ("change_until", .text request.changedUntil),
    ("truncate_large_columns", .bool request.truncate)]

/-- The members of a request that have a default. -/
def defaults : Check.Members :=
  [("dataset", .null), ("columns", .list []), ("filters", .list []), ("order_by", .list []),
    ("limit", .integer 0), ("change_since", .text ""), ("change_until", .text ""),
    ("truncate_large_columns", .bool false)]

/-- The ways to write a request. -/
inductive IsWrittenAs (request : Request) : Value → Prop
  | intro {filters order : List Value} {members : Check.Members}
      (hfilters : List.Forall₂ Filter.IsWrittenAs request.filters filters)
      (horder : List.Forall₂ SortKey.IsWrittenAs request.order order)
      (h : Arranges defaults (request.members filters order) members) :
      IsWrittenAs request (.object members)

theorem check_of_isWrittenAs {request : Request} {value : Value} (h : request.IsWrittenAs value) :
    check value = .accepted request := by
  obtain @⟨filters, order, members, hfilters, horder, h⟩ := h
  have hnames : (Entries.keys (request.members filters order)).Nodup := by
    simp [Entries.keys, Request.members]
  have htable : Json.Check.required "table_name" Json.Check.text members =
      .accepted request.table :=
    h.required hnames (.text request.table) (by simp [Request.members]) rfl (by simp [defaults])
  have hdataset : Json.Check.optional "dataset" none Json.Check.optionalText members =
      .accepted request.dataset := by
    apply h.optional hnames (datasetValue request.dataset) (by simp [Request.members])
    · cases request.dataset <;> rfl
    · cases request.dataset <;> simp [defaults, datasetValue]
  have hcolumns : Json.Check.optional "columns" [] (Json.Check.listOf Json.Check.text) members =
      .accepted request.columns := by
    apply h.optional hnames (textList request.columns) (by simp [Request.members])
    · exact listOf_text_textList request.columns
    · simp [defaults, textList]
  have hfilterList : Json.Check.optional "filters" [] (Json.Check.listOf Filter.check) members =
      .accepted request.filters := by
    apply h.optional hnames (.list filters) (by simp [Request.members])
    · exact Json.listOf_accepted (hfilters.imp fun _ _ => Filter.check_of_isWrittenAs)
    · intro hdefault
      obtain rfl : filters = [] := by simpa [defaults] using hdefault
      exact List.forall₂_nil_right_iff.mp hfilters
  have horderList : Json.Check.optional "order_by" [] (Json.Check.listOf SortKey.check) members =
      .accepted request.order := by
    apply h.optional hnames (.list order) (by simp [Request.members])
    · exact Json.listOf_accepted (horder.imp fun _ _ => SortKey.check_of_isWrittenAs)
    · intro hdefault
      obtain rfl : order = [] := by simpa [defaults] using hdefault
      exact List.forall₂_nil_right_iff.mp horder
  have hlimit : Json.Check.optional "limit" 0 Json.Check.integer members =
      .accepted request.limit :=
    h.optional hnames (.integer request.limit) (by simp [Request.members]) rfl
      (by simp [defaults])
  have hsince : Json.Check.optional "change_since" "" Json.Check.text members =
      .accepted request.changedSince :=
    h.optional hnames (.text request.changedSince) (by simp [Request.members]) rfl
      (by simp [defaults])
  have huntil : Json.Check.optional "change_until" "" Json.Check.text members =
      .accepted request.changedUntil :=
    h.optional hnames (.text request.changedUntil) (by simp [Request.members]) rfl
      (by simp [defaults])
  have htruncate : Json.Check.optional "truncate_large_columns" false Json.Check.truthValue
      members = .accepted request.truncate :=
    h.optional hnames (.bool request.truncate) (by simp [Request.members]) rfl
      (by simp [defaults])
  apply h.record
  · simp [Request.members, memberNames]
  · rw [htable, hdataset, hcolumns, hfilterList, horderList, hlimit, hsince, huntil, htruncate]
    rfl

end Request

/-! ### Every request can be written -/

theorem exists_written_text (text : String) : ∃ cs, Json.Written (.text text) cs := by
  obtain ⟨cs, hcs⟩ := Json.exists_isQuoted text
  exact ⟨cs, .text hcs⟩

theorem exists_written_textList (texts : List String) :
    ∃ cs, Json.Written (textList texts) cs := by
  apply Json.exists_written_list
  intro value hvalue
  obtain ⟨text, -, rfl⟩ := List.mem_map.mp hvalue
  exact exists_written_text text

theorem Filter.exists_isWrittenAs (filter : Filter) :
    ∃ value cs, filter.IsWrittenAs value ∧ Json.Written value cs := by
  have hnames : (Entries.keys filter.members).Nodup := by
    simp [Entries.keys, Filter.members]
  have hmembers : ∀ entry ∈ filter.members, ∃ cs, Json.Written entry.2 cs := by
    intro entry hentry
    simp only [Filter.members, List.mem_cons, List.not_mem_nil, or_false] at hentry
    rcases hentry with rfl | rfl | rfl | rfl
    · exact exists_written_text _
    · exact exists_written_text _
    · exact exists_written_textList _
    · exact exists_written_text _
  obtain ⟨cs, hcs⟩ := Json.exists_written_object hnames hmembers
  exact ⟨_, cs, .intro (.self hnames), hcs⟩

theorem SortKey.exists_isWrittenAs (key : SortKey) :
    ∃ value cs, key.IsWrittenAs value ∧ Json.Written value cs := by
  have hnames : (Entries.keys key.members).Nodup := by
    simp [Entries.keys, SortKey.members]
  have hmembers : ∀ entry ∈ key.members, ∃ cs, Json.Written entry.2 cs := by
    intro entry hentry
    simp only [SortKey.members, List.mem_cons, List.not_mem_nil, or_false] at hentry
    rcases hentry with rfl | rfl | rfl <;> exact exists_written_text _
  obtain ⟨cs, hcs⟩ := Json.exists_written_object hnames hmembers
  exact ⟨_, cs, .intro (.self hnames), hcs⟩

theorem exists_written_forall₂ {α : Type} {written : α → Value → Prop}
    (h : ∀ a, ∃ value cs, written a value ∧ Json.Written value cs) (as : List α) :
    ∃ items cs, List.Forall₂ written as items ∧ Json.Written (.list items) cs := by
  choose value cs hvalue hcs using h
  have hitems : ∀ item ∈ as.map value, ∃ cs, Json.Written item cs := by
    intro item hitem
    obtain ⟨a, -, rfl⟩ := List.mem_map.mp hitem
    exact ⟨cs a, hcs a⟩
  obtain ⟨text, htext⟩ := Json.exists_written_list hitems
  refine ⟨as.map value, text, ?_, htext⟩
  rw [List.forall₂_map_right_iff]
  exact List.forall₂_same.mpr fun a _ => hvalue a

/-- Every request can be written as a text. -/
theorem Request.exists_writtenDocument (request : Request) :
    ∃ value text, request.IsWrittenAs value ∧ Json.WrittenDocument value text := by
  obtain ⟨filters, filterText, hfilters, hfilterText⟩ :=
    exists_written_forall₂ Filter.exists_isWrittenAs request.filters
  obtain ⟨order, orderText, horder, horderText⟩ :=
    exists_written_forall₂ SortKey.exists_isWrittenAs request.order
  have hnames : (Entries.keys (request.members filters order)).Nodup := by
    simp [Entries.keys, Request.members]
  have hmembers : ∀ entry ∈ request.members filters order, ∃ cs, Json.Written entry.2 cs := by
    intro entry hentry
    simp only [Request.members, List.mem_cons, List.not_mem_nil, or_false] at hentry
    rcases hentry with rfl | rfl | rfl | rfl | rfl | rfl | rfl | rfl | rfl
    · exact exists_written_text _
    · cases request.dataset with
      | none => exact ⟨_, .null⟩
      | some dataset => exact exists_written_text _
    · exact exists_written_textList _
    · exact ⟨_, hfilterText⟩
    · exact ⟨_, horderText⟩
    · exact ⟨_, .integer _⟩
    · exact exists_written_text _
    · exact exists_written_text _
    · cases request.truncate with
      | false => exact ⟨_, .isFalse⟩
      | true => exact ⟨_, .isTrue⟩
  obtain ⟨cs, hcs⟩ := Json.exists_written_object hnames hmembers
  refine ⟨_, String.ofList cs, .intro hfilters horder (.self hnames), ?_⟩
  exact .intro Json.isGap_nil hcs Json.isGap_nil (by simp)

/-! ### Texts -/

theorem firstLong?_textList (digitLimit? : Option Nat) (texts : List String) :
    (textList texts).firstLong? digitLimit? = none := by
  rw [textList, Json.firstLong?_list, List.findSome?_eq_none_iff]
  intro value hvalue
  obtain ⟨text, -, rfl⟩ := List.mem_map.mp hvalue
  rfl

theorem Filter.firstLong?_of_isWrittenAs {filter : Filter} {value : Value}
    (h : filter.IsWrittenAs value) (digitLimit? : Option Nat) :
    value.firstLong? digitLimit? = none := by
  obtain @⟨members, h⟩ := h
  rw [Json.firstLong?_object, List.findSome?_eq_none_iff]
  intro entry hentry
  have hfull := h.subset entry hentry
  simp only [Filter.members, List.mem_cons, List.not_mem_nil, or_false] at hfull
  rcases hfull with rfl | rfl | rfl | rfl
  · rfl
  · rfl
  · exact firstLong?_textList digitLimit? filter.literals
  · rfl

theorem SortKey.firstLong?_of_isWrittenAs {key : SortKey} {value : Value}
    (h : key.IsWrittenAs value) (digitLimit? : Option Nat) :
    value.firstLong? digitLimit? = none := by
  obtain @⟨members, h⟩ := h
  rw [Json.firstLong?_object, List.findSome?_eq_none_iff]
  intro entry hentry
  have hfull := h.subset entry hentry
  simp only [SortKey.members, List.mem_cons, List.not_mem_nil, or_false] at hfull
  rcases hfull with rfl | rfl | rfl <;> rfl

theorem firstLong?_list_of_forall₂ {α : Type} {written : α → Value → Prop} {as : List α}
    {items : List Value} (h : List.Forall₂ written as items) {digitLimit? : Option Nat}
    (hshort : ∀ a item, written a item → item.firstLong? digitLimit? = none) :
    (Value.list items).firstLong? digitLimit? = none := by
  rw [Json.firstLong?_list]
  induction h with
  | nil => rfl
  | cons hitem _ ih => rw [List.findSome?_cons, hshort _ _ hitem, ih]

namespace Request

/-- The limit is the only integer of a request that can be too long. -/
theorem firstLong?_of_isWrittenAs {request : Request} {value : Value}
    (h : request.IsWrittenAs value) :
    value.firstLong? (some Numeral.digitLimit) =
      Json.longLength? (some Numeral.digitLimit) request.limit := by
  obtain @⟨filters, order, members, hfilters, horder, h⟩ := h
  have hentries : ∀ entry ∈ members, entry = ("limit", .integer request.limit) ∨
      entry.2.firstLong? (some Numeral.digitLimit) = none := by
    intro entry hentry
    have hfull := h.subset entry hentry
    simp only [Request.members, List.mem_cons, List.not_mem_nil, or_false] at hfull
    rcases hfull with rfl | rfl | rfl | rfl | rfl | rfl | rfl | rfl | rfl
    · exact .inr rfl
    · right
      cases request.dataset <;> rfl
    · exact .inr (firstLong?_textList _ request.columns)
    · exact .inr (firstLong?_list_of_forall₂ hfilters fun _ _ hwritten =>
        Filter.firstLong?_of_isWrittenAs hwritten _)
    · exact .inr (firstLong?_list_of_forall₂ horder fun _ _ hwritten =>
        SortKey.firstLong?_of_isWrittenAs hwritten _)
    · exact .inl rfl
    · exact .inr rfl
    · exact .inr rfl
    · exact .inr rfl
  rw [Json.firstLong?_object]
  cases hlong : Json.longLength? (some Numeral.digitLimit) request.limit with
  | none =>
      rw [List.findSome?_eq_none_iff]
      intro entry hentry
      rcases hentries entry hentry with rfl | hshort
      · exact hlong
      · exact hshort
  | some digits =>
      -- A limit that is too long is not the default, so it is not left out.
      have hlimit : ("limit", .integer request.limit) ∈ members := by
        apply (h.complete _ (by simp [Request.members])).resolve_right
        intro hdefault
        have hzero : request.limit = 0 := by simpa [defaults] using hdefault
        rw [hzero] at hlong
        cases hlong
      cases hfirst : members.findSome? fun entry =>
          entry.2.firstLong? (some Numeral.digitLimit) with
      | none =>
          have hshort := List.findSome?_eq_none_iff.mp hfirst _ hlimit
          rw [Value.firstLong?, hlong] at hshort
          cases hshort
      | some first =>
          obtain ⟨entry, hentry, hfound⟩ := List.exists_of_findSome?_eq_some hfirst
          rcases hentries entry hentry with rfl | hshort
          · rw [← hfound, ← hlong]
            rfl
          · rw [hshort] at hfound
            cases hfound

/-- A request is read back from each text that it is written as, unless its limit is too long. -/
theorem ofText?_of_writtenDocument {request : Request} {value : Value} {text : String}
    (h : request.IsWrittenAs value) (htext : Json.WrittenDocument value text) :
    ofText? text =
      match Json.longLength? (some Numeral.digitLimit) request.limit with
      | none => .ok request
      | some digits => .error (.longInteger digits) := by
  rw [ofText?, Json.read_of_writtenDocument (some Numeral.digitLimit) htext,
    firstLong?_of_isWrittenAs h]
  cases Json.longLength? (some Numeral.digitLimit) request.limit with
  | none => simp only [ofData?, check_of_isWrittenAs h]
  | some digits => rfl

/-- Reading undoes writing, for objects and for texts. -/
theorem ofJson?_of_isWrittenAs {request : Request} {value : Value}
    (h : request.IsWrittenAs value) :
    ofJson? value = .ok request ∧
      ∀ text, Json.WrittenDocument value text →
        request.limit.natAbs.repr.length ≤ Numeral.digitLimit →
          ofJson? (.text text) = .ok request := by
  constructor
  · have hcheck := check_of_isWrittenAs h
    obtain ⟨-, -, -⟩ := h
    simp only [ofJson?, ofData?, hcheck]
  · intro text htext hlimit
    have hshort : Json.longLength? (some Numeral.digitLimit) request.limit = none := by
      have hnot : ¬ Numeral.digitLimit < request.limit.natAbs.repr.length := by omega
      simp [Json.longLength?, hnot]
    have hread := ofText?_of_writtenDocument h htext
    rw [hshort] at hread
    exact hread

theorem ofJson?_of_isWrittenAs_rearranged :
    let request : Request := ⟨"a😀", none, [], [⟨"b", .eq, "x", [], .string⟩], [], -7, "", "", true⟩
    let value : Value := .object [("limit", .integer (-7)), ("table_name", .text "a😀"),
      ("truncate_large_columns", .bool true),
      ("filters", .list [.object [("values", .list [.text "x"]), ("column_name", .text "b")]])]
    let text := " \x7b\"limit\":-7 ,\n\"table_name\":\"\\u0061\\uD83d\\ude00\","
      ++ "\"truncate_large_columns\": true,"
      ++ "\"filters\":[\x7b\"values\":[\"x\" ],\"column_name\":\"b\"\x7d]\x7d"
    (request.IsWrittenAs value ∧ Json.WrittenDocument value text) ∧
      ofJson? value = .ok request ∧ ofJson? (.text text) = .ok request := by
  intro request value text
  have hnone := Json.isGap_nil
  have hspace : Json.IsGap [' '] := by decide
  have hline : Json.IsGap ['\n'] := by decide
  have hplain := Json.isQuoted_plain
  have hfilter : Filter.IsWrittenAs ⟨"b", .eq, "x", [], .string⟩
      (.object [("values", .list [.text "x"]), ("column_name", .text "b")]) := by
    refine ⟨by decide, ?_, ?_⟩
    · simp [Filter.members, textList, Filter.literals]
    · simp [Filter.members, Filter.defaults, textList, Filter.literals]
  have hrequest : request.IsWrittenAs value := by
    refine ⟨.cons hfilter .nil, .nil, by decide, ?_, ?_⟩
    · simp [request, Request.members]
    · simp [request, Request.members, Request.defaults, textList, datasetValue]
  have hfilterText : Json.Written _ _ :=
    .object (by decide)
      (.more hnone
        (.intro (hplain "values" (by decide)) hnone hnone
          (.list (.last hnone (.text (hplain "x" (by decide))) hspace))) hnone
      (.last hnone
        (.intro (hplain "column_name" (by decide)) hnone hnone
          (.text (hplain "b" (by decide)))) hnone))
  -- The table is spelled by three escaped code units, the last two of them a pair.
  have htable : Json.IsQuoted "a😀" _ :=
    .intro (.cons (.unit (by decide) ⟨.inl rfl, .inl rfl, .inl rfl, .inl rfl⟩)
      (.cons (.pair (by decide) ⟨.inr rfl, .inl rfl, .inl rfl, .inl rfl⟩
        ⟨.inl rfl, .inl rfl, .inl rfl, .inl rfl⟩) .nil))
  have htext : Json.WrittenDocument value text := by
    refine .intro hspace (.object (by decide)
      (.more hnone (.intro (hplain "limit" (by decide)) hnone hnone (.integer (-7))) hspace
      (.more hline (.intro (hplain "table_name" (by decide)) hnone hnone (.text htable)) hnone
      (.more hnone
        (.intro (hplain "truncate_large_columns" (by decide)) hnone hspace .isTrue) hnone
      (.last hnone
        (.intro (hplain "filters" (by decide)) hnone hnone
          (.list (.last hnone hfilterText hnone))) hnone))))) hnone ?_
    decide +kernel
  obtain ⟨hdata, hread⟩ := ofJson?_of_isWrittenAs hrequest
  exact ⟨⟨hrequest, htext⟩, hdata, hread text htext (by decide)⟩

end Request
end TableExport
