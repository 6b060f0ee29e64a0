import TableExport.Proofs.Json.Spelling
import TableExport.Proofs.Number.Numeral

/-! # Written values

A JSON value can be written in many ways: with white space around every token, and with every text
in any of its spellings.  `Written` and `WrittenDocument` say which texts write a value; they know
nothing of the reader.  Numbers with a fraction or an exponent are left out.

Main statement: whichever way a value is written, the reader finds the value back, unless an integer
in it has more digits than the limit allows; then the first such integer is reported
(`read_of_writtenDocument`). -/

namespace TableExport.Json

/-! ### The ways to write a value -/

/-- White space. -/
def IsGap (cs : List Char) : Prop :=
  ∀ c ∈ cs, c = ' ' ∨ c = '\t' ∨ c = '\n' ∨ c = '\r'

instance (cs : List Char) : Decidable (IsGap cs) :=
  List.decidableBAll _ cs

/-- One or more elements, with commas between them and white space around each. -/
inductive Separated {α : Type} (element : α → List Char → Prop) : List α → List Char → Prop
  | last {a : α} {before written after : List Char} (hbefore : IsGap before)
      (h : element a written) (hafter : IsGap after) :
      Separated element [a] (before ++ (written ++ after))
  | more {a : α} {others : List α} {before written after rest : List Char}
      (hbefore : IsGap before) (h : element a written) (hafter : IsGap after)
      (hrest : Separated element others rest) :
      Separated element (a :: others) (before ++ (written ++ (after ++ ',' :: rest)))

/-- A member of an object: its name, a colon and its value. -/
inductive WrittenMember (value : Value → List Char → Prop) : String × Value → List Char → Prop
  | intro {name : String} {held : Value} {key before after written : List Char}
      (hkey : IsQuoted name key) (hbefore : IsGap before) (hafter : IsGap after)
      (h : value held written) :
      WrittenMember value (name, held) (key ++ (before ++ ':' :: (after ++ written)))

/-- The ways to write a value, without white space at its ends. -/
inductive Written : Value → List Char → Prop
  | null : Written .null ['n', 'u', 'l', 'l']
  | isFalse : Written (.bool false) ['f', 'a', 'l', 's', 'e']
  | isTrue : Written (.bool true) ['t', 'r', 'u', 'e']
  | integer (n : Int) : Written (.integer n) n.repr.toList
  | text {text : String} {cs : List Char} (h : IsQuoted text cs) : Written (.text text) cs
  | emptyList {gap : List Char} (h : IsGap gap) : Written (.list []) ('[' :: (gap ++ [']']))
  | list {items : List Value} {cs : List Char} (h : Separated Written items cs) :
      Written (.list items) ('[' :: (cs ++ [']']))
  | emptyObject {gap : List Char} (h : IsGap gap) :
      Written (.object []) ('\x7b' :: (gap ++ ['\x7d']))
  | object {members : List (String × Value)} {cs : List Char}
      (hnames : (Entries.keys members).Nodup) (h : Separated (WrittenMember Written) members cs) :
      Written (.object members) ('\x7b' :: (cs ++ ['\x7d']))

/-- The ways to write a value as a whole text. -/
inductive WrittenDocument (held : Value) (text : String) : Prop
  | intro {before written after : List Char} (hbefore : IsGap before) (h : Written held written)
      (hafter : IsGap after) (htext : text.toList = before ++ (written ++ after))

theorem isGap_nil : IsGap [] := by
  intro c hc
  cases hc

theorem exists_separated {α : Type} {element : α → List Char → Prop} {as : List α} (hne : as ≠ [])
    (h : ∀ a ∈ as, ∃ cs, element a cs) : ∃ cs, Separated element as cs := by
  induction as with
  | nil => exact absurd rfl hne
  | cons a others ih =>
      obtain ⟨written, hwritten⟩ := h a List.mem_cons_self
      cases others with
      | nil => exact ⟨_, .last isGap_nil hwritten isGap_nil⟩
      | cons other more =>
          obtain ⟨rest, hrest⟩ :=
            ih (List.cons_ne_nil _ _) fun b hb => h b (List.mem_cons_of_mem a hb)
          exact ⟨_, .more isGap_nil hwritten isGap_nil hrest⟩

theorem exists_written_list {items : List Value} (h : ∀ item ∈ items, ∃ cs, Written item cs) :
    ∃ cs, Written (.list items) cs := by
  by_cases hnil : items = []
  · subst hnil
    exact ⟨_, .emptyList isGap_nil⟩
  · obtain ⟨cs, hcs⟩ := exists_separated hnil h
    exact ⟨_, .list hcs⟩

theorem exists_written_object {members : List (String × Value)}
    (hnames : (Entries.keys members).Nodup)
    (h : ∀ entry ∈ members, ∃ cs, Written entry.2 cs) : ∃ cs, Written (.object members) cs := by
  by_cases hnil : members = []
  · subst hnil
    exact ⟨_, .emptyObject isGap_nil⟩
  · have hmembers : ∀ entry ∈ members, ∃ cs, WrittenMember Written entry cs := by
      intro entry hentry
      obtain ⟨key, hkey⟩ := exists_isQuoted entry.1
      obtain ⟨written, hwritten⟩ := h entry hentry
      exact ⟨_, .intro hkey isGap_nil isGap_nil hwritten⟩
    obtain ⟨cs, hcs⟩ := exists_separated hnil hmembers
    exact ⟨_, .object hnames hcs⟩

/-! ### Integers beyond the limit -/

/-- The number of digits of an integer, if it is beyond the limit. -/
def longLength? (digitLimit? : Option Nat) (n : Int) : Option Nat :=
  if digitLimit?.any (· < n.natAbs.repr.length) then some n.natAbs.repr.length else none

mutual

/-- The number of digits of the first integer in a value that is beyond the limit. -/
def Value.firstLong? (digitLimit? : Option Nat) : Value → Option Nat
  | .integer n => longLength? digitLimit? n
  | .list items => firstLongItem? digitLimit? items
  | .object members => firstLongMember? digitLimit? members
  | _ => none

/-- The number of digits of the first integer in a list that is beyond the limit. -/
def firstLongItem? (digitLimit? : Option Nat) : List Value → Option Nat
  | [] => none
  | item :: rest => (item.firstLong? digitLimit?).or (firstLongItem? digitLimit? rest)

/-- The number of digits of the first integer in an object that is beyond the limit. -/
def firstLongMember? (digitLimit? : Option Nat) : List (String × Value) → Option Nat
  | [] => none
  | (_, held) :: rest => (held.firstLong? digitLimit?).or (firstLongMember? digitLimit? rest)

end

theorem firstLong?_list (digitLimit? : Option Nat) (items : List Value) :
    (Value.list items).firstLong? digitLimit? = items.findSome? (Value.firstLong? digitLimit?) := by
  rw [Value.firstLong?]
  induction items with
  | nil => rfl
  | cons item rest ih =>
      rw [firstLongItem?, ih, List.findSome?_cons]
      cases item.firstLong? digitLimit? <;> rfl

theorem firstLong?_object (digitLimit? : Option Nat) (members : List (String × Value)) :
    (Value.object members).firstLong? digitLimit? =
      members.findSome? fun entry => entry.2.firstLong? digitLimit? := by
  rw [Value.firstLong?]
  induction members with
  | nil => rfl
  | cons entry rest ih =>
      obtain ⟨name, held⟩ := entry
      rw [firstLongMember?, ih, List.findSome?_cons]
      cases held.firstLong? digitLimit? <;> rfl

/-- What a reader returns for something written: the thing itself, or the report of the first
integer in it that is beyond the limit. -/
def unlessLong {β : Type} (long? : Option Nat) (found : β) : Except Stop β :=
  match long? with
  | none => .ok found
  | some digits => .error (.longInteger digits)

/-! ### White space and what follows a value -/

/-- No number goes on with this text. -/
def Delimited (rest : List Char) : Prop :=
  ∀ c ∈ rest.head?, c.isDigit = false ∧ c ≠ '.' ∧ c ≠ 'e' ∧ c ≠ 'E'

theorem delimited_nil : Delimited [] := by
  intro c hc
  cases hc

theorem delimited_cons {c : Char} (h : c ∈ [' ', '\t', '\n', '\r', ',', ']', '\x7d'])
    (rest : List Char) : Delimited (c :: rest) := by
  intro first hfirst
  obtain rfl : c = first := by simpa using hfirst
  have hall : [' ', '\t', '\n', '\r', ',', ']', '\x7d'].all (fun c =>
      c.isDigit = false ∧ c ≠ '.' ∧ c ≠ 'e' ∧ c ≠ 'E') = true := by
    decide
  exact of_decide_eq_true (List.all_eq_true.mp hall c h)

theorem IsGap.delimited_append {gap rest : List Char} (hgap : IsGap gap) (hrest : Delimited rest) :
    Delimited (gap ++ rest) := by
  cases gap with
  | nil => exact hrest
  | cons c cs =>
      apply delimited_cons
      have hc := hgap c List.mem_cons_self
      rcases hc with rfl | rfl | rfl | rfl <;> simp

theorem IsGap.skipSpace_append {gap : List Char} (h : IsGap gap) (cs : List Char) :
    skipSpace (gap ++ cs) = skipSpace cs := by
  apply List.dropWhile_append_of_pos
  intro c hc
  simpa using h c hc

theorem skipSpace_cons {c : Char} (h : ¬ (c = ' ' ∨ c = '\t' ∨ c = '\n' ∨ c = '\r'))
    (cs : List Char) : skipSpace (c :: cs) = c :: cs := by
  simp [skipSpace, h]

/-- The characters that a value begins with. -/
def openers : List Char :=
  ['n', 'f', 't', '-', '\x22', '[', '\x7b', '0', '1', '2', '3', '4', '5', '6', '7', '8', '9']

theorem opener_spec {c : Char} (h : c ∈ openers) :
    ¬ (c = ' ' ∨ c = '\t' ∨ c = '\n' ∨ c = '\r') ∧ c ≠ ']' ∧ c ≠ '\x7d' ∧
      c ≠ Char.ofNat 0xFEFF := by
  have hall : openers.all (fun c => ¬ (c = ' ' ∨ c = '\t' ∨ c = '\n' ∨ c = '\r') ∧ c ≠ ']' ∧
      c ≠ '\x7d' ∧ c ≠ Char.ofNat 0xFEFF) = true := by
    decide
  exact of_decide_eq_true (List.all_eq_true.mp hall c h)

/-- Everything that is written begins with such a character. -/
def Opens {α : Type} (element : α → List Char → Prop) : Prop :=
  ∀ (a : α) (written : List Char), element a written → ∃ c tail, written = c :: tail ∧ c ∈ openers

theorem mem_openers_of_isDigit {c : Char} (h : c.isDigit = true) : c ∈ openers := by
  have hrange : 48 ≤ c.toNat ∧ c.toNat ≤ 57 := Char.isDigit_iff_toNat.mp h
  have hall : ∀ n < 58, 48 ≤ n → Char.ofNat n ∈ openers := by decide
  have hmem := hall c.toNat (by omega) hrange.1
  rwa [Char.ofNat_toNat] at hmem

/-- The digits of a number: no digit is missing, and zero stands only alone. -/
theorem exists_digits (n : Nat) :
    ∃ c tail, n.repr.toList = c :: tail ∧ c.isDigit = true ∧ (c = '0' → tail = []) := by
  rw [Nat.toList_repr]
  induction n using Nat.base_induction 10 (by decide) with
  | single m hm =>
      refine ⟨Nat.digitChar m, [], Nat.toDigits_of_lt_base hm, ?_, fun _ => rfl⟩
      simpa using hm
  | digit m k hk hm ih =>
      obtain ⟨c, tail, hdigits, hc, hzero⟩ := ih
      refine ⟨c, tail ++ Nat.toDigits 10 k, ?_, hc, ?_⟩
      · rw [← Nat.toDigits_append_toDigits (by decide) hm hk, hdigits, List.cons_append]
      · intro h
        have hvalue := Nat.ofDigitChars_toDigits (n := m) (b := 10) (by decide) (by decide)
        rw [hdigits, hzero h, h] at hvalue
        simp [Nat.ofDigitChars] at hvalue
        omega

theorem written_opens : Opens Written := by
  intro held written h
  cases h with
  | integer n =>
      obtain ⟨c, tail, hdigits, hc, -⟩ := exists_digits n.natAbs
      cases n with
      | ofNat m => exact ⟨c, tail, hdigits, mem_openers_of_isDigit hc⟩
      | negSucc m => exact ⟨'-', c :: tail, by simp_all [Int.repr], by decide⟩
  | text h =>
      obtain ⟨_⟩ := h
      exact ⟨_, _, rfl, by decide⟩
  | _ => exact ⟨_, _, rfl, by decide⟩

theorem writtenMember_opens (value : Value → List Char → Prop) : Opens (WrittenMember value) := by
  intro entry written h
  obtain ⟨⟨_⟩, _, _, _⟩ := h
  exact ⟨_, _, rfl, by decide⟩

/-! ### Reading integers -/

theorem not_mem_of_isDigit {c : Char} (h : c.isDigit = true) :
    c ∉ ['n', 't', 'f', 'N', 'I', '-', '\x22', '[', '\x7b'] := by
  intro hmem
  have hall : ['n', 't', 'f', 'N', 'I', '-', '\x22', '[', '\x7b'].all (!·.isDigit) = true := by
    decide
  have hnot := List.all_eq_true.mp hall c hmem
  simp [h] at hnot

theorem splitWhole_digits (m : Nat) {rest : List Char} (hrest : Delimited rest) :
    splitWhole (m.repr.toList ++ rest) = (m.repr.toList, rest) := by
  obtain ⟨c, tail, hdigits, -, hzero⟩ := exists_digits m
  by_cases hc : c = '0'
  · rw [hdigits, hzero hc, hc]
    rfl
  · have hsplit : splitWhole (m.repr.toList ++ rest) =
        Numeral.splitDigits (m.repr.toList ++ rest) := by
      simp [hdigits, splitWhole, hc]
    rw [hsplit, Numeral.splitDigits_append_of_head (Numeral.isDigits_repr m)
      fun c hc => (hrest c hc).1]

theorem splitFraction?_eq_none {rest : List Char} (h : Delimited rest) :
    splitFraction? rest = none := by
  cases rest with
  | nil => rfl
  | cons c cs => simp [splitFraction?, (h c rfl).2.1]

theorem splitExponent?_eq_none {rest : List Char} (h : Delimited rest) :
    splitExponent? rest = none := by
  cases rest with
  | nil => rfl
  | cons c cs => simp [splitExponent?, (h c rfl).2.2]

theorem number_integer (digitLimit? : Option Nat) (n : Int) {rest : List Char}
    (hrest : Delimited rest) :
    number digitLimit? (n.repr.toList ++ rest) =
      unlessLong (longLength? digitLimit? n) (.integer n, rest) := by
  obtain ⟨c, tail, hdigits, hc, -⟩ := exists_digits n.natAbs
  have hminus : c ≠ '-' := by
    rintro rfl
    simp at hc
  have hsome : n.natAbs.repr.toList ≠ [] := by simp [hdigits]
  have hbody : number digitLimit? (n.repr.toList ++ rest) =
      if digitLimit?.any (· < n.natAbs.repr.toList.length) then
        .error (.longInteger n.natAbs.repr.toList.length)
      else .ok (.integer (Numeral.signed (decide (n < 0))
        (Numeral.ofDigits n.natAbs.repr.toList)), rest) := by
    by_cases hn : n < 0
    · rw [Numeral.toList_repr_int, if_pos hn, List.singleton_append, List.cons_append, number]
      simp only [splitWhole_digits n.natAbs hrest, splitFraction?_eq_none hrest,
        splitExponent?_eq_none hrest, if_neg hsome, hn]
      rfl
    · rw [Numeral.toList_repr_int, if_neg hn, List.nil_append, number]
      · simp only [splitWhole_digits n.natAbs hrest, splitFraction?_eq_none hrest,
          splitExponent?_eq_none hrest, if_neg hsome, hn]
        rfl
      · intro body hminus'
        simp [hdigits, hminus] at hminus'
  rw [hbody, Numeral.ofDigits_repr, Numeral.signed_natAbs, String.length_toList, longLength?]
  split <;> rfl

/-- The first character tells a number from a text, a list and an object. -/
theorem value_cons_of_word?_eq_none (digitLimit? : Option Nat) (bound : Nat) {c : Char}
    {cs : List Char} (hc : c ∉ ['\x22', '[', '\x7b']) (h : word? (c :: cs) = none) :
    value digitLimit? (bound + 1) (c :: cs) = number digitLimit? (c :: cs) := by
  simp only [List.mem_cons, List.not_mem_nil, or_false, not_or] at hc
  rw [value]
  · simp only [h]
  · simp [hc]
  · simp [hc]
  · simp [hc]

theorem value_integer (digitLimit? : Option Nat) (bound : Nat) (n : Int) {rest : List Char}
    (hrest : Delimited rest) :
    value digitLimit? (bound + 1) (n.repr.toList ++ rest) =
      unlessLong (longLength? digitLimit? n) (.integer n, rest) := by
  rw [← number_integer digitLimit? n hrest]
  obtain ⟨c, tail, hdigits, hc, -⟩ := exists_digits n.natAbs
  have hne := not_mem_of_isDigit hc
  simp only [List.mem_cons, List.not_mem_nil, or_false, not_or] at hne
  rw [Numeral.toList_repr_int, hdigits]
  by_cases hn : n < 0
  · rw [if_pos hn]
    apply value_cons_of_word?_eq_none
    · decide
    · simp [word?, words, afterWord?, Ne.symm hne.2.2.2.2.1]
  · rw [if_neg hn]
    apply value_cons_of_word?_eq_none
    · simp [hne]
    · simp [word?, words, afterWord?, eq_comm, hne]

/-! ### Reading what is written -/

section Reading

variable {α : Type} {element : α → List Char → Prop} {reader : List Char → Reading α}
  {long? : α → Option Nat} {bound : Nat}

/-- A reader finds back what is written in fewer characters than a bound. -/
def Reads (reader : List Char → Reading α) (long? : α → Option Nat)
    (element : α → List Char → Prop) (bound : Nat) : Prop :=
  ∀ (a : α) (written : List Char), element a written → written.length < bound →
    ∀ rest, Delimited rest →
      reader (written ++ rest) = unlessLong (long? a) (a, rest)

theorem skipSpace_of_opens {a : α} {before written : List Char} (hopens : Opens element)
    (hbefore : IsGap before) (h : element a written) (rest : List Char) :
    skipSpace (before ++ (written ++ rest)) = written ++ rest := by
  obtain ⟨c, tail, rfl, hc⟩ := hopens _ _ h
  rw [hbefore.skipSpace_append, List.cons_append, skipSpace_cons (opener_spec hc).1]

theorem elements_of_error {close : Char} {cs : List Char} {stop : Stop} (count : Nat)
    (h : reader cs = .error stop) : elements close reader (count + 1) cs = .error stop := by
  rw [elements, h]
  rfl

/-- The closing mark ends the elements. -/
theorem elements_of_close {close : Char} {cs left rest : List Char} {a : α} (count : Nat)
    (h : reader cs = .ok (a, left)) (hleft : skipSpace left = close :: rest) :
    elements close reader (count + 1) cs = .ok ([a], rest) := by
  rw [elements, h]
  simp [bind, Except.bind, hleft]

/-- After a comma come more elements. -/
theorem elements_of_comma {close : Char} {cs left rest : List Char} {a : α} (count : Nat)
    (h : reader cs = .ok (a, left)) (hleft : skipSpace left = ',' :: rest) (hclose : close ≠ ',') :
    elements close reader (count + 1) cs =
      (elements close reader count (skipSpace rest)).map fun (others, left) =>
        (a :: others, left) := by
  rw [elements, h]
  simp only [bind, Except.bind, hleft, Ne.symm hclose, if_false, if_true]
  rfl

theorem skipSpace_close {close : Char} (hclose : close = ']' ∨ close = '\x7d') (rest : List Char) :
    skipSpace (close :: rest) = close :: rest := by
  apply skipSpace_cons
  rcases hclose with rfl | rfl <;> decide

/-- The elements are read one after the other, up to the closing mark. -/
theorem elements_of_separated {close : Char} (hclose : close = ']' ∨ close = '\x7d')
    (hopens : Opens element) (hreads : Reads reader long? element bound)
    {as : List α} {cs : List Char} (h : Separated element as cs) (rest : List Char) :
    ∀ {count : Nat}, cs.length < bound → cs.length < count →
      elements close reader count (skipSpace (cs ++ close :: rest)) =
        unlessLong (as.findSome? long?) (as, rest) := by
  have hdelimits : ∀ rest, Delimited (close :: rest) := by
    intro rest
    apply delimited_cons
    rcases hclose with rfl | rfl <;> decide
  induction h with
  | @last a before written after hbefore h hafter =>
      intro count hbound hcount
      obtain ⟨count, rfl⟩ : ∃ less, count = less + 1 := ⟨count - 1, by omega⟩
      have hread := hreads a written h (by simp at hbound; omega) _
        (hafter.delimited_append (hdelimits rest))
      rw [List.append_assoc, List.append_assoc, skipSpace_of_opens hopens hbefore h,
        List.findSome?_singleton]
      cases hlong : long? a with
      | none =>
          rw [hlong] at hread
          apply elements_of_close count hread
          rw [hafter.skipSpace_append, skipSpace_close hclose]
      | some digits =>
          rw [hlong] at hread
          exact elements_of_error count hread
  | @more a others before written after more hbefore h hafter hrest ih =>
      intro count hbound hcount
      obtain ⟨count, rfl⟩ : ∃ less, count = less + 1 := ⟨count - 1, by omega⟩
      have hread := hreads a written h (by simp at hbound; omega) _
        (hafter.delimited_append (delimited_cons (c := ',') (by decide) (more ++ close :: rest)))
      have hothers := @ih count (by simp at hbound; omega) (by simp at hcount; omega)
      have hcomma : skipSpace (after ++ ',' :: (more ++ close :: rest)) =
          ',' :: (more ++ close :: rest) := by
        rw [hafter.skipSpace_append, skipSpace_cons (by decide)]
      have hne : close ≠ ',' := by rcases hclose with rfl | rfl <;> decide
      simp only [List.append_assoc, List.cons_append]
      rw [skipSpace_of_opens hopens hbefore h, List.findSome?_cons]
      cases hlong : long? a with
      | none =>
          rw [hlong] at hread
          rw [elements_of_comma count hread hcomma hne, hothers]
          cases others.findSome? long? <;> rfl
      | some digits =>
          -- What follows is not read any more.
          rw [hlong] at hread
          exact elements_of_error count hread

theorem enclosed_of_separated {close : Char} (hclose : close = ']' ∨ close = '\x7d')
    (hopens : Opens element) (hreads : Reads reader long? element bound)
    {as : List α} {cs : List Char} (h : Separated element as cs) (rest : List Char) {count : Nat}
    (hbound : cs.length < bound) (hcount : cs.length < count) :
    enclosed close reader count (cs ++ close :: rest) =
      unlessLong (as.findSome? long?) (as, rest) := by
  rw [← elements_of_separated hclose hopens hreads h rest hbound hcount]
  obtain ⟨c, tail, hfirst, hc⟩ : ∃ c tail, skipSpace (cs ++ close :: rest) = c :: tail ∧
      c ∈ openers := by
    cases h with
    | last hbefore h _ | more hbefore h _ _ =>
        obtain ⟨c, tail, rfl, hc⟩ := hopens _ _ h
        simp only [List.append_assoc, List.cons_append, hbefore.skipSpace_append,
          skipSpace_cons (opener_spec hc).1]
        exact ⟨c, _, rfl, hc⟩
  have hne : c ≠ close := by
    have hspec := opener_spec hc
    rcases hclose with rfl | rfl
    · exact hspec.2.1
    · exact hspec.2.2.1
  rw [enclosed, hfirst]
  simp [hne]

theorem enclosed_of_isGap {close : Char} (hclose : close = ']' ∨ close = '\x7d') (count : Nat)
    {gap : List Char} (h : IsGap gap) (rest : List Char) :
    enclosed close reader count (gap ++ close :: rest) = .ok ([], rest) := by
  rw [enclosed, h.skipSpace_append, skipSpace_close hclose]
  simp

end Reading

/-- A member is read if its value is. -/
theorem reads_member {value : List Char → Reading Value} {long? : Value → Option Nat}
    {written : Value → List Char → Prop} {bound : Nat} (hopens : Opens written)
    (h : Reads value long? written bound) :
    Reads (member value) (fun entry => long? entry.2) (WrittenMember written) bound := by
  intro entry text hentry hbound rest hrest
  obtain @⟨name, held, key, before, after, written, hkey, hbefore, hafter, hheld⟩ := hentry
  have hvalue := h held written hheld (by simp at hbound; omega) rest hrest
  obtain ⟨afterMark, hcs, hname⟩ :=
    quotedText_of_isQuoted hkey (before ++ ':' :: (after ++ (written ++ rest)))
  have htext : key ++ (before ++ ':' :: (after ++ written)) ++ rest = '\x22' :: afterMark := by
    rw [← hcs]
    simp
  have hcolon : skipSpace (before ++ ':' :: (after ++ (written ++ rest))) =
      ':' :: (after ++ (written ++ rest)) := by
    rw [hbefore.skipSpace_append, skipSpace_cons (by decide)]
  rw [htext, member, hname]
  simp only [bind, Except.bind, hcolon, skipSpace_of_opens hopens hafter hheld, hvalue]
  cases long? held <;> rfl

/-- A value is read back from each way to write it. -/
theorem reads_value (digitLimit? : Option Nat) (bound : Nat) :
    Reads (value digitLimit? bound) (Value.firstLong? digitLimit?) Written bound := by
  -- On the bound and not on the ways to write: what is nested is shorter, and `Written` is nested
  -- in `Separated`, so that it has no induction of its own.
  induction bound with
  | zero =>
      intro held written _ hbound
      omega
  | succ bound ih =>
      intro held written h hbound rest hrest
      cases h with
      | null | isFalse | isTrue => rfl
      | integer n => exact value_integer digitLimit? bound n hrest
      | text h =>
          obtain ⟨afterMark, hcs, htext⟩ := quotedText_of_isQuoted h rest
          rw [hcs, value, htext]
          rfl
      | emptyList h =>
          rw [List.cons_append, List.append_assoc, List.singleton_append, value,
            enclosed_of_isGap (.inl rfl) _ h]
          rfl
      | @list items cs h =>
          have hlength : cs.length + 1 < bound := by simpa using hbound
          have hlong := firstLong?_list digitLimit? items
          rw [List.cons_append, List.append_assoc, List.singleton_append, value,
            enclosed_of_separated (.inl rfl) written_opens ih h rest (by omega) (by omega),
            hlong]
          cases items.findSome? (Value.firstLong? digitLimit?) <;> rfl
      | emptyObject h =>
          rw [List.cons_append, List.append_assoc, List.singleton_append, value,
            enclosed_of_isGap (.inr rfl) _ h]
          rfl
      | @object members cs hnames h =>
          have hlength : cs.length + 1 < bound := by simpa using hbound
          have hlong := firstLong?_object digitLimit? members
          rw [List.cons_append, List.append_assoc, List.singleton_append, value,
            enclosed_of_separated (.inr rfl) (writtenMember_opens Written)
              (reads_member written_opens ih) h rest (by omega) (by omega),
            hlong]
          cases members.findSome? fun entry => entry.2.firstLong? digitLimit? with
          | none => simp [unlessLong, Except.map, Entries.ofPairs_of_nodup hnames]
          | some digits => rfl

/-- A document is read back, however it is written, unless an integer in it is beyond the limit. -/
theorem read_of_writtenDocument (digitLimit? : Option Nat) {held : Value} {text : String}
    (h : WrittenDocument held text) :
    read digitLimit? text =
      match held.firstLong? digitLimit? with
      | none => .ok held
      | some digits => .error (.longInteger digits) := by
  obtain @⟨before, written, after, hbefore, hwritten, hafter, htext⟩ := h
  have hnomark : text.toList.head? ≠ some (Char.ofNat 0xFEFF) := by
    rw [htext]
    obtain ⟨c, tail, rfl, hc⟩ := written_opens _ _ hwritten
    cases before with
    | nil => simpa using (opener_spec hc).2.2.2
    | cons space _ =>
        have hne : space ≠ Char.ofNat 0xFEFF := by
          rcases hbefore space List.mem_cons_self with rfl | rfl | rfl | rfl <;> decide
        simpa using hne
  have hend : skipSpace after = [] := by
    simpa [skipSpace] using hafter.skipSpace_append []
  have hdelimited : Delimited after := by
    simpa using hafter.delimited_append delimited_nil
  have hvalue := reads_value digitLimit? (text.toList.length + 1) held written hwritten
    (by rw [htext]; simp; omega) after hdelimited
  have hdocument : document digitLimit? text.toList =
      unlessLong (held.firstLong? digitLimit?) held := by
    rw [document, if_neg hnomark]
    have hstart : skipSpace text.toList = written ++ after := by
      rw [htext, skipSpace_of_opens written_opens hbefore hwritten]
    rw [hstart, hvalue]
    cases held.firstLong? digitLimit? with
    | none => simp [unlessLong, bind, Except.bind, hend, pure, Except.pure]
    | some digits => rfl
  rw [read, hdocument]
  cases held.firstLong? digitLimit? <;> rfl

end TableExport.Json
