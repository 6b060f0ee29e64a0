import Mathlib.Data.List.Basic
import TableExport.Number.Numeral
import TableExport.Sql.Statement

/-! # Placeholders in the text of a statement

`placeholders?` reads a text from left to right and knows two things only: an identifier reaches
from one back-tick to the next one that no backslash stands before, and outside of identifiers an
at sign begins a placeholder, whose name is the longest run of letters, digits and underscores.  It
fails if an identifier is not closed.

Most pieces of a statement are *silent*: reading goes over them without finding a placeholder,
whatever follows (`IsSilent`).  A condition holds one placeholder, whose name has to end where the
condition does (`Holds`).  Both are kept by concatenation, so that a statement without raw parts
holds the placeholders of its conditions, in their order (`Statement.placeholders?_render`). -/

namespace TableExport.Sql

/-! ### The reader -/

/-- The characters of the names of parameters. -/
def isNameChar (c : Char) : Bool :=
  c.isAlphanum || c == '_'

theorem readName?_length {cs name rest : List Char} (h : readName? cs = some (name, rest)) :
    rest.length < cs.length := by
  fun_induction readName? cs generalizing name rest with
  | case1 => cases h
  | case2 => cases h
  | case3 c cs ih =>
      obtain ⟨⟨inner, left⟩, hread, heq⟩ := Option.map_eq_some_iff.mp h
      obtain ⟨-, rfl⟩ := Prod.mk.inj heq
      have := ih hread
      simp only [List.length_cons]
      omega
  | case4 cs =>
      obtain ⟨-, rfl⟩ := Prod.mk.inj (Option.some.inj h)
      simp
  | case5 c cs _ _ _ ih =>
      obtain ⟨⟨inner, left⟩, hread, heq⟩ := Option.map_eq_some_iff.mp h
      obtain ⟨-, rfl⟩ := Prod.mk.inj heq
      have := ih hread
      simp only [List.length_cons]
      omega

/-- The names of the placeholders outside of identifiers, or none if an identifier is not closed. -/
def placeholders? : List Char → Option (List String)
  | [] => some []
  | c :: rest =>
      if c = backTick then
        match h : readName? rest with
        | some (_, left) =>
            have := readName?_length h
            placeholders? left
        | none => none
      else if c = '@' then
        have := (List.dropWhile_suffix (l := rest) isNameChar).length_le
        (placeholders? (rest.dropWhile isNameChar)).map
          (String.ofList (rest.takeWhile isNameChar) :: ·)
      else placeholders? rest
termination_by cs => cs.length

theorem placeholders?_identifier (name rest : List Char) :
    placeholders? (identifierChars name ++ rest) = placeholders? rest := by
  have hread : readName? (name.flatMap escapedChar ++ [backTick] ++ rest) = some (name, rest) := by
    rw [List.append_assoc]
    exact readName?_escaped name rest
  rw [identifierChars, List.cons_append, placeholders?, if_pos rfl]
  split
  · next other left h =>
      rw [hread] at h
      obtain ⟨-, rfl⟩ := Prod.mk.inj (Option.some.inj h)
      rfl
  · next h =>
      rw [hread] at h
      cases h

theorem placeholders?_cons {c : Char} (ht : c ≠ backTick) (ha : c ≠ '@') (rest : List Char) :
    placeholders? (c :: rest) = placeholders? rest := by
  rw [placeholders?, if_neg ht, if_neg ha]

/-! ### Silent texts -/

/-- Reading goes over the text without finding a placeholder, whatever follows. -/
def IsSilent (text : String) : Prop :=
  ∀ rest, placeholders? (text.toList ++ rest) = placeholders? rest

/-- A character at which no identifier and no placeholder begins. -/
def isSilentChar (c : Char) : Bool :=
  c != backTick && c != '@'

theorem isSilent_of_all {text : String} (h : text.toList.all isSilentChar = true) :
    IsSilent text := by
  intro rest
  generalize text.toList = cs at h
  induction cs with
  | nil => rfl
  | cons c cs ih =>
      rw [List.all_cons, Bool.and_eq_true] at h
      obtain ⟨hc, hcs⟩ := h
      unfold isSilentChar at hc
      rw [Bool.and_eq_true, bne_iff_ne, bne_iff_ne] at hc
      rw [List.cons_append, placeholders?_cons hc.1 hc.2]
      exact ih hcs

theorem IsSilent.append {first second : String} (hf : IsSilent first) (hs : IsSilent second) :
    IsSilent (first ++ second) := by
  intro rest
  rw [String.toList_append, List.append_assoc, hf, hs]

/-- A silent text between two pieces without back-ticks and at signs. -/
theorem IsSilent.enclosed {text : String} (h : IsSilent text) (opening closing : String)
    (ho : opening.toList.all isSilentChar = true) (hc : closing.toList.all isSilentChar = true) :
    IsSilent (opening ++ text ++ closing) :=
  ((isSilent_of_all ho).append h).append (isSilent_of_all hc)

theorem isSilent_intercalate {separator : String} (hsep : IsSilent separator)
    {texts : List String} (h : ∀ text ∈ texts, IsSilent text) :
    IsSilent (separator.intercalate texts) := by
  induction texts with
  | nil => exact isSilent_of_all rfl
  | cons text others ih =>
      have htext := h text List.mem_cons_self
      have hothers := ih fun other hother => h other (List.mem_cons_of_mem _ hother)
      cases others with
      | nil => simpa using htext
      | cons other others =>
          rw [String.intercalate_cons_cons]
          exact (htext.append hsep).append hothers

theorem isSilent_identifier (name : String) : IsSilent (identifier name) := by
  intro rest
  rw [identifier, String.toList_ofList]
  exact placeholders?_identifier name.toList rest

theorem isSilent_qualified (parts : List String) : IsSilent (qualified parts) := by
  refine isSilent_intercalate (isSilent_of_all (by decide)) ?_
  intro text htext
  obtain ⟨part, -, rfl⟩ := List.mem_map.mp htext
  exact isSilent_identifier part

theorem isSilent_natRepr (n : Nat) : IsSilent n.repr := by
  refine isSilent_of_all (List.all_eq_true.mpr fun c hc => ?_)
  have hdigit := Numeral.isDigit_of_mem_repr hc
  unfold isSilentChar
  rw [Bool.and_eq_true, bne_iff_ne, bne_iff_ne]
  constructor
  · rintro rfl
    revert hdigit
    decide
  · rintro rfl
    revert hdigit
    decide

theorem isSilent_intRepr (n : Int) : IsSilent n.repr := by
  cases n with
  | ofNat n => exact isSilent_natRepr n
  | negSucc n => exact (isSilent_of_all (by decide)).append (isSilent_natRepr (n + 1))

/-! ### Texts that hold placeholders -/

/-- The name of a placeholder ends where this text goes on. -/
def EndsName (rest : List Char) : Prop :=
  ∀ c ∈ rest.head?, isNameChar c = false

/-- Reading the text finds these placeholders, if the last name ends with the text. -/
def Holds (text : String) (names : List String) : Prop :=
  ∀ rest, EndsName rest →
    placeholders? (text.toList ++ rest) = (placeholders? rest).map (names ++ ·)

theorem EndsName.append {first second : List Char} (hf : EndsName first) (hs : EndsName second) :
    EndsName (first ++ second) := by
  cases first with
  | nil => exact hs
  | cons c first => exact hf

theorem IsSilent.holds {text : String} (h : IsSilent text) : Holds text [] := by
  intro rest _
  simp [h rest]

theorem IsSilent.append_holds {first second : String} {names : List String}
    (hf : IsSilent first) (hs : Holds second names) : Holds (first ++ second) names := by
  intro rest hrest
  rw [String.toList_append, List.append_assoc, hf, hs rest hrest]

theorem Holds.append {first second : String} {names others : List String}
    (hf : Holds first names) (hends : EndsName second.toList) (hs : Holds second others) :
    Holds (first ++ second) (names ++ others) := by
  intro rest hrest
  rw [String.toList_append, List.append_assoc, hf _ (hends.append hrest), hs rest hrest,
    Option.map_map]
  congr 1
  funext found
  simp

theorem Holds.append_silent {first second : String} {names : List String}
    (hf : Holds first names) (hends : EndsName second.toList) (hs : IsSilent second) :
    Holds (first ++ second) names := by
  have h := hf.append hends hs.holds
  rwa [List.append_nil] at h

/-- Texts that hold placeholders, with a silent text between them that ends every name. -/
theorem holds_intercalate {separator : String} (hsep : IsSilent separator)
    (hends : EndsName separator.toList) (hne : separator ≠ "") {α : Type} {text : α → String}
    {names : α → List String} {items : List α}
    (h : ∀ item ∈ items, Holds (text item) (names item)) :
    Holds (separator.intercalate (items.map text)) (items.flatMap names) := by
  induction items with
  | nil => exact (isSilent_of_all rfl).holds
  | cons item others ih =>
      have hitem := h item List.mem_cons_self
      have hothers := ih fun other hother => h other (List.mem_cons_of_mem _ hother)
      cases others with
      | nil => simpa using hitem
      | cons other others =>
          rw [List.map_cons, List.map_cons, String.intercalate_cons_cons, List.flatMap_cons,
            String.append_assoc]
          refine hitem.append ?_ (hsep.append_holds hothers)
          rw [String.toList_append]
          intro c hc
          refine hends c ?_
          cases hcs : separator.toList with
          | nil => exact absurd (String.toList_eq_nil_iff.mp hcs) hne
          | cons d ds => simpa [hcs] using hc

theorem takeWhile_name {name rest : List Char} (hname : name.all isNameChar = true)
    (hrest : EndsName rest) : (name ++ rest).takeWhile isNameChar = name := by
  have hstop : rest.takeWhile isNameChar = [] := by
    cases rest with
    | nil => rfl
    | cons c rest => exact List.takeWhile_cons_of_neg (by simp [hrest c rfl])
  rw [List.takeWhile_append_of_pos (List.all_eq_true.mp hname), hstop, List.append_nil]

theorem dropWhile_name {name rest : List Char} (hname : name.all isNameChar = true)
    (hrest : EndsName rest) : (name ++ rest).dropWhile isNameChar = rest := by
  have h := List.takeWhile_append_dropWhile (p := isNameChar) (l := name ++ rest)
  rw [takeWhile_name hname hrest] at h
  exact List.append_cancel_left h

theorem holds_placeholder {name : String} (hname : name.toList.all isNameChar = true) :
    Holds (placeholder name) [name] := by
  intro rest hrest
  have htext : (placeholder name).toList = '@' :: name.toList := by
    simp [placeholder]
  rw [htext, List.cons_append, placeholders?, if_neg (by decide), if_pos rfl,
    dropWhile_name hname hrest, takeWhile_name hname hrest, String.ofList_toList]
  rfl

/-! ### Statements without raw parts -/

/-- No part of the expression was given as text. -/
def Expr.IsStructured : Expr → Prop
  | .raw _ => False
  | .reference _ => True
  | .safeCast operand _ => operand.IsStructured
  | .asText operand => operand.IsStructured
  | .asJson operand => operand.IsStructured
  | .asGeoJson operand => operand.IsStructured
  | .cut operand _ => operand.IsStructured
  | .unlessEmpty subject value => subject.IsStructured ∧ value.IsStructured
  | .unlessNull subject value => subject.IsStructured ∧ value.IsStructured
  | .isLonger operand _ => operand.IsStructured
  | .zero => True

/-- No part of the item was given as text. -/
def SelectItem.IsStructured : SelectItem → Prop
  | .raw _ => False
  | .everything => True
  | .plain expr => expr.IsStructured
  | .aliased expr _ => expr.IsStructured

/-- The condition is not raw, and its parameter has a proper name. -/
def Condition.IsStructured : Condition → Prop
  | .raw _ => False
  | .test subject _ parameter =>
      subject.IsStructured ∧ parameter.toList.all isNameChar = true

/-- The name of the parameter of a condition. -/
def Condition.parameter? : Condition → Option String
  | .raw _ => none
  | .test _ _ parameter => some parameter

/-- No part of the statement was given as text. -/
structure Statement.IsStructured (statement : Statement) : Prop where
  select : ∀ item ∈ statement.select, item.IsStructured
  source : ∃ parts, statement.source = .reference parts
  conditions : ∀ condition ∈ statement.conditions, condition.IsStructured
  order : ∀ term ∈ statement.order, term.expr.IsStructured

/-! ### What a statement holds -/

theorem Expr.isSilent_render {expr : Expr} (h : expr.IsStructured) : IsSilent expr.render := by
  have hclose : IsSilent ")" := isSilent_of_all (by decide)
  induction expr with
  | raw sql => cases h
  | reference parts => exact isSilent_qualified parts
  | safeCast operand type ih =>
      show IsSilent ("SAFE_CAST(" ++ operand.render ++ " AS " ++ type.name ++ ")")
      have htype : IsSilent type.name := isSilent_of_all (by cases type <;> decide)
      have hfront := (ih h).enclosed "SAFE_CAST(" " AS " (by decide) (by decide)
      exact (hfront.append htype).append hclose
  | asText operand ih => exact (ih h).enclosed "CAST(" " as STRING)" (by decide) (by decide)
  | asJson operand ih => exact (ih h).enclosed "TO_JSON_STRING(" ")" (by decide) (by decide)
  | asGeoJson operand ih => exact (ih h).enclosed "ST_ASGEOJSON(" ")" (by decide) (by decide)
  | cut operand budget ih =>
      show IsSilent ("SUBSTRING(" ++ operand.render ++ ", 0, " ++ budget.repr ++ ")")
      have hfront := (ih h).enclosed "SUBSTRING(" ", 0, " (by decide) (by decide)
      exact (hfront.append (isSilent_intRepr budget)).append hclose
  | unlessEmpty subject value ihs ihv =>
      show IsSilent ("IF(ARRAY_LENGTH(" ++ subject.render ++ ") = 0, NULL, " ++ value.render ++ ")")
      have hfront :=
        (ihs h.1).enclosed "IF(ARRAY_LENGTH(" ") = 0, NULL, " (by decide) (by decide)
      exact (hfront.append (ihv h.2)).append hclose
  | unlessNull subject value ihs ihv =>
      show IsSilent ("IF(" ++ subject.render ++ " IS NULL, NULL, " ++ value.render ++ ")")
      have hfront := (ihs h.1).enclosed "IF(" " IS NULL, NULL, " (by decide) (by decide)
      exact (hfront.append (ihv h.2)).append hclose
  | isLonger operand budget ih =>
      show IsSilent ("(CASE WHEN LENGTH(" ++ operand.render ++ ") > " ++ budget.repr
        ++ " THEN 1 ELSE 0 END)")
      have hfront := (ih h).enclosed "(CASE WHEN LENGTH(" ") > " (by decide) (by decide)
      have hend : IsSilent " THEN 1 ELSE 0 END)" := isSilent_of_all (by decide)
      exact (hfront.append (isSilent_intRepr budget)).append hend
  | zero => exact isSilent_of_all (by decide)

theorem SelectItem.isSilent_render {item : SelectItem} (h : item.IsStructured) :
    IsSilent item.render := by
  cases item with
  | raw sql => cases h
  | everything => exact isSilent_of_all (by decide)
  | plain expr => exact Expr.isSilent_render h
  | aliased expr name =>
      have has : IsSilent " AS " := isSilent_of_all (by decide)
      exact ((Expr.isSilent_render h).append has).append (isSilent_identifier name)

theorem OrderTerm.isSilent_render {term : OrderTerm} (h : term.expr.IsStructured) :
    IsSilent term.render := by
  have hspace : IsSilent " " := isSilent_of_all (by decide)
  have hdirection : IsSilent term.direction.name :=
    isSilent_of_all (by cases term.direction <;> decide)
  exact ((Expr.isSilent_render h).append hspace).append hdirection

theorem Relation.holds_render (relation : Relation) {parameter : String}
    (h : parameter.toList.all isNameChar = true) :
    Holds (relation.render parameter) [parameter] := by
  have hname := holds_placeholder h
  have hends : EndsName ")".toList := by
    intro c hc
    obtain rfl := Option.some.inj hc
    decide
  have hclose : IsSilent ")" := isSilent_of_all (by decide)
  cases relation with
  | compares operator =>
      have hsign : IsSilent (comparisonSign operator) :=
        isSilent_of_all (by cases operator <;> decide)
      have hspace : IsSilent " " := isSilent_of_all (by decide)
      exact (hsign.append hspace).append_holds hname
  | isMember =>
      have hopen : IsSilent "IN UNNEST(" := isSilent_of_all (by decide)
      exact (hopen.append_holds hname).append_silent hends hclose
  | isNoMember =>
      have hopen : IsSilent "NOT IN UNNEST(" := isSilent_of_all (by decide)
      exact (hopen.append_holds hname).append_silent hends hclose

theorem Condition.holds_render {condition : Condition} (h : condition.IsStructured) :
    Holds condition.render condition.parameter?.toList := by
  cases condition with
  | raw sql => cases h
  | test subject relation parameter =>
      obtain ⟨hsubject, hname⟩ := h
      have hspace : IsSilent " " := isSilent_of_all (by decide)
      have hfront := (Expr.isSilent_render hsubject).append hspace
      exact hfront.append_holds (relation.holds_render hname)

namespace Statement

theorem isSilent_selectText {items : List SelectItem} (h : ∀ item ∈ items, item.IsStructured) :
    IsSilent (selectText items) := by
  cases items with
  | nil => exact isSilent_of_all (by decide)
  | cons item others =>
      refine isSilent_intercalate (isSilent_of_all (by decide)) ?_
      intro text htext
      obtain ⟨item, hitem, rfl⟩ := List.mem_map.mp htext
      exact SelectItem.isSilent_render (h item hitem)

theorem holds_whereText {conditions : List Condition}
    (h : ∀ condition ∈ conditions, condition.IsStructured) :
    Holds (whereText conditions) (conditions.filterMap Condition.parameter?) := by
  have hall : ∀ condition ∈ conditions, Holds condition.render condition.parameter?.toList :=
    fun condition hcondition => Condition.holds_render (h condition hcondition)
  rw [List.filterMap_eq_flatMap_toList]
  match conditions, hall with
  | [], _ => exact (isSilent_of_all (by decide)).holds
  | [condition], hall =>
      have hopen : IsSilent " WHERE " := isSilent_of_all (by decide)
      rw [List.flatMap_cons, List.flatMap_nil, List.append_nil]
      exact hopen.append_holds (hall condition List.mem_cons_self)
  | first :: second :: others, hall =>
      have hopen : IsSilent " WHERE (" := isSilent_of_all (by decide)
      have hclose : IsSilent ")" := isSilent_of_all (by decide)
      have hseparator : IsSilent ") AND (" := isSilent_of_all (by decide)
      have hends : ∀ c cs, c = ')' → EndsName (c :: cs) := by
        rintro c cs rfl d hd
        obtain rfl := Option.some.inj hd
        decide
      have hlist := holds_intercalate hseparator (hends _ _ rfl) (by decide) hall
      exact (hopen.append_holds hlist).append_silent (hends _ _ rfl) hclose

theorem isSilent_orderText {terms : List OrderTerm}
    (h : ∀ term ∈ terms, term.expr.IsStructured) : IsSilent (orderText terms) := by
  cases terms with
  | nil => exact isSilent_of_all (by decide)
  | cons term others =>
      have hopen : IsSilent " ORDER BY " := isSilent_of_all (by decide)
      refine hopen.append (isSilent_intercalate (isSilent_of_all (by decide)) ?_)
      intro text htext
      obtain ⟨term, hterm, rfl⟩ := List.mem_map.mp htext
      exact OrderTerm.isSilent_render (h term hterm)

theorem isSilent_limitText (limit : Option Nat) : IsSilent (limitText limit) := by
  cases limit with
  | none => exact isSilent_of_all (by decide)
  | some rows =>
      have hopen : IsSilent " LIMIT " := isSilent_of_all (by decide)
      exact hopen.append (isSilent_natRepr rows)

/-- What follows the conditions ends the name of the last parameter. -/
theorem endsName_tail (terms : List OrderTerm) (limit : Option Nat) :
    EndsName (orderText terms).toList ∧ EndsName (limitText limit).toList := by
  have hspace : ∀ text : String, EndsName (" " ++ text).toList := by
    intro text c hc
    rw [String.toList_append] at hc
    obtain rfl := Option.some.inj hc
    decide
  have hempty : EndsName "".toList := fun c hc => by cases hc
  constructor
  · cases terms with
    | nil => exact hempty
    | cons term others =>
        have h := hspace ("ORDER BY " ++
          String.intercalate ", " ((term :: others).map OrderTerm.render))
        rwa [← String.append_assoc] at h
  · cases limit with
    | none => exact hempty
    | some rows =>
        have h := hspace ("LIMIT " ++ rows.repr)
        rwa [← String.append_assoc] at h

/-- The text of a statement holds the placeholders of its conditions, in their order. -/
theorem placeholders?_render {statement : Statement} (h : statement.IsStructured) :
    placeholders? statement.render.toList =
      some (statement.conditions.filterMap Condition.parameter?) := by
  obtain ⟨parts, hsource⟩ := h.source
  have hselect : IsSilent ("SELECT " ++ selectText statement.select ++ " FROM ") :=
    (isSilent_selectText h.select).enclosed "SELECT " " FROM " (by decide) (by decide)
  have hfrom : IsSilent statement.source.render := by
    rw [hsource]
    exact isSilent_qualified parts
  have hwhere := (hselect.append hfrom).append_holds (holds_whereText h.conditions)
  have hends := endsName_tail statement.order statement.limit
  have hall : Holds statement.render (statement.conditions.filterMap Condition.parameter?) :=
    (hwhere.append_silent hends.1 (isSilent_orderText h.order)).append_silent hends.2
      (isSilent_limitText statement.limit)
  have hread := hall [] (fun c hc => by cases hc)
  rw [List.append_nil, placeholders?] at hread
  simpa using hread

end Statement
end TableExport.Sql
