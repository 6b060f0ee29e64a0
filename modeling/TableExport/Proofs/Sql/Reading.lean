import TableExport.Number.Numeral
import TableExport.Proofs.Sql.Placeholder

/-! # Unique reading of statements

A statement can be read in one way only.  The texts for the members of a class *read apart* if,
put in front of any texts that may follow them, they are equal only for equal members, and then
what follows is equal too (`ReadsApart`).  Identifiers read apart whatever follows them; lists read
apart if their items do and the separator cannot be taken for something that follows the list
(`ReadsApart.intercalate`).

The pieces of a statement that selects columns without excerpts read apart one after the other,
from its front to its end, so that its text determines it (`Statement.render_injective`). -/

namespace TableExport.Sql

/-! ### Texts that read apart -/

section texts

variable {α : Type} {write : α → String} {member : α → Prop} {follows : List Char → Prop}

/-- The texts of the members of a class determine them, and where they end, whatever follows. -/
def ReadsApart (write : α → String) (member : α → Prop) (follows : List Char → Prop) : Prop :=
  ∀ ⦃a b : α⦄ ⦃s t : List Char⦄, member a → member b → follows s → follows t →
    (write a).toList ++ s = (write b).toList ++ t → a = b ∧ s = t

/-- Texts none of which begins with another read apart, whatever follows them. -/
theorem readsApart_of_isPrefixOf
    (h : ∀ a b, (write a).toList.isPrefixOf (write b).toList = true → a = b) :
    ReadsApart write (fun _ => True) (fun _ => True) := by
  intro a b s t _ _ _ _ heq
  have hab : a = b := by
    have hfirst : (write a).toList <+: (write b).toList ++ t := ⟨s, heq⟩
    have hsecond : (write b).toList <+: (write b).toList ++ t := List.prefix_append _ _
    rcases List.prefix_or_prefix_of_prefix hfirst hsecond with hle | hle
    · exact h a b (List.isPrefixOf_iff_prefix.mpr hle)
    · exact (h b a (List.isPrefixOf_iff_prefix.mpr hle)).symm
  subst hab
  exact ⟨rfl, List.append_cancel_left heq⟩

/-- Lists with a separator between their items read apart if the items do, and if nothing that
follows the list begins with the separator. -/
theorem ReadsApart.intercalate (h : ReadsApart write member follows) (separator : String)
    (hsep : ∀ rest, follows (separator.toList ++ rest)) :
    ReadsApart (fun items => separator.intercalate (items.map write))
      (fun items => items ≠ [] ∧ ∀ item ∈ items, member item)
      (fun rest => follows rest ∧ ¬ separator.toList <+: rest) := by
  intro items
  induction items with
  | nil =>
      rintro _ _ _ ⟨hne, -⟩
      exact absurd rfl hne
  | cons x xs ih =>
      rintro ys s t ⟨-, hxs⟩ ⟨hne, hys⟩ ⟨hs, hsepS⟩ ⟨ht, hsepT⟩ heq
      obtain ⟨y, ys, rfl⟩ := List.exists_cons_of_ne_nil hne
      have hx := hxs x List.mem_cons_self
      have hy := hys y List.mem_cons_self
      cases xs with
      | nil =>
          cases ys with
          | nil =>
              simp only [List.map_cons, List.map_nil, String.intercalate_singleton] at heq
              obtain ⟨rfl, hst⟩ := h hx hy hs ht heq
              exact ⟨rfl, hst⟩
          | cons z zs =>
              simp only [List.map_cons, List.map_nil, String.intercalate_singleton,
                String.intercalate_cons_cons, String.toList_append, List.append_assoc] at heq
              obtain ⟨-, hst⟩ := h hx hy hs (hsep _) heq
              exact absurd (hst ▸ List.prefix_append _ _) hsepS
      | cons w ws =>
          cases ys with
          | nil =>
              simp only [List.map_cons, List.map_nil, String.intercalate_singleton,
                String.intercalate_cons_cons, String.toList_append, List.append_assoc] at heq
              obtain ⟨-, hst⟩ := h hx hy (hsep _) ht heq
              exact absurd (hst ▸ List.prefix_append _ _) hsepT
          | cons z zs =>
              simp only [List.map_cons, String.intercalate_cons_cons, String.toList_append,
                List.append_assoc] at heq
              obtain ⟨rfl, hrest⟩ := h hx hy (hsep _) (hsep _) heq
              have hws := List.forall_mem_of_forall_mem_cons hxs
              have hzs := List.forall_mem_of_forall_mem_cons hys
              have htail := ih ⟨List.cons_ne_nil w ws, hws⟩ ⟨List.cons_ne_nil z zs, hzs⟩
                ⟨hs, hsepS⟩ ⟨ht, hsepT⟩ (List.append_cancel_left hrest)
              exact ⟨by rw [htail.1], htail.2⟩

end texts

/-! ### Identifiers and expressions -/

theorem readsApart_identifier :
    ReadsApart identifier (fun _ => True) (fun _ => True) := by
  intro a b s t _ _ _ _ heq
  have hread := readIdentifier?_identifier a.toList s
  simp only [identifier, String.toList_ofList] at heq
  rw [heq, readIdentifier?_identifier] at hread
  obtain ⟨hname, hst⟩ := Prod.mk.inj (Option.some.inj hread)
  exact ⟨String.toList_inj.mp hname.symm, hst.symm⟩

theorem readsApart_qualified :
    ReadsApart qualified (fun parts => parts ≠ []) (fun rest => ¬ ['.'] <+: rest) := by
  intro parts others s t hparts hothers hs ht heq
  exact readsApart_identifier.intercalate "." (fun _ => trivial) ⟨hparts, fun _ _ => trivial⟩
    ⟨hothers, fun _ _ => trivial⟩ ⟨trivial, hs⟩ ⟨trivial, ht⟩ heq

/-- A list with separators begins with its first text. -/
theorem toList_intercalate_cons (separator text : String) (texts : List String) :
    ∃ more, (separator.intercalate (text :: texts)).toList = text.toList ++ more := by
  cases texts with
  | nil => exact ⟨[], by rw [String.intercalate_singleton, List.append_nil]⟩
  | cons other others =>
      rw [String.intercalate_cons_cons, String.append_assoc, String.toList_append]
      exact ⟨_, rfl⟩

theorem qualified_eq_cons {parts : List String} (h : parts ≠ []) :
    ∃ cs, (qualified parts).toList = backTick :: cs := by
  obtain ⟨part, others, rfl⟩ := List.exists_cons_of_ne_nil h
  obtain ⟨more, hmore⟩ := toList_intercalate_cons "." (identifier part) (others.map identifier)
  rw [qualified, List.map_cons, hmore, identifier, String.toList_ofList]
  exact ⟨_, rfl⟩

theorem readsApart_castName :
    ReadsApart (fun type : CastType => type.name ++ ")") (fun _ => True) (fun _ => True) := by
  apply readsApart_of_isPrefixOf
  intro a b
  cases a <;> cases b <;> decide

/-- A reference to a column, or a cast of one. -/
inductive Expr.IsColumn : Expr → Prop
  | reference {parts : List String} (h : parts ≠ []) : IsColumn (.reference parts)
  | cast {parts : List String} (h : parts ≠ []) (type : CastType) :
      IsColumn (.safeCast (.reference parts) type)

/-- The text of a cast, piece by piece. -/
theorem Expr.toList_cast (parts : List String) (type : CastType) (rest : List Char) :
    (Expr.render (.safeCast (.reference parts) type)).toList ++ rest =
      'S' :: ("AFE_CAST(".toList ++ ((qualified parts).toList ++
        (" AS ".toList ++ ((type.name ++ ")").toList ++ rest)))) := by
  have htext : Expr.render (.safeCast (.reference parts) type) =
      "SAFE_CAST(" ++ qualified parts ++ " AS " ++ type.name ++ ")" := rfl
  rw [htext]
  simp only [String.toList_append, List.append_assoc]
  rfl

theorem Expr.reference_ne_cast {parts others : List String} (h : parts ≠ []) (type : CastType)
    (s t : List Char) :
    (Expr.render (.reference parts)).toList ++ s ≠
      (Expr.render (.safeCast (.reference others) type)).toList ++ t := by
  obtain ⟨cs, hcs⟩ := qualified_eq_cons h
  have hreference : (Expr.render (.reference parts)).toList = backTick :: cs := hcs
  rw [hreference, Expr.toList_cast]
  intro heq
  have hhead := (List.cons.inj heq).1
  revert hhead
  decide

theorem Expr.readsApart :
    ReadsApart Expr.render Expr.IsColumn (fun rest => ¬ ['.'] <+: rest) := by
  intro a b s t ha hb hs ht heq
  cases ha with
  | reference h =>
      cases hb with
      | reference h' =>
          obtain ⟨rfl, hst⟩ := readsApart_qualified h h' hs ht heq
          exact ⟨rfl, hst⟩
      | cast h' type => exact absurd heq (Expr.reference_ne_cast h type s t)
  | cast h type =>
      cases hb with
      | reference h' => exact absurd heq.symm (Expr.reference_ne_cast h' type t s)
      | cast h' type' =>
          rw [Expr.toList_cast, Expr.toList_cast] at heq
          have hrest := List.append_cancel_left (List.cons.inj heq).2
          have hgap : ∀ rest, ¬ ['.'] <+: " AS ".toList ++ rest := by simp
          obtain ⟨rfl, htail⟩ := readsApart_qualified h h' (hgap _) (hgap _) hrest
          have hname := List.append_cancel_left htail
          obtain ⟨rfl, hst⟩ := readsApart_castName trivial trivial trivial trivial hname
          exact ⟨rfl, hst⟩

/-- The text of a column expression has a first character, which tells it from a star and from a
bracket. -/
theorem Expr.IsColumn.render_eq_cons {expr : Expr} (h : expr.IsColumn) :
    ∃ c cs, expr.render.toList = c :: cs ∧ c ≠ '*' ∧ c ≠ '(' := by
  cases h with
  | reference hparts =>
      obtain ⟨cs, hcs⟩ := qualified_eq_cons hparts
      exact ⟨backTick, cs, hcs, by decide, by decide⟩
  | @cast parts hparts type =>
      have htext := Expr.toList_cast parts type []
      rw [List.append_nil] at htext
      exact ⟨'S', _, htext, by decide, by decide⟩

/-! ### Conditions -/

/-- What stands in front of the name of a parameter. -/
def Relation.opening : Relation → String
  | .compares operator => comparisonSign operator ++ " @"
  | .isMember => "IN UNNEST(@"
  | .isNoMember => "NOT IN UNNEST(@"

/-- What stands behind the name of a parameter. -/
def Relation.closing : Relation → String
  | .compares _ => ""
  | .isMember => ")"
  | .isNoMember => ")"

theorem Relation.render_eq (relation : Relation) (parameter : String) :
    relation.render parameter = relation.opening ++ (parameter ++ relation.closing) := by
  cases relation with
  | compares operator =>
      have hmark : " @" = " " ++ "@" := rfl
      simp only [render, opening, closing, placeholder, hmark, String.append_empty,
        String.append_assoc]
  | isMember =>
      simp only [render, opening, closing, placeholder, ← String.append_assoc]
      rfl
  | isNoMember =>
      simp only [render, opening, closing, placeholder, ← String.append_assoc]
      rfl

theorem readsApart_opening :
    ReadsApart Relation.opening (fun _ => True) (fun _ => True) := by
  apply readsApart_of_isPrefixOf
  intro a b
  rcases a with (_ | _ | _ | _ | _ | _) | _ | _ <;>
    rcases b with (_ | _ | _ | _ | _ | _) | _ | _ <;> decide

theorem readsApart_name :
    ReadsApart id (fun name => name.toList.all isNameChar = true) EndsName := by
  intro a b s t ha hb hs ht heq
  have hname := takeWhile_name ha hs
  have hother := takeWhile_name hb ht
  simp only [id] at heq
  rw [heq, hother] at hname
  have hab : a = b := String.toList_inj.mp hname.symm
  subst hab
  exact ⟨rfl, List.append_cancel_left heq⟩

/-- A relation of a column to a parameter with a proper name. -/
inductive Condition.IsPlain : Condition → Prop
  | test {subject : Expr} {relation : Relation} {parameter : String} (hsubject : subject.IsColumn)
      (hname : parameter.toList.all isNameChar = true) : IsPlain (.test subject relation parameter)

theorem Condition.readsApart : ReadsApart Condition.render Condition.IsPlain EndsName := by
  have htext : ∀ subject relation parameter rest,
      (Condition.render (.test subject relation parameter)).toList ++ rest =
        subject.render.toList ++ (" ".toList ++ (relation.opening.toList ++
          (parameter.toList ++ (relation.closing.toList ++ rest)))) := by
    intro subject relation parameter rest
    simp only [Condition.render, Relation.render_eq, String.toList_append, List.append_assoc]
  have hclosing : ∀ (relation : Relation) (rest : List Char), EndsName rest →
      EndsName (relation.closing.toList ++ rest) := by
    intro relation rest hrest
    refine EndsName.append ?_ hrest
    intro c hc
    cases relation with
    | compares operator => cases hc
    | isMember =>
        obtain rfl := Option.some.inj hc
        decide
    | isNoMember =>
        obtain rfl := Option.some.inj hc
        decide
  intro a b s t ha hb hs ht heq
  obtain ⟨hsubject, hname⟩ := ha
  obtain ⟨hsubject', hname'⟩ := hb
  rw [htext, htext] at heq
  have hgap : ∀ rest, ¬ ['.'] <+: " ".toList ++ rest := by simp
  obtain ⟨rfl, hrest⟩ := Expr.readsApart hsubject hsubject' (hgap _) (hgap _) heq
  obtain ⟨rfl, hrelation⟩ := readsApart_opening trivial trivial trivial trivial
    (List.append_cancel_left hrest)
  obtain ⟨rfl, hparameter⟩ := readsApart_name hname hname' (hclosing _ _ hs) (hclosing _ _ ht)
    hrelation
  exact ⟨rfl, List.append_cancel_left hparameter⟩

/-! ### Order terms and items -/

theorem readsApart_direction :
    ReadsApart Direction.name (fun _ => True) (fun _ => True) := by
  apply readsApart_of_isPrefixOf
  intro a b
  cases a <;> cases b <;> decide

theorem OrderTerm.readsApart :
    ReadsApart OrderTerm.render (fun term => term.expr.IsColumn) (fun _ => True) := by
  have htext : ∀ (term : OrderTerm) (rest : List Char), term.render.toList ++ rest =
      term.expr.render.toList ++ (" ".toList ++ (term.direction.name.toList ++ rest)) := by
    intro term rest
    simp only [OrderTerm.render, String.toList_append, List.append_assoc]
  rintro ⟨expr, direction⟩ ⟨expr', direction'⟩ s t ha hb _ _ heq
  rw [htext, htext] at heq
  have hgap : ∀ rest, ¬ ['.'] <+: " ".toList ++ rest := by simp
  obtain ⟨hexpr, hrest⟩ := Expr.readsApart ha hb (hgap _) (hgap _) heq
  obtain rfl : expr = expr' := hexpr
  have hdirections := List.append_cancel_left hrest
  obtain ⟨hdirection, hst⟩ := readsApart_direction trivial trivial trivial trivial hdirections
  obtain rfl : direction = direction' := hdirection
  exact ⟨rfl, hst⟩

/-- An item that is a column expression without a name of its own. -/
inductive SelectItem.IsColumn : SelectItem → Prop
  | plain {expr : Expr} (h : expr.IsColumn) : IsColumn (.plain expr)

theorem SelectItem.readsApart :
    ReadsApart SelectItem.render SelectItem.IsColumn (fun rest => ¬ ['.'] <+: rest) := by
  intro a b s t ha hb hs ht heq
  obtain ⟨hexpr⟩ := ha
  obtain ⟨hexpr'⟩ := hb
  obtain ⟨rfl, hst⟩ := Expr.readsApart hexpr hexpr' hs ht heq
  exact ⟨rfl, hst⟩

/-! ### Statements -/

namespace Statement

/-- A text that may follow the conditions of a statement. -/
def FollowsWhere (rest : List Char) : Prop :=
  rest = [] ∨ " ORDER BY ".toList <+: rest ∨ " LIMIT ".toList <+: rest

/-- A text that may follow the order of a statement. -/
def FollowsOrder (rest : List Char) : Prop :=
  rest = [] ∨ " LIMIT ".toList <+: rest

theorem FollowsWhere.gap {rest : List Char} (h : FollowsWhere rest) :
    EndsName rest ∧ ¬ " WHERE ".toList <+: rest ∧ ¬ ") AND (".toList <+: ")".toList ++ rest := by
  rcases h with rfl | ⟨more, rfl⟩ | ⟨more, rfl⟩ <;> simp [EndsName, isNameChar]

theorem FollowsOrder.gap {rest : List Char} (h : FollowsOrder rest) :
    ¬ " ORDER BY ".toList <+: rest ∧ ¬ ", ".toList <+: rest := by
  rcases h with rfl | ⟨more, rfl⟩ <;> simp

theorem followsOrder_limitText (limit : Option Nat) : FollowsOrder (limitText limit).toList := by
  cases limit with
  | none => exact .inl rfl
  | some rows =>
      refine .inr ?_
      rw [limitText, String.toList_append]
      exact List.prefix_append _ _

theorem followsWhere_orderText (terms : List OrderTerm) {rest : List Char}
    (h : FollowsOrder rest) : FollowsWhere ((orderText terms).toList ++ rest) := by
  cases terms with
  | nil => exact h.imp_right .inr
  | cons term others =>
      refine .inr (.inl ?_)
      rw [orderText, String.toList_append, List.append_assoc]
      · exact List.prefix_append _ _
      · simp

theorem selectText_of_ne_nil {items : List SelectItem} (h : items ≠ []) :
    selectText items = String.intercalate ", " (items.map SelectItem.render) := by
  cases items with
  | nil => exact absurd rfl h
  | cons item others => rfl

/-- The text of a list of columns does not begin with a star. -/
theorem star_ne_selectText {items : List SelectItem} (hne : items ≠ [])
    (h : ∀ item ∈ items, item.IsColumn) (s t : List Char) :
    (selectText [.everything]).toList ++ s ≠ (selectText items).toList ++ t := by
  obtain ⟨item, others, rfl⟩ := List.exists_cons_of_ne_nil hne
  obtain ⟨hcolumn⟩ := h item List.mem_cons_self
  obtain ⟨c, cs, hcs, hstar, -⟩ := hcolumn.render_eq_cons
  obtain ⟨more, hmore⟩ := toList_intercalate_cons ", " (SelectItem.render (.plain _))
    (others.map SelectItem.render)
  rw [selectText_of_ne_nil hne, List.map_cons, hmore, SelectItem.render, hcs]
  intro heq
  exact hstar (List.cons.inj heq).1.symm

theorem readsApart_selectText :
    ReadsApart selectText
      (fun items => items = [.everything] ∨ (items ≠ [] ∧ ∀ item ∈ items, item.IsColumn))
      (fun rest => ¬ ['.'] <+: rest ∧ ¬ ", ".toList <+: rest) := by
  intro items others s t hitems hothers hs ht heq
  rcases hitems with rfl | ⟨hne, hcolumns⟩
  · rcases hothers with rfl | ⟨hne', hcolumns'⟩
    · exact ⟨rfl, List.append_cancel_left heq⟩
    · exact absurd heq (star_ne_selectText hne' hcolumns' s t)
  · rcases hothers with rfl | ⟨hne', hcolumns'⟩
    · exact absurd heq.symm (star_ne_selectText hne hcolumns t s)
    · rw [selectText_of_ne_nil hne, selectText_of_ne_nil hne'] at heq
      have hgap : ∀ rest, ¬ ['.'] <+: ", ".toList ++ rest := by simp
      exact SelectItem.readsApart.intercalate ", " hgap ⟨hne, hcolumns⟩ ⟨hne', hcolumns'⟩ hs ht heq

theorem toList_whereText_one (condition : Condition) :
    (whereText [condition]).toList = " WHERE ".toList ++ condition.render.toList := by
  rw [whereText, String.toList_append]

theorem toList_whereText_several (first second : Condition) (others : List Condition) :
    (whereText (first :: second :: others)).toList = " WHERE ".toList ++
      '(' :: ((String.intercalate ") AND ("
        ((first :: second :: others).map Condition.render)).toList ++ ")".toList) := by
  show (" WHERE (" ++ _ ++ ")").toList = _
  simp only [String.toList_append]
  rfl

theorem whereText_eq_append {conditions : List Condition} (h : conditions ≠ []) :
    ∃ more, (whereText conditions).toList = " WHERE ".toList ++ more := by
  match conditions with
  | [] => exact absurd rfl h
  | [condition] => exact ⟨_, toList_whereText_one condition⟩
  | first :: second :: others => exact ⟨_, toList_whereText_several first second others⟩

/-- Without conditions nothing stands between the source and what follows. -/
theorem nil_ne_whereText {conditions : List Condition} (h : conditions ≠ []) {s : List Char}
    (hs : FollowsWhere s) (t : List Char) :
    (whereText []).toList ++ s ≠ (whereText conditions).toList ++ t := by
  obtain ⟨more, hmore⟩ := whereText_eq_append h
  rw [hmore, List.append_assoc]
  intro heq
  have hprefix : " WHERE ".toList <+: s := ⟨more ++ t, heq.symm⟩
  exact hs.gap.2.1 hprefix

/-- A bare condition is told from several conditions by its first character. -/
theorem one_ne_several {condition : Condition} (h : condition.IsPlain) (first second : Condition)
    (others : List Condition) (s t : List Char) :
    (whereText [condition]).toList ++ s ≠
      (whereText (first :: second :: others)).toList ++ t := by
  obtain ⟨hsubject, -⟩ := h
  obtain ⟨c, cs, hcs, -, hbracket⟩ := hsubject.render_eq_cons
  rw [toList_whereText_one, toList_whereText_several, Condition.render, String.append_assoc,
    String.toList_append, hcs, List.append_assoc, List.append_assoc]
  intro heq
  exact hbracket (List.cons.inj (List.append_cancel_left heq)).1

theorem readsApart_whereText :
    ReadsApart whereText (fun conditions => ∀ condition ∈ conditions, condition.IsPlain)
      FollowsWhere := by
  intro conditions others s t hc ho hs ht heq
  match conditions, others with
  | [], [] => exact ⟨rfl, heq⟩
  | [], _ :: _ => exact absurd heq (nil_ne_whereText (List.cons_ne_nil _ _) hs t)
  | _ :: _, [] => exact absurd heq.symm (nil_ne_whereText (List.cons_ne_nil _ _) ht s)
  | [a], [b] =>
      rw [toList_whereText_one, toList_whereText_one, List.append_assoc, List.append_assoc] at heq
      obtain ⟨rfl, hst⟩ := Condition.readsApart (hc a List.mem_cons_self) (ho b List.mem_cons_self)
        hs.gap.1 ht.gap.1 (List.append_cancel_left heq)
      exact ⟨rfl, hst⟩
  | [a], b :: c :: cs =>
      exact absurd heq (one_ne_several (hc a List.mem_cons_self) b c cs s t)
  | a :: b :: bs, [c] =>
      exact absurd heq.symm (one_ne_several (ho c List.mem_cons_self) a b bs t s)
  | a :: b :: bs, c :: d :: ds =>
      simp only [toList_whereText_several, List.append_assoc, List.cons_append] at heq
      have hlists := (List.cons.inj (List.append_cancel_left heq)).2
      have hends : ∀ (cs : List Char), EndsName (')' :: cs) := by
        intro cs e he
        obtain rfl := Option.some.inj he
        decide
      obtain ⟨hitems, hrest⟩ := Condition.readsApart.intercalate ") AND (" (fun _ => hends _)
        ⟨List.cons_ne_nil a _, hc⟩ ⟨List.cons_ne_nil c _, ho⟩ ⟨hends _, hs.gap.2.2⟩
        ⟨hends _, ht.gap.2.2⟩ hlists
      exact ⟨hitems, (List.cons.inj hrest).2⟩

theorem orderText_cons (term : OrderTerm) (others : List OrderTerm) :
    (orderText (term :: others)).toList = " ORDER BY ".toList ++
      (String.intercalate ", " ((term :: others).map OrderTerm.render)).toList := by
  show (" ORDER BY " ++ _).toList = _
  rw [String.toList_append]

theorem nil_ne_orderText (term : OrderTerm) (others : List OrderTerm) {s : List Char}
    (hs : FollowsOrder s) (t : List Char) :
    (orderText []).toList ++ s ≠ (orderText (term :: others)).toList ++ t := by
  rw [orderText_cons, List.append_assoc]
  intro heq
  have hprefix : " ORDER BY ".toList <+: s := ⟨_, heq.symm⟩
  exact hs.gap.1 hprefix

theorem readsApart_orderText :
    ReadsApart orderText (fun terms => ∀ term ∈ terms, term.expr.IsColumn) FollowsOrder := by
  intro terms others s t hterms hothers hs ht heq
  match terms, others with
  | [], [] => exact ⟨rfl, heq⟩
  | [], b :: bs => exact absurd heq (nil_ne_orderText b bs hs t)
  | a :: as, [] => exact absurd heq.symm (nil_ne_orderText a as ht s)
  | a :: as, b :: bs =>
      rw [orderText_cons, orderText_cons, List.append_assoc, List.append_assoc] at heq
      exact OrderTerm.readsApart.intercalate ", " (fun _ => trivial)
        ⟨List.cons_ne_nil a as, hterms⟩ ⟨List.cons_ne_nil b bs, hothers⟩ ⟨trivial, hs.gap.2⟩
        ⟨trivial, ht.gap.2⟩ (List.append_cancel_left heq)

theorem toList_limitText_injective {limit other : Option Nat}
    (h : (limitText limit).toList = (limitText other).toList) : limit = other := by
  have hsome : ∀ rows : Nat,
      (limitText (some rows)).toList = " LIMIT ".toList ++ rows.repr.toList := by
    intro rows
    rw [limitText, String.toList_append]
  cases limit with
  | none =>
      cases other with
      | none => rfl
      | some rows =>
          rw [hsome] at h
          cases h
  | some rows =>
      cases other with
      | none =>
          rw [hsome] at h
          cases h
      | some rows' =>
          rw [hsome, hsome] at h
          have hrows := congrArg Numeral.ofDigits (List.append_cancel_left h)
          rw [Numeral.ofDigits_repr, Numeral.ofDigits_repr] at hrows
          rw [hrows]

/-- A statement that selects columns of its source, without excerpts and raw parts. -/
structure IsPlain (statement : Statement) : Prop where
  select : statement.select = [.everything] ∨
    (statement.select ≠ [] ∧ ∀ item ∈ statement.select, item.IsColumn)
  source : ∃ parts, parts ≠ [] ∧ statement.source = .reference parts
  conditions : ∀ condition ∈ statement.conditions, condition.IsPlain
  order : ∀ term ∈ statement.order, term.expr.IsColumn

/-- The text of a plain statement determines the statement. -/
theorem render_injective {first second : Statement} (hf : first.IsPlain) (hs : second.IsPlain)
    (h : first.render = second.render) : first = second := by
  obtain ⟨select, source, conditions, order, limit⟩ := first
  obtain ⟨select', source', conditions', order', limit'⟩ := second
  obtain ⟨parts, hparts, rfl⟩ := hf.source
  obtain ⟨parts', hparts', rfl⟩ := hs.source
  have htext : ∀ (statement : Statement), statement.render.toList =
      "SELECT ".toList ++ ((selectText statement.select).toList ++ (" FROM ".toList ++
        (statement.source.render.toList ++ ((whereText statement.conditions).toList ++
          ((orderText statement.order).toList ++ (limitText statement.limit).toList))))) := by
    intro statement
    simp only [render, String.toList_append, List.append_assoc]
  have hchars := congrArg String.toList h
  rw [htext, htext] at hchars
  have hfrom : ∀ rest, ¬ ['.'] <+: " FROM ".toList ++ rest ∧
      ¬ ", ".toList <+: " FROM ".toList ++ rest := by simp
  have hend : ∀ (terms : List OrderTerm) (rows : Option Nat),
      FollowsWhere ((orderText terms).toList ++ (limitText rows).toList) :=
    fun terms rows => followsWhere_orderText terms (followsOrder_limitText rows)
  have hdot : ∀ (tests : List Condition) (rest : List Char), FollowsWhere rest →
      ¬ ['.'] <+: (whereText tests).toList ++ rest := by
    intro tests rest hrest
    cases tests with
    | nil => rcases hrest with rfl | ⟨more, rfl⟩ | ⟨more, rfl⟩ <;> simp [whereText]
    | cons test others =>
        obtain ⟨more, hmore⟩ := whereText_eq_append (List.cons_ne_nil test others)
        simp [hmore]
  -- The pieces are read from the front to the end, each with what may follow it.
  obtain ⟨hselect, hafterSelect⟩ := readsApart_selectText hf.select hs.select (hfrom _) (hfrom _)
    (List.append_cancel_left hchars)
  obtain ⟨hsource, hafterSource⟩ := readsApart_qualified hparts hparts' (hdot _ _ (hend _ _))
    (hdot _ _ (hend _ _)) (List.append_cancel_left hafterSelect)
  obtain ⟨hconditions, hafterWhere⟩ := readsApart_whereText hf.conditions hs.conditions (hend _ _)
    (hend _ _) hafterSource
  obtain ⟨horder, hafterOrder⟩ := readsApart_orderText hf.order hs.order
    (followsOrder_limitText _) (followsOrder_limitText _) hafterWhere
  obtain rfl : select = select' := hselect
  obtain rfl : parts = parts' := hsource
  obtain rfl : conditions = conditions' := hconditions
  obtain rfl : order = order' := horder
  obtain rfl : limit = limit' := toList_limitText_injective hafterOrder
  rfl

end Statement
end TableExport.Sql
