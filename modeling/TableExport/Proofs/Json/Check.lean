import Mathlib.Data.List.Forall2
import TableExport.Bindings
import TableExport.Json.Check

/-! # What checks accept and reject

Facts about checks, each built up the way the checks themselves are.  A check accepts an object
whose members stand in any order, with some of those left out that have their default
(`Arranges.required`, `Arranges.optional`, `Arranges.record`), and what it accepts as a whole it has
accepted in every part (`Checked.combine_eq_accepted`).  A check that rejects a value names at least
one problem (`Checked.Founded`), so that a rejection never comes without a reason.  And a problem of
a part is a problem of the whole (`Checked.Reports`). -/

namespace TableExport.Json

variable {α β : Type}

/-! ### Accepted objects -/

/-- Members in any order, each name once, with some of those left out that are defaults. -/
structure Arranges (defaults full members : Check.Members) : Prop where
  nodup_keys : (Entries.keys members).Nodup
  subset : ∀ entry ∈ members, entry ∈ full
  complete : ∀ entry ∈ full, entry ∈ members ∨ entry ∈ defaults

namespace Arranges

variable {defaults full members : Check.Members}

/-- All members in their order, none of them left out. -/
theorem self (h : (Entries.keys full).Nodup) : Arranges defaults full full :=
  ⟨h, fun _ hentry => hentry, fun _ hentry => .inl hentry⟩

/-- A member is found under its name or left out. -/
theorem lookup (h : Arranges defaults full members) (hnames : (Entries.keys full).Nodup)
    {name : String} {value : Value} (hmem : (name, value) ∈ full) :
    members.lookup name = some value ∨ members.lookup name = none ∧ (name, value) ∈ defaults := by
  by_cases hkey : name ∈ Entries.keys members
  · obtain ⟨entry, hentry, hname⟩ := List.mem_map.mp hkey
    obtain ⟨key, held⟩ := entry
    have hheld : held = value := by
      have hfound := Entries.get?_of_mem hnames (h.subset _ hentry)
      rw [show key = name from hname, Entries.get?_of_mem hnames hmem] at hfound
      exact (Option.some.inj hfound).symm
    have hname : key = name := hname
    subst hname hheld
    exact .inl (Entries.get?_of_mem h.nodup_keys hentry)
  · refine .inr ⟨Entries.get?_eq_none_of_not_mem hkey, ?_⟩
    apply (h.complete _ hmem).resolve_left
    intro hmember
    exact hkey (List.mem_map_of_mem hmember)

theorem required (h : Arranges defaults full members) (hnames : (Entries.keys full).Nodup)
    {name : String} (value : Value) {check : Value → Checked α} {a : α}
    (hmem : (name, value) ∈ full) (hcheck : check value = .accepted a)
    (hdefault : (name, value) ∉ defaults) :
    Check.required name check members = .accepted a := by
  have hlookup : members.lookup name = some value := by
    apply (h.lookup hnames hmem).resolve_right
    intro hout
    exact hdefault hout.2
  rw [Check.required, hlookup]
  simp [hcheck, Checked.under]

theorem optional (h : Arranges defaults full members) (hnames : (Entries.keys full).Nodup)
    {name : String} (value : Value) {check : Value → Checked α} {a fallback : α}
    (hmem : (name, value) ∈ full) (hcheck : check value = .accepted a)
    (hdefault : (name, value) ∈ defaults → a = fallback) :
    Check.optional name fallback check members = .accepted a := by
  rcases h.lookup hnames hmem with hlookup | ⟨hlookup, hout⟩
  · rw [Check.optional, hlookup]
    simp [hcheck, Checked.under]
  · rw [Check.optional, hlookup, hdefault hout]

/-- An alternative is found under its name. -/
theorem optionalChoice (h : Arranges defaults full members) (hnames : (Entries.keys full).Nodup)
    {name : String} {names : List (String × α)} {nameOf : α → String}
    (hlookup : ∀ a, names.lookup (nameOf a) = some a) {a fallback : α}
    (hmem : (name, .text (nameOf a)) ∈ full)
    (hdefault : (name, .text (nameOf a)) ∈ defaults → nameOf a = nameOf fallback) :
    Check.optional name fallback (Check.choice names) members = .accepted a := by
  apply h.optional hnames (.text (nameOf a)) hmem
  · simp only [Check.choice, hlookup a]
  · intro hout
    have hsame := hlookup a
    rw [hdefault hout, hlookup fallback] at hsame
    exact (Option.some.inj hsame).symm

theorem record (h : Arranges defaults full members) {model : String} {names : List String}
    {check : Check.Members → Checked α} {a : α} (hknown : ∀ entry ∈ full, entry.1 ∈ names)
    (hcheck : check members = .accepted a) :
    Check.record model names check (.object members) = .accepted a := by
  have hnone : members.filter (fun member => !names.contains member.1) = [] := by
    rw [List.filter_eq_nil_iff]
    intro entry hentry
    simp [hknown entry (h.subset entry hentry)]
  have honly : Check.onlyNames names members = .accepted () := by
    rw [Check.onlyNames, hnone]
    rfl
  simp [Check.record, hcheck, honly, Checked.map, Checked.combine]

end Arranges

/-- A list passes if its elements pass. -/
theorem listOf_accepted {check : Value → Checked α} {as : List α} {items : List Value}
    (h : List.Forall₂ (fun a item => check item = .accepted a) as items) :
    Check.listOf check (.list items) = .accepted as := by
  have hall : ∀ position, Checked.allFrom position (items.map check) = .accepted as := by
    induction h with
    | nil =>
        intro position
        rfl
    | cons hitem _ ih =>
        intro position
        rw [List.map_cons, Checked.allFrom, hitem, ih (position + 1)]
        rfl
  exact hall 0

/-! ### Accepted parts -/

theorem Checked.map_eq_accepted {f : α → β} {outcome : Checked α} {b : β}
    (h : outcome.map f = .accepted b) : ∃ a, outcome = .accepted a ∧ f a = b := by
  cases outcome with
  | accepted a => exact ⟨a, rfl, accepted.inj h⟩
  | rejected problems => cases h

theorem Checked.combine_eq_accepted {first : Checked (α → β)} {second : Checked α} {b : β}
    (h : first.combine second = .accepted b) :
    ∃ f a, first = .accepted f ∧ second = .accepted a ∧ f a = b := by
  cases first with
  | rejected problems => cases second <;> cases h
  | accepted f =>
      cases second with
      | rejected problems => cases h
      | accepted a => exact ⟨f, a, rfl, rfl, accepted.inj h⟩

theorem Checked.under_eq_accepted {segment : Segment} {outcome : Checked α} {a : α}
    (h : outcome.under segment = .accepted a) : outcome = .accepted a := by
  cases outcome with
  | accepted b => exact h
  | rejected problems => cases h

theorem required_eq_accepted {name : String} {check : Value → Checked α} {members : Check.Members}
    {a : α} (h : Check.required name check members = .accepted a) :
    ∃ value, members.lookup name = some value ∧ check value = .accepted a := by
  unfold Check.required at h
  cases hlookup : members.lookup name with
  | none =>
      rw [hlookup] at h
      cases h
  | some value =>
      rw [hlookup] at h
      exact ⟨value, rfl, Checked.under_eq_accepted h⟩

theorem exists_of_mem_of_forall₂ {R : α → β → Prop} {as : List α} {bs : List β}
    (h : List.Forall₂ R as bs) : ∀ a ∈ as, ∃ b ∈ bs, R a b := by
  induction h with
  | nil => nofun
  | @cons a b as bs hhead _ ih =>
      intro a' hmem
      rcases List.mem_cons.mp hmem with rfl | hrest
      · exact ⟨b, List.mem_cons_self, hhead⟩
      · obtain ⟨b', hb', hrelated⟩ := ih a' hrest
        exact ⟨b', List.mem_cons_of_mem b hb', hrelated⟩

/-- An accepted list consists of accepted elements, in order. -/
theorem forall₂_of_listOf {check : Value → Checked α} {value : Value} {as : List α}
    (h : Check.listOf check value = .accepted as) :
    ∃ items, value = .list items ∧
      List.Forall₂ (fun item a => check item = .accepted a) items as := by
  have hall : ∀ (items : List Value) position as,
      Checked.allFrom position (items.map check) = .accepted as →
      List.Forall₂ (fun item a => check item = .accepted a) items as := by
    intro items
    induction items with
    | nil =>
        intro position as h
        obtain rfl := Checked.accepted.inj h
        exact .nil
    | cons item rest ih =>
        intro position as h
        obtain ⟨f, others, hfirst, hothers, rfl⟩ := Checked.combine_eq_accepted h
        obtain ⟨head, hhead, rfl⟩ := Checked.map_eq_accepted hfirst
        exact .cons (Checked.under_eq_accepted hhead) (ih (position + 1) others hothers)
  cases value with
  | list items => exact ⟨items, rfl, hall items 0 as h⟩
  | _ => cases h

/-- An accepted alternative is given by one of its names. -/
theorem choice_eq_accepted {names : List (String × α)} {value : Value} {a : α}
    (h : Check.choice names value = .accepted a) :
    ∃ name, value = .text name ∧ names.lookup name = some a := by
  cases value with
  | text name =>
      rw [Check.choice] at h
      cases hlookup : names.lookup name with
      | none =>
          rw [hlookup] at h
          cases h
      | some found =>
          rw [hlookup] at h
          obtain rfl := Checked.accepted.inj h
          exact ⟨name, rfl, hlookup⟩
  | _ => cases h

theorem record_eq_accepted {model : String} {names : List String}
    {check : Check.Members → Checked α} {value : Value} {a : α}
    (h : Check.record model names check value = .accepted a) :
    ∃ members, value = .object members ∧ check members = .accepted a := by
  cases value with
  | object members =>
      obtain ⟨f, _, hfirst, -, rfl⟩ := Checked.combine_eq_accepted h
      obtain ⟨a, hcheck, rfl⟩ := Checked.map_eq_accepted hfirst
      exact ⟨members, rfl, hcheck⟩
  | _ => cases h

/-! ### Reasons for rejections -/

/-- A rejection names at least one problem. -/
def Checked.Founded (outcome : Checked α) : Prop :=
  ∀ problems, outcome = .rejected problems → problems ≠ []

namespace Checked.Founded

theorem accepted (a : α) : (Checked.accepted a).Founded := by
  intro problems h
  cases h

theorem reject (mismatch : Mismatch) : (Checked.reject mismatch : Checked α).Founded := by
  intro problems h
  cases h
  simp

theorem map {outcome : Checked α} (h : outcome.Founded) (f : α → β) : (outcome.map f).Founded := by
  cases outcome with
  | accepted a => exact accepted (f a)
  | rejected problems =>
      intro problems' h'
      cases h'
      exact h problems rfl

theorem combine {first : Checked (α → β)} {second : Checked α} (hfirst : first.Founded)
    (hsecond : second.Founded) : (first.combine second).Founded := by
  cases first with
  | accepted f =>
      cases second with
      | accepted a => exact accepted (f a)
      | rejected problems =>
          intro problems' h
          cases h
          exact hsecond problems rfl
  | rejected problems =>
      have hsome := hfirst problems rfl
      cases second with
      | accepted a =>
          intro problems' h
          cases h
          exact hsome
      | rejected more =>
          intro problems' h
          cases h
          simp [hsome]

theorem under {outcome : Checked α} (h : outcome.Founded) (segment : Segment) :
    (outcome.under segment).Founded := by
  cases outcome with
  | accepted a => exact accepted a
  | rejected problems =>
      intro problems' h'
      cases h'
      simpa using h problems rfl

theorem allFrom {outcomes : List (Checked α)} (h : ∀ outcome ∈ outcomes, outcome.Founded) :
    ∀ position, (Checked.allFrom position outcomes).Founded := by
  induction outcomes with
  | nil =>
      intro position
      exact accepted []
  | cons outcome rest ih =>
      intro position
      apply combine
      · exact (((h outcome List.mem_cons_self).under _).map _)
      · exact ih (fun other hother => h other (List.mem_cons_of_mem _ hother)) (position + 1)

theorem listOf {check : Value → Checked α} (h : ∀ value, (check value).Founded) (value : Value) :
    (Check.listOf check value).Founded := by
  cases value with
  | list items =>
      apply allFrom
      intro outcome houtcome
      obtain ⟨item, -, rfl⟩ := List.mem_map.mp houtcome
      exact h item
  | _ => exact reject .notAList

theorem required {check : Value → Checked α} (h : ∀ value, (check value).Founded) (name : String)
    (members : Check.Members) : (Check.required name check members).Founded := by
  unfold Check.required
  split
  · exact (h _).under _
  · exact (reject .missing).under _

theorem optional {check : Value → Checked α} (h : ∀ value, (check value).Founded) (name : String)
    (fallback : α) (members : Check.Members) :
    (Check.optional name fallback check members).Founded := by
  unfold Check.optional
  split
  · exact (h _).under _
  · exact accepted fallback

theorem onlyNames (names : List String) (members : Check.Members) :
    (Check.onlyNames names members).Founded := by
  unfold Check.onlyNames
  dsimp only
  split
  · exact accepted ()
  · next hsome =>
      intro problems h
      cases h
      simpa [List.isEmpty_iff] using hsome

theorem record {check : Check.Members → Checked α} (h : ∀ members, (check members).Founded)
    (model : String) (names : List String) (value : Value) :
    (Check.record model names check value).Founded := by
  cases value with
  | object members => exact ((h members).map _).combine (onlyNames names members)
  | _ => exact reject (.notAnObject model)

theorem text (value : Value) : (Check.text value).Founded := by
  cases value with
  | text text => exact accepted text
  | _ => exact reject .notText

theorem optionalText (value : Value) : (Check.optionalText value).Founded := by
  unfold Check.optionalText
  split
  · exact accepted none
  · exact (text _).map some

theorem choice (names : List (String × α)) (value : Value) :
    (Check.choice names value).Founded := by
  unfold Check.choice
  split
  · split
    · exact accepted _
    · exact reject _
  · exact reject _

theorem truthValue (value : Value) : (Check.truthValue value).Founded := by
  unfold Check.truthValue
  repeat' split
  all_goals first | exact accepted _ | exact reject _

theorem integer (value : Value) : (Check.integer value).Founded := by
  unfold Check.integer
  repeat' split
  all_goals first | exact accepted _ | exact reject _

end Checked.Founded

theorem Problem.inPathOrder_ne_nil {problems : List Problem} (h : problems ≠ []) :
    Problem.inPathOrder problems ≠ [] := by
  intro hnil
  have hperm := Problem.inPathOrder_perm problems
  rw [hnil] at hperm
  exact h hperm.nil_eq.symm

/-! ### Problems of parts -/

/-- A problem is among those for which a value is rejected. -/
def Checked.Reports (outcome : Checked α) (problem : Problem) : Prop :=
  ∃ problems, outcome = .rejected problems ∧ problem ∈ problems

namespace Checked.Reports

variable {problem : Problem}

theorem map {outcome : Checked α} (h : outcome.Reports problem) (f : α → β) :
    (outcome.map f).Reports problem := by
  obtain ⟨problems, rfl, hmem⟩ := h
  exact ⟨problems, rfl, hmem⟩

theorem combine_left {first : Checked (α → β)} (h : first.Reports problem) (second : Checked α) :
    (first.combine second).Reports problem := by
  obtain ⟨problems, rfl, hmem⟩ := h
  cases second with
  | accepted a => exact ⟨problems, rfl, hmem⟩
  | rejected more => exact ⟨problems ++ more, rfl, List.mem_append_left more hmem⟩

theorem combine_right (first : Checked (α → β)) {second : Checked α} (h : second.Reports problem) :
    (first.combine second).Reports problem := by
  obtain ⟨problems, rfl, hmem⟩ := h
  cases first with
  | accepted f => exact ⟨problems, rfl, hmem⟩
  | rejected more => exact ⟨more ++ problems, rfl, List.mem_append_right more hmem⟩

/-- A mismatch in a member is reported under the name of the member. -/
theorem required {name : String} {check : Value → Checked α} {members : Check.Members}
    {value : Value} {mismatch : Mismatch} (hlookup : members.lookup name = some value)
    (h : check value = .reject mismatch) :
    (Check.required name check members).Reports ⟨[.name name], mismatch⟩ := by
  simp only [Check.required, hlookup, h]
  exact ⟨_, rfl, List.mem_singleton_self _⟩

end Checked.Reports
end TableExport.Json
