import TableExport.Proofs.Table.Reading

/-! # Spellings of a type

Texts of the same stem, up to the case of ASCII letters, name the same type and class, because the
bare name is the stem in capitals (`TypeName.SameStem`).  In the JSON data of a column that leaves
the class open, one can stand for the other (`Column.ofJson?_put_type`). -/

namespace TableExport

namespace TypeName

/-- The stems of the texts differ in the case of ASCII letters at most. -/
def SameStem (text other : String) : Prop :=
  (stem text).map Char.toUpper = (stem other).map Char.toUpper

variable {text other : String}

theorem SameStem.bare_eq (h : SameStem text other) : bare text = bare other := by
  rw [TypeName.bare_eq, TypeName.bare_eq, head_eq, head_eq, Text.upper_eq_of_toUpper h]

theorem SameStem.ofTypeName_eq (h : SameStem text other) :
    BaseType.ofTypeName text = BaseType.ofTypeName other := by
  rw [BaseType.ofTypeName, h.bare_eq, BaseType.ofTypeName]

end TypeName

/-! ### Reading a column -/

namespace Column

open Json (Check.Members Checked Value)

theorem lookup_put_type (type : Value) (members : Check.Members) (name : String) :
    (Entries.put "type" type members).lookup name =
      if name = "type" then some type else members.lookup name :=
  Entries.get?_put "type" name type members

/-- Another type does not change which members are unknown. -/
theorem onlyNames_put_type (type : Value) (members : Check.Members) :
    Json.Check.onlyNames memberNames (Entries.put "type" type members) =
      Json.Check.onlyNames memberNames members := by
  have hfilter : (Entries.put "type" type members).filter
      (fun member => !memberNames.contains member.1) =
        members.filter fun member => !memberNames.contains member.1 := by
    induction members with
    | nil => rfl
    | cons member rest ih =>
        by_cases hname : member.1 = "type"
        · rw [Entries.put, if_pos hname, List.filter_cons, List.filter_cons, hname]
          rfl
        · rw [Entries.put, if_neg hname, List.filter_cons, List.filter_cons, ih]
  simp only [Json.Check.onlyNames, hfilter]

/-- The column that members describe if the type is a given text and the class is left open. -/
theorem checkMembers_put_type {members : Check.Members} (hopen : leavesBaseOpen members = true)
    (text : String) :
    checkMembers (Entries.put "type" (.text text) members) =
      Column.mk
        <$> Json.Check.required "name" Json.Check.text members
        <*> Checked.accepted (TypeName.bare text)
        <*> Checked.accepted (BaseType.ofTypeName text)
        <*> Json.Check.optional "nullable" true Json.Check.truthValue members := by
  have hother : ∀ name, name ≠ "type" →
      (Entries.put "type" (.text text) members).lookup name = members.lookup name := by
    intro name hname
    rw [lookup_put_type, if_neg hname]
  have htype : (Entries.put "type" (.text text) members).lookup "type" = some (.text text) := by
    rw [lookup_put_type, if_pos rfl]
  have hopen' : leavesBaseOpen (Entries.put "type" (.text text) members) = true := by
    rw [leavesBaseOpen, hother "base_type" (by decide)]
    exact hopen
  rw [checkMembers, checkBase, hopen', htype, Json.Check.required, hother "name" (by decide),
    Json.Check.required, htype, Json.Check.optional, hother "nullable" (by decide)]
  rfl

/-- Texts of the same stem are read alike: as the same column, or with the same faults. -/
theorem ofJson?_put_type {text other : String} (h : TypeName.SameStem text other)
    {members : Check.Members} (hopen : leavesBaseOpen members = true) :
    ofJson? (.object (Entries.put "type" (.text text) members)) =
      ofJson? (.object (Entries.put "type" (.text other) members)) := by
  have hforeign : ∀ text : String,
      foreignType? (.object (Entries.put "type" (.text text) members)) = none := by
    intro text
    rw [foreignType?, lookup_put_type, if_pos rfl]
    exact ite_self none
  rw [ofJson?, hforeign, ofJson?, hforeign]
  dsimp only
  rw [check, Json.Check.record, Json.Check.record, checkMembers_put_type hopen,
    checkMembers_put_type hopen, h.bare_eq, h.ofTypeName_eq, onlyNames_put_type,
    onlyNames_put_type]

end Column
end TableExport
