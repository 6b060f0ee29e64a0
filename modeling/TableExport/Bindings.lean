/-! # Bindings in order of arrival

A finite map from names to values that remembers in which order its names arrived.  Binding a name
again replaces its value and keeps its place.

Main statements, for the list of entries behind the map: putting an entry keeps every other entry
(`get?_put`), keeps the names and their order when the name is bound already, and adds the name at
the end otherwise (`keys_put`). -/

namespace TableExport

namespace Entries

variable {α : Type}

/-- The names of a list of entries. -/
def keys (entries : List (String × α)) : List String :=
  entries.map Prod.fst

/-- The value of the first entry with a name. -/
def get? (entries : List (String × α)) (name : String) : Option α :=
  entries.lookup name

/-- The entries after binding a name: in its old place, or at the end if it is new. -/
def put (name : String) (value : α) : List (String × α) → List (String × α)
  | [] => [(name, value)]
  | entry :: rest =>
      if entry.1 = name then (name, value) :: rest else entry :: put name value rest

/-- The entries that result from binding the pairs of a list one after the other. -/
def ofPairs (pairs : List (String × α)) : List (String × α) :=
  pairs.foldl (fun entries pair => put pair.1 pair.2 entries) []

theorem keys_put (name : String) (value : α) (entries : List (String × α)) :
    keys (put name value entries) =
      if name ∈ keys entries then keys entries else keys entries ++ [name] := by
  induction entries with
  | nil => simp [keys, put]
  | cons entry rest ih =>
      by_cases h : entry.1 = name
      · simp [keys, put, h]
      · have h' : ¬ name = entry.1 := fun e => h e.symm
        by_cases hm : name ∈ rest.map Prod.fst <;> simp_all [keys, put]

theorem get?_put (name other : String) (value : α) (entries : List (String × α)) :
    get? (put name value entries) other =
      if other = name then some value else get? entries other := by
  induction entries with
  | nil =>
      by_cases h : other = name
      · simp [get?, put, h]
      · have hb : (other == name) = false := by simpa using h
        simp [get?, put, List.lookup_cons, h, hb]
  | cons entry rest ih =>
      obtain ⟨key, held⟩ := entry
      unfold get? at ih ⊢
      by_cases hk : key = name
      · subst hk
        by_cases ho : other = key
        · simp [put, ho]
        · have hb : (other == key) = false := by simpa using ho
          simp [put, List.lookup_cons, ho, hb]
      · by_cases ho : other = key
        · have hn : ¬ other = name := fun e => hk (ho ▸ e)
          simp [put, hk, ho]
        · have hb : (other == key) = false := by simpa using ho
          simp only [put, if_neg hk, List.lookup_cons, hb]
          exact ih

/-- A new name is added at the end. -/
theorem put_of_not_mem {name : String} {entries : List (String × α)} (h : name ∉ keys entries)
    (value : α) : put name value entries = entries ++ [(name, value)] := by
  induction entries with
  | nil => rfl
  | cons entry rest ih =>
      obtain ⟨hne, hrest⟩ : name ≠ entry.1 ∧ name ∉ keys rest := by simpa [keys] using h
      rw [put, if_neg (Ne.symm hne), ih hrest, List.cons_append]

theorem exists_get?_of_mem {name : String} {entries : List (String × α)} (h : name ∈ keys entries) :
    ∃ value, get? entries name = some value := by
  induction entries with
  | nil => cases h
  | cons entry rest ih =>
      obtain ⟨key, held⟩ := entry
      unfold get? at ih ⊢
      by_cases hkey : name = key
      · exact ⟨held, by simp [hkey]⟩
      · have hrest : name ∈ keys rest := by simpa [keys, hkey] using h
        obtain ⟨value, hvalue⟩ := ih hrest
        have hb : (name == key) = false := by simpa using hkey
        exact ⟨value, by simp only [List.lookup_cons, hb, hvalue]⟩

/-- What is found under a key is an entry. -/
theorem mem_of_lookup {κ : Type} [BEq κ] [LawfulBEq κ] {key : κ} {value : α}
    {entries : List (κ × α)} (h : entries.lookup key = some value) : (key, value) ∈ entries := by
  obtain ⟨before, after, hsplit, -⟩ := List.lookup_eq_some_iff.mp h
  rw [hsplit]
  exact List.mem_append_right before List.mem_cons_self

theorem get?_eq_none_of_not_mem {name : String} {entries : List (String × α)}
    (h : name ∉ keys entries) : get? entries name = none := by
  apply List.lookup_eq_none_iff.mpr
  intro entry hentry
  have hne : name ≠ entry.1 := fun e => h (e ▸ List.mem_map_of_mem hentry)
  simpa using hne

/-- With different names, every entry is found under its name. -/
theorem get?_of_mem {name : String} {value : α} {entries : List (String × α)}
    (hnames : (keys entries).Nodup) (h : (name, value) ∈ entries) :
    get? entries name = some value := by
  induction entries with
  | nil => cases h
  | cons entry rest ih =>
      obtain ⟨key, held⟩ := entry
      obtain ⟨hnew, hrest⟩ := List.nodup_cons.mp hnames
      unfold get? at ih ⊢
      cases h with
      | head => simp
      | tail _ hmem =>
          have hold : name ∈ rest.map Prod.fst := List.mem_map.mpr ⟨_, hmem, rfl⟩
          have hne : name ≠ key := fun e => hnew (e ▸ hold)
          have hb : (name == key) = false := by simpa using hne
          simp only [List.lookup_cons, hb]
          exact ih hrest hmem

theorem nodup_keys_put (name : String) (value : α) {entries : List (String × α)}
    (h : (keys entries).Nodup) : (keys (put name value entries)).Nodup := by
  rw [keys_put]
  split
  · exact h
  · next hn =>
      rw [List.nodup_append]
      refine ⟨h, by simp, ?_⟩
      intro a ha b hb hab
      rw [List.mem_singleton] at hb
      exact hn (hb ▸ hab ▸ ha)

/-- Entries with different names are the result of binding them one after the other. -/
theorem ofPairs_of_nodup {entries : List (String × α)} (h : (keys entries).Nodup) :
    ofPairs entries = entries := by
  have hfold : ∀ (pairs bound : List (String × α)), (keys (bound ++ pairs)).Nodup →
      pairs.foldl (fun entries pair => put pair.1 pair.2 entries) bound = bound ++ pairs := by
    intro pairs
    induction pairs with
    | nil => intro bound _; simp
    | cons pair rest ih =>
        intro bound hnodup
        have hnew : pair.1 ∉ keys bound := by
          intro hmem
          simp only [keys, List.map_append, List.map_cons, List.nodup_append] at hnodup
          exact hnodup.2.2 pair.1 hmem pair.1 List.mem_cons_self rfl
        rw [List.foldl_cons, put_of_not_mem hnew, ih _ (by simpa using hnodup)]
        simp
  exact hfold entries [] h

end Entries

/-- A finite map from names to values that keeps the order in which names arrived. -/
structure Bindings (α : Type) where
  entries : List (String × α)
  nodup_keys : (Entries.keys entries).Nodup

namespace Bindings

variable {α : Type}

/-- The map without names. -/
def empty : Bindings α := ⟨[], List.nodup_nil⟩

/-- The bound names in order of arrival. -/
def keys (bindings : Bindings α) : List String :=
  Entries.keys bindings.entries

/-- The value of a name. -/
def get? (bindings : Bindings α) (name : String) : Option α :=
  Entries.get? bindings.entries name

/-- The map after binding a name. -/
def put (bindings : Bindings α) (name : String) (value : α) : Bindings α :=
  ⟨Entries.put name value bindings.entries, Entries.nodup_keys_put name value bindings.nodup_keys⟩

theorem keys_empty : (empty : Bindings α).keys = [] := rfl

theorem keys_put (bindings : Bindings α) (name : String) (value : α) :
    (bindings.put name value).keys =
      if name ∈ bindings.keys then bindings.keys else bindings.keys ++ [name] :=
  Entries.keys_put name value bindings.entries

/-- A new name is added at the end, and all entries before it stay. -/
theorem entries_put_of_not_mem {bindings : Bindings α} {name : String} (h : name ∉ bindings.keys)
    (value : α) : (bindings.put name value).entries = bindings.entries ++ [(name, value)] :=
  Entries.put_of_not_mem h value

theorem exists_get?_of_mem {bindings : Bindings α} {name : String} (h : name ∈ bindings.keys) :
    ∃ value, bindings.get? name = some value :=
  Entries.exists_get?_of_mem h

theorem get?_put (bindings : Bindings α) (name other : String) (value : α) :
    (bindings.put name value).get? other =
      if other = name then some value else bindings.get? other :=
  Entries.get?_put name other value bindings.entries

end Bindings
end TableExport
