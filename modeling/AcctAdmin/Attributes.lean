/-!
# Attributes

The named details that an error carries: each name once, in the order of the names.
-/

set_option autoImplicit false

namespace AcctAdmin

/-- Puts an entry in its place; an entry of that name is replaced. -/
def insertEntry (name value : String) : List (String × String) → List (String × String)
  | [] => [(name, value)]
  | (n, v) :: rest =>
    if name < n then (name, value) :: (n, v) :: rest
    else if name = n then (name, value) :: rest
    else (n, v) :: insertEntry name value rest

theorem mem_insertEntry {name value : String} {entries : List (String × String)}
    {e : String × String} (h : e ∈ insertEntry name value entries) :
    e = (name, value) ∨ e ∈ entries := by
  induction entries with
  | nil => simpa [insertEntry] using h
  | cons head rest ih =>
    obtain ⟨n, v⟩ := head
    simp only [insertEntry] at h
    split at h
    · simpa using h
    · split at h
      · rcases List.mem_cons.1 h with h | h
        · exact .inl h
        · exact .inr (List.mem_cons_of_mem _ h)
      · rcases List.mem_cons.1 h with h | h
        · exact .inr (h ▸ List.mem_cons_self)
        · exact (ih h).imp id (List.mem_cons_of_mem _)

theorem pairwise_insertEntry {name value : String} {entries : List (String × String)}
    (h : entries.Pairwise (·.1 < ·.1)) : (insertEntry name value entries).Pairwise (·.1 < ·.1) := by
  induction entries with
  | nil => simp [insertEntry]
  | cons head rest ih =>
    obtain ⟨n, v⟩ := head
    obtain ⟨hhead, hrest⟩ := List.pairwise_cons.1 h
    simp only [insertEntry]
    split
    · rename_i hlt
      refine List.pairwise_cons.2 ⟨fun e he => ?_, h⟩
      rcases List.mem_cons.1 he with rfl | he
      · exact hlt
      · exact String.lt_trans hlt (hhead e he)
    · split
      · rename_i heq
        subst heq
        exact List.pairwise_cons.2 ⟨hhead, hrest⟩
      · rename_i hlt hne
        refine List.pairwise_cons.2 ⟨fun e he => ?_, ih hrest⟩
        rcases mem_insertEntry he with rfl | he
        · exact Std.lt_of_le_of_ne (String.not_lt.1 hlt) (Ne.symm hne)
        · exact hhead e he

theorem lookup_entry (name value other : String) (rest : List (String × String)) :
    ((name, value) :: rest).lookup other =
      if other = name then some value else rest.lookup other := by
  by_cases hother : other = name
  · simp [hother]
  · have hne : (other == name) = false := by simpa using hother
    simp [List.lookup_cons, hother, hne]

theorem lookup_insertEntry (name value other : String) (entries : List (String × String)) :
    (insertEntry name value entries).lookup other =
      if other = name then some value else entries.lookup other := by
  induction entries with
  | nil => exact lookup_entry name value other []
  | cons head rest ih =>
    obtain ⟨n, v⟩ := head
    simp only [insertEntry]
    split
    · exact lookup_entry ..
    · split
      · rename_i heq
        subst heq
        simp only [lookup_entry]
        split <;> rfl
      · rename_i hne
        simp only [lookup_entry, ih]
        by_cases hother : other = n
        · simp [hother, Ne.symm hne]
        · simp [hother]

/-- Named details in the order of their names, no name twice. -/
structure Attributes where
  entries : List (String × String)
  sorted : entries.Pairwise (·.1 < ·.1)
deriving DecidableEq

namespace Attributes

def empty : Attributes := ⟨[], .nil⟩

instance : Inhabited Attributes := ⟨empty⟩

def insert (a : Attributes) (name value : String) : Attributes :=
  ⟨insertEntry name value a.entries, pairwise_insertEntry a.sorted⟩

/-- Sets details one after the other, so that of one name the last value stays. -/
def ofList (entries : List (String × String)) : Attributes :=
  entries.foldl (fun a (name, value) => a.insert name value) empty

def get? (a : Attributes) (name : String) : Option String := a.entries.lookup name

@[simp] theorem get?_empty (name : String) : empty.get? name = none := rfl

theorem get?_insert (a : Attributes) (name value other : String) :
    (a.insert name value).get? other = if other = name then some value else a.get? other :=
  lookup_insertEntry name value other a.entries

/-- Sets a detail unless it is there. -/
def insertIfNew (a : Attributes) (name value : String) : Attributes :=
  if (a.get? name).isSome then a else a.insert name value

end Attributes

end AcctAdmin
