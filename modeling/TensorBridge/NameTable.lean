/-!
# Tables of named things

A finite table from names to values, its entries in the order of the names.
-/

namespace TensorBridge

/-- Entries with their names. -/
structure NameTable (α : Type) where
  /-- The entries in the order of the names. -/
  entries : List (String × α) := []
deriving Repr

namespace NameTable

variable {α : Type}

/-- Puts an entry into a list of entries, in place of one with the same name. -/
def insertInto (name : String) (a : α) : List (String × α) → List (String × α)
  | [] => [(name, a)]
  | (other, b) :: rest =>
    if name = other then (name, a) :: rest
    else if name < other then (name, a) :: (other, b) :: rest
    else (other, b) :: insertInto name a rest

/-- Puts an entry into a table, in place of one with the same name. -/
def insert (table : NameTable α) (name : String) (a : α) : NameTable α :=
  ⟨insertInto name a table.entries⟩

/-- The value with a name in a list of entries. -/
def lookupIn (name : String) : List (String × α) → Option α
  | [] => none
  | (other, a) :: rest => if name = other then some a else lookupIn name rest

/-- The value with a name. -/
def get? (table : NameTable α) (name : String) : Option α := lookupIn name table.entries

/-- Takes the entry with a name out. -/
def erase (table : NameTable α) (name : String) : NameTable α :=
  ⟨table.entries.filter fun entry => entry.1 != name⟩

/-- The values in the order of their names. -/
def values (table : NameTable α) : List α := table.entries.map Prod.snd

/-- The names in order. -/
def names (table : NameTable α) : List String := table.entries.map Prod.fst

@[simp] theorem get?_empty (name : String) : (⟨[]⟩ : NameTable α).get? name = none := rfl

theorem get?_insert (table : NameTable α) (name other : String) (a : α) :
    (table.insert name a).get? other = if other = name then some a else table.get? other := by
  obtain ⟨entries⟩ := table
  simp only [get?, insert]
  induction entries with
  | nil => simp [insertInto, lookupIn]
  | cons entry rest ih =>
    obtain ⟨key, b⟩ := entry
    simp only [insertInto]
    split
    · rename_i heq
      subst heq
      by_cases h : other = name <;> simp [lookupIn, h]
    · rename_i hne
      split
      · by_cases h : other = name <;> simp [lookupIn, h]
      · simp only [lookupIn, ih]
        by_cases h : other = name
        · subst h
          simp [hne]
        · simp [h]

end NameTable

end TensorBridge
