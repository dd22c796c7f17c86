import Mathlib
import TensorBridge.NameTable

/-!
# Facts about tables of named things

Putting in and taking out keep a table in the order of the names.  In an ordered table a name occurs
once, so the values of a table are the value with a name and the values that are left when the name
is taken out.
-/

namespace TensorBridge

namespace NameTable

variable {α : Type} {table : NameTable α} {name other : String} {a b : α}

/-- The names stand in order, and each of them once. -/
def Ordered (table : NameTable α) : Prop :=
  table.entries.Pairwise fun first second => first.1 < second.1

lemma ordered_empty : Ordered ({} : NameTable α) := List.Pairwise.nil

lemma mem_insertInto {entry : String × α} {entries : List (String × α)}
    (h : entry ∈ insertInto name a entries) : entry = (name, a) ∨ entry ∈ entries := by
  induction entries with
  | nil => simpa [insertInto] using h
  | cons first rest ih =>
    obtain ⟨key, b⟩ := first
    rw [insertInto] at h
    split_ifs at h with heq hlt
    · exact (List.mem_cons.1 h).imp_right (List.mem_cons_of_mem _)
    · exact List.mem_cons.1 h
    · rcases List.mem_cons.1 h with rfl | hrest
      · exact .inr List.mem_cons_self
      · exact (ih hrest).imp_right (List.mem_cons_of_mem _)

/-- Putting an entry in keeps the order. -/
lemma Ordered.insert (h : table.Ordered) : (table.insert name a).Ordered := by
  obtain ⟨entries⟩ := table
  simp only [Ordered, NameTable.insert] at h ⊢
  induction entries with
  | nil => exact List.pairwise_singleton _ _
  | cons first rest ih =>
    obtain ⟨key, b⟩ := first
    obtain ⟨hfirst, hrest⟩ := List.pairwise_cons.1 h
    rw [insertInto]
    split_ifs with heq hlt
    · subst heq
      exact List.pairwise_cons.2 ⟨hfirst, hrest⟩
    · refine List.pairwise_cons.2 ⟨fun entry hentry => ?_, h⟩
      rcases List.mem_cons.1 hentry with rfl | hentry
      · exact hlt
      · exact hlt.trans (hfirst entry hentry)
    · refine List.pairwise_cons.2 ⟨fun entry hentry => ?_, ih hrest⟩
      rcases mem_insertInto hentry with rfl | hentry
      · exact lt_of_le_of_ne (not_lt.1 hlt) (Ne.symm heq)
      · exact hfirst entry hentry

/-- Taking an entry out keeps the order. -/
lemma Ordered.erase (h : table.Ordered) : (table.erase name).Ordered := List.Pairwise.filter _ h

lemma get?_erase : (table.erase name).get? other =
    if other = name then none else table.get? other := by
  obtain ⟨entries⟩ := table
  simp only [NameTable.erase, get?]
  induction entries with
  | nil => simp [lookupIn]
  | cons first rest ih =>
    obtain ⟨key, b⟩ := first
    by_cases hkey : key = name
    · subst hkey
      by_cases hother : other = key <;> simp_all [lookupIn]
    · by_cases hother : other = key
      · subst hother
        simp [lookupIn, hkey]
      · simp_all [lookupIn]

/-- A table has no entry with a name that is smaller than all of its names. -/
lemma filter_of_forall_lt {entries : List (String × α)} (h : ∀ entry ∈ entries, name < entry.1) :
    entries.filter (fun entry => entry.1 != name) = entries :=
  List.filter_eq_self.2 fun entry hentry => by simpa using (h entry hentry).ne'

/-- The value with a name, and the values that are left when the name is taken out. -/
lemma Ordered.values_perm (h : table.Ordered) (ha : table.get? name = some a) :
    table.values.Perm (a :: (table.erase name).values) := by
  obtain ⟨entries⟩ := table
  simp only [Ordered, get?, values, NameTable.erase] at *
  induction entries with
  | nil => simp [lookupIn] at ha
  | cons first rest ih =>
    obtain ⟨key, b⟩ := first
    obtain ⟨hfirst, hrest⟩ := List.pairwise_cons.1 h
    rw [lookupIn] at ha
    split_ifs at ha with heq
    · subst heq
      obtain rfl : b = a := Option.some.inj ha
      simp [filter_of_forall_lt hfirst]
    · have hkeep : ((key, b) :: rest).filter (fun entry => entry.1 != name) =
          (key, b) :: rest.filter fun entry => entry.1 != name :=
        List.filter_cons_of_pos (by simpa using Ne.symm heq)
      rw [hkeep, List.map_cons, List.map_cons]
      exact ((ih hrest ha).cons b).trans (.swap _ _ _)

/-- The values after putting one in: this one and those with other names. -/
lemma Ordered.values_insert_perm (h : table.Ordered) :
    (table.insert name a).values.Perm (a :: (table.erase name).values) := by
  have hget : (table.insert name a).get? name = some a := by simp [get?_insert]
  have herase : (table.insert name a).erase name = table.erase name := by
    obtain ⟨entries⟩ := table
    simp only [NameTable.erase, NameTable.insert]
    clear h hget
    induction entries with
    | nil => simp [insertInto]
    | cons first rest ih =>
      obtain ⟨key, b⟩ := first
      rw [insertInto]
      split_ifs with heq hlt
      · simp [heq]
      · simp
      · simp_all [List.filter_cons]
  have hperm := h.insert.values_perm hget
  rwa [herase] at hperm

/-- Taking out a name that is not there changes nothing. -/
lemma erase_of_get?_eq_none (h : table.get? name = none) : table.erase name = table := by
  obtain ⟨entries⟩ := table
  simp only [get?, NameTable.erase] at *
  congr 1
  induction entries with
  | nil => rfl
  | cons first rest ih =>
    obtain ⟨key, b⟩ := first
    rw [lookupIn] at h
    split_ifs at h with heq
    have hkeep : ((key, b) :: rest).filter (fun entry => entry.1 != name) =
        (key, b) :: rest.filter fun entry => entry.1 != name :=
      List.filter_cons_of_pos (by simpa using Ne.symm heq)
    rw [hkeep, ih h]

/-- Counting values after putting one in. -/
lemma Ordered.countP_insert (h : table.Ordered) (p : α → Bool) :
    (table.insert name a).values.countP p =
      (table.erase name).values.countP p + if p a then 1 else 0 := by
  rw [h.values_insert_perm.countP_eq, List.countP_cons]

/-- Counting values with and without the one that has a name. -/
lemma Ordered.countP_eq (h : table.Ordered) (ha : table.get? name = some a) (p : α → Bool) :
    table.values.countP p = (table.erase name).values.countP p + if p a then 1 else 0 := by
  rw [(h.values_perm ha).countP_eq, List.countP_cons]

end NameTable

end TensorBridge
