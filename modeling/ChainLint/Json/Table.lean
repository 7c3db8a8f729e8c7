import ChainLint.Json.Value

/-!
# Tables

A `Table` maps keys to values.  Its entries are listed by rising key, so equal tables have equal
entries and no key occurs twice.

* `Table.ofList`: a later entry replaces an earlier one of the same key.
* `ascending_insertMember`: insertion keeps the order.
* `sortMembers_of_ascending`, `Table.ofList_entries`: what is in order stays as it is.
-/

namespace ChainLint

namespace Json

variable {α : Type}

/-- The keys rise strictly. -/
def Ascending (entries : List (String × α)) : Prop :=
  entries.Pairwise fun a b => a.1 < b.1

theorem mem_insertMember {key : String} {value : α} {m : String × α} :
    ∀ {entries : List (String × α)}, m ∈ insertMember key value entries →
      m = (key, value) ∨ m ∈ entries
  | [], h => Or.inl (List.mem_singleton.1 h)
  | (k, v) :: rest, h => by
    unfold insertMember at h
    split at h
    · rcases List.mem_cons.1 h with h | h
      · exact Or.inl h
      · exact Or.inr h
    · split at h
      · rcases List.mem_cons.1 h with h | h
        · exact Or.inl h
        · exact Or.inr (List.mem_cons_of_mem _ h)
      · rcases List.mem_cons.1 h with h | h
        · exact Or.inr (h ▸ List.mem_cons_self ..)
        · rcases mem_insertMember h with h | h
          · exact Or.inl h
          · exact Or.inr (List.mem_cons_of_mem _ h)

/-- Insertion keeps the order of the keys. -/
theorem ascending_insertMember {key : String} {value : α} :
    ∀ {entries : List (String × α)}, Ascending entries → Ascending (insertMember key value entries)
  | [], _ => List.pairwise_singleton _ _
  | (k, v) :: rest, h => by
    have hk : ∀ m ∈ rest, k < m.1 := (List.pairwise_cons.1 h).1
    have hr : Ascending rest := (List.pairwise_cons.1 h).2
    unfold insertMember
    split
    · next hlt =>
      refine List.pairwise_cons.2 ⟨fun m hm => ?_, h⟩
      rcases List.mem_cons.1 hm with hm | hm
      · exact hm ▸ hlt
      · exact String.lt_trans hlt (hk m hm)
    · next hge =>
      split
      · next heq => exact List.pairwise_cons.2 ⟨fun m hm => heq ▸ hk m hm, hr⟩
      · next hne =>
        refine List.pairwise_cons.2 ⟨fun m hm => ?_, ascending_insertMember hr⟩
        rcases mem_insertMember hm with hm | hm
        · subst hm
          rcases Decidable.em (k < key) with hlt | hnlt
          · exact hlt
          · exact absurd (String.le_antisymm hnlt hge) hne
        · exact hk m hm

theorem ascending_foldl (members : List (String × α)) :
    ∀ {done : List (String × α)}, Ascending done →
      Ascending (members.foldl (fun done m => insertMember m.1 m.2 done) done) := by
  induction members with
  | nil => exact fun h => h
  | cons m rest ih => exact fun h => ih (ascending_insertMember h)

/-- A key above all others comes last. -/
theorem insertMember_of_lt {key : String} {value : α} :
    ∀ {entries : List (String × α)}, (∀ m ∈ entries, m.1 < key) →
      insertMember key value entries = entries ++ [(key, value)]
  | [], _ => rfl
  | (k, v) :: rest, h => by
    have hlt : k < key := h (k, v) (List.mem_cons_self ..)
    have hrest : ∀ m ∈ rest, m.1 < key := fun m hm => h m (List.mem_cons_of_mem _ hm)
    have hnlt : ¬ key < k := fun hgt => String.lt_irrefl k (String.lt_trans hlt hgt)
    have hne : key ≠ k := fun heq => String.lt_irrefl k (heq ▸ hlt)
    rw [insertMember, if_neg hnlt, if_neg hne, insertMember_of_lt hrest]
    rfl

theorem foldl_insertMember {members : List (String × α)} :
    ∀ {done : List (String × α)}, Ascending (done ++ members) →
      members.foldl (fun done m => insertMember m.1 m.2 done) done = done ++ members := by
  induction members with
  | nil => exact fun _ => (List.append_nil _).symm
  | cons m rest ih =>
    intro done h
    have hlast : ∀ m' ∈ done, m'.1 < m.1 := fun m' hm' =>
      (List.pairwise_append.1 h).2.2 m' hm' m (List.mem_cons_self ..)
    rw [List.append_cons] at h
    rw [List.foldl_cons, insertMember_of_lt hlast, ih h, ← List.append_cons]

/-- Members whose keys rise stay as they are. -/
theorem sortMembers_of_ascending {members : List (String × α)} (h : Ascending members) :
    sortMembers members = members := foldl_insertMember h

end Json

/-- Values by key, listed by rising key. -/
structure Table (α : Type) where
  entries : List (String × α)
  ascending : Json.Ascending entries

namespace Table

variable {α : Type}

/-- The table without entries. -/
def empty : Table α := ⟨[], List.Pairwise.nil⟩

instance : Inhabited (Table α) := ⟨empty⟩

/-- The table of a list of entries; the last of equal keys stays. -/
def ofList (entries : List (String × α)) : Table α :=
  ⟨Json.sortMembers entries, Json.ascending_foldl entries List.Pairwise.nil⟩

theorem ofList_entries (t : Table α) : ofList t.entries = t := by
  obtain ⟨entries, h⟩ := t
  simp only [ofList, Json.sortMembers_of_ascending h]

/-- Whether the table has no entries. -/
def isEmpty (t : Table α) : Bool := t.entries.isEmpty

end Table

end ChainLint
