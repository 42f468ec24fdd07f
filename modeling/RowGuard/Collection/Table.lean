/-!
Tables from text to values, kept in the order of their keys. An insertion replaces the value of a
key that is present and otherwise takes the place its key has in the order, so a table built by
insertions alone lists every key once.
-/
namespace RowGuard

abbrev Table (α : Type) := List (String × α)

namespace Table

variable {α : Type}

def find? (key : String) : Table α → Option α
  | [] => none
  | (k, v) :: rest => if k = key then some v else find? key rest

def insert (key : String) (value : α) : Table α → Table α
  | [] => [(key, value)]
  | (k, v) :: rest =>
    if k = key then (key, value) :: rest
    else if key < k then (key, value) :: (k, v) :: rest
    else (k, v) :: insert key value rest

def erase (key : String) : Table α → Table α
  | [] => []
  | (k, v) :: rest => if k = key then rest else (k, v) :: erase key rest

def keys (table : Table α) : List String := table.map Prod.fst

def contains (key : String) (table : Table α) : Bool := (find? key table).isSome

/-- The table of a list of pairs, the last pair of a key deciding. -/
def ofList (pairs : List (String × α)) : Table α :=
  pairs.foldl (fun table pair => insert pair.1 pair.2 table) []

theorem find?_insert_self (key : String) (value : α) (table : Table α) :
    find? key (insert key value table) = some value := by
  induction table with
  | nil => simp [insert, find?]
  | cons pair rest ih =>
    obtain ⟨k, v⟩ := pair
    by_cases same : k = key
    · simp [insert, find?, same]
    · by_cases before : key < k <;> simp [insert, find?, same, before, ih]

theorem find?_insert_other (key other : String) (value : α) (table : Table α)
    (differs : key ≠ other) : find? other (insert key value table) = find? other table := by
  induction table with
  | nil => simp [insert, find?, differs]
  | cons pair rest ih =>
    obtain ⟨k, v⟩ := pair
    by_cases same : k = key
    · subst same
      simp [insert, find?, differs]
    · by_cases before : key < k <;> simp [insert, find?, same, before, differs, ih]

theorem find?_erase_other (key other : String) (table : Table α) (differs : key ≠ other) :
    find? other (erase key table) = find? other table := by
  induction table with
  | nil => rfl
  | cons pair rest ih =>
    obtain ⟨k, v⟩ := pair
    by_cases same : k = key
    · subst same
      simp [erase, find?, differs]
    · simp [erase, find?, same, ih]

theorem erase_of_find? {key : String} {value : α} {table : Table α}
    (found : find? key table = some value) :
    ∃ before after, table = before ++ (key, value) :: after ∧
      erase key table = before ++ after := by
  induction table with
  | nil => cases found
  | cons pair rest ih =>
    obtain ⟨k, v⟩ := pair
    by_cases same : k = key
    · rw [find?, if_pos same, Option.some.injEq] at found
      exact ⟨[], rest, by rw [same, found]; rfl, by rw [erase, if_pos same]; rfl⟩
    · rw [find?, if_neg same] at found
      obtain ⟨before, after, split, erased⟩ := ih found
      exact ⟨(k, v) :: before, after, by rw [split]; rfl, by rw [erase, if_neg same, erased]; rfl⟩

theorem mem_of_find? {key : String} {value : α} {table : Table α}
    (found : find? key table = some value) : (key, value) ∈ table := by
  obtain ⟨before, after, split, -⟩ := erase_of_find? found
  rw [split]
  exact List.mem_append_right before List.mem_cons_self

theorem erase_sublist (key : String) (table : Table α) : (erase key table).Sublist table := by
  induction table with
  | nil => exact .slnil
  | cons pair rest ih =>
    rw [erase]
    split
    · exact List.sublist_cons_self _ rest
    · exact ih.cons_cons _

theorem insert_eq (key : String) (value : α) (table : Table α) :
    ∃ before after, insert key value table = before ++ (key, value) :: after ∧
      (before ++ after).Sublist table := by
  induction table with
  | nil => exact ⟨[], [], rfl, .slnil⟩
  | cons pair rest ih =>
    obtain ⟨k, v⟩ := pair
    rw [insert]
    split
    · exact ⟨[], rest, rfl, List.sublist_cons_self _ rest⟩
    · split
      · exact ⟨[], (k, v) :: rest, rfl, .refl _⟩
      · obtain ⟨before, after, split, kept⟩ := ih
        exact ⟨(k, v) :: before, after, by rw [split]; rfl, kept.cons_cons _⟩

theorem mem_of_mem_insert {key : String} {value : α} {table : Table α} {pair : String × α}
    (member : pair ∈ insert key value table) : pair = (key, value) ∨ pair ∈ table := by
  obtain ⟨before, after, split, kept⟩ := insert_eq key value table
  rw [split, List.mem_append, List.mem_cons] at member
  rcases member with front | same | back
  · exact .inr (kept.subset (List.mem_append_left after front))
  · exact .inl same
  · exact .inr (kept.subset (List.mem_append_right before back))

theorem find?_insert (key other : String) (value : α) (table : Table α) :
    find? other (insert key value table) =
      if other = key then some value else find? other table := by
  by_cases same : other = key
  · rw [if_pos same, same, find?_insert_self]
  · rw [if_neg same, find?_insert_other key other value table (Ne.symm same)]

theorem find?_eq_none {key : String} {table : Table α} (absent : ∀ pair ∈ table, pair.1 ≠ key) :
    find? key table = none := by
  induction table with
  | nil => rfl
  | cons pair rest ih =>
    have later := ih fun other member => absent other (List.mem_cons_of_mem pair member)
    rw [find?, if_neg (absent pair List.mem_cons_self), later]

theorem mem_keys {key : String} {table : Table α} :
    key ∈ keys table ↔ (find? key table).isSome = true := by
  induction table with
  | nil => simp [keys, find?]
  | cons pair rest ih =>
    obtain ⟨k, v⟩ := pair
    have keysCons : keys ((k, v) :: rest) = k :: keys rest := rfl
    rw [keysCons, List.mem_cons, ih, find?]
    by_cases same : k = key
    · simp [same]
    · simp [same, Ne.symm same]

theorem find?_map {β : Type} (f : α → β) (key : String) (table : Table α) :
    find? key (table.map (Prod.map id f)) = (find? key table).map f := by
  induction table with
  | nil => rfl
  | cons pair rest ih =>
    obtain ⟨k, v⟩ := pair
    rw [List.map_cons, Prod.map_apply, find?, find?, ih, id_eq]
    split <;> rfl

theorem keys_map {β : Type} (f : α → β) (table : Table α) :
    keys (table.map (Prod.map id f)) = keys table := by
  rw [keys, List.map_map]
  rfl

def Ascending (table : Table α) : Prop := (keys table).Pairwise (· < ·)

theorem Ascending.insert {table : Table α} (ascending : table.Ascending) (key : String)
    (value : α) : (insert key value table).Ascending := by
  induction table with
  | nil => exact List.pairwise_singleton _ key
  | cons pair rest ih =>
    obtain ⟨k, v⟩ := pair
    obtain ⟨least, tail⟩ := List.pairwise_cons.1 ascending
    rw [Table.insert]
    split
    · next same => exact List.pairwise_cons.2 ⟨same ▸ least, tail⟩
    · next other =>
      split
      · next before =>
        refine List.pairwise_cons.2 ⟨fun x member => ?_, ascending⟩
        rcases List.mem_cons.1 member with rfl | later
        · exact before
        · exact String.lt_trans before (least x later)
      · next notBefore =>
        have after : k < key := Std.lt_of_le_of_ne (String.not_lt.1 notBefore) other
        refine List.pairwise_cons.2 ⟨fun x member => ?_, ih tail⟩
        obtain ⟨inserted, among, rfl⟩ := List.mem_map.1 member
        rcases mem_of_mem_insert among with rfl | older
        · exact after
        · exact least inserted.1 (List.mem_map_of_mem older)

theorem Ascending.erase {table : Table α} (ascending : table.Ascending) (key : String) :
    (erase key table).Ascending :=
  List.Pairwise.sublist ((erase_sublist key table).map Prod.fst) ascending

theorem Ascending.find?_erase {table : Table α} (ascending : table.Ascending)
    (key other : String) :
    find? other (Table.erase key table) = if other = key then none else find? other table := by
  induction table with
  | nil => rw [Table.erase, find?, ite_self]
  | cons pair rest ih =>
    obtain ⟨least, tail⟩ := List.pairwise_cons.1 ascending
    rw [Table.erase]
    by_cases first : pair.1 = key
    · rw [if_pos first, find?]
      by_cases same : other = key
      · rw [if_pos same]
        refine find?_eq_none fun later member differs => ?_
        have before := least later.1 (List.mem_map_of_mem member)
        rw [first, differs, same] at before
        exact String.lt_irrefl key before
      · rw [if_neg same, if_neg fun found => same (found.symm.trans first)]
    · rw [if_neg first, find?, find?, ih tail]
      by_cases found : pair.1 = other
      · rw [if_pos found, if_neg fun same => first (found.trans same), if_pos found]
      · rw [if_neg found, if_neg found]

end Table

end RowGuard
