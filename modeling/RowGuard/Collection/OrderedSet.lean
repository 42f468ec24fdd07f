/-!
Finite sets as lists in strictly ascending order. The order makes the representation unique: two
sets with the same members are equal, whatever order and however often the members were added.
-/
namespace RowGuard

structure OrderedSet (α : Type) [Ord α] where
  toList : List α
  ascending : toList.Pairwise fun a b => compare a b = .lt

namespace OrderedSet

variable {α : Type} [Ord α]

def empty : OrderedSet α := ⟨[], .nil⟩

instance : Inhabited (OrderedSet α) := ⟨empty⟩

instance [DecidableEq α] : DecidableEq (OrderedSet α) := fun a b =>
  if same : a.toList = b.toList then
    isTrue (by cases a; cases b; cases same; rfl)
  else isFalse fun equal => same (equal ▸ rfl)

/-- Places `a` in front of the first member after it, unless it is present. -/
def place (a : α) : List α → List α
  | [] => [a]
  | b :: rest =>
    match compare a b with
    | .lt => a :: b :: rest
    | .eq => b :: rest
    | .gt => b :: place a rest

theorem mem_place {a x : α} {list : List α} (member : x ∈ place a list) : x = a ∨ x ∈ list := by
  induction list with
  | nil => simpa [place] using member
  | cons b rest ih =>
    simp only [place] at member
    split at member
    · simpa using member
    · exact .inr member
    · rcases List.mem_cons.1 member with first | later
      · exact .inr (by simp [first])
      · rcases ih later with same | old
        · exact .inl same
        · exact .inr (List.mem_cons_of_mem _ old)

theorem ascending_place [Std.TransOrd α] (a : α) {list : List α}
    (sorted : list.Pairwise fun a b => compare a b = .lt) :
    (place a list).Pairwise fun a b => compare a b = .lt := by
  induction list with
  | nil => simp [place]
  | cons b rest ih =>
    obtain ⟨least, tail⟩ := List.pairwise_cons.1 sorted
    simp only [place]
    split
    case h_1 before =>
      refine List.pairwise_cons.2 ⟨fun x member => ?_, sorted⟩
      rcases List.mem_cons.1 member with same | later
      · exact same ▸ before
      · exact Std.TransCmp.lt_trans before (least x later)
    case h_2 => exact sorted
    case h_3 after =>
      refine List.pairwise_cons.2 ⟨fun x member => ?_, ih tail⟩
      rcases mem_place member with same | later
      · exact same ▸ Std.OrientedCmp.gt_iff_lt.1 after
      · exact least x later

def insert [Std.TransOrd α] (a : α) (s : OrderedSet α) : OrderedSet α :=
  ⟨place a s.toList, ascending_place a s.ascending⟩

def insertAll [Std.TransOrd α] (s : OrderedSet α) (list : List α) : OrderedSet α :=
  list.foldl (fun set a => set.insert a) s

def ofList [Std.TransOrd α] (list : List α) : OrderedSet α := empty.insertAll list

theorem mem_place_iff [Std.LawfulEqOrd α] {a x : α} {list : List α} :
    x ∈ place a list ↔ x = a ∨ x ∈ list := by
  refine ⟨mem_place, fun member => ?_⟩
  induction list with
  | nil => simpa [place] using member
  | cons b rest ih =>
    simp only [place]
    split
    · simpa using member
    · next equal =>
      have same : a = b := Std.LawfulEqOrd.eq_of_compare equal
      rcases member with first | old
      · exact List.mem_cons.2 (.inl (first.trans same))
      · exact old
    · rcases member with first | old
      · exact List.mem_cons_of_mem b (ih (.inl first))
      · rcases List.mem_cons.1 old with least | later
        · exact List.mem_cons.2 (.inl least)
        · exact List.mem_cons_of_mem b (ih (.inr later))

theorem nodup [Std.LawfulEqOrd α] (s : OrderedSet α) : s.toList.Nodup := by
  refine s.ascending.imp fun {a b} before same => ?_
  have self : compare b b = .eq := Std.ReflCmp.compare_self
  rw [same, self] at before
  cases before

variable [Std.TransOrd α] [Std.LawfulEqOrd α]

theorem mem_insert {s : OrderedSet α} {a x : α} :
    x ∈ (s.insert a).toList ↔ x = a ∨ x ∈ s.toList :=
  mem_place_iff

theorem mem_insertAll {s : OrderedSet α} {list : List α} {x : α} :
    x ∈ (s.insertAll list).toList ↔ x ∈ list ∨ x ∈ s.toList := by
  induction list generalizing s with
  | nil => simp [insertAll]
  | cons a rest ih =>
    have once : s.insertAll (a :: rest) = (s.insert a).insertAll rest := rfl
    rw [once, ih, mem_insert, List.mem_cons, or_left_comm, or_assoc]

theorem ext_mem {s t : OrderedSet α} (same : ∀ a, a ∈ s.toList ↔ a ∈ t.toList) : s = t := by
  have lists : s.toList = t.toList := by
    refine List.Perm.eq_of_pairwise (fun a b _ _ before after => ?_) s.ascending t.ascending
      ((List.perm_ext_iff_of_nodup s.nodup t.nodup).2 same)
    have swapped : compare b a = (compare a b).swap := Std.OrientedCmp.eq_swap
    rw [swapped, before] at after
    cases after
  obtain ⟨_, _⟩ := s
  obtain ⟨_, _⟩ := t
  cases lists
  rfl

end OrderedSet

end RowGuard
