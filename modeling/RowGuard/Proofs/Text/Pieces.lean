import RowGuard.Text.Split
/-!
Pieces of a text and the text of pieces. Cutting and joining are what the library of lists calls
`splitOn` and `intercalate`, so pieces without the separator come back from the text they make up.
The last piece of a text depends only on what stands behind the last separator.
-/
namespace RowGuard.Text

theorem splitChars_eq_splitOn (sep : Char) (cs : List Char) :
    splitChars sep cs = cs.splitOn sep := by
  induction cs with
  | nil => rfl
  | cons c rest ih =>
    have step : (c :: rest).splitOn sep =
        if c == sep then [] :: rest.splitOn sep else (rest.splitOn sep).modifyHead (c :: ·) :=
      List.splitOnP_cons_eq_if_modifyHead c rest
    rw [splitChars, ih, step]
    by_cases same : c = sep
    · rw [if_pos same, if_pos (beq_iff_eq.2 same)]
    · rw [if_neg same, if_neg (fun equal => same (beq_iff_eq.1 equal))]
      cases pieces : rest.splitOn sep with
      | nil => exact absurd pieces (List.splitOnP_ne_nil _ _)
      | cons piece others => rfl

theorem toList_join (sep : String) (pieces : List String) :
    (join sep pieces).toList = sep.toList.intercalate (pieces.map String.toList) := by
  induction pieces with
  | nil => rfl
  | cons piece rest ih =>
    cases rest with
    | nil => simp [join, List.intercalate]
    | cons next rest =>
      rw [join, String.toList_append, String.toList_append, ih, List.map_cons, List.map_cons,
        List.map_cons, List.intercalate_cons_cons]

theorem join_append (sep : String) {front back : List String} (some : front ≠ [])
    (others : back ≠ []) : join sep (front ++ back) = join sep front ++ sep ++ join sep back := by
  induction front with
  | nil => exact absurd rfl some
  | cons piece front ih =>
    cases front with
    | nil =>
      obtain ⟨next, rest, rfl⟩ := List.exists_cons_of_ne_nil others
      rfl
    | cons next front =>
      have rest := ih (List.cons_ne_nil next front)
      simp only [List.cons_append, join] at rest ⊢
      rw [rest]
      simp only [String.append_assoc]

theorem split_join {sep : Char} {pieces : List String} (some : pieces ≠ [])
    (whole : ∀ piece ∈ pieces, sep ∉ piece.toList) :
    split sep (join (String.singleton sep) pieces) = pieces := by
  have chars : (pieces.map String.toList).map String.ofList = pieces := by
    rw [List.map_map]
    exact List.map_id'' (fun piece => String.ofList_toList) pieces
  have cut : ([sep].intercalate (pieces.map String.toList)).splitOn sep =
      pieces.map String.toList := by
    apply List.splitOn_intercalate
    · intro cs member
      obtain ⟨piece, among, rfl⟩ := List.mem_map.1 member
      exact whole piece among
    · exact fun empty => some (List.map_eq_nil_iff.1 empty)
  rw [split, splitChars_eq_splitOn, toList_join, String.toList_singleton, cut, chars]

theorem afterLast_behind (sep : Char) (front back : List Char) :
    afterLast sep (front ++ sep :: back) = afterLast sep back := by
  have cut : (sep :: front.reverse).takeWhile (· != sep) = [] := by
    rw [List.takeWhile_cons, bne_self_eq_false, if_neg Bool.false_ne_true]
  rw [afterLast, afterLast, List.reverse_append, List.reverse_cons, List.append_assoc,
    List.singleton_append, List.takeWhile_append, cut, List.append_nil]
  split
  · next whole =>
    rw [(List.takeWhile_prefix (· != sep)).eq_of_length whole]
  · rfl

theorem afterLast_append {sep : Char} {back : List Char} (absent : sep ∉ back)
    (front : List Char) : afterLast sep (front ++ back) = afterLast sep front ++ back := by
  have passed : ∀ c ∈ back.reverse, (c != sep) = true := by
    intro c member
    refine bne_iff_ne.2 ?_
    rintro rfl
    exact absent (List.mem_reverse.1 member)
  rw [afterLast, afterLast, List.reverse_append, List.takeWhile_append_of_pos passed,
    List.reverse_append, List.reverse_reverse]

theorem afterLast_of_not_mem {sep : Char} {cs : List Char} (absent : sep ∉ cs) :
    afterLast sep cs = cs :=
  afterLast_append absent []

theorem exists_afterLast {sep : Char} {cs : List Char} (present : sep ∈ cs) :
    ∃ front, cs = front ++ sep :: afterLast sep cs := by
  obtain ⟨back, front, split, absent⟩ := List.eq_append_cons_of_mem (List.mem_reverse.2 present)
  have forwards : cs = front.reverse ++ sep :: back.reverse := by
    rw [← List.reverse_reverse cs, split, List.reverse_append, List.reverse_cons,
      List.append_assoc, List.singleton_append]
  have last : sep ∉ back.reverse := fun member => absent (List.mem_reverse.1 member)
  refine ⟨front.reverse, ?_⟩
  have part : afterLast sep cs = back.reverse := by
    rw [forwards, afterLast_behind, afterLast_of_not_mem last]
  rw [part]
  exact forwards

end RowGuard.Text
