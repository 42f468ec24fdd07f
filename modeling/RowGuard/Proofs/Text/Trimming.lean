import RowGuard.Text.Blank
/-!
White space at the ends of a text. Trimming takes away all of it and nothing else, so what stands
around a text does not show in the trimmed text.
-/
namespace RowGuard.Text

theorem trimChars_split (cs : List Char) :
    ∃ before after, cs = before ++ trimChars cs ++ after ∧
      (∀ c ∈ before, isBlank c = true) ∧ ∀ c ∈ after, isBlank c = true := by
  have start : cs.takeWhile isBlank ++ trimStart cs = cs := List.takeWhile_append_dropWhile
  have stop : trimChars cs ++ ((trimStart cs).reverse.takeWhile isBlank).reverse =
      trimStart cs := by
    rw [trimChars, trimEnd, ← List.reverse_append, List.takeWhile_append_dropWhile,
      List.reverse_reverse]
  refine ⟨cs.takeWhile isBlank, ((trimStart cs).reverse.takeWhile isBlank).reverse, ?_, ?_, ?_⟩
  · rw [List.append_assoc, stop, start]
  · exact List.all_eq_true.1 List.all_takeWhile
  · intro c member
    exact List.all_eq_true.1 List.all_takeWhile c (List.mem_reverse.1 member)

theorem isBlankText_of_trim {s : String} (nothing : trim s = "") : isBlankText s = true := by
  obtain ⟨before, after, split, front, back⟩ := trimChars_split s.toList
  have empty : trimChars s.toList = [] := by
    have chars := congrArg String.toList nothing
    rwa [trim, String.toList_ofList] at chars
  rw [empty, List.append_nil] at split
  rw [isBlankText, split, List.all_append, List.all_eq_true.2 front, List.all_eq_true.2 back]
  rfl

theorem trimStart_eq_nil {cs : List Char} (blank : ∀ c ∈ cs, isBlank c = true) :
    trimStart cs = [] := by
  have all : trimStart (cs ++ []) = [] := List.dropWhile_append_of_pos blank
  rwa [List.append_nil] at all

theorem trimChars_padded {before cs after : List Char} (front : ∀ c ∈ before, isBlank c = true)
    (back : ∀ c ∈ after, isBlank c = true) : trimChars (before ++ cs ++ after) = trimChars cs := by
  have start : trimStart (before ++ cs ++ after) = trimStart (cs ++ after) := by
    rw [List.append_assoc, trimStart, List.dropWhile_append_of_pos front, ← trimStart]
  rw [trimChars, start, trimStart, List.dropWhile_append, ← trimStart, ← trimStart]
  by_cases nothing : (trimStart cs).isEmpty = true
  · rw [if_pos nothing, trimStart_eq_nil back, trimChars, List.isEmpty_iff.1 nothing]
  · have reversed : ∀ c ∈ after.reverse, isBlank c = true :=
      fun c member => back c (List.mem_reverse.1 member)
    rw [if_neg nothing, trimChars, trimEnd, trimEnd, List.reverse_append,
      List.dropWhile_append_of_pos reversed]

theorem trim_trim (s : String) : trim (trim s) = trim s := by
  obtain ⟨before, after, split, front, back⟩ := trimChars_split s.toList
  have again : trimChars s.toList = trimChars (trimChars s.toList) := by
    refine Eq.trans ?_ (trimChars_padded front back)
    rw [← split]
  rw [trim, trim, String.toList_ofList, ← again]

theorem trimChars_append {after : List Char} (back : ∀ c ∈ after, isBlank c = true)
    (cs : List Char) : trimChars (cs ++ after) = trimChars cs := by
  have padded : trimChars ([] ++ cs ++ after) = trimChars cs := trimChars_padded nofun back
  exact padded

theorem trimChars_visible {cs : List Char} (visible : ∀ c ∈ cs, isBlank c = false) :
    trimChars cs = cs := by
  have keeps {ds : List Char} (each : ∀ c ∈ ds, isBlank c = false) : ds.dropWhile isBlank = ds := by
    cases ds with
    | nil => rfl
    | cons d rest =>
      rw [List.dropWhile_cons, each d List.mem_cons_self, if_neg Bool.false_ne_true]
  have reversed : ∀ c ∈ cs.reverse, isBlank c = false :=
    fun c member => visible c (List.mem_reverse.1 member)
  rw [trimChars, trimStart, keeps visible, trimEnd, keeps reversed, List.reverse_reverse]

theorem trimChars_around {before cs after : List Char} (front : ∀ c ∈ before, isBlank c = true)
    (visible : ∀ c ∈ cs, isBlank c = false) (back : ∀ c ∈ after, isBlank c = true) :
    trimChars (before ++ cs ++ after) = cs :=
  (trimChars_padded front back).trans (trimChars_visible visible)

end RowGuard.Text
