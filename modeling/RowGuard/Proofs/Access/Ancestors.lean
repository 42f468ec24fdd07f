import RowGuard.Proofs.Access.Grants
import RowGuard.Proofs.Number.Spelling
import RowGuard.Proofs.Text.Pieces
/-!
Looking a department up among its ancestors. The ancestors are kept as one text, their ids in
decimal with commas between them, and are looked for in the pieces of that text. No id is written
with a comma and no two ids are written alike, so an id is found at its own place or not at all, and
ancestors name a department exactly where its id is one of theirs.
-/
namespace RowGuard

open Sql

theorem Integer.comma_not_mem_chars (t : Int) : ',' ∉ chars t := by
  have noDigit {ds : List Char} (digits : ∀ c ∈ ds, IsDigit c) : ',' ∉ ds := by
    intro member
    exact absurd (digits ',' member) (by decide)
  have writes := writes_chars t
  generalize chars t = cs at writes
  cases writes with
  | plain _ digits => exact noDigit digits
  | plus _ digits => exact List.not_mem_cons_of_ne_of_not_mem (by decide) (noDigit digits)
  | minus _ digits => exact List.not_mem_cons_of_ne_of_not_mem (by decide) (noDigit digits)

theorem Sql.positionOf_map {α : Type} [DecidableEq α] {text : α → String}
    (injective : Function.Injective text) (a : α) (items : List α) :
    positionOf (text a) (items.map text) = if a ∈ items then items.idxOf a + 1 else 0 := by
  have alike : (· == text a) ∘ text = (· == a) := by
    funext b
    exact Bool.eq_iff_iff.2 (by simp [injective.eq_iff])
  rw [positionOf, List.findIdx?_map, alike]
  by_cases member : a ∈ items
  · have found : items.findIdx? (· == a) = some (items.idxOf a) :=
      List.findIdx?_eq_some_iff_findIdx_eq.2 ⟨List.idxOf_lt_length_of_mem member, rfl⟩
    rw [found, if_pos member]
  · have missing : items.findIdx? (· == a) = none := by
      refine List.findIdx?_eq_none_iff.2 fun b among => beq_false_of_ne ?_
      rintro rfl
      exact member among
    rw [missing, if_neg member]

namespace DeptId

theorem text_injective : Function.Injective text := by
  rintro ⟨m⟩ ⟨n⟩ same
  exact congrArg mk (Integer.text_injective same)

theorem comma_not_mem_text (dept : DeptId) : ',' ∉ dept.text.toList := by
  rw [text, Integer.text, String.toList_ofList]
  exact Integer.comma_not_mem_chars _

theorem text_ne_empty (dept : DeptId) : dept.text ≠ "" := by
  intro empty
  have visible := Integer.isBlankText_text dept.value.toInt
  rw [← text, empty] at visible
  cases visible

def list (ids : List DeptId) : String := Text.join "," (ids.map text)

/-- The one-based place at which a department first stands in a list, zero where it does not. -/
def placeIn (dept : DeptId) (ids : List DeptId) : Nat :=
  if dept ∈ ids then ids.idxOf dept + 1 else 0

variable {dept : DeptId} {ids : List DeptId}

/-- The pieces of a list are the texts of its ids. The list of no ids has one piece, which is
empty. -/
theorem split_list (ids : List DeptId) :
    Text.split ',' (list ids) = if ids = [] then [""] else ids.map text := by
  split
  · next none =>
    rw [none]
    rfl
  · next some =>
    refine Text.split_join (fun empty => some (List.map_eq_nil_iff.1 empty)) ?_
    intro piece member
    obtain ⟨dept, -, rfl⟩ := List.mem_map.1 member
    exact dept.comma_not_mem_text

theorem positionOf_list (dept : DeptId) (ids : List DeptId) :
    positionOf dept.text (Text.split ',' (list ids)) = dept.placeIn ids := by
  rw [split_list]
  split
  · next none =>
    have other : ("" == dept.text) = false := beq_false_of_ne dept.text_ne_empty.symm
    rw [none, placeIn, if_neg List.not_mem_nil, positionOf, List.findIdx?_cons, other]
    rfl
  · exact positionOf_map text_injective dept ids

theorem findInSet_list {needle listed : Value} (id : needle.toText? = some dept.text)
    (ancestors : listed.toText? = some (list ids)) :
    findInSet needle listed = .int (Int64.ofNat (dept.placeIn ids)) := by
  rw [findInSet, id, ancestors]
  exact congrArg (fun place => Value.int (Int64.ofNat place)) (positionOf_list dept ids)

theorem placeIn_eq_zero : dept.placeIn ids = 0 ↔ dept ∉ ids := by
  unfold placeIn
  split
  · next member => exact iff_of_false (Nat.succ_ne_zero _) (not_not_intro member)
  · next absent => exact iff_of_true rfl absent

theorem placeIn_le (dept : DeptId) (ids : List DeptId) : dept.placeIn ids ≤ ids.length := by
  unfold placeIn
  split
  · next member => exact List.idxOf_lt_length_of_mem member
  · exact Nat.zero_le _

theorem toInt_placeIn (short : (ids.length : Int) ≤ Integer.maximum) :
    (Int64.ofNat (dept.placeIn ids)).toInt = dept.placeIn ids := by
  have place := dept.placeIn_le ids
  refine Int64.toInt_ofNat_of_lt ?_
  simp only [Integer.maximum] at short
  omega

theorem ofNat_placeIn_ne_zero (short : (ids.length : Int) ≤ Integer.maximum) :
    (Int64.ofNat (dept.placeIn ids) != 0) = decide (dept ∈ ids) := by
  have zero : Int64.ofNat (dept.placeIn ids) = 0 ↔ dept ∉ ids := by
    rw [← Int64.toInt_inj, toInt_placeIn short, ← placeIn_eq_zero]
    exact Int.natCast_eq_zero
  rw [Bool.eq_iff_iff, bne_iff_ne, decide_eq_true_iff]
  exact (not_congr zero).trans Decidable.not_not

end DeptId

theorem Sql.Expr.value_findInSet {name : String}
    (called : Text.sameLetters name "FIND_IN_SET" = true) {row : Row} {needle list : Expr}
    {v w : Value} (first : needle.value row = .ok v) (second : list.value row = .ok w) :
    (Expr.function name [needle, list]).value row = .ok (findInSet v w) := by
  rw [Expr.value, Expr.valueEach, Expr.valueEach, Expr.valueEach, first, second,
    callFunction_findInSet called]

/-- Ancestors match as whole ids. Looked up in the text that lists some ids, an id is found at the
place where it first stands, counted from one, or at place zero where it is not among them; so the
condition is true exactly where it is, as long as the list has a 64-bit number of ids, as all lists
in a memory have. With NULL on either side the place is NULL and the condition unknown. -/
theorem ancestors_match_whole_ids {name : String}
    (called : Text.sameLetters name "FIND_IN_SET" = true) {row : Row} {needle list : Expr}
    {v w : Value} (first : needle.value row = .ok v) (second : list.value row = .ok w) :
    let call := Expr.function name [needle, list]
    (∀ (dept : DeptId) (ids : List DeptId),
      v.toText? = some dept.text → w.toText? = some (DeptId.list ids) →
      call.value row = .ok (.int (Int64.ofNat (dept.placeIn ids))) ∧
      (dept ∉ ids → call.truth row = .ok (some false)) ∧
      ((ids.length : Int) ≤ Integer.maximum →
        (Int64.ofNat (dept.placeIn ids)).toInt = dept.placeIn ids ∧
        call.truth row = .ok (some (decide (dept ∈ ids))))) ∧
    (v = .null ∨ w = .null → call.value row = .ok .null ∧ call.truth row = .ok none) := by
  intro call
  have value : call.value row = .ok (findInSet v w) := Expr.value_findInSet called first second
  have truth : call.truth row = .ok (findInSet v w).truth := by
    rw [Expr.truth, value]
    rfl
  refine ⟨fun dept ids needleText listText => ?_, fun missing => ?_⟩
  · rw [DeptId.findInSet_list needleText listText] at value truth
    refine ⟨value, fun absent => ?_, fun short => ?_⟩
    · rw [truth, DeptId.placeIn_eq_zero.2 absent]
      rfl
    · rw [truth, Value.truth, DeptId.ofNat_placeIn_ne_zero short]
      exact ⟨DeptId.toInt_placeIn short, rfl⟩
  · have nothing : findInSet v w = .null := by
      rcases missing with rfl | rfl
      · rfl
      · cases v <;> rfl
    rw [nothing] at value truth
    exact ⟨value, truth⟩

/-- Among 13, -3 and twice 3 the id 3 has the third place and 1 has none, and ancestors that a row
lacks list neither. -/
theorem ancestors_match_whole_ids_among_others :
    let ids : List DeptId := [⟨13⟩, ⟨-3⟩, ⟨3⟩, ⟨3⟩]
    let row : Row := fun c => if c.name = "ancestors" then some (.text "13,-3,3,3") else none
    let call := fun (n : Int64) (column : String) =>
      Expr.function "find_in_set" [.int n, .column (.bare column)]
    Text.sameLetters "find_in_set" "FIND_IN_SET" = true ∧ DeptId.list ids = "13,-3,3,3" ∧
      (call 3 "ancestors").value row = .ok (.int 3) ∧
      (call 3 "ancestors").truth row = .ok (some true) ∧
      (call 1 "ancestors").value row = .ok (.int 0) ∧
      (call 1 "ancestors").truth row = .ok (some false) ∧
      (call 3 "parents").truth row = .ok none := by
  intro ids row call
  have called : Text.sameLetters "find_in_set" "FIND_IN_SET" = true := by decide
  have written : DeptId.list ids = "13,-3,3,3" := by decide +kernel
  have needle (n : Int64) : (Expr.int n).value row = .ok (.int n) := rfl
  have list : (Expr.column (.bare "ancestors")).value row = .ok (.text "13,-3,3,3") := rfl
  have parents : (Expr.column (.bare "parents")).value row = .ok .null := rfl
  have looked (n : Int64) := (ancestors_match_whole_ids called (needle n) list).1 ⟨n⟩ ids rfl
    (congrArg some written.symm)
  have missing := (ancestors_match_whole_ids called (needle 3) parents).2 (.inr rfl)
  exact ⟨called, written, (looked 3).1, ((looked 3).2.2 (by decide)).2, (looked 1).1,
    (looked 1).2.1 (by decide), missing.2⟩

end RowGuard
