import RowGuard.Identity.Id
import RowGuard.Proofs.Number.Decimal
import RowGuard.Proofs.Text.Trimming
/-!
The texts that spell an integer: white space, perhaps a sign, one digit or more, of which the first
may be zeros, and white space. Reading accepts exactly the spellings of the 64-bit integers and
reads each as the integer it spells, so an integer has many spellings and one text.
-/
namespace RowGuard

namespace Integer

/-- The text writes a 64-bit integer, with any white space around it. -/
def Spells (s : String) (t : Int) : Prop :=
  (∃ before written after, s.toList = before ++ written ++ after ∧
    (∀ c ∈ before, Text.isBlank c = true) ∧ (∀ c ∈ after, Text.isBlank c = true) ∧
    Writes written t) ∧
  minimum ≤ t ∧ t ≤ maximum

theorem IsDigit.visible {c : Char} (digit : IsDigit c) : Text.isBlank c = false := by
  have least : 48 ≤ c.toNat := digit.1
  have most : c.toNat ≤ 57 := digit.2
  simp [Text.isBlank, Text.blankRanges]
  omega

theorem Writes.visible {cs : List Char} {t : Int} (writes : Writes cs t) :
    cs ≠ [] ∧ ∀ c ∈ cs, Text.isBlank c = false := by
  have plus : Text.isBlank '+' = false := by decide
  have minus : Text.isBlank '-' = false := by decide
  have each {ds : List Char} (digits : ∀ c ∈ ds, IsDigit c) : ∀ c ∈ ds, Text.isBlank c = false :=
    fun c member => (digits c member).visible
  cases writes with
  | plain some digits => exact ⟨some, each digits⟩
  | plus _ digits => exact ⟨List.cons_ne_nil _ _, List.forall_mem_cons.2 ⟨plus, each digits⟩⟩
  | minus _ digits => exact ⟨List.cons_ne_nil _ _, List.forall_mem_cons.2 ⟨minus, each digits⟩⟩

theorem read_trim_eq_ok {s : String} {n : Int64} :
    read (Text.trim s) = .ok n ↔ Spells s n.toInt := by
  rw [read_eq_ok, readChars_eq_ok, Text.trim, String.toList_ofList, Spells]
  refine and_congr_left fun _ => ⟨fun writes => ?_, ?_⟩
  · obtain ⟨before, after, split, front, back⟩ := Text.trimChars_split s.toList
    exact ⟨before, _, after, split, front, back, writes⟩
  · rintro ⟨before, written, after, split, front, back, writes⟩
    rw [split, Text.trimChars_around front writes.visible.2 back]
    exact writes

theorem Spells.unique {s : String} {t u : Int} (one : Spells s t) (two : Spells s u) : t = u := by
  have first := toInt_ofInt one.2.1 one.2.2
  have second := toInt_ofInt two.2.1 two.2.2
  rw [← first, ← read_trim_eq_ok] at one
  rw [← second, ← read_trim_eq_ok, one] at two
  rw [← first, ← second, Except.ok.inj two]

theorem isBlankText_text (t : Int) : Text.isBlankText (text t) = false := by
  obtain ⟨some, visible⟩ := (writes_chars t).visible
  obtain ⟨first, rest, same⟩ := List.exists_cons_of_ne_nil some
  rw [Text.isBlankText, text, String.toList_ofList, same, List.all_cons,
    visible first (by rw [same]; exact List.mem_cons_self), Bool.false_and]

end Integer

namespace TenantId

theorem read_eq_ok {s : String} {id : TenantId} :
    read s = .ok id ↔ Integer.Spells s id.value.toInt := by
  rw [← Integer.read_trim_eq_ok]
  unfold read readId
  cases result : Integer.read (Text.trim s) with
  | error fault => exact iff_of_false nofun nofun
  | ok value =>
    rw [Except.map, Except.ok.injEq, Except.ok.injEq]
    constructor
    · rintro rfl
      rfl
    · rintro rfl
      rfl

end TenantId

end RowGuard
