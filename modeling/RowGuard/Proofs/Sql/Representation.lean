import RowGuard.Proofs.Sql.Codec
import RowGuard.Sql.Eval
/-!
One row in three forms. A JSON object whose members are 64-bit integers, texts and nulls can also be
held as a hash map or an ordered map of values. The maps hold the values and share one search; the
object has a search of its own and makes a cell of the member it finds. All three answer every
column alike, so no expression can tell them apart.
-/
namespace RowGuard

namespace Table

variable {α : Type} {cells : Table α}

theorem keys_contains_eq_false {key : String} (absent : find? key cells = none) :
    (keys cells).contains key = false := by
  rw [List.contains_eq_mem, decide_eq_false_iff_not, mem_keys, absent]
  exact Bool.false_ne_true

theorem getElem?_hashMap (distinct : (keys cells).Nodup) (key : String) :
    (Std.HashMap.ofList cells)[key]? = find? key cells := by
  cases found : find? key cells with
  | some value =>
    have apart : cells.Pairwise fun a b => (a.1 == b.1) = false :=
      (List.pairwise_map.1 distinct).imp beq_false_of_ne
    exact Std.HashMap.getElem?_ofList_of_mem (beq_self_eq_true key) apart (mem_of_find? found)
  | none => exact Std.HashMap.getElem?_ofList_of_contains_eq_false (keys_contains_eq_false found)

theorem getElem?_treeMap (distinct : (keys cells).Nodup) (key : String) :
    (Std.TreeMap.ofList cells)[key]? = find? key cells := by
  cases found : find? key cells with
  | some value =>
    have apart : cells.Pairwise fun a b => ¬compare a.1 b.1 = .eq :=
      (List.pairwise_map.1 distinct).imp fun differ same =>
        differ (Std.LawfulEqCmp.eq_of_compare same)
    exact Std.TreeMap.getElem?_ofList_of_mem Std.ReflCmp.compare_self apart (mem_of_find? found)
  | none => exact Std.TreeMap.getElem?_ofList_of_contains_eq_false (keys_contains_eq_false found)

end Table

/-! ## Objects of values -/

namespace Json

/-- The JSON values that are values of a row as they stand: 64-bit integers, texts and null. -/
inductive Plain : Json → Prop where
  | int {n : Int} : Integer.minimum ≤ n → n ≤ Integer.maximum → Plain (.int n)
  | str (s : String) : Plain (.str s)
  | null : Plain .null

namespace Decoder

variable {α : Type} {decode : Decoder α} {encode : α → Json}

/-- Where values are read from what is written of them and from nothing else, objects of them are
so too, member by member. -/
theorem reads_members_iff (exact : ∀ json a, Reads decode json a ↔ json = encode a)
    {members : List (String × Json)} {values : List (String × α)} :
    Reads (Decoder.members decode) (.obj members) values ↔
      members = values.map (Prod.map id encode) := by
  change pairs decode .tree (memberDocuments members) = .ok values ↔ _
  induction members generalizing values with
  | nil => cases values <;> simp [memberDocuments, pairs]
  | cons member rest ih =>
    obtain ⟨name, json⟩ := member
    rw [memberDocuments, pairs]
    constructor
    · intro read
      cases first : decode .tree json.toDocument with
      | error failure =>
        rw [first] at read
        cases read
      | ok a =>
        cases others : pairs decode .tree (memberDocuments rest) with
        | error failure =>
          rw [first, others] at read
          cases read
        | ok as =>
          rw [first, others] at read
          cases read
          rw [List.map_cons, ← ih.1 others, (exact json a).1 first]
          rfl
    · intro written
      cases values with
      | nil => cases written
      | cons value values =>
        rw [List.map_cons, List.cons.injEq, Prod.map, Prod.mk.injEq] at written
        obtain ⟨⟨rfl, content⟩, others⟩ := written
        have first : decode .tree json.toDocument = .ok value.2 := (exact json value.2).2 content
        rw [first, ih.2 others]
        rfl

end Decoder

end Json

namespace Sql

open Json.Decoder (Reads)

namespace Value

theorem ofJson?_eq_some {json : Json} {v : Value} : ofJson? json = some v ↔ json = v.toJson := by
  constructor
  · intro read
    cases json with
    | int n =>
      rw [ofJson?] at read
      split at read <;> cases read
      next range => rw [toJson, Integer.toInt_ofInt range.1 range.2]
    | str s =>
      cases read
      rfl
    | null =>
      cases read
      rfl
    | _ => cases read
  · rintro rfl
    exact v.ofJson?_toJson

theorem reads_iff (json : Json) (v : Value) : Reads Value.decode json v ↔ json = v.toJson := by
  constructor
  · intro read
    have whole : Json.Decoder.anything .tree json.toDocument = .ok json :=
      Json.Decoder.reads_anything json
    unfold Reads Json.Decoder.fromJson Value.decode Json.Decoder.check at read
    simp only [whole, bind, Except.bind] at read
    cases known : ofJson? json with
    | none =>
      rw [known] at read
      cases read
    | some w =>
      rw [known] at read
      cases read
      exact ofJson?_eq_some.1 known
  · rintro rfl
    exact v.reads

theorem plain_iff {json : Json} : json.Plain ↔ ∃ v : Value, json = v.toJson := by
  constructor
  · rintro (⟨lower, upper⟩ | s | -)
    · exact ⟨.int _, by rw [toJson, Integer.toInt_ofInt lower upper]⟩
    · exact ⟨.text s, rfl⟩
    · exact ⟨.null, rfl⟩
  · rintro ⟨v, rfl⟩
    cases v with
    | int n => exact .int (Integer.toInt_range n).1 (Integer.toInt_range n).2
    | text s => exact .str s
    | null => exact .null

end Value

theorem reads_cells_iff {members : List (String × Json)} :
    (∃ cells, Reads (Json.Decoder.members Value.decode) (.obj members) cells) ↔
      ∀ member ∈ members, member.2.Plain := by
  simp only [Json.Decoder.reads_members_iff Value.reads_iff, Value.plain_iff]
  constructor
  · rintro ⟨cells, rfl⟩ member among
    obtain ⟨cell, -, rfl⟩ := List.mem_map.1 among
    exact ⟨cell.2, rfl⟩
  · intro plain
    induction members with
    | nil => exact ⟨[], rfl⟩
    | cons member rest ih =>
      obtain ⟨⟨v, first⟩, others⟩ := List.forall_mem_cons.1 plain
      obtain ⟨cells, written⟩ := ih others
      exact ⟨(member.1, v) :: cells, by rw [List.map_cons, ← written, Prod.map, id, ← first]⟩

/-! ## Rows of one content -/

namespace Row

theorem cell_toJson (v : Value) : cell v.toJson = v := by
  cases v with
  | int n => rw [Value.toJson, cell, if_pos (Integer.toInt_range n), Int64.ofInt_toInt]
  | text s => rfl
  | null => rfl

/-- An object answers a column like the table of its cells, whatever its members are: it makes no
difference whether a member is made a cell of before or after the fallback to the bare name. -/
theorem ofJson_eq_ofTable (members : List (String × Json)) :
    ofJson members = ofTable (members.map (Prod.map id cell)) := by
  funext c
  obtain ⟨qualifier, name⟩ := c
  cases qualifier with
  | none => simp only [ofJson, ofTable, lookup, Table.find?_map, Option.bind_none, Option.none_or]
  | some qualifier =>
    simp only [ofJson, ofTable, lookup, Column.render, Table.find?_map, Option.bind_some,
      Option.map_or]

theorem ofJson_written (cells : Table Value) :
    ofJson (cells.map (Prod.map id Value.toJson)) = ofTable cells := by
  have back : Prod.map id cell ∘ Prod.map id Value.toJson = id (α := String × Value) := by
    funext pair
    exact Prod.ext rfl (cell_toJson pair.2)
  rw [ofJson_eq_ofTable, List.map_map, back, List.map_id]

variable {cells : Table Value}

theorem ofHashMap_ofList (distinct : (Table.keys cells).Nodup) :
    ofHashMap (.ofList cells) = ofTable cells :=
  congrArg lookup (funext (Table.getElem?_hashMap distinct))

theorem ofTreeMap_ofList (distinct : (Table.keys cells).Nodup) :
    ofTreeMap (.ofList cells) = ofTable cells :=
  congrArg lookup (funext (Table.getElem?_treeMap distinct))

theorem ofTable_null {qualifier name : String}
    (null : Table.find? (qualifier ++ "." ++ name) (cells.map (Prod.map id Value.toJson)) =
      some .null) :
    ofTable cells ⟨some qualifier, name⟩ = some .null := by
  rw [Table.find?_map, Option.map_eq_some_iff] at null
  obtain ⟨v, found, written⟩ := null
  have same : v = .null := by
    cases v with
    | null => rfl
    | _ => cases written
  rw [same] at found
  simp only [ofTable, lookup, Column.render, found, Option.some_or]

end Row

/-- Rows are the same in all their forms. An object has every name once. If its members are all
plain it is read as cells of which it is the written form, and on the object, on the hash map and on
the ordered map of these cells every expression has the same value, truth value or error. In all of
them a qualified column stands for the cell under `qualifier.name`, whatever dots there are in
either part and even if that cell is NULL, and only where there is no such cell for the one under
the bare name. -/
theorem row_forms_agree {members : List (String × Json)} (distinct : (Table.keys members).Nodup)
    (plain : ∀ member ∈ members, member.2.Plain) :
    ∃ cells : Table Value,
      Reads (Json.Decoder.members Value.decode) (.obj members) cells ∧
      members = cells.map (Prod.map id Value.toJson) ∧
      ∀ row ∈ [Row.ofJson members, Row.ofHashMap (.ofList cells), Row.ofTreeMap (.ofList cells)],
        (∀ e : Expr, e.value row = e.value (Row.ofJson members) ∧
          e.truth row = e.truth (Row.ofJson members) ∧
          row.matches e = (Row.ofJson members).matches e) ∧
        ∀ qualifier name,
          row ⟨some qualifier, name⟩ =
            (Table.find? (qualifier ++ "." ++ name) cells).or (row (.bare name)) ∧
          row (.bare name) = Table.find? name cells ∧
          (Table.find? (qualifier ++ "." ++ name) members = some .null →
            row ⟨some qualifier, name⟩ = some .null) := by
  obtain ⟨cells, read⟩ := reads_cells_iff.2 plain
  have written := (Json.Decoder.reads_members_iff Value.reads_iff).1 read
  refine ⟨cells, read, written, ?_⟩
  intro row form
  subst written
  rw [Table.keys_map] at distinct
  -- Each form is the row of the table of its cells, so evaluation meets one and the same row.
  have object := Row.ofJson_written cells
  have same : row = Row.ofTable cells := by
    rw [object, Row.ofHashMap_ofList distinct, Row.ofTreeMap_ofList distinct] at form
    simpa using form
  subst same
  rw [object]
  exact ⟨fun e => ⟨rfl, rfl, rfl⟩, fun qualifier name => ⟨rfl, rfl, Row.ofTable_null⟩⟩

/-- A NULL under the qualified name hides the department from `o.dept`, but not from `p.dept`, and a
key with two dots is found under either cut. -/
theorem row_forms_agree_dotted :
    let members : List (String × Json) :=
      [("o.dept", .null), ("dept", .int 3), ("a.b.c", .str " 3 ")]
    ((Table.keys members).Nodup ∧ ∀ member ∈ members, member.2.Plain) ∧
      ∃ cells, Reads (Json.Decoder.members Value.decode) (.obj members) cells ∧
        ∀ row ∈ [Row.ofHashMap (.ofList cells), Row.ofTreeMap (.ofList cells)],
          (Expr.columnEq ⟨some "o", "dept"⟩ (.int 3)).truth row = .ok none ∧
          row.matches (.columnEq ⟨some "p", "dept"⟩ (.int 3)) = .ok true ∧
          row.matches (.inValues (.column ⟨some "a", "b.c"⟩) [.column ⟨some "a.b", "c"⟩]) =
            .ok true ∧
          row ⟨some "o", "dept"⟩ = some .null := by
  intro members
  have distinct : (Table.keys members).Nodup := by decide
  have plain : ∀ member ∈ members, member.2.Plain := reads_cells_iff.1 ⟨_, rfl⟩
  obtain ⟨cells, read, -, agree⟩ := row_forms_agree distinct plain
  refine ⟨⟨distinct, plain⟩, cells, read, fun row form => ?_⟩
  obtain ⟨same, answers⟩ := agree row (List.mem_cons_of_mem _ form)
  refine ⟨?_, ?_, ?_, (answers "o" "dept").2.2 rfl⟩
  · rw [(same _).2.1]
    rfl
  · rw [(same _).2.2]
    rfl
  · rw [(same _).2.2]
    rfl

end Sql

end RowGuard
