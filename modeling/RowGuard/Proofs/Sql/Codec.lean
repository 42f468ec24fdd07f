import RowGuard.Proofs.Json.Order
import RowGuard.Proofs.Number.Decimal
import RowGuard.Sql.Codec
/-!
Expressions survive JSON. Every node is written under its own name and read as the node it was, by
induction on the tree; the bound on the levels that are read is never met, since a node stands
deeper in its document than in its tree. What is written has its members in order.
-/
namespace RowGuard.Sql

open Json.Decoder

theorem Column.reads (c : Column) : Reads Column.decode c.toJson c := by
  have qualifier : Assigns Column.fields [["name"]]
      (Json.optional "qualifier" Json.str c.qualifier ++ []) ⟨none, c.name⟩ c :=
    .optional rfl rfl rfl rfl (fun q _ => ⟨reads_text q, rfl⟩) (.done rfl)
  rw [List.append_nil] at qualifier
  exact reads_record (.member rfl rfl ((reads_text c.name).map _) qualifier)

theorem Column.inOrder (c : Column) : c.toJson.InOrder := by
  rw [toJson]
  cases c.qualifier with
  | none => exact (Json.InOrder.str c.name).node "name"
  | some qualifier => exact (Json.InOrder.str c.name).two (.str qualifier) (by decide)

theorem Value.ofJson?_toJson (v : Value) : Value.ofJson? v.toJson = some v := by
  cases v with
  | int n =>
    rw [toJson, ofJson?, if_pos (Integer.toInt_range n), Int64.ofInt_toInt]
  | text s => rfl
  | null => rfl

theorem Value.reads (v : Value) : Reads Value.decode v.toJson v :=
  (reads_anything v.toJson).check v.ofJson?_toJson

theorem Value.inOrder (v : Value) : v.toJson.InOrder := by
  cases v with
  | int n => exact .int n.toInt
  | text s => exact .str s
  | null => exact .null

namespace Expr

open Json (Document toDocument itemDocuments memberDocuments)

variable {decode : Json.Decoder Expr} {a b : Json} {left right : Expr}

theorem reads_pair (first : Reads decode a left) (second : Reads decode b right) :
    Reads (decodePair decode) (pairJson a b) (left, right) := by
  unfold decodePair
  apply reads_variantRecord
  apply Assigns.member rfl rfl (first.map _)
  apply Assigns.member rfl rfl (second.map _)
  exact .done rfl

theorem reads_in {membership : Membership} (needle : Reads decode a left)
    (list : Reads (Membership.decodeWith decode) b membership) :
    Reads (decodeIn decode) (.obj [("expr", a), ("list", b)]) (left, membership) := by
  unfold decodeIn
  apply reads_variantRecord
  apply Assigns.member rfl rfl (needle.map _)
  apply Assigns.member rfl rfl (list.map _)
  exact .done rfl

theorem reads_values {items : List Json} {values : List Expr}
    (list : Reads (Json.Decoder.list decode) (.arr items) values) :
    Reads (Membership.decodeWith decode) (.obj [("values", .arr items)]) (.values values) := by
  unfold Membership.decodeWith
  exact (list.map Membership.values).choice rfl

theorem reads_call {arguments : List Expr} (name : String)
    (list : Reads (Json.Decoder.list decode) a arguments) :
    Reads (decodeCall decode) (.obj [("args", a), ("name", .str name)]) (name, arguments) := by
  unfold decodeCall
  apply reads_variantRecord
  apply Assigns.member rfl rfl (list.map _)
  apply Assigns.member rfl rfl ((reads_text name).map _)
  exact .done rfl

theorem toJson_present (e : Expr) : e.toJson.isNull = false := by
  cases e <;> rfl

theorem filterJson_eq (filter : Option Expr) :
    filterJson filter = Json.optional "filter" toJson filter := by
  cases filter <;> rfl

theorem reads_subquery (projection : Column) (source : String) {filter : Option Expr}
    (reads : ∀ e ∈ filter, Reads decode e.toJson e) :
    Reads (Subquery.decodeWith decode) (subqueryJson projection source (filterJson filter))
      ⟨projection, source, filter⟩ := by
  rw [subqueryJson, filterJson_eq]
  unfold Subquery.decodeWith
  apply reads_record
  refine .optional rfl rfl rfl rfl (fun e present => ⟨reads e present, toJson_present e⟩) ?_
  apply Assigns.member rfl rfl ((reads_text source).map _)
  apply Assigns.member rfl rfl ((Column.reads projection).map _)
  exact .done rfl

theorem reads_lookup (projection : Column) (source : String) {filter : Option Expr}
    (reads : ∀ e ∈ filter, Reads decode e.toJson e) :
    Reads (Membership.decodeWith decode)
      (.obj [("subquery", subqueryJson projection source (filterJson filter))])
      (.subquery ⟨projection, source, filter⟩) := by
  unfold Membership.decodeWith
  exact ((reads_subquery projection source reads).map Membership.subquery).choice rfl

/-! ## Levels -/

def levels (json : Json) : Nat := (toDocument json).height

theorem levels_node (name : String) (json : Json) :
    levels (.obj [(name, json)]) = levels json + 1 := by
  simp [levels, toDocument, memberDocuments, Document.height, Document.heightMembers]

theorem levels_two (name other : String) (a b : Json) :
    levels (.obj [(name, a), (other, b)]) = max (levels a) (levels b) + 1 := by
  simp [levels, toDocument, memberDocuments, Document.height, Document.heightMembers]

theorem levels_pair {name : String} {depth : Nat}
    (high : levels (.obj [(name, pairJson a b)]) < depth + 1) :
    levels a < depth ∧ levels b < depth := by
  rw [levels_node, pairJson, levels_two] at high
  omega

theorem levels_cons (json : Json) (rest : List Json) :
    levels (.arr (json :: rest)) = max (levels json + 1) (levels (.arr rest)) := by
  simp [levels, toDocument, itemDocuments, Document.height, Document.heightItems]

theorem levels_filter (projection : Column) (source : String) (e : Expr) :
    levels e.toJson < levels (subqueryJson projection source (filterJson (some e))) := by
  simp only [levels, filterJson, subqueryJson, toDocument, memberDocuments, Document.height,
    Document.heightMembers, List.cons_append, List.nil_append]
  omega

/-! ## Trees -/

mutual

/-- A tree is read back where as many levels are read as its document has. -/
theorem reads_within : (e : Expr) → (depth : Nat) → levels e.toJson < depth →
    Reads (decodeWithin depth) e.toJson e
  | .column c, depth + 1, _ => by
    rw [decodeWithin, toJson]
    exact ((Column.reads c).map column).choice rfl
  | .literal v, depth + 1, _ => by
    rw [decodeWithin, toJson]
    exact ((Value.reads v).map literal).choice rfl
  | .eq left right, depth + 1, high => by
    rw [toJson] at high
    have first := reads_within left depth (levels_pair high).1
    have second := reads_within right depth (levels_pair high).2
    rw [decodeWithin, toJson]
    exact ((reads_pair first second).map fun p => Expr.eq p.1 p.2).choice rfl
  | .inValues needle values, depth + 1, high => by
    rw [toJson, levels_node, levels_two, levels_node] at high
    have sought := reads_within needle depth (by omega)
    have list := reads_values (reads_each values depth (by omega))
    rw [decodeWithin, toJson]
    exact ((reads_in sought list).map fun p => within p.1 p.2).choice rfl
  | .inSubquery needle projection source filter, depth + 1, high => by
    rw [toJson, levels_node, levels_two, levels_node] at high
    have sought := reads_within needle depth (by omega)
    have inner := reads_filter filter depth fun e present => by
      have fewer := levels_filter projection source e
      rw [← Option.mem_def.1 present] at fewer
      omega
    have list := reads_lookup projection source inner
    rw [decodeWithin, toJson]
    exact ((reads_in sought list).map fun p => within p.1 p.2).choice rfl
  | .and left right, depth + 1, high => by
    rw [toJson] at high
    have first := reads_within left depth (levels_pair high).1
    have second := reads_within right depth (levels_pair high).2
    rw [decodeWithin, toJson]
    exact ((reads_pair first second).map fun p => Expr.and p.1 p.2).choice rfl
  | .or left right, depth + 1, high => by
    rw [toJson] at high
    have first := reads_within left depth (levels_pair high).1
    have second := reads_within right depth (levels_pair high).2
    rw [decodeWithin, toJson]
    exact ((reads_pair first second).map fun p => Expr.or p.1 p.2).choice rfl
  | .nested inner, depth + 1, high => by
    rw [toJson, levels_node] at high
    have content := reads_within inner depth (by omega)
    rw [decodeWithin, toJson]
    exact (content.map nested).choice rfl
  | .function name arguments, depth + 1, high => by
    rw [toJson, levels_node, levels_two] at high
    have list := reads_each arguments depth (by omega)
    rw [decodeWithin, toJson]
    exact ((reads_call name list).map fun p => Expr.function p.1 p.2).choice rfl

theorem reads_each : (es : List Expr) → (depth : Nat) → levels (.arr (toJsonEach es)) ≤ depth →
    Reads (Json.Decoder.list (decodeWithin depth)) (.arr (toJsonEach es)) es
  | [], depth, _ => reads_list_nil (decodeWithin depth)
  | e :: rest, depth, high => by
    rw [toJsonEach, levels_cons] at high
    have first := reads_within e depth (by omega)
    have others := reads_each rest depth (by omega)
    rw [toJsonEach]
    exact first.list_cons others

theorem reads_filter : (filter : Option Expr) → (depth : Nat) →
    (∀ e ∈ filter, levels e.toJson < depth) →
    ∀ e ∈ filter, Reads (decodeWithin depth) e.toJson e
  | none, _, _ => nofun
  | some e, depth, high => by
    rintro _ ⟨⟩
    exact reads_within e depth (high e rfl)

end

theorem reads (e : Expr) : Reads Expr.decode e.toJson e :=
  reads_within e (levels e.toJson + 1) (Nat.lt_succ_self _)

/-! ## Order -/

theorem pairJson_inOrder (first : a.InOrder) (second : b.InOrder) : (pairJson a b).InOrder :=
  first.two second (by decide)

theorem subqueryJson_inOrder (projection : Column) (source : String) {filter : Option Expr}
    (content : ∀ e ∈ filter, e.toJson.InOrder) :
    (subqueryJson projection source (filterJson filter)).InOrder := by
  rw [subqueryJson, filterJson_eq]
  apply Json.InOrder.obj
  · apply Json.ascending_of_names ["filter", "from", "projection"]
    · rw [Json.keys_append]
      exact (Json.keys_optional "filter" toJson filter).append (.refl _)
    · decide
  · intro member among
    rcases List.mem_append.1 among with front | back
    · exact Json.inOrder_optional content member front
    · rcases List.mem_cons.1 back with rfl | last
      · exact .str source
      · rw [List.mem_singleton.1 last]
        exact projection.inOrder

mutual

theorem inOrder : (e : Expr) → e.toJson.InOrder
  | .column c => by
    rw [toJson]
    exact c.inOrder.node "column"
  | .literal v => by
    rw [toJson]
    exact v.inOrder.node "literal"
  | .eq left right => by
    rw [toJson]
    exact (pairJson_inOrder (inOrder left) (inOrder right)).node "eq"
  | .inValues needle values => by
    rw [toJson]
    have list := (Json.InOrder.arr (inOrder_each values)).node "values"
    exact ((inOrder needle).two list (by decide)).node "in"
  | .inSubquery needle projection source filter => by
    rw [toJson]
    have query := subqueryJson_inOrder projection source (inOrder_filter filter)
    exact ((inOrder needle).two (query.node "subquery") (by decide)).node "in"
  | .and left right => by
    rw [toJson]
    exact (pairJson_inOrder (inOrder left) (inOrder right)).node "and"
  | .or left right => by
    rw [toJson]
    exact (pairJson_inOrder (inOrder left) (inOrder right)).node "or"
  | .nested inner => by
    rw [toJson]
    exact (inOrder inner).node "nested"
  | .function name arguments => by
    rw [toJson]
    have list := Json.InOrder.arr (inOrder_each arguments)
    exact (list.two (.str name) (by decide)).node "function"

theorem inOrder_each : (es : List Expr) → ∀ item ∈ toJsonEach es, item.InOrder
  | [] => nofun
  | e :: rest => by
    rw [toJsonEach]
    exact List.forall_mem_cons.2 ⟨inOrder e, inOrder_each rest⟩

theorem inOrder_filter : (filter : Option Expr) → ∀ e ∈ filter, e.toJson.InOrder
  | none => nofun
  | some e => by
    rintro _ ⟨⟩
    exact inOrder e

end

end Expr

end RowGuard.Sql
