import RowGuard.Sql.Expr
/-!
The JSON form of expressions. A node is an object with one member that names its kind; the parts of
a node with several are members of their own, written in the order of their names.
-/
namespace RowGuard.Sql

namespace Expr

def pairJson (left right : Json) : Json := .obj [("left", left), ("right", right)]

def subqueryJson (projection : Column) (source : String) (filter : List (String × Json)) : Json :=
  .obj (filter ++ [("from", .str source), ("projection", projection.toJson)])

mutual

def toJson : Expr → Json
  | .column c => .obj [("column", c.toJson)]
  | .literal v => .obj [("literal", v.toJson)]
  | .eq left right => .obj [("eq", pairJson (toJson left) (toJson right))]
  | .inValues needle values =>
    .obj [("in", .obj [("expr", toJson needle),
      ("list", .obj [("values", .arr (toJsonEach values))])])]
  | .inSubquery needle projection source filter =>
    .obj [("in", .obj [("expr", toJson needle),
      ("list", .obj [("subquery", subqueryJson projection source (filterJson filter))])])]
  | .and left right => .obj [("and", pairJson (toJson left) (toJson right))]
  | .or left right => .obj [("or", pairJson (toJson left) (toJson right))]
  | .nested inner => .obj [("nested", toJson inner)]
  | .function name arguments =>
    .obj [("function", .obj [("args", .arr (toJsonEach arguments)), ("name", .str name)])]

def toJsonEach : List Expr → List Json
  | [] => []
  | e :: rest => toJson e :: toJsonEach rest

def filterJson : Option Expr → List (String × Json)
  | none => []
  | some e => [("filter", toJson e)]

end

end Expr

open Json.Decoder

def Subquery.toJson (query : Subquery) : Json :=
  Expr.subqueryJson query.projection query.source (Expr.filterJson query.filter)

def Membership.toJson : Membership → Json
  | .values items => .obj [("values", .arr (Expr.toJsonEach items))]
  | .subquery query => .obj [("subquery", query.toJson)]

def Subquery.decodeWith (decode : Json.Decoder Expr) : Json.Decoder Subquery :=
  record
    [.required "projection" Column.decode fun v q => { q with projection := v },
      .required "from" text fun v q => { q with source := v },
      .defaulted "filter" (nullable decode) fun v q => { q with filter := v }]
    default

def Membership.decodeWith (decode : Json.Decoder Expr) : Json.Decoder Membership :=
  choice fun
    | "values" => some (map .values (list decode))
    | "subquery" => some (map .subquery (Subquery.decodeWith decode))
    | _ => none

namespace Expr

/-- The two operands of a node, in any order in an object. -/
def decodePair (decode : Json.Decoder Expr) : Json.Decoder (Expr × Expr) :=
  variantRecord
    [.required "left" decode fun v p => (v, p.2), .required "right" decode fun v p => (p.1, v)]
    default

def decodeIn (decode : Json.Decoder Expr) : Json.Decoder (Expr × Membership) :=
  variantRecord
    [.required "expr" decode fun v p => (v, p.2),
      .required "list" (Membership.decodeWith decode) fun v p => (p.1, v)]
    default

def decodeCall (decode : Json.Decoder Expr) : Json.Decoder (String × List Expr) :=
  variantRecord
    [.required "name" Json.Decoder.text fun v p => (v, p.2),
      .required "args" (list decode) fun v p => (p.1, v)]
    default

def decodeWithin : Nat → Json.Decoder Expr
  | 0 => fun _ _ => malformed
  | depth + 1 =>
    choice fun
      | "column" => some (map .column Column.decode)
      | "literal" => some (map .literal Value.decode)
      | "eq" => some (map (fun p => .eq p.1 p.2) (decodePair (decodeWithin depth)))
      | "in" => some (map (fun p => within p.1 p.2) (decodeIn (decodeWithin depth)))
      | "and" => some (map (fun p => .and p.1 p.2) (decodePair (decodeWithin depth)))
      | "or" => some (map (fun p => .or p.1 p.2) (decodePair (decodeWithin depth)))
      | "nested" => some (map .nested (decodeWithin depth))
      | "function" => some (map (fun p => .function p.1 p.2) (decodeCall (decodeWithin depth)))
      | _ => none

/-- An expression. No expression has more levels than its document. -/
def decode : Json.Decoder Expr := fun source d => decodeWithin (d.height + 1) source d

end Expr

def Subquery.decode : Json.Decoder Subquery := decodeWith Expr.decode

def Membership.decode : Json.Decoder Membership := decodeWith Expr.decode

end RowGuard.Sql
