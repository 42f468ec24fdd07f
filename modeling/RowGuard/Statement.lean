import RowGuard.Access.Descriptor
import RowGuard.Sql.Codec
import RowGuard.Sql.Render
/-!
Statements as the guard sees them before they run: what they do to which table, their filter and
their parameters.
-/
namespace RowGuard

inductive StatementKind where
  | select
  | insert
  | update
  | delete
  deriving DecidableEq, Repr, Inhabited

namespace StatementKind

def name : StatementKind → String
  | select => "select"
  | insert => "insert"
  | update => "update"
  | delete => "delete"

def ofName? (s : String) : Option StatementKind :=
  [select, insert, update, delete].find? fun kind => s == kind.name

def toJson (kind : StatementKind) : Json := .str kind.name

def decode : Json.Decoder StatementKind := Json.Decoder.unitChoice ofName?

end StatementKind

structure Statement where
  kind : StatementKind
  table : String
  /-- The alias of the table in the statement. -/
  shortName : Option String := none
  filter : Option Sql.Expr := none
  /-- Present where the table is subject to data scopes. -/
  descriptor : Option EntityDescriptor := none
  params : List (String × Json) := []
  /-- Exempts the statement from the tenant line. -/
  ignoreTenantLine : Bool := false
  deriving Inhabited

namespace Statement

def whereClause (s : Statement) : Option String := s.filter.map Sql.Expr.render

def toJson (s : Statement) : Json :=
  .obj (Json.optional "alias" Json.str s.shortName ++
    Json.optional "data_scope" EntityDescriptor.toJson s.descriptor ++
    Json.optional "filter" Sql.Expr.toJson s.filter ++
    [("ignore_tenant_line", .bool s.ignoreTenantLine), ("kind", s.kind.toJson),
      ("params", .obj s.params), ("table", .str s.table)])

def decodeParams : Json.Decoder (List (String × Json))
  | source, .obj ds => Json.Document.memberValues source ds
  | _, .deepObject _ => Json.Decoder.malformed
  | _, d => Json.Decoder.refuse d

def fields : List (Json.Decoder.Field Statement) :=
  [.required "kind" StatementKind.decode fun v s => { s with kind := v },
    .required "table" Json.Decoder.text fun v s => { s with table := v },
    .defaulted "alias" (Json.Decoder.nullable Json.Decoder.text)
      fun v s => { s with shortName := v },
    .defaulted "filter" (Json.Decoder.nullable Sql.Expr.decode) fun v s => { s with filter := v },
    .defaulted "data_scope" (Json.Decoder.nullable EntityDescriptor.decode)
      fun v s => { s with descriptor := v },
    .defaulted "params" decodeParams fun v s => { s with params := v },
    .defaulted "ignore_tenant_line" Json.Decoder.boolean
      fun v s => { s with ignoreTenantLine := v }]

def decode : Json.Decoder Statement :=
  Json.Decoder.record fields { kind := .select, table := "" }

end Statement

end RowGuard
