import RowGuard.Sql.Column
/-!
What a guarded table is called where a data scope refers to it. A descriptor is chosen once per
table or query; every name in it has a default.
-/
namespace RowGuard

structure EntityDescriptor where
  /-- Primary key of the department table. -/
  idColumn : String := "dept_id"
  /-- Department column of the guarded table and of the link table. -/
  deptIdColumn : String := "dept_id"
  /-- Owner column of the guarded table. -/
  userIdColumn : String := "user_id"
  /-- Alias of the guarded table in the statement. -/
  tableAlias : String := ""
  /-- Department table. -/
  deptTable : String := "sys_dept"
  /-- Table that links roles to departments. -/
  roleDeptTable : String := "sys_role_dept"
  /-- Role column of the link table. -/
  roleIdColumn : String := "role_id"
  /-- Column of the department table with the comma-separated ids of the ancestors. -/
  ancestorsColumn : String := "ancestors"
  deriving DecidableEq, Repr, Inhabited

namespace EntityDescriptor

def standard : EntityDescriptor := {}

def deptColumn (d : EntityDescriptor) : Sql.Column := .qualified d.tableAlias d.deptIdColumn

def ownerColumn (d : EntityDescriptor) : Sql.Column := .qualified d.tableAlias d.userIdColumn

def toJson (d : EntityDescriptor) : Json :=
  .obj [("ancestors_column", .str d.ancestorsColumn), ("dept_id_column", .str d.deptIdColumn),
    ("dept_table", .str d.deptTable), ("id_column", .str d.idColumn),
    ("role_dept_table", .str d.roleDeptTable), ("role_id_column", .str d.roleIdColumn),
    ("table_alias", .str d.tableAlias), ("user_id_column", .str d.userIdColumn)]

def setters : List (String × (String → EntityDescriptor → EntityDescriptor)) :=
  [("id_column", fun v d => { d with idColumn := v }),
    ("dept_id_column", fun v d => { d with deptIdColumn := v }),
    ("user_id_column", fun v d => { d with userIdColumn := v }),
    ("table_alias", fun v d => { d with tableAlias := v }),
    ("dept_table", fun v d => { d with deptTable := v }),
    ("role_dept_table", fun v d => { d with roleDeptTable := v }),
    ("role_id_column", fun v d => { d with roleIdColumn := v }),
    ("ancestors_column", fun v d => { d with ancestorsColumn := v })]

/-- Sets the name of one part; an unknown part changes nothing. -/
def set (part value : String) (d : EntityDescriptor) : EntityDescriptor :=
  match Table.find? part setters with
  | some change => change value d
  | none => d

def fields : List (Json.Decoder.Field EntityDescriptor) :=
  setters.map fun setter => .defaulted setter.1 Json.Decoder.text setter.2

def decode : Json.Decoder EntityDescriptor := Json.Decoder.record fields standard

end EntityDescriptor

end RowGuard
