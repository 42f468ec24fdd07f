import RowGuard.Proofs.Sql.Codec
import RowGuard.Statement
/-!
Statements survive JSON. A statement is written member by member, what it does not have being left
out, and every member is read as the part it was written from; hence no two statements are written
alike, and a statement that was read in whatever form is read again from the form in which it is
written.
-/
namespace RowGuard

open Json.Decoder

/-! ## Parts of a statement -/

theorem EntityDescriptor.reads (d : EntityDescriptor) :
    Reads EntityDescriptor.decode d.toJson d := by
  unfold EntityDescriptor.decode EntityDescriptor.toJson
  apply reads_record
  apply Assigns.member rfl rfl ((reads_text d.ancestorsColumn).map _)
  apply Assigns.member rfl rfl ((reads_text d.deptIdColumn).map _)
  apply Assigns.member rfl rfl ((reads_text d.deptTable).map _)
  apply Assigns.member rfl rfl ((reads_text d.idColumn).map _)
  apply Assigns.member rfl rfl ((reads_text d.roleDeptTable).map _)
  apply Assigns.member rfl rfl ((reads_text d.roleIdColumn).map _)
  apply Assigns.member rfl rfl ((reads_text d.tableAlias).map _)
  apply Assigns.member rfl rfl ((reads_text d.userIdColumn).map _)
  exact .done rfl

theorem EntityDescriptor.inOrder (d : EntityDescriptor) : d.toJson.InOrder := by
  unfold EntityDescriptor.toJson
  apply Json.InOrder.obj
  · apply Json.ascending_of_names
      ["ancestors_column", "dept_id_column", "dept_table", "id_column", "role_dept_table",
        "role_id_column", "table_alias", "user_id_column"] (.refl _)
    decide
  · intro member among
    simp only [List.mem_cons, List.not_mem_nil, or_false] at among
    rcases among with rfl | rfl | rfl | rfl | rfl | rfl | rfl | rfl <;> exact .str _

theorem StatementKind.reads (kind : StatementKind) :
    Reads StatementKind.decode kind.toJson kind := by
  cases kind <;> rfl

namespace Statement

theorem reads_params (params : List (String × Json)) :
    Reads decodeParams (.obj params) params :=
  Json.memberValues_memberDocuments params

/-! ## Statements -/

theorem reads (s : Statement) : Reads Statement.decode s.toJson s := by
  unfold Statement.decode Statement.toJson
  rw [List.append_assoc, List.append_assoc]
  apply reads_record
  refine .optional rfl rfl rfl rfl (fun name _ => ⟨reads_text name, rfl⟩) ?_
  refine .optional rfl rfl rfl rfl (fun d _ => ⟨d.reads, rfl⟩) ?_
  refine .optional rfl rfl rfl rfl (fun e _ => ⟨e.reads, e.toJson_present⟩) ?_
  apply Assigns.member rfl rfl ((reads_boolean s.ignoreTenantLine).map _)
  apply Assigns.member rfl rfl (s.kind.reads.map _)
  apply Assigns.member rfl rfl ((reads_params s.params).map _)
  apply Assigns.member rfl rfl ((reads_text s.table).map _)
  exact .done rfl

theorem inOrder {s : Statement} (params : (Json.obj s.params).InOrder) : s.toJson.InOrder := by
  unfold Statement.toJson
  apply Json.InOrder.obj
  · apply Json.ascending_of_names
      ["alias", "data_scope", "filter", "ignore_tenant_line", "kind", "params", "table"]
    · rw [Json.keys_append, Json.keys_append, Json.keys_append]
      have shortName := Json.keys_optional "alias" Json.str s.shortName
      have descriptor := Json.keys_optional "data_scope" EntityDescriptor.toJson s.descriptor
      have filter := Json.keys_optional "filter" Sql.Expr.toJson s.filter
      exact ((shortName.append descriptor).append filter).append (.refl _)
    · decide
  · intro member among
    simp only [List.mem_append] at among
    rcases among with ((shortName | descriptor) | filter) | others
    · exact Json.inOrder_optional (fun name _ => .str name) member shortName
    · exact Json.inOrder_optional (fun d _ => d.inOrder) member descriptor
    · exact Json.inOrder_optional (fun e _ => e.inOrder) member filter
    · simp only [List.mem_cons, List.not_mem_nil, or_false] at others
      rcases others with rfl | rfl | rfl | rfl
      · exact .bool s.ignoreTenantLine
      · exact .str s.kind.name
      · exact params
      · exact .str s.table

theorem fields_keep :
    ∀ field ∈ fields, field.Keeps fun s : Statement => (Json.obj s.params).InOrder := by
  have params : ∀ json params, json.InOrder → Reads decodeParams json params →
      (Json.obj params).InOrder := by
    intro json params ordered read
    unfold Reads fromJson at read
    cases ordered with
    | obj ascending members =>
      have same := read.symm.trans (Json.memberValues_memberDocuments _)
      rw [Except.ok.inj same]
      exact .obj ascending members
    | _ => cases read
  unfold fields
  simp only [List.forall_mem_cons]
  refine ⟨?_, ?_, ?_, ?_, ?_, ?_, ?_, List.forall_mem_nil _⟩ <;> apply Field.keeps_of_set
  case refine_6 => exact fun json value ordered read _ _ => params json value ordered read
  all_goals exact fun _ _ _ _ _ kept => kept

theorem params_inOrder {json : Json} {s : Statement} (ordered : json.InOrder)
    (read : Reads Statement.decode json s) : (Json.obj s.params).InOrder := by
  have empty : (Json.obj []).InOrder := .obj List.Pairwise.nil (List.forall_mem_nil _)
  exact record_keeps (fun s => (Json.obj s.params).InOrder) ordered fields_keep empty read

/-- Statements survive JSON: a statement is read back from what is written of it, so no two are
written alike, and one that was read from any value is read again from what is written of it. What
is written has the members of every object in the order of their names where the parameters have, as
they have when they were read from such a value. -/
theorem statements_survive_json :
    (∀ s : Statement, Statement.decode.fromJson s.toJson = .ok s ∧
      ((Json.obj s.params).InOrder → s.toJson.InOrder)) ∧
    Function.Injective Statement.toJson ∧
    ∀ (json : Json) (s : Statement), Statement.decode.fromJson json = .ok s →
      Statement.decode.fromJson s.toJson = .ok s ∧ (json.InOrder → s.toJson.InOrder) := by
  refine ⟨fun s => ⟨reads s, inOrder⟩, ?_, ?_⟩
  · intro s t same
    have first := reads s
    have second := reads t
    unfold Reads at first second
    rw [same, second] at first
    exact (Except.ok.inj first).symm
  · intro json s read
    exact ⟨reads s, fun ordered => inOrder (params_inOrder ordered read)⟩

/-- A statement given as an array that ends after the table. -/
theorem statements_survive_json_array :
    Statement.decode.fromJson (.arr [.str "delete", .str "orders"]) =
        .ok { kind := .delete, table := "orders" } ∧
      Statement.decode.fromJson (toJson { kind := .delete, table := "orders" }) =
        .ok { kind := .delete, table := "orders" } ∧
      (toJson { kind := .delete, table := "orders" }).InOrder := by
  have ordered : (Json.arr [.str "delete", .str "orders"]).InOrder := by
    apply Json.InOrder.arr
    simp [Json.InOrder.str]
  have read : Statement.decode.fromJson (.arr [.str "delete", .str "orders"]) =
      .ok { kind := .delete, table := "orders" } := rfl
  obtain ⟨again, kept⟩ := statements_survive_json.2.2 _ _ read
  exact ⟨read, again, kept ordered⟩

end Statement

end RowGuard
