import RowGuard.Proofs.Json.Decoding
/-!
Values whose objects list their members in the order of the names. An object that was read or built
by insertions is such a value, and so is what the encoders make, since they write the members of a
record in that order.
-/
namespace RowGuard.Json

/-- Every object in the value has its members in the strict order of their names. -/
inductive InOrder : Json → Prop where
  | null : InOrder .null
  | bool (b : Bool) : InOrder (.bool b)
  | int (n : Int) : InOrder (.int n)
  | float (x : Float) : InOrder (.float x)
  | str (s : String) : InOrder (.str s)
  | arr {items : List Json} : (∀ item ∈ items, InOrder item) → InOrder (.arr items)
  | obj {members : List (String × Json)} : Table.Ascending members →
    (∀ member ∈ members, InOrder member.2) → InOrder (.obj members)

theorem ascending_of_names (names : List String) {members : List (String × Json)}
    (among : (Table.keys members).Sublist names) (ascending : names.Pairwise (· < ·)) :
    Table.Ascending members :=
  ascending.sublist among

theorem keys_optional {α : Type} (name : String) (encode : α → Json) (value : Option α) :
    (Table.keys (optional name encode value)).Sublist [name] := by
  cases value with
  | none => exact List.nil_sublist [name]
  | some a => exact .refl [name]

theorem keys_append (first second : List (String × Json)) :
    Table.keys (first ++ second) = Table.keys first ++ Table.keys second :=
  List.map_append

theorem inOrder_optional {α : Type} {name : String} {encode : α → Json} {value : Option α}
    (content : ∀ a ∈ value, (encode a).InOrder) :
    ∀ member ∈ optional name encode value, member.2.InOrder := by
  intro member among
  cases value with
  | none => cases among
  | some a =>
    rw [List.mem_singleton.1 among]
    exact content a rfl

theorem InOrder.node {json : Json} (content : json.InOrder) (name : String) :
    (Json.obj [(name, json)]).InOrder := by
  apply InOrder.obj
  · exact List.pairwise_singleton _ name
  · intro member among
    rw [List.mem_singleton.1 among]
    exact content

theorem InOrder.two {a b : Json} (first : a.InOrder) (second : b.InOrder) {name other : String}
    (before : name < other) : (Json.obj [(name, a), (other, b)]).InOrder := by
  apply InOrder.obj
  · exact List.pairwise_pair.2 before
  · intro member among
    rcases List.mem_cons.1 among with rfl | last
    · exact first
    · rw [List.mem_singleton.1 last]
      exact second

/-! ## Records of values in order -/

namespace Decoder

variable {α σ : Type} {property : σ → Prop}

/-- Assigning the field from a value in order keeps a property of the record. -/
def Field.Keeps (property : σ → Prop) (field : Field σ) : Prop :=
  ∀ (json : Json) (change : σ → σ), json.InOrder → field.assign.fromJson json = .ok change →
    ∀ record, property record → property (change record)

theorem Field.keeps_of_set {set : α → σ → σ} {decode : Decoder α}
    (kept : ∀ json a, json.InOrder → Reads decode json a →
      ∀ record, property record → property (set a record))
    (names : List String) (needed closing : Bool) :
    Field.Keeps property ⟨names, needed, closing, Field.assigning set decode⟩ := by
  intro json change ordered reads record holds
  unfold fromJson Field.assigning Decoder.map at reads
  dsimp only at reads
  cases read : decode .tree json.toDocument with
  | error failure =>
    rw [read] at reads
    cases reads
  | ok a =>
    rw [read] at reads
    cases reads
    exact kept json a ordered read record holds

theorem assignItems_keeps {fields : List (Field σ)}
    (keeps : ∀ field ∈ fields, field.Keeps property) {items : List Json}
    (ordered : ∀ item ∈ items, item.InOrder) {before after : σ} (holds : property before)
    (read : assignItems .tree fields (itemDocuments items) before = .ok after) :
    property after := by
  induction items generalizing fields before with
  | nil =>
    rw [itemDocuments, assignItems] at read
    split at read <;> cases read
    exact holds
  | cons item rest ih =>
    obtain ⟨now, later⟩ := List.forall_mem_cons.1 ordered
    cases fields with
    | nil => cases read
    | cons field fields =>
      obtain ⟨first, others⟩ := List.forall_mem_cons.1 keeps
      rw [itemDocuments, assignItems] at read
      cases assigned : field.assign .tree item.toDocument with
      | error failure =>
        rw [assigned] at read
        cases read
      | ok change =>
        rw [assigned] at read
        exact ih others later (first item change now assigned before holds) read

theorem assignMembers_keeps {fields : List (Field σ)}
    (keeps : ∀ field ∈ fields, field.Keeps property) {members : List (String × Json)}
    (ordered : ∀ member ∈ members, member.2.InOrder) {seen : List (List String)}
    {before after : σ} (holds : property before)
    (read : Assigns fields seen members before after) : property after := by
  unfold Assigns at read
  induction members generalizing seen before with
  | nil =>
    rw [memberDocuments, assignMembers] at read
    split at read <;> cases read
    exact holds
  | cons member rest ih =>
    obtain ⟨name, json⟩ := member
    obtain ⟨now, later⟩ := List.forall_mem_cons.1 ordered
    rw [memberDocuments, assignMembers] at read
    cases known : fields.find? fun field => field.names.contains name with
    | none =>
      rw [known] at read
      cases skipped : skip json.toDocument with
      | error failure =>
        simp only [skipped] at read
        cases read
      | ok done =>
        simp only [skipped] at read
        exact ih later holds read
    | some field =>
      rw [known] at read
      dsimp only at read
      split at read
      · cases read
      · cases assigned : field.assign .tree json.toDocument with
        | error failure =>
          rw [assigned] at read
          cases read
        | ok change =>
          rw [assigned] at read
          have kept := keeps field (List.mem_of_find?_eq_some known) json change now assigned
          exact ih later (kept before holds) read

theorem record_keeps (property : σ → Prop) {fields : List (Field σ)} {initial after : σ}
    {json : Json} (ordered : json.InOrder) (keeps : ∀ field ∈ fields, field.Keeps property)
    (holds : property initial) (read : Reads (record fields initial) json after) :
    property after := by
  unfold Reads fromJson at read
  cases ordered with
  | arr items => exact assignItems_keeps keeps items holds read
  | obj _ members => exact assignMembers_keeps keeps members holds read
  | null => cases read
  | bool b => cases read
  | int n => cases read
  | float x => cases read
  | str s => cases read

end Decoder

end RowGuard.Json
