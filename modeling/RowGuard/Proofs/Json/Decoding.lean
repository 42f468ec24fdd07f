import RowGuard.Json.Decode
/-!
Decoders of values that were encoded. A value is read back from its document, a choice takes the
alternative it was written as, and a record is read member by member, each setting the field it
belongs to.
-/
namespace RowGuard.Json

/-! ## Values -/

mutual

theorem value_toDocument : (json : Json) → (toDocument json).value .tree = .ok json
  | .null => rfl
  | .bool _ => rfl
  | .int _ => rfl
  | .float _ => rfl
  | .str _ => rfl
  | .arr items => by
    rw [toDocument, Document.value, itemValues_itemDocuments items]
    rfl
  | .obj members => by
    rw [toDocument, Document.value, memberValues_memberDocuments members]
    rfl

theorem itemValues_itemDocuments :
    (items : List Json) → Document.itemValues .tree (itemDocuments items) = .ok items
  | [] => rfl
  | item :: rest => by
    rw [itemDocuments, Document.itemValues, value_toDocument item, itemValues_itemDocuments rest]
    rfl

theorem memberValues_memberDocuments : (members : List (String × Json)) →
    Document.memberValues .tree (memberDocuments members) = .ok members
  | [] => rfl
  | (name, value) :: rest => by
    rw [memberDocuments, Document.memberValues, value_toDocument value,
      memberValues_memberDocuments rest]
    rfl

end

namespace Decoder

variable {α β σ : Type}

def Reads (decode : Decoder α) (json : Json) (a : α) : Prop := decode.fromJson json = .ok a

theorem Reads.map {decode : Decoder α} {json : Json} {a : α} (reads : Reads decode json a)
    (f : α → β) : Reads (Decoder.map f decode) json (f a) := by
  unfold Reads fromJson Decoder.map at *
  rw [reads]
  rfl

theorem Reads.nullable {decode : Decoder α} {json : Json} {a : α} (reads : Reads decode json a)
    (present : json.isNull = false) : Reads (Decoder.nullable decode) json (some a) := by
  unfold Reads fromJson at *
  cases json with
  | null => cases present
  | _ =>
    rw [toDocument] at reads ⊢
    rw [Decoder.nullable, reads]
    · rfl
    · nofun

theorem Reads.check {decode : Decoder α} {json : Json} {a : α} {b : β} {f : α → Option β}
    (reads : Reads decode json a) (passes : f a = some b) :
    Reads (Decoder.check f decode) json b := by
  unfold Reads fromJson Decoder.check at *
  simp only [reads, bind, Except.bind, passes]
  rfl

theorem reads_anything (json : Json) : Reads anything json json := value_toDocument json

theorem reads_text (s : String) : Reads Decoder.text (.str s) s := rfl

theorem reads_boolean (b : Bool) : Reads Decoder.boolean (.bool b) b := rfl

theorem Reads.choice {pick : String → Option (Decoder α)} {name : String} {decode : Decoder α}
    {json : Json} {a : α} (reads : Reads decode json a) (picked : pick name = some decode) :
    Reads (Decoder.choice pick) (.obj [(name, json)]) a := by
  have named : alternative pick (.str name) = .ok decode := by
    rw [alternative, picked]
  unfold Reads fromJson at *
  rw [toDocument, memberDocuments, memberDocuments, Decoder.choice, named]
  change ((decode .tree json.toDocument).bind fun a => .ok a) = .ok a
  rw [reads]
  rfl

theorem reads_list_nil (decode : Decoder α) : Reads (Decoder.list decode) (.arr []) [] := rfl

theorem Reads.list_cons {decode : Decoder α} {json : Json} {rest : List Json} {a : α} {as : List α}
    (first : Reads decode json a) (others : Reads (Decoder.list decode) (.arr rest) as) :
    Reads (Decoder.list decode) (.arr (json :: rest)) (a :: as) := by
  unfold Reads fromJson at *
  rw [toDocument, Decoder.list] at others ⊢
  rw [itemDocuments, items, first, others]
  rfl

/-! ## Records -/

/-- Reading members one after the other makes one record of another. `seen` holds the names of the
fields that were read before. -/
def Assigns (fields : List (Field σ)) (seen : List (List String)) (members : List (String × Json))
    (before after : σ) : Prop :=
  assignMembers .tree fields seen (memberDocuments members) before = .ok after

def fieldOf (fields : List (Field σ)) (name : String) : Option (Field σ) :=
  fields.find? fun field => field.names.contains name

theorem reads_record {fields : List (Field σ)} {members : List (String × Json)}
    {initial record : σ} (assigns : Assigns fields [] members initial record) :
    Reads (Decoder.record fields initial) (.obj members) record := by
  unfold Reads fromJson
  rw [toDocument, Decoder.record]
  exact assigns

theorem reads_variantRecord {fields : List (Field σ)} {members : List (String × Json)}
    {initial record : σ} (assigns : Assigns fields [] members initial record) :
    Reads (Decoder.variantRecord fields initial) (.obj members) record := by
  have reads := reads_record assigns
  unfold Reads fromJson at *
  rw [toDocument] at reads ⊢
  rw [Decoder.variantRecord, reads]
  nofun

variable {fields : List (Field σ)} {seen : List (List String)} {name : String} {before after : σ}

theorem Assigns.done
    (complete : (fields.all fun field => !field.needed || seen.contains field.names) = true) :
    Assigns fields seen [] before before := by
  unfold Assigns
  rw [memberDocuments, assignMembers, if_pos complete]

theorem Assigns.member {field : Field σ} {json : Json} {rest : List (String × Json)}
    {change : σ → σ} (known : fieldOf fields name = some field)
    (fresh : seen.contains field.names = false) (reads : Reads field.assign json change)
    (others : Assigns fields (field.names :: seen) rest (change before) after) :
    Assigns fields seen ((name, json) :: rest) before after := by
  unfold Assigns at *
  unfold fieldOf at known
  unfold Reads fromJson at reads
  rw [memberDocuments, assignMembers, known]
  dsimp only
  rw [if_neg (by rw [fresh]; decide), reads]
  exact others

def MayLack (fields : List (Field σ)) (names : List String) : Prop :=
  (fields.all fun field => field.names != names || !field.needed) = true

/-- What is read after a field that may be left out is read without it, too. -/
theorem assignMembers_without {names : List String} (lacks : MayLack fields names)
    {source : Source} {fewer more : List (List String)}
    (covers : ∀ seen, seen ∈ more ↔ seen = names ∨ seen ∈ fewer)
    {ds : List (Document × Document)}
    (reads : assignMembers source fields more ds before = .ok after) :
    assignMembers source fields fewer ds before = .ok after := by
  induction ds generalizing fewer more before with
  | nil =>
    rw [assignMembers] at reads ⊢
    split at reads
    · next complete =>
      rw [if_pos, reads]
      rw [List.all_eq_true] at complete ⊢
      intro field member
      have known := complete field member
      have needless := List.all_eq_true.1 lacks field member
      simp only [Bool.or_eq_true, Bool.not_eq_true', bne_iff_ne, List.contains_iff_mem] at *
      rw [covers] at known
      rcases known with unneeded | same | present
      · exact .inl unneeded
      · exact .inl (needless.resolve_left fun other => other same)
      · exact .inr present
    · cases reads
  | cons member rest ih =>
    obtain ⟨key, d⟩ := member
    cases key with
    | str name =>
      rw [assignMembers] at reads ⊢
      cases known : fields.find? fun field => field.names.contains name with
      | none =>
        rw [known] at reads
        dsimp only at reads ⊢
        cases skipped : skip d with
        | error failure =>
          rw [skipped] at reads
          cases reads
        | ok done =>
          rw [skipped] at reads
          exact ih covers reads
      | some field =>
        rw [known] at reads
        dsimp only at reads ⊢
        split at reads
        · cases reads
        · next fresh =>
          have absent : ¬fewer.contains field.names = true := by
            rw [List.contains_iff_mem] at fresh ⊢
            exact fun present => fresh ((covers field.names).2 (.inr present))
          rw [if_neg absent]
          cases assigned : field.assign source d with
          | error failure =>
            rw [assigned] at reads
            cases reads
          | ok change =>
            rw [assigned] at reads
            refine ih (fun seen => ?_) reads
            rw [List.mem_cons, List.mem_cons, covers]
            exact or_left_comm
    | _ => cases reads

theorem Assigns.optional {decode : Decoder α} {encode : α → Json} {set : Option α → σ → σ}
    {rest : List (String × Json)} {value : Option α}
    (known : fieldOf fields name = some (.defaulted name (Decoder.nullable decode) set))
    (fresh : seen.contains [name] = false) (lacks : MayLack fields [name])
    (unset : set none before = before)
    (reads : ∀ a ∈ value, Reads decode (encode a) a ∧ (encode a).isNull = false)
    (others : Assigns fields ([name] :: seen) rest (set value before) after) :
    Assigns fields seen (Json.optional name encode value ++ rest) before after := by
  cases value with
  | none =>
    rw [unset] at others
    exact assignMembers_without lacks (fun names => List.mem_cons) others
  | some a =>
    obtain ⟨present, some⟩ := reads a rfl
    exact .member known fresh ((present.nullable some).map set) others

end Decoder

end RowGuard.Json
