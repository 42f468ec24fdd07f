import RowGuard.Json.Reader
import RowGuard.Collection.OrderedSet
/-!
Decoders from documents to typed values. A record is an object of named fields or an array of
them in their declared order; a choice is an object with one member, whose name picks the
alternative. Failures are found in the order of the text.
-/
namespace RowGuard.Json

abbrev Decoder (α : Type) := Source → Document → Except Failure α

namespace Decoder

variable {α β σ : Type}

def mismatch : Except Failure α := .error .mismatch

def malformed : Except Failure α := .error .malformed

def refuse : Document → Except Failure α
  | .fault _ => malformed
  | _ => mismatch

def map (f : α → β) (decode : Decoder α) : Decoder β := fun source d =>
  (decode source d).map f

def check (f : α → Option β) (decode : Decoder α) : Decoder β := fun source d => do
  match f (← decode source d) with
  | some b => return b
  | none => mismatch

def text : Decoder String
  | _, .str s => .ok s
  | _, d => refuse d

def boolean : Decoder Bool
  | _, .bool b => .ok b
  | _, d => refuse d

def integerWithin (least greatest : Int) : Decoder Int
  | _, .int n => if least ≤ n ∧ n ≤ greatest then .ok n else mismatch
  | _, d => refuse d

def int64 : Decoder Int64 := map Int64.ofInt (integerWithin Integer.minimum Integer.maximum)

def nat32 : Decoder Nat := map Int.toNat (integerWithin 0 4294967295)

def nullable (decode : Decoder α) : Decoder (Option α)
  | _, .null => .ok none
  | source, d => (decode source d).map some

def anything : Decoder Json := fun source d => d.value source

def items (decode : Decoder α) (source : Source) : List Document → Except Failure (List α)
  | [] => .ok []
  | d :: rest => do
    let first ← decode source d
    let others ← items decode source rest
    return first :: others

def list (decode : Decoder α) : Decoder (List α)
  | source, .arr ds => items decode source ds
  | _, .deepArray _ => malformed
  | _, d => refuse d

def set [Ord α] [Std.TransOrd α] (decode : Decoder α) : Decoder (OrderedSet α) :=
  map OrderedSet.ofList (list decode)

def pairs (decode : Decoder α) (source : Source) :
    List (Document × Document) → Except Failure (List (String × α))
  | [] => .ok []
  | (.str name, d) :: rest => do
    let first ← decode source d
    let others ← pairs decode source rest
    return (name, first) :: others
  | _ :: _ => malformed

def members (decode : Decoder α) : Decoder (List (String × α))
  | source, .obj ds => pairs decode source ds
  | _, .deepObject _ => malformed
  | _, d => refuse d

def skip (d : Document) : Except Failure Unit :=
  if d.skippable then .ok () else malformed

/-- A field of a record under construction. `needed` says that an object has to hold it,
`closing` that the items of an array may end before it. -/
structure Field (σ : Type) where
  names : List String
  needed : Bool
  closing : Bool
  assign : Decoder (σ → σ)

namespace Field

def assigning (set : α → σ → σ) (decode : Decoder α) : Decoder (σ → σ) := map set decode

def required (name : String) (decode : Decoder α) (set : α → σ → σ) : Field σ :=
  ⟨[name], true, false, assigning set decode⟩

def renamed (name other : String) (decode : Decoder α) (set : α → σ → σ) : Field σ :=
  ⟨[name, other], true, false, assigning set decode⟩

def defaulted (name : String) (decode : Decoder α) (set : α → σ → σ) : Field σ :=
  ⟨[name], false, true, assigning set decode⟩

/-- A field without a value where an object leaves it out. An array has to hold it. -/
def omissible (name : String) (decode : Decoder α) (set : Option α → σ → σ) : Field σ :=
  ⟨[name], false, false, assigning set (nullable decode)⟩

end Field

def assignItems (source : Source) (fields : List (Field σ)) (ds : List Document) (record : σ) :
    Except Failure σ :=
  match fields, ds with
  | fields, [] => if fields.all (·.closing) then .ok record else mismatch
  | [], _ :: _ => malformed
  | field :: fields, d :: ds => do
    let assign ← field.assign source d
    assignItems source fields ds (assign record)

/-- Assigns the members of an object in the order they are written. `seen` holds the names of the
fields that have a value. -/
def assignMembers (source : Source) (fields : List (Field σ)) (seen : List (List String))
    (ds : List (Document × Document)) (record : σ) : Except Failure σ :=
  match ds with
  | [] =>
    if fields.all (fun field => !field.needed || seen.contains field.names) then .ok record
    else mismatch
  | (.str name, d) :: rest =>
    match fields.find? (fun field => field.names.contains name) with
    | some field =>
      if seen.contains field.names then mismatch
      else do
        let assign ← field.assign source d
        assignMembers source fields (field.names :: seen) rest (assign record)
    | none => do
      skip d
      assignMembers source fields seen rest record
  | _ :: _ => malformed

def record (fields : List (Field σ)) (initial : σ) : Decoder σ
  | source, .obj ds => assignMembers source fields [] ds initial
  | source, .arr ds => assignItems source fields ds initial
  | _, .deepArray _ => malformed
  | _, .deepObject _ => malformed
  | _, d => refuse d

/-- A record that stands in a choice: from a tree it has to be an object. -/
def variantRecord (fields : List (Field σ)) (initial : σ) : Decoder σ
  | .tree, .arr _ => mismatch
  | source, d => record fields initial source d

def alternative (pick : String → Option α) : Document → Except Failure α
  | .str name => match pick name with
    | some a => .ok a
    | none => mismatch
  | _ => malformed

def unitChoice (pick : String → Option α) : Decoder α
  | _, .str name => alternative pick (.str name)
  | _, .obj [] => malformed
  | _, .obj ((name, content) :: rest) => do
    let a ← alternative pick name
    match content with
    | .null => if rest.isEmpty then return a else malformed
    | d => refuse d
  | _, _ => malformed

def choice (pick : String → Option (Decoder α)) : Decoder α
  | _, .str _ => mismatch
  | _, .obj [] => malformed
  | source, .obj ((name, content) :: rest) => do
    let decode ← alternative pick name
    let a ← decode source content
    if rest.isEmpty then return a else malformed
  | _, _ => malformed

def fromJson (decode : Decoder α) (json : Json) : Except Failure α :=
  decode .tree json.toDocument

def fromFront (decode : Decoder α) (s : String) : Except Failure α :=
  decode .text (readText s).1

/-- Decodes the only value of a text. `read` holds the value at its front and whether more
follows. -/
def fromRead (decode : Decoder α) (read : Document × Bool) : Except Failure α := do
  let a ← decode .text read.1
  if read.2 then malformed else return a

def fromText (decode : Decoder α) (s : String) : Except Failure α := fromRead decode (readText s)

def fromBytes (decode : Decoder α) (bytes : List UInt8) : Except Failure α :=
  fromRead decode (readBytes bytes)

end Decoder

def ofText (s : String) : Except Failure Json := Decoder.anything.fromText s

end RowGuard.Json
