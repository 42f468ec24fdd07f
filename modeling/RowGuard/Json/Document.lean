import RowGuard.Json.Basic
/-!
JSON as it stands in a text. A document keeps the order and the repetitions of the members of its
objects, and it ends where the text stops being JSON, so a decoder that walks it from the front
meets a wrong type and a broken text in the order in which they are written.
-/
namespace RowGuard.Json

/-- What stands where no value can be read. The text is `broken` when it is no JSON from there on.
The others are written like values, so that they can be skipped where nobody asks for them: reading
one stops `inside` it or, when all of it has been seen by then, `past` it. -/
inductive Fault where
  | broken
  | inside
  | past
  deriving DecidableEq, Repr

/-- Arrays and objects below the deepest level that is read are `deepArray` and `deepObject`, which
say whether they can be skipped. The name of a member is a text or what stands in its place. -/
inductive Document where
  | null
  | bool (b : Bool)
  | int (n : Int)
  | float (x : Float)
  | str (s : String)
  | arr (items : List Document)
  | obj (members : List (Document × Document))
  | fault (kind : Fault)
  | deepArray (passes : Bool)
  | deepObject (passes : Bool)
  deriving Inhabited

inductive Failure where
  | mismatch
  | malformed
  deriving DecidableEq, Repr

def Failure.message : Failure → String
  | .mismatch => "another kind of value is needed"
  | .malformed => "the text is not JSON"

/-- Where a document comes from. Only in a text can members repeat or the last of several values
win. -/
inductive Source where
  | tree
  | text
  deriving DecidableEq, Repr

mutual

def toDocument : Json → Document
  | .null => .null
  | .bool b => .bool b
  | .int n => .int n
  | .float x => .float x
  | .str s => .str s
  | .arr items => .arr (itemDocuments items)
  | .obj members => .obj (memberDocuments members)

def itemDocuments : List Json → List Document
  | [] => []
  | item :: rest => toDocument item :: itemDocuments rest

def memberDocuments : List (String × Json) → List (Document × Document)
  | [] => []
  | (name, value) :: rest => (.str name, toDocument value) :: memberDocuments rest

end

namespace Document

mutual

def skippable : Document → Bool
  | .arr items => skippableItems items
  | .obj members => skippableMembers members
  | .fault kind => kind != .broken
  | .deepArray passes => passes
  | .deepObject passes => passes
  | _ => true

def skippableItems : List Document → Bool
  | [] => true
  | item :: rest => skippable item && skippableItems rest

def skippableMembers : List (Document × Document) → Bool
  | [] => true
  | (name, value) :: rest => skippable name && skippable value && skippableMembers rest

end

/-- Collects the members of an object: in a text the last of several with one name stays. -/
def addMember (source : Source) (name : String) (value : Json) (rest : List (String × Json)) :
    List (String × Json) :=
  match source with
  | .tree => (name, value) :: rest
  | .text => if Table.contains name rest then rest else Table.insert name value rest

mutual

def value (source : Source) : Document → Except Failure Json
  | .null => .ok .null
  | .bool b => .ok (.bool b)
  | .int n => .ok (.int n)
  | .float x => .ok (.float x)
  | .str s => .ok (.str s)
  | .arr items => (itemValues source items).map .arr
  | .obj members => (memberValues source members).map .obj
  | .fault _ => .error .malformed
  | .deepArray _ => .error .malformed
  | .deepObject _ => .error .malformed

def itemValues (source : Source) : List Document → Except Failure (List Json)
  | [] => .ok []
  | item :: rest => do
    let first ← value source item
    let others ← itemValues source rest
    return first :: others

def memberValues (source : Source) :
    List (Document × Document) → Except Failure (List (String × Json))
  | [] => .ok []
  | (.str name, item) :: rest => do
    let first ← value source item
    let others ← memberValues source rest
    return addMember source name first others
  | _ :: _ => .error .malformed

end

def isReadable (d : Document) : Bool := (d.value .text).isOk

mutual

/-- Whether reading a document ends behind it, with a value or without one. Without one it does
so where the fault is at the very end: reading stops there, and only brackets are left to close. -/
def endsPast : Document → Bool
  | .arr items => endsPastItems items
  | .obj members => endsPastMembers members
  | .fault kind => kind == .past
  | .deepArray _ => false
  | .deepObject _ => false
  | _ => true

def endsPastItems : List Document → Bool
  | [] => true
  | [last] => endsPast last
  | item :: rest => item.isReadable && endsPastItems rest

def endsPastMembers : List (Document × Document) → Bool
  | [] => true
  | [(name, last)] => name.isReadable && endsPast last
  | (name, value) :: rest => name.isReadable && value.isReadable && endsPastMembers rest

end

mutual

def height : Document → Nat
  | .arr items => heightItems items + 1
  | .obj members => heightMembers members + 1
  | _ => 0

def heightItems : List Document → Nat
  | [] => 0
  | item :: rest => max (height item) (heightItems rest)

def heightMembers : List (Document × Document) → Nat
  | [] => 0
  | (_, value) :: rest => max (height value) (heightMembers rest)

end

end Document

end RowGuard.Json
