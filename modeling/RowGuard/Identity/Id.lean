import RowGuard.Error
import RowGuard.Json.Decode
import RowGuard.Text.Blank
/-!
Identifiers of tenants, users, departments and roles. Each is a signed 64-bit integer of a type of
its own, read from decimal text with white space around it.
-/
namespace RowGuard

structure TenantId where
  value : Int64
  deriving DecidableEq, Repr, Inhabited

structure UserId where
  value : Int64
  deriving DecidableEq, Repr, Inhabited

structure DeptId where
  value : Int64
  deriving DecidableEq, Repr, Inhabited

structure RoleId where
  value : Int64
  deriving DecidableEq, Repr, Inhabited

def readId (kind s : String) : Guarded Int64 :=
  match Integer.read (Text.trim s) with
  | .ok value => .ok value
  | .error fault => .error (.invalidId (kind ++ ": " ++ fault.message))

def idJson (value : Int64) : Json := .int value.toInt

namespace TenantId

def read (s : String) : Guarded TenantId := (readId "TenantId" s).map mk

def text (id : TenantId) : String := Integer.text id.value.toInt

def toJson (id : TenantId) : Json := idJson id.value

def decode : Json.Decoder TenantId := Json.Decoder.map mk Json.Decoder.int64

end TenantId

namespace UserId

def read (s : String) : Guarded UserId := (readId "UserId" s).map mk

def text (id : UserId) : String := Integer.text id.value.toInt

def toJson (id : UserId) : Json := idJson id.value

def decode : Json.Decoder UserId := Json.Decoder.map mk Json.Decoder.int64

end UserId

namespace DeptId

def read (s : String) : Guarded DeptId := (readId "DeptId" s).map mk

def text (id : DeptId) : String := Integer.text id.value.toInt

def toJson (id : DeptId) : Json := idJson id.value

def decode : Json.Decoder DeptId := Json.Decoder.map mk Json.Decoder.int64

end DeptId

namespace RoleId

def read (s : String) : Guarded RoleId := (readId "RoleId" s).map mk

def text (id : RoleId) : String := Integer.text id.value.toInt

def toJson (id : RoleId) : Json := idJson id.value

def decode : Json.Decoder RoleId := Json.Decoder.map mk Json.Decoder.int64

end RoleId

end RowGuard
