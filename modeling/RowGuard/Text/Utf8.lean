/-!
Characters as bytes. A character takes one to four bytes; the first says how many follow, and the
second is kept from writing a short code in a long way, half of a surrogate pair or a number above
the last character. Bytes that are no character are told apart from characters, so that a reader
may refuse them, skip them or put a mark in their place.
-/
namespace RowGuard.Text.Utf8

/-- What stands at the front of some bytes: a character, a number of `stray` bytes that belong to
none, or the beginning of a character whose end is `cut` off. -/
inductive Piece where
  | char (c : Char)
  | stray (bytes : Nat)
  | cut
  deriving DecidableEq, Repr

/-- A character of which some bytes have been read. The next one is from `least` to `greatest`. -/
structure Begun where
  read : Nat
  missing : Nat
  least : Nat
  greatest : Nat
  code : Nat

def begun? (byte : Nat) : Option Begun :=
  if byte < 0xC2 then none
  else if byte < 0xE0 then some ⟨1, 1, 0x80, 0xBF, byte - 0xC0⟩
  else if byte = 0xE0 then some ⟨1, 2, 0xA0, 0xBF, 0⟩
  else if byte = 0xED then some ⟨1, 2, 0x80, 0x9F, 0xD⟩
  else if byte < 0xF0 then some ⟨1, 2, 0x80, 0xBF, byte - 0xE0⟩
  else if byte = 0xF0 then some ⟨1, 3, 0x90, 0xBF, 0⟩
  else if byte < 0xF4 then some ⟨1, 3, 0x80, 0xBF, byte - 0xF0⟩
  else if byte = 0xF4 then some ⟨1, 3, 0x80, 0x8F, 4⟩
  else none

def start (byte : Nat) : List Piece × Option Begun :=
  if byte < 0x80 then ([.char (Char.ofNat byte)], none)
  else match begun? byte with
    | some begun => ([], some begun)
    | none => ([.stray 1], none)

/-- One byte further. A byte that does not go on with a character begins the next one. -/
def step (state : Option Begun) (byte : Nat) : List Piece × Option Begun :=
  match state with
  | none => start byte
  | some begun =>
    if begun.least ≤ byte ∧ byte ≤ begun.greatest then
      let code := begun.code * 64 + (byte - 0x80)
      if begun.missing = 1 then ([.char (Char.ofNat code)], none)
      else ([], some ⟨begun.read + 1, begun.missing - 1, 0x80, 0xBF, code⟩)
    else
      let (found, next) := start byte
      (.stray begun.read :: found, next)

def piecesFrom (state : Option Begun) : List UInt8 → List Piece
  | [] => if state.isSome then [.cut] else []
  | byte :: rest =>
    let (found, next) := step state byte.toNat
    found ++ piecesFrom next rest

def pieces (bytes : List UInt8) : List Piece := piecesFrom none bytes

/-- Why bytes are no text. Both causes name the byte where the trouble begins. -/
inductive Fault where
  | invalid (bytes place : Nat)
  | incomplete (place : Nat)
  deriving DecidableEq, Repr

def Fault.message : Fault → String
  | .invalid bytes place =>
    "invalid utf-8 sequence of " ++ toString bytes ++ " bytes from index " ++ toString place
  | .incomplete place => "incomplete utf-8 byte sequence from index " ++ toString place

def charsFrom (place : Nat) : List Piece → Except Fault (List Char)
  | [] => .ok []
  | .char c :: rest => (charsFrom (place + c.utf8Size) rest).map (c :: ·)
  | .stray bytes :: _ => .error (.invalid bytes place)
  | .cut :: _ => .error (.incomplete place)

def decode (bytes : List UInt8) : Except Fault String :=
  (charsFrom 0 (pieces bytes)).map String.ofList

/-- The text of any bytes, with one mark for each stray piece. -/
def decodeLossy (bytes : List UInt8) : String :=
  String.ofList ((pieces bytes).map fun
    | .char c => c
    | _ => '\uFFFD')

end RowGuard.Text.Utf8
