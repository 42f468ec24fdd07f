import RowGuard.Json.Numeral
import RowGuard.Number.Integer
import RowGuard.Text.Utf8
/-!
Reading JSON text into a document. Characters become tokens in one pass, and tokens become a
document in another; both passes recurse over their input, so reading always ends. Where the text
comes as bytes, those that are no characters make the string they stand in unreadable.
-/
namespace RowGuard.Json

/-- A piece of a text. A `string` has a text or a fault in it. `broken` stands where no token can
begin or go on, and is the last one. -/
inductive Token where
  | openArray
  | closeArray
  | openObject
  | closeObject
  | comma
  | colon
  | scalar (value : Document)
  | string (content : Document)
  | broken

inductive NumeralPhase where
  | sign
  | zero
  | whole
  | point
  | fraction
  | mark
  | markSign
  | exponent
  deriving DecidableEq

/-- What the next character continues. The collected characters and digits stand in reverse. A
string has a `fault` when an escape names half of a surrogate pair or when a byte of it is no
character; `half` is a first half that waits for its second. -/
inductive Lexing where
  | between
  | word (rest : List Char) (value : Document)
  | number (phase : NumeralPhase) (negative : Bool) (whole fraction exponent : List Nat)
      (down : Bool)
  | string (seen : List Char) (fault : Option Fault) (half : Option Nat)
  | escape (seen : List Char) (fault : Option Fault) (half : Option Nat)
  | unicode (seen : List Char) (fault : Option Fault) (half : Option Nat) (count code : Nat)
  | stopped

def isJsonBlank (c : Char) : Bool := c = ' ' || c = '\t' || c = '\n' || c = '\r'

def NumeralPhase.next (phase : NumeralPhase) (c : Char) : Option NumeralPhase :=
  let isDigit := (Integer.digit? c).isSome
  match phase with
  | .sign => if c = '0' then some .zero else if isDigit then some .whole else none
  | .zero =>
    if c = '.' then some .point else if c = 'e' ∨ c = 'E' then some .mark else none
  | .whole =>
    if isDigit then some .whole
    else if c = '.' then some .point
    else if c = 'e' ∨ c = 'E' then some .mark
    else none
  | .point => if isDigit then some .fraction else none
  | .fraction =>
    if isDigit then some .fraction else if c = 'e' ∨ c = 'E' then some .mark else none
  | .mark =>
    if c = '+' ∨ c = '-' then some .markSign else if isDigit then some .exponent else none
  | .markSign => if isDigit then some .exponent else none
  | .exponent => if isDigit then some .exponent else none

/-- Whether a number may end after this phase. A leading zero is followed by no digit. -/
def NumeralPhase.final (phase : NumeralPhase) (next : Option Char) : Bool :=
  match phase with
  | .zero => !((next.bind Integer.digit?).isSome)
  | .whole => true
  | .fraction => true
  | .exponent => true
  | _ => false

def numeralToken (phase : NumeralPhase) (negative : Bool) (whole fraction exponent : List Nat)
    (down : Bool) : Token :=
  .scalar (Numeral.value
    { negative
      whole := whole.reverse
      fraction := if fraction.isEmpty then none else some fraction.reverse
      exponent := if phase = .exponent then some (down, exponent.reverse) else none })

def begin (c : Char) : List Token × Lexing :=
  if isJsonBlank c then ([], .between)
  else if c = '[' then ([.openArray], .between)
  else if c = ']' then ([.closeArray], .between)
  else if c = '\x7b' then ([.openObject], .between)
  else if c = '\x7d' then ([.closeObject], .between)
  else if c = ',' then ([.comma], .between)
  else if c = ':' then ([.colon], .between)
  else if c = '"' then ([], .string [] none none)
  else if c = 'n' then ([], .word ['u', 'l', 'l'] .null)
  else if c = 't' then ([], .word ['r', 'u', 'e'] (.bool true))
  else if c = 'f' then ([], .word ['a', 'l', 's', 'e'] (.bool false))
  else if c = '-' then ([], .number .sign true [] [] [] false)
  else match NumeralPhase.next .sign c, Integer.digit? c with
    | some phase, some d => ([], .number phase false [d] [] [] false)
    | _, _ => ([.broken], .stopped)

def escaped? (c : Char) : Option Char :=
  match c with
  | '"' => some '"'
  | '\\' => some '\\'
  | '/' => some '/'
  | 'b' => some (Char.ofNat 8)
  | 'f' => some (Char.ofNat 12)
  | 'n' => some '\n'
  | 'r' => some '\r'
  | 't' => some '\t'
  | _ => none

def isHighHalf (code : Nat) : Bool := 0xD800 ≤ code && code ≤ 0xDBFF

def isLowHalf (code : Nat) : Bool := 0xDC00 ≤ code && code ≤ 0xDFFF

def addUnit (seen : List Char) (fault : Option Fault) (half : Option Nat) (code : Nat) : Lexing :=
  match half with
  | some high =>
    if isLowHalf code then
      let c := Char.ofNat (0x10000 + (high - 0xD800) * 0x400 + (code - 0xDC00))
      .string (c :: seen) fault none
    else .string seen (some .inside) none
  | none =>
    if isHighHalf code then .string seen fault (some code)
    else if isLowHalf code then .string seen (some .inside) none
    else .string (Char.ofNat code :: seen) fault none

def unpaired (fault : Option Fault) (half : Option Nat) : Option Fault :=
  if half.isSome then some .inside else fault

/-- A finished string. Half of a pair in front of the closing quote is missed only at the quote. -/
def stringToken (seen : List Char) (fault : Option Fault) (half : Option Nat) : Token :=
  let fault := if half.isSome then some (fault.getD .past) else fault
  .string (match fault with
    | some kind => .fault kind
    | none => .str (String.ofList seen.reverse))

/-- One character further. A number ends before the first character that does not continue it, so
that character begins the next token. -/
def Lexing.step (state : Lexing) (c : Char) : List Token × Lexing :=
  match state with
  | .between => begin c
  | .word [] value =>
    let (tokens, next) := begin c
    (.scalar value :: tokens, next)
  | .word (expected :: rest) value =>
    if c ≠ expected then ([.broken], .stopped)
    else if rest.isEmpty then ([.scalar value], .between)
    else ([], .word rest value)
  | .number phase negative whole fraction exponent down =>
    match phase.next c with
    | none =>
      if phase.final (some c) then
        let (tokens, next) := begin c
        (numeralToken phase negative whole fraction exponent down :: tokens, next)
      else ([.broken], .stopped)
    | some after =>
      let d := (Integer.digit? c).toList
      match after with
      | .zero => ([], .number after negative (d ++ whole) fraction exponent down)
      | .whole => ([], .number after negative (d ++ whole) fraction exponent down)
      | .fraction => ([], .number after negative whole (d ++ fraction) exponent down)
      | .exponent => ([], .number after negative whole fraction (d ++ exponent) down)
      | .markSign => ([], .number after negative whole fraction exponent (c = '-'))
      | _ => ([], .number after negative whole fraction exponent down)
  | .string seen fault half =>
    if c = '"' then ([stringToken seen fault half], .between)
    else if c = '\\' then ([], .escape seen fault half)
    else if c.toNat < 32 then ([.broken], .stopped)
    else ([], .string (c :: seen) (unpaired fault half) none)
  | .escape seen fault half =>
    if c = 'u' then ([], .unicode seen fault half 0 0)
    else match escaped? c with
      | some plain => ([], .string (plain :: seen) (unpaired fault half) none)
      | none => ([.broken], .stopped)
  | .unicode seen fault half count code =>
    match Integer.hexDigit? c with
    | none => ([.broken], .stopped)
    | some d =>
      let code := code * 16 + d
      if count = 3 then ([], addUnit seen fault half code)
      else ([], .unicode seen fault half (count + 1) code)
  | .stopped => ([], .stopped)

def Lexing.finish : Lexing → List Token
  | .between => []
  | .word [] value => [.scalar value]
  | .number phase negative whole fraction exponent down =>
    if phase.final none then [numeralToken phase negative whole fraction exponent down]
    else [.broken]
  | .stopped => []
  | _ => [.broken]

/-- What bytes that are no character leave of a text: inside a string it goes on. -/
def Lexing.astray : Lexing → List Token × Lexing
  | .string seen fault half =>
    ([], .string seen (unpaired (some (fault.getD .past)) half) none)
  | state => (state.finish ++ [.broken], .stopped)

def tokens (state : Lexing) : List Text.Utf8.Piece → List Token
  | [] => state.finish
  | piece :: rest =>
    let (found, next) := match piece with
      | .char c => state.step c
      | _ => state.astray
    found ++ tokens next rest

/-- An array or object whose end has not been read, its content in reverse. `name` is the name of
the member whose value comes next. -/
inductive Open where
  | array (items : List Document)
  | object (members : List (Document × Document)) (name : Option Document)

inductive Expected where
  | value
  | valueOrClose
  | commaOrClose
  | name
  | nameOrClose
  | colon
  deriving DecidableEq

structure Building where
  stack : List Open
  expected : Expected

def deepest : Nat := 127

def closed (levels : Nat) (skippable : Bool) (content : Document) : Document :=
  if levels < deepest then content
  else match content with
    | .obj _ => .deepObject skippable
    | _ => .deepArray skippable

/-- Puts a value into the innermost open array or object; without one the text's value is
complete. -/
def Building.place (stack : List Open) (value : Document) : Building ⊕ Document :=
  match stack with
  | [] => .inr value
  | .array items :: rest => .inl ⟨.array (value :: items) :: rest, .commaOrClose⟩
  | .object members (some name) :: rest =>
    .inl ⟨.object ((name, value) :: members) none :: rest, .commaOrClose⟩
  | .object members none :: rest =>
    .inl ⟨.object ((value, .fault .broken) :: members) none :: rest, .commaOrClose⟩

/-- The document of a text that breaks here: every open value ends with what it holds. -/
def abandon : List Open → Document → Document
  | [], value => value
  | .array items :: rest, value =>
    abandon rest (closed rest.length false (.arr (value :: items).reverse))
  | .object members (some name) :: rest, value =>
    abandon rest (closed rest.length false (.obj ((name, value) :: members).reverse))
  | .object members none :: rest, value =>
    abandon rest (closed rest.length false (.obj ((value, .fault .broken) :: members).reverse))

def Building.break (b : Building) : Document := abandon b.stack (.fault .broken)

def Building.step (b : Building) (token : Token) : Building ⊕ Document :=
  match b.expected, token with
  | .value, .scalar d => Building.place b.stack d
  | .valueOrClose, .scalar d => Building.place b.stack d
  | .value, .string d => Building.place b.stack d
  | .valueOrClose, .string d => Building.place b.stack d
  | .value, .openArray => .inl ⟨.array [] :: b.stack, .valueOrClose⟩
  | .valueOrClose, .openArray => .inl ⟨.array [] :: b.stack, .valueOrClose⟩
  | .value, .openObject => .inl ⟨.object [] none :: b.stack, .nameOrClose⟩
  | .valueOrClose, .openObject => .inl ⟨.object [] none :: b.stack, .nameOrClose⟩
  | .commaOrClose, .comma =>
    match b.stack with
    | .object _ _ :: _ => .inl ⟨b.stack, .name⟩
    | _ => .inl ⟨b.stack, .value⟩
  | .name, .string d => named d
  | .nameOrClose, .string d => named d
  | .colon, .colon => .inl ⟨b.stack, .value⟩
  | .valueOrClose, .closeArray => close
  | .commaOrClose, .closeArray => close
  | .nameOrClose, .closeObject => close
  | .commaOrClose, .closeObject => close
  | _, _ => .inr b.break
where
  named (name : Document) : Building ⊕ Document :=
    match b.stack with
    | .object members _ :: rest => .inl ⟨.object members (some name) :: rest, .colon⟩
    | _ => .inr b.break
  close : Building ⊕ Document :=
    match b.stack, token with
    | .array items :: rest, .closeArray =>
      Building.place rest (closed rest.length (items.all Document.skippable) (.arr items.reverse))
    | .object members _ :: rest, .closeObject =>
      Building.place rest
        (closed rest.length (Document.skippableMembers members) (.obj members.reverse))
    | _, _ => .inr b.break

def build (b : Building) : List Token → Document × Bool
  | [] => (b.break, false)
  | token :: rest =>
    match b.step token with
    | .inl next => build next rest
    | .inr d => (d, !rest.isEmpty)

def readPieces (pieces : List Text.Utf8.Piece) : Document × Bool :=
  build ⟨[], .value⟩ (tokens .between pieces)

def readText (s : String) : Document × Bool := readPieces (s.toList.map .char)

def readBytes (bytes : List UInt8) : Document × Bool := readPieces (Text.Utf8.pieces bytes)

end RowGuard.Json
