import Mathlib.Data.List.Chain
import RowGuard.Proofs.Sql.Meaning
import RowGuard.Proofs.Sql.Reading
/-!
Reading text literals back. A literal starts at a quote and ends at the first quote that is neither
doubled nor behind a backslash; what is read of a rendered literal is the text it was made of, and
what stands behind it is left as it is. In the text of an expression a character other than a quote
stands behind every literal, so there too a literal ends where it was meant to end, whatever the
names around it are.
-/
namespace RowGuard.Sql

namespace Literal

/-- What a backslash and the character behind it stand for. In front of the wildcards of patterns
the backslash stays, and a character without a meaning of its own stands for itself. -/
def backslashed (c : Char) : List Char :=
  if c = 'b' then [Char.ofNat 0x08]
  else if c = 't' then ['\t']
  else if c = '%' ∨ c = '_' then ['\\', c]
  else [Value.unescapedChar c]

/-- The text in front of the closing quote and what stands behind the quote, absent where no quote
closes the literal. -/
def readBody : List Char → Option (List Char × List Char)
  | [] => none
  | [c] => if c = '\'' then some ([], []) else none
  | c :: d :: rest =>
    if c = '\'' then
      if d = '\'' then (readBody rest).map fun found => ('\'' :: found.1, found.2)
      else some ([], d :: rest)
    else if c = '\\' then (readBody rest).map fun found => (backslashed d ++ found.1, found.2)
    else (readBody (d :: rest)).map fun found => (c :: found.1, found.2)

def read : List Char → Option (String × List Char)
  | [] => none
  | c :: rest =>
    if c = '\'' then (readBody rest).map fun found => (String.ofList found.1, found.2) else none

theorem escape_spec (c : Char) :
    (c = '\'' ∧ Value.escape c = ['\'', '\'']) ∨
      (∃ d, Value.escape c = ['\\', d] ∧ backslashed d = [c]) ∨
      (c ≠ '\'' ∧ c ≠ '\\' ∧ Value.escape c = [c]) := by
  unfold Value.escape
  split_ifs with isQuote isBackslash isNull isFeed isReturn isSubstitute
  · exact .inl ⟨isQuote, rfl⟩
  · exact .inr (.inl ⟨'\\', rfl, by rw [isBackslash]; decide⟩)
  · have same : c = Char.ofNat 0 := Char.toNat_inj.1 isNull
    exact .inr (.inl ⟨'0', rfl, by rw [same]; decide⟩)
  · exact .inr (.inl ⟨'n', rfl, by rw [isFeed]; decide⟩)
  · exact .inr (.inl ⟨'r', rfl, by rw [isReturn]; decide⟩)
  · have same : c = Char.ofNat 0x1A := Char.toNat_inj.1 isSubstitute
    exact .inr (.inl ⟨'Z', rfl, by rw [same]; decide⟩)
  · exact .inr (.inr ⟨isQuote, isBackslash, rfl⟩)

theorem readBody_plain {c : Char} (noQuote : c ≠ '\'') (noEscape : c ≠ '\\') (tail : List Char) :
    readBody (c :: tail) = (readBody tail).map fun found => (c :: found.1, found.2) := by
  cases tail with
  | nil => simp [readBody, noQuote]
  | cons d tail => rw [readBody, if_neg noQuote, if_neg noEscape]

theorem readBody_escaped (s rest : List Char) (apart : rest.head? ≠ some '\'') :
    readBody (s.flatMap Value.escape ++ '\'' :: rest) = some (s, rest) := by
  induction s with
  | nil =>
    cases rest with
    | nil => rfl
    | cons d rest =>
      have differs : d ≠ '\'' := fun same => apart (by rw [same]; rfl)
      rw [List.flatMap_nil, List.nil_append, readBody, if_pos rfl, if_neg differs]
  | cons c s ih =>
    rw [List.flatMap_cons, List.append_assoc]
    rcases escape_spec c with ⟨isQuote, doubled⟩ | ⟨d, escaped, meant⟩ | ⟨noQuote, noEscape, plain⟩
    · rw [doubled, isQuote, List.cons_append, List.cons_append, List.nil_append, readBody,
        if_pos rfl, if_pos rfl, ih]
      rfl
    · rw [escaped, List.cons_append, List.cons_append, List.nil_append, readBody,
        if_neg (by decide), if_pos rfl, ih, Option.map_some, meant]
      rfl
    · rw [plain, List.cons_append, List.nil_append, readBody_plain noQuote noEscape, ih]
      rfl

theorem read_render (s : String) (rest : List Char) (apart : rest.head? ≠ some '\'') :
    read ((Value.text s).render.toList ++ rest) = some (s, rest) := by
  rw [Value.render, Value.quoted, String.toList_ofList, List.cons_append, List.append_assoc,
    List.singleton_append, read, if_pos rfl, readBody_escaped _ _ apart, Option.map_some,
    String.ofList_toList]

end Literal

open Token

namespace Token

def literal? : Token → Option String
  | .quoted quote body => (Literal.read (quoted quote body).chars).map Prod.fst
  | _ => none

def isQuoted : Token → Bool
  | .quoted _ _ => true
  | _ => false

def isPunctuation : Token → Bool
  | .opening => true
  | .closing => true
  | .mark c => c != '\''
  | _ => false

/-- A token that may stand behind another: no literal is continued by it. -/
def Follows (before after : Token) : Prop := before.isQuoted = true → after.isPunctuation = true

/-- Tokens that make up a text with the given literals, none of which is continued by what stands
behind it. -/
structure MakesUp (tokens : List Token) (cs : List Char) (literals : List String) : Prop where
  chars_eq : tokens.flatMap chars = cs
  apart : tokens.IsChain Follows
  literals_eq : tokens.filterMap literal? = literals

theorem literal?_of_unquoted {t : Token} (unquoted : t.isQuoted = false) : t.literal? = none := by
  cases t with
  | quoted quote body => cases unquoted
  | _ => rfl

namespace MakesUp

variable {ts us : List Token} {a b : List Char} {ls ms : List String}

theorem nil : MakesUp [] [] [] := ⟨rfl, .nil, rfl⟩

theorem cons {t : Token} (unquoted : t.isQuoted = false) (later : MakesUp ts a ls) :
    MakesUp (t :: ts) (t.chars ++ a) ls := by
  refine ⟨?_, ?_, ?_⟩
  · rw [List.flatMap_cons, later.chars_eq]
  · refine List.isChain_cons.2 ⟨fun u _ quoted => ?_, later.apart⟩
    rw [unquoted] at quoted
    cases quoted
  · rw [List.filterMap_cons_none (literal?_of_unquoted unquoted), later.literals_eq]

theorem word (cs : List Char) : MakesUp [.word cs] cs [] := by
  have alone := nil.cons (t := .word cs) rfl
  rwa [List.append_nil] at alone

theorem append {p : Token} (first : MakesUp ts a ls) (second : MakesUp (p :: us) b ms)
    (punctuation : p.isPunctuation = true) : MakesUp (ts ++ p :: us) (a ++ b) (ls ++ ms) := by
  refine ⟨?_, ?_, ?_⟩
  · rw [List.flatMap_append, first.chars_eq, second.chars_eq]
  · refine List.isChain_append.2 ⟨first.apart, second.apart, fun t _ u next _ => ?_⟩
    cases next
    exact punctuation
  · rw [List.filterMap_append, first.literals_eq, second.literals_eq]

theorem joined {operator : Token} (left : MakesUp ts a ls) (unquoted : operator.isQuoted = false)
    (right : MakesUp us b ms) :
    MakesUp (joined ts operator us) (a ++ ' ' :: (operator.chars ++ ' ' :: b)) (ls ++ ms) :=
  left.append (.cons rfl (.cons unquoted (.cons rfl right))) rfl

theorem enclosed (inner : MakesUp ts a ls) : MakesUp (enclosed ts) ('(' :: (a ++ [')'])) ls := by
  have behind : MakesUp [.closing] [')'] [] := nil.cons (t := .closing) rfl
  have closed := (inner.append behind rfl).cons (t := .opening) rfl
  rw [List.append_nil] at closed
  exact closed

theorem enclosedWhere {compound : Bool} {s : String} (inner : MakesUp ts s.toList ls) :
    MakesUp (if compound then Token.enclosed ts else ts)
      (if compound then parenthesized s else s).toList ls := by
  cases compound with
  | true =>
    rw [if_pos rfl, if_pos rfl, toList_parenthesized]
    exact inner.enclosed
  | false => exact inner

theorem read_literal (made : MakesUp ts a ls) {front back : List Token} {s : String}
    (cut : ts = front ++ (Value.text s).tokens ++ back) :
    Literal.read ((Value.text s).render.toList ++ back.flatMap chars) =
      some (s, back.flatMap chars) := by
  apply Literal.read_render
  have chain := made.apart
  rw [cut, List.append_assoc, Value.tokens, List.singleton_append] at chain
  have next := (List.isChain_cons.1 (List.isChain_append.1 chain).2.1).1
  cases back with
  | nil => simp
  | cons t back =>
    have punctuation := next t rfl rfl
    cases t with
    | mark c => simpa [isPunctuation, chars] using punctuation
    | word _ => cases punctuation
    | quoted _ _ => cases punctuation
    | _ => simp [chars]

end MakesUp

theorem makesUp_column (c : Column) : MakesUp c.tokens c.render.toList [] := by
  obtain ⟨qualifier, name⟩ := c
  cases qualifier with
  | none => exact .word name.toList
  | some qualifier =>
    simp only [Column.render, Column.tokens, String.toList_append, List.append_assoc]
    exact (MakesUp.word qualifier.toList).append (.cons rfl (.word name.toList)) rfl

theorem makesUp_int (i : Int) : MakesUp (ofInt i) (Integer.chars i) [] := by
  unfold ofInt Integer.chars
  split_ifs with negative
  · exact .cons rfl (.word _)
  · exact .word _

end Token

def Value.literals : Value → List String
  | .text s => [s]
  | _ => []

theorem Value.makesUp (v : Value) : MakesUp v.tokens v.render.toList v.literals := by
  cases v with
  | int n =>
    rw [render, Integer.text, String.toList_ofList]
    exact makesUp_int n.toInt
  | text s =>
    refine ⟨?_, .singleton _, ?_⟩
    · rw [render, quoted, String.toList_ofList]
      exact List.append_nil _
    · have read := Literal.read_render s [] (by simp)
      rw [List.append_nil, render, quoted, String.toList_ofList] at read
      simp only [tokens, List.filterMap_cons, List.filterMap_nil, literal?, chars, read,
        Option.map_some, literals]
  | null => exact .word _

namespace Expr

mutual

/-- The text literals of an expression in the order of its text. -/
def literals : Expr → List String
  | .column _ => []
  | .literal v => v.literals
  | .eq left right => literals left ++ literals right
  | .inValues needle values => literals needle ++ literalsEach values
  | .inSubquery needle _ _ filter => literals needle ++ literalsFilter filter
  | .and left right => literals left ++ literals right
  | .or left right => literals left ++ literals right
  | .nested inner => literals inner
  | .function _ arguments => literalsEach arguments

def literalsEach : List Expr → List String
  | [] => []
  | e :: rest => literals e ++ literalsEach rest

def literalsFilter : Option Expr → List String
  | none => []
  | some e => literals e

end

mutual

theorem makesUp : (e : Expr) → MakesUp e.tokens e.render.toList e.literals
  | .column c => makesUp_column c
  | .literal v => v.makesUp
  | .eq left right => by
    simp only [render, String.toList_append, List.append_assoc]
    exact (makesUp left).enclosedWhere.joined rfl (makesUp right).enclosedWhere
  | .inValues needle values => by
    simp only [render, String.toList_append, List.append_assoc]
    exact (makesUp needle).enclosedWhere.joined rfl (makesUp_operands values).enclosed
  | .inSubquery needle projection source filter => by
    simp only [render, String.toList_append, List.append_assoc]
    exact (makesUp needle).enclosedWhere.joined rfl
      (makesUp_select projection source filter).enclosed
  | .and left right => by
    simp only [render, String.toList_append, List.append_assoc]
    exact (makesUp left).enclosedWhere.joined rfl (makesUp right).enclosedWhere
  | .or left right => by
    simp only [render, String.toList_append, List.append_assoc]
    exact (makesUp left).joined rfl (makesUp right)
  | .nested inner => by
    rw [render, toList_parenthesized]
    exact (makesUp inner).enclosed
  | .function name arguments => by
    simp only [render, String.toList_append, List.append_assoc]
    exact .cons rfl (makesUp_each arguments).enclosed

theorem makesUp_operands : (es : List Expr) →
    MakesUp (listed (tokensOperands es)) (Text.join ", " (renderOperands es)).toList
      (literalsEach es)
  | [] => .nil
  | [e] => by
    rw [literalsEach, literalsEach, List.append_nil]
    exact (makesUp e).enclosedWhere
  | e :: next :: rest => by
    rw [renderOperands, renderOperands, Text.join, String.toList_append, String.toList_append,
      List.append_assoc]
    exact (makesUp e).enclosedWhere.append
      (.cons rfl (.cons rfl (makesUp_operands (next :: rest)))) rfl

theorem makesUp_each : (es : List Expr) →
    MakesUp (listed (tokensEach es)) (Text.join ", " (renderAll es)).toList (literalsEach es)
  | [] => .nil
  | [e] => by
    rw [literalsEach, literalsEach, List.append_nil]
    exact makesUp e
  | e :: next :: rest => by
    rw [renderAll, renderAll, Text.join, String.toList_append, String.toList_append,
      List.append_assoc]
    exact (makesUp e).append (.cons rfl (.cons rfl (makesUp_each (next :: rest)))) rfl

theorem makesUp_select (projection : Column) (source : String) : (filter : Option Expr) →
    MakesUp (selectTokens projection source (tokensFilter filter))
      (selectText projection source (renderFilter filter)).toList (literalsFilter filter)
  | none => by
    simp only [selectText, renderFilter, String.toList_append, List.append_assoc]
    exact .cons rfl (.cons rfl ((makesUp_column projection).joined rfl (.cons rfl .nil)))
  | some e => by
    simp only [selectText, renderFilter, String.toList_append, List.append_assoc]
    exact .cons rfl (.cons rfl ((makesUp_column projection).joined rfl
      (.cons rfl (.cons rfl (.cons rfl (.cons rfl (makesUp e)))))))

end

end Expr

/-- Text literals are read back exactly. Reading a rendered literal with any text behind it that does
not begin with a quote gives the text the literal was made of and leaves what is behind it as it is,
so two texts are never rendered alike. The text of an expression is made up of pieces of which the
quoted ones are its literals in their order, and wherever one of them stands, reading it there ends
at its own closing quote. Where the names are plain words, the pieces are those a reader finds who
goes through the whole text. -/
theorem literals_read_back :
    (∀ (s : String) (rest : List Char), rest.head? ≠ some '\'' →
      Literal.read ((Value.text s).render.toList ++ rest) = some (s, rest)) ∧
    (∀ s t : String, (Value.text s).render = (Value.text t).render → s = t) ∧
    ∀ e : Expr,
      e.tokens.flatMap Token.chars = e.render.toList ∧
      e.tokens.filterMap Token.literal? = e.literals ∧
      (∀ front s back, e.tokens = front ++ (Value.text s).tokens ++ back →
        Literal.read ((Value.text s).render.toList ++ back.flatMap Token.chars) =
          some (s, back.flatMap Token.chars)) ∧
      (e.isPlain = true → Token.read e.render.toList = some e.tokens) := by
  refine ⟨Literal.read_render, fun s t same => ?_, fun e => ?_⟩
  · have first := Literal.read_render s [] (by simp)
    have second := Literal.read_render t [] (by simp)
    rw [same, second] at first
    cases first
    rfl
  · have made := e.makesUp
    exact ⟨made.chars_eq, made.literals_eq, fun front s back cut => made.read_literal cut,
      fun plain => (e.reads_render plain).whole⟩

/-- A text that ends in backslashes behind a quote, with a condition behind it that has a literal of
its own. -/
theorem literals_read_back_backslashes :
    (" OR '1' = '1'".toList).head? ≠ some '\'' ∧
      Literal.read ((Value.text "a'\\\\").render.toList ++ " OR '1' = '1'".toList) =
        some ("a'\\\\", " OR '1' = '1'".toList) := by
  have apart : (" OR '1' = '1'".toList).head? ≠ some '\'' := by decide
  exact ⟨apart, literals_read_back.1 _ _ apart⟩

end RowGuard.Sql
