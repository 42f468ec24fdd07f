import Mathlib.Tactic.SplitIfs
import RowGuard.Sql.Value
/-!
Reading SQL text as MySQL does: quoted pieces end at the first quote that is neither doubled nor
escaped, words are runs of word characters, and every other character stands for itself. The reader
is stricter than a server in one respect, since a text with a comment has no reading at all.
-/
namespace RowGuard.Sql

/-- A piece of SQL text. The body of a quoted piece is kept as it is written. -/
inductive Token where
  | word (cs : List Char)
  | quoted (quote : Char) (body : List Char)
  | opening
  | closing
  | mark (c : Char)
  deriving DecidableEq, Repr

namespace Token

/-- The characters of names and numbers; those outside ASCII all belong to names. -/
def isWordChar (c : Char) : Bool := c.isAlphanum || c == '_' || c == '$' || 0x80 ≤ c.toNat

def isQuote (c : Char) : Bool := c == '\'' || c == '"' || c == '\x60'

def startsComment (c : Char) (rest : List Char) : Bool :=
  c == '#' || (c == '-' && rest.head? == some '-') || (c == '/' && rest.head? == some '*')

def ofChar (c : Char) : Token :=
  if c = '(' then opening else if c = ')' then closing else mark c

def extendWord (c : Char) : List Token → List Token
  | word cs :: rest => word (c :: cs) :: rest
  | tokens => word [c] :: tokens

mutual

/-- The tokens of a text, absent where a quoted piece is not terminated or a comment starts. -/
def read : List Char → Option (List Token)
  | [] => some []
  | c :: rest =>
    if isWordChar c then (read rest).map (extendWord c)
    else if isQuote c then (readQuoted c rest).map fun found => quoted c found.1 :: found.2
    else if startsComment c rest then none
    else (read rest).map (ofChar c :: ·)

/-- The body of a quoted piece and the tokens behind it. A doubled quote stands for the quote, and
in string literals a backslash takes the next character with it. -/
def readQuoted (quote : Char) : List Char → Option (List Char × List Token)
  | [] => none
  | [c] => if c = quote then some ([], []) else none
  | c :: d :: rest =>
    if c = quote then
      if d = quote then (readQuoted quote rest).map fun found => (c :: d :: found.1, found.2)
      else (read (d :: rest)).map fun tokens => ([], tokens)
    else if c = '\\' ∧ quote ≠ '\x60' then
      (readQuoted quote rest).map fun found => (c :: d :: found.1, found.2)
    else (readQuoted quote (d :: rest)).map fun found => (c :: found.1, found.2)

end

def chars : Token → List Char
  | word cs => cs
  | quoted quote body => quote :: (body ++ [quote])
  | opening => ['(']
  | closing => [')']
  | mark c => [c]

theorem chars_ofChar (c : Char) : (ofChar c).chars = [c] := by
  unfold ofChar
  split_ifs with isOpening isClosing
  · rw [isOpening, chars]
  · rw [isClosing, chars]
  · rfl

theorem chars_extendWord (c : Char) (tokens : List Token) :
    (extendWord c tokens).flatMap chars = c :: tokens.flatMap chars := by
  rcases tokens with _ | ⟨_ | _ | _ | _ | _, rest⟩ <;> rfl

theorem chars_prepend (front : List Char) {quote : Char}
    {piece : Option (List Char × List Token)} {rest body : List Char} {tokens : List Token}
    (found : (piece.map fun p => (front ++ p.1, p.2)) = some (body, tokens))
    (whole : ∀ inner later, piece = some (inner, later) →
      inner ++ quote :: later.flatMap chars = rest) :
    body ++ quote :: tokens.flatMap chars = front ++ rest := by
  obtain ⟨⟨inner, later⟩, present, same⟩ := Option.map_eq_some_iff.1 found
  obtain ⟨rfl, rfl⟩ := Prod.mk.inj same
  rw [List.append_assoc, whole inner later present]

mutual

/-- Reading loses nothing: the texts of the tokens make up the text that was read. -/
theorem chars_read :
    (cs : List Char) → (tokens : List Token) → read cs = some tokens → tokens.flatMap chars = cs
  | [], tokens, found => by
    rw [read, Option.some.injEq] at found
    rw [← found]
    rfl
  | c :: rest, tokens, found => by
    rw [read] at found
    split_ifs at found with isWord isQuoted isComment
    · obtain ⟨later, readRest, rfl⟩ := Option.map_eq_some_iff.1 found
      rw [chars_extendWord, chars_read rest later readRest]
    · obtain ⟨⟨body, later⟩, readRest, rfl⟩ := Option.map_eq_some_iff.1 found
      have whole := chars_readQuoted c rest body later readRest
      simp only [List.flatMap_cons, chars, List.cons_append, List.append_assoc]
      rw [← whole]
      rfl
    · obtain ⟨later, readRest, rfl⟩ := Option.map_eq_some_iff.1 found
      rw [List.flatMap_cons, chars_ofChar, chars_read rest later readRest]
      rfl

theorem chars_readQuoted (quote : Char) :
    (cs : List Char) → (body : List Char) → (tokens : List Token) →
      readQuoted quote cs = some (body, tokens) → body ++ quote :: tokens.flatMap chars = cs
  | [], _, _, found => by rw [readQuoted] at found; cases found
  | [c], body, tokens, found => by
    rw [readQuoted] at found
    split_ifs at found with closes
    cases found
    rw [closes]
    rfl
  | c :: d :: rest, body, tokens, found => by
    rw [readQuoted] at found
    split_ifs at found with closes doubled escapes
    · exact chars_prepend [c, d] found (chars_readQuoted quote rest)
    · obtain ⟨later, readRest, same⟩ := Option.map_eq_some_iff.1 found
      obtain ⟨rfl, rfl⟩ := Prod.mk.inj same
      rw [List.nil_append, chars_read (d :: rest) later readRest, closes]
    · exact chars_prepend [c, d] found (chars_readQuoted quote rest)
    · exact chars_prepend [c] found (chars_readQuoted quote (d :: rest))

end

/-- A text that starts here does not go on with the word or the quoted piece in front of it. -/
def EndsToken (rest : List Char) : Prop :=
  ∀ c ∈ rest.head?, isWordChar c = false ∧ isQuote c = false

def Reads (cs : List Char) (tokens : List Token) : Prop :=
  ∀ rest, EndsToken rest → read (cs ++ rest) = (read rest).map (tokens ++ ·)

theorem EndsToken.cons {c : Char} (noWord : isWordChar c = false) (noQuote : isQuote c = false)
    (rest : List Char) : EndsToken (c :: rest) := by
  intro d first
  cases first
  exact ⟨noWord, noQuote⟩

theorem Reads.nil : Reads [] [] := by
  intro rest _
  simp

theorem Reads.append {a b : List Char} {ts us : List Token} (first : Reads a ts)
    (second : Reads b us) (apart : EndsToken b) : Reads (a ++ b) (ts ++ us) := by
  intro rest boundary
  have ends : EndsToken (b ++ rest) := by
    cases b with
    | nil => exact boundary
    | cons c b => exact apart
  rw [List.append_assoc, first _ ends, second _ boundary, Option.map_map]
  simp only [Function.comp_def, List.append_assoc]

theorem Reads.whole {cs : List Char} {tokens : List Token} (reads : Reads cs tokens) :
    read cs = some tokens := by
  have alone := reads [] (by simp [EndsToken])
  simpa [read] using alone

def standsAlone (c : Char) : Bool :=
  !isWordChar c && !isQuote c && c != '#' && c != '-' && c != '/'

theorem Reads.cons {c : Char} {cs : List Char} {tokens : List Token}
    (alone : standsAlone c = true) (later : Reads cs tokens) :
    Reads (c :: cs) (ofChar c :: tokens) := by
  intro rest boundary
  simp only [standsAlone, Bool.and_eq_true, Bool.not_eq_true', bne_iff_ne, ne_eq] at alone
  obtain ⟨⟨⟨⟨noWord, noQuote⟩, noHash⟩, noDash⟩, noSlash⟩ := alone
  rw [List.cons_append, read, if_neg (by simp [noWord]), if_neg (by simp [noQuote]),
    if_neg (by simp [startsComment, noHash, noDash, noSlash]), later rest boundary, Option.map_map]
  rfl

theorem EndsToken.of_standsAlone {c : Char} (alone : standsAlone c = true) (rest : List Char) :
    EndsToken (c :: rest) := by
  simp only [standsAlone, Bool.and_eq_true, Bool.not_eq_true'] at alone
  exact .cons alone.1.1.1.1 alone.1.1.1.2 rest

theorem extendWord_of_ends {rest : List Char} {tokens : List Token} (ends : EndsToken rest)
    (found : read rest = some tokens) (c : Char) : extendWord c tokens = word [c] :: tokens := by
  cases rest with
  | nil =>
    rw [read, Option.some.injEq] at found
    rw [← found]
    rfl
  | cons d rest =>
    obtain ⟨noWord, noQuote⟩ := ends d rfl
    rw [read, if_neg (by simp [noWord]), if_neg (by simp [noQuote])] at found
    split_ifs at found
    obtain ⟨later, _, rfl⟩ := Option.map_eq_some_iff.1 found
    unfold ofChar
    split_ifs <;> rfl

theorem reads_word {w : List Char} (nonempty : w ≠ []) (run : ∀ c ∈ w, isWordChar c = true) :
    Reads w [word w] := by
  intro rest boundary
  induction w with
  | nil => exact absurd rfl nonempty
  | cons c w ih =>
    rw [List.cons_append, read, if_pos (run c List.mem_cons_self)]
    cases w with
    | nil =>
      cases found : read rest with
      | none => simp [found]
      | some tokens => simp [found, extendWord_of_ends boundary found]
    | cons d w =>
      rw [ih (List.cons_ne_nil d w) (fun e member => run e (List.mem_cons_of_mem c member)),
        Option.map_map]
      rfl

theorem escape_cases (c : Char) :
    Value.escape c = ['\'', '\''] ∨ (∃ d, Value.escape c = ['\\', d]) ∨
      (c ≠ '\'' ∧ c ≠ '\\' ∧ Value.escape c = [c]) := by
  unfold Value.escape
  split_ifs with isQuote isBackslash
  · exact .inl rfl
  iterate 5 exact .inr (.inl ⟨_, rfl⟩)
  exact .inr (.inr ⟨isQuote, isBackslash, rfl⟩)

theorem readQuoted_plain {quote c : Char} (noQuote : c ≠ quote) (noEscape : c ≠ '\\')
    (tail : List Char) :
    readQuoted quote (c :: tail) =
      (readQuoted quote tail).map fun found => (c :: found.1, found.2) := by
  cases tail with
  | nil => simp [readQuoted, noQuote]
  | cons d tail => simp [readQuoted, noQuote, noEscape]

/-- The escaped characters of a text do not end the literal they stand in, whatever they are. -/
theorem readQuoted_escaped (s rest : List Char) (apart : rest.head? ≠ some '\'') :
    readQuoted '\'' (s.flatMap Value.escape ++ '\'' :: rest) =
      (read rest).map fun tokens => (s.flatMap Value.escape, tokens) := by
  induction s with
  | nil =>
    cases rest with
    | nil => simp [readQuoted, read]
    | cons d rest =>
      have differs : d ≠ '\'' := fun same => apart (by simp [same])
      simp [readQuoted, differs]
  | cons c s ih =>
    rw [List.flatMap_cons, List.append_assoc]
    rcases escape_cases c with doubled | ⟨d, escaped⟩ | ⟨noQuote, noEscape, plain⟩
    · rw [doubled, List.cons_append, List.cons_append, List.nil_append, readQuoted, if_pos rfl,
        if_pos rfl, ih, Option.map_map]
      rfl
    · rw [escaped, List.cons_append, List.cons_append, List.nil_append, readQuoted,
        if_neg (by decide), if_pos (by decide), ih, Option.map_map]
      rfl
    · rw [plain, List.cons_append, List.nil_append, readQuoted_plain noQuote noEscape, ih,
        Option.map_map]
      rfl

theorem reads_quoted (s : String) :
    Reads (Value.quoted s).toList [quoted '\'' (s.toList.flatMap Value.escape)] := by
  intro rest boundary
  have apart : rest.head? ≠ some '\'' := by
    intro first
    exact absurd (boundary '\'' first).2 (by decide)
  rw [Value.quoted, String.toList_ofList, List.cons_append, read, if_neg (by decide),
    if_pos (by decide), List.append_assoc, List.singleton_append, readQuoted_escaped _ _ apart,
    Option.map_map]
  rfl

end Token

end RowGuard.Sql
