import RowGuard.Proofs.Sql.Reading
/-!
Parentheses and conjuncts of SQL text. What stands in parentheses is out of sight from outside, and
the conjuncts of two operands joined by a conjunction are those of the operands.
-/
namespace RowGuard.Sql

namespace Token

def shift (depth : Nat) : Token → Nat
  | opening => depth + 1
  | closing => depth - 1
  | _ => depth

/-- The depth behind some tokens, absent where a parenthesis is closed that is not open. -/
def depthAfter (depth : Nat) : List Token → Option Nat
  | [] => some depth
  | t :: rest => if t = closing ∧ depth = 0 then none else depthAfter (t.shift depth) rest

def word? : Token → Option (List Char)
  | word cs => some cs
  | _ => none

/-- The words outside all parentheses and quotes. -/
def wordsOutside (depth : Nat) : List Token → List (List Char)
  | [] => []
  | t :: rest => (if depth = 0 then t.word?.toList else []) ++ wordsOutside (t.shift depth) rest

def isKeyword (name : String) (cs : List Char) : Bool := cs.map Char.toUpper == name.toList

def isBlank : Token → Bool
  | mark c => c == ' ' || (9 ≤ c.toNat && c.toNat ≤ 13)
  | _ => false

def trimBlanks (tokens : List Token) : List Token :=
  ((tokens.dropWhile isBlank).reverse.dropWhile isBlank).reverse

/-- The pieces between the conjunctions outside all parentheses, without blanks around them. `piece`
holds the tokens since the last conjunction, the latest first. -/
def cut (depth : Nat) (piece : List Token) : List Token → List (List Token)
  | [] => [trimBlanks piece.reverse]
  | t :: rest =>
    if depth = 0 ∧ t.word?.any (isKeyword "AND") then trimBlanks piece.reverse :: cut 0 [] rest
    else cut (t.shift depth) (t :: piece) rest

def text (tokens : List Token) : String := String.ofList (tokens.flatMap chars)

def conjuncts (tokens : List Token) : List String := (cut 0 [] tokens).map text

/-- Every parenthesis is closed, and none is closed before it is opened. -/
def Balanced (tokens : List Token) : Prop := depthAfter 0 tokens = some 0

def Free (name : String) (tokens : List Token) : Prop :=
  ∀ w ∈ wordsOutside 0 tokens, isKeyword name w = false

theorem depthAfter_append {depth between : Nat} {a : List Token}
    (first : depthAfter depth a = some between) (b : List Token) :
    depthAfter depth (a ++ b) = depthAfter between b := by
  induction a generalizing depth with
  | nil =>
    rw [depthAfter, Option.some.injEq] at first
    rw [first, List.nil_append]
  | cons t a ih =>
    rw [depthAfter] at first
    split_ifs at first with unopened
    rw [List.cons_append, depthAfter, if_neg unopened, ih first]

theorem wordsOutside_append {depth between : Nat} {a : List Token}
    (first : depthAfter depth a = some between) (b : List Token) :
    wordsOutside depth (a ++ b) = wordsOutside depth a ++ wordsOutside between b := by
  induction a generalizing depth with
  | nil =>
    rw [depthAfter, Option.some.injEq] at first
    rw [first, wordsOutside, List.nil_append, List.nil_append]
  | cons t a ih =>
    rw [depthAfter] at first
    split_ifs at first with unopened
    rw [List.cons_append, wordsOutside, wordsOutside, ih first, List.append_assoc]

theorem shift_succ {depth : Nat} {t : Token} (opened : ¬(t = closing ∧ depth = 0)) :
    t.shift (depth + 1) = t.shift depth + 1 := by
  cases t with
  | closing =>
    have positive : depth ≠ 0 := fun zero => opened ⟨rfl, zero⟩
    simp only [shift]
    omega
  | _ => rfl

theorem inside {depth final : Nat} {tokens : List Token}
    (ends : depthAfter depth tokens = some final) :
    depthAfter (depth + 1) tokens = some (final + 1) ∧ wordsOutside (depth + 1) tokens = [] := by
  induction tokens generalizing depth with
  | nil =>
    rw [depthAfter, Option.some.injEq] at ends
    exact ⟨by rw [depthAfter, ends], rfl⟩
  | cons t rest ih =>
    rw [depthAfter] at ends
    split_ifs at ends with unopened
    obtain ⟨deeper, noWord⟩ := ih ends
    rw [← shift_succ unopened] at deeper noWord
    exact ⟨by rw [depthAfter, if_neg (by omega), deeper],
      by rw [wordsOutside, if_neg (by omega), noWord, List.nil_append]⟩

theorem Balanced.append {a b : List Token} (first : Balanced a) (second : Balanced b) :
    Balanced (a ++ b) :=
  (depthAfter_append first b).trans second

theorem Balanced.enclosed {tokens : List Token} (inner : Balanced tokens) :
    Balanced (enclosed tokens) := by
  have deeper := (inside inner).1
  rw [Balanced, Token.enclosed, depthAfter, if_neg (by simp), shift, depthAfter_append deeper]
  rfl

theorem Balanced.enclosedWhere {compound : Bool} {tokens : List Token} (inner : Balanced tokens) :
    Balanced (if compound then Token.enclosed tokens else tokens) := by
  cases compound with
  | true => exact inner.enclosed
  | false => exact inner

theorem wordsOutside_enclosed {tokens : List Token} (inner : Balanced tokens) :
    wordsOutside 0 (enclosed tokens) = [] := by
  obtain ⟨deeper, noWord⟩ := inside inner
  rw [Token.enclosed, wordsOutside, shift, wordsOutside_append deeper, noWord]
  rfl

def isLevel : Token → Bool
  | opening => false
  | closing => false
  | _ => true

theorem Balanced.nil : Balanced [] := rfl

theorem shift_of_level {t : Token} (level : t.isLevel = true) (depth : Nat) :
    t.shift depth = depth := by
  cases t with
  | opening => cases level
  | closing => cases level
  | _ => rfl

theorem Balanced.cons {t : Token} {tokens : List Token} (level : t.isLevel = true)
    (later : Balanced tokens) : Balanced (t :: tokens) := by
  have other : t ≠ closing := by
    rintro rfl
    cases level
  rw [Balanced, depthAfter, if_neg (fun unopened => other unopened.1), shift_of_level level]
  exact later

theorem wordsOutside_cons {t : Token} (level : t.isLevel = true) (tokens : List Token) :
    wordsOutside 0 (t :: tokens) = t.word?.toList ++ wordsOutside 0 tokens := by
  rw [wordsOutside, if_pos rfl, shift_of_level level]

theorem Balanced.joined {left right : List Token} {operator : Token} (first : Balanced left)
    (level : operator.isLevel = true) (second : Balanced right) :
    Balanced (joined left operator right) :=
  first.append (.cons rfl (.cons level (.cons rfl second)))

theorem Balanced.listed {items : List (List Token)} (each : ∀ item ∈ items, Balanced item) :
    Balanced (listed items) := by
  induction items with
  | nil => exact .nil
  | cons item rest ih =>
    have later := ih (fun other member => each other (List.mem_cons_of_mem item member))
    cases rest with
    | nil => exact each item List.mem_cons_self
    | cons next rest => exact (each item List.mem_cons_self).append (.cons rfl (.cons rfl later))

theorem Free.joined {name : String} {left right : List Token} {operator : Token}
    (balanced : Balanced left) (first : Free name left) (level : operator.isLevel = true)
    (other : ∀ w ∈ operator.word?, isKeyword name w = false) (second : Free name right) :
    Free name (joined left operator right) := by
  intro w member
  rw [Token.joined, wordsOutside_append balanced, wordsOutside_cons rfl, wordsOutside_cons level,
    wordsOutside_cons rfl] at member
  simp only [blank, word?, Option.toList_none, List.nil_append, List.mem_append,
    Option.mem_toList] at member
  rcases member with before | between | behind
  · exact first w before
  · exact other w between
  · exact second w behind

theorem trimBlanks_blank_append (tokens : List Token) :
    trimBlanks (blank :: tokens) = trimBlanks tokens := rfl

theorem trimBlanks_append_blank (tokens : List Token) :
    trimBlanks (tokens ++ [blank]) = trimBlanks tokens := by
  unfold trimBlanks
  rw [List.dropWhile_append]
  split_ifs with empty
  · rw [List.isEmpty_iff.1 empty]
    rfl
  · rw [List.reverse_append]
    rfl

theorem cut_nil (depth : Nat) (piece : List Token) :
    cut depth piece [] = [trimBlanks piece.reverse] := rfl

theorem cut_cons (depth : Nat) (piece : List Token) (t : Token) (rest : List Token) :
    cut depth piece (t :: rest) =
      if depth = 0 ∧ t.word?.any (isKeyword "AND") then trimBlanks piece.reverse :: cut 0 [] rest
      else cut (t.shift depth) (t :: piece) rest := rfl

theorem cut_append_and {depth : Nat} {a : List Token} (ends : depthAfter depth a = some 0)
    (piece b : List Token) :
    cut depth piece (a ++ keyword "AND" :: b) = cut depth piece a ++ cut 0 [] b := by
  induction a generalizing depth piece with
  | nil =>
    rw [depthAfter, Option.some.injEq] at ends
    rw [ends, List.nil_append, cut_cons, if_pos (by decide), cut_nil, List.singleton_append]
  | cons t a ih =>
    rw [depthAfter] at ends
    split_ifs at ends with unopened
    rw [List.cons_append, cut_cons, cut_cons]
    split_ifs with conjunction
    · obtain ⟨rfl, isAnd⟩ := conjunction
      have level : t.shift 0 = 0 := by
        cases t with
        | word cs => rfl
        | _ => cases isAnd
      rw [level] at ends
      rw [ih ends, List.cons_append]
    · exact ih ends (t :: piece)

theorem cut_append_blank (depth : Nat) (piece a : List Token) :
    cut depth piece (a ++ [blank]) = cut depth piece a := by
  induction a generalizing depth piece with
  | nil =>
    rw [List.nil_append, cut_cons, if_neg (by simp [blank, word?]), cut_nil, cut_nil,
      List.reverse_cons, trimBlanks_append_blank]
  | cons t a ih =>
    rw [List.cons_append, cut_cons, cut_cons, ih, ih]

theorem cut_piece_append_blank (depth : Nat) (piece tokens : List Token) :
    cut depth (piece ++ [blank]) tokens = cut depth piece tokens := by
  induction tokens generalizing depth piece with
  | nil =>
    rw [cut_nil, cut_nil, List.reverse_append, List.reverse_singleton, List.singleton_append,
      trimBlanks_blank_append]
  | cons t rest ih =>
    rw [cut_cons, cut_cons, ← List.cons_append, ih, List.reverse_append, List.reverse_singleton,
      List.singleton_append, trimBlanks_blank_append]

/-- The conjuncts of two operands joined by a conjunction are those of the operands. -/
theorem conjuncts_joined {left : List Token} (balanced : Balanced left) (right : List Token) :
    conjuncts (joined left (keyword "AND") right) = conjuncts left ++ conjuncts right := by
  have spaced : depthAfter 0 (left ++ [blank]) = some 0 := balanced.append (.cons rfl .nil)
  have regrouped : joined left (keyword "AND") right =
      (left ++ [blank]) ++ keyword "AND" :: blank :: right := by simp [joined]
  have behind : cut 0 [] (blank :: right) = cut 0 [] right := by
    rw [cut_cons, if_neg (by simp [blank, word?])]
    exact cut_piece_append_blank 0 [] right
  rw [conjuncts, regrouped, cut_append_and spaced, behind, cut_append_blank, List.map_append]
  rfl

theorem cut_free {depth : Nat} {tokens : List Token}
    (free : ∀ w ∈ wordsOutside depth tokens, isKeyword "AND" w = false) (piece : List Token) :
    cut depth piece tokens = [trimBlanks (piece.reverse ++ tokens)] := by
  induction tokens generalizing depth piece with
  | nil => rw [cut_nil, List.append_nil]
  | cons t rest ih =>
    rw [wordsOutside] at free
    have other : ¬(depth = 0 ∧ t.word?.any (isKeyword "AND")) := by
      rintro ⟨rfl, isAnd⟩
      obtain ⟨w, found, same⟩ := (Option.any_eq_true _ _).1 isAnd
      have differs := free w (by simp [found])
      rw [same] at differs
      cases differs
    rw [cut_cons, if_neg other, ih (fun w member => free w (List.mem_append_right _ member)),
      List.reverse_cons, List.append_assoc, List.singleton_append]

theorem Free.enclosed {tokens : List Token} (inner : Balanced tokens) (name : String) :
    Free name (enclosed tokens) := by
  intro w member
  rw [wordsOutside_enclosed inner] at member
  cases member

theorem Free.enclosedWhere {compound : Bool} {tokens : List Token} {name : String}
    (inner : Balanced tokens) (simple : compound = false → Free name tokens) :
    Free name (if compound then Token.enclosed tokens else tokens) := by
  cases compound with
  | true => exact .enclosed inner name
  | false => exact simple rfl

theorem Balanced.of_level {tokens : List Token} (level : ∀ t ∈ tokens, t.isLevel = true) :
    Balanced tokens := by
  induction tokens with
  | nil => exact .nil
  | cons t rest ih =>
    exact .cons (level t List.mem_cons_self)
      (ih (fun other member => level other (List.mem_cons_of_mem t member)))

/-- Tokens that neither begin nor end with a blank. -/
def Framed (tokens : List Token) : Prop :=
  (∃ first ∈ tokens.head?, isBlank first = false) ∧ ∃ last ∈ tokens.getLast?, isBlank last = false

theorem Framed.trimBlanks_eq {tokens : List Token} (framed : Framed tokens) :
    trimBlanks tokens = tokens := by
  obtain ⟨⟨first, isFirst, solidFirst⟩, last, isLast, solidLast⟩ := framed
  have front : tokens.dropWhile isBlank = tokens := by
    cases tokens with
    | nil => rfl
    | cons t rest =>
      cases isFirst
      rw [List.dropWhile_cons, if_neg (by simp [solidFirst])]
  have back : tokens.reverse.dropWhile isBlank = tokens.reverse := by
    rw [← List.head?_reverse] at isLast
    cases reversed : tokens.reverse with
    | nil => rfl
    | cons t rest =>
      rw [reversed] at isLast
      cases isLast
      rw [List.dropWhile_cons, if_neg (by simp [solidLast])]
  rw [trimBlanks, front, back, List.reverse_reverse]

theorem Framed.joined {left right : List Token} (first : Framed left) (operator : Token)
    (second : Framed right) : Framed (joined left operator right) := by
  obtain ⟨⟨a, isFirst, solidFirst⟩, -⟩ := first
  obtain ⟨-, b, isLast, solidLast⟩ := second
  refine ⟨⟨a, ?_, solidFirst⟩, b, ?_, solidLast⟩
  · rw [Option.mem_def] at isFirst ⊢
    simp [Token.joined, List.head?_append, isFirst]
  · rw [Option.mem_def] at isLast ⊢
    simp [Token.joined, List.getLast?_append, List.getLast?_cons, isLast]

theorem Framed.enclosed (tokens : List Token) : Framed (enclosed tokens) :=
  ⟨⟨opening, rfl, rfl⟩, closing, by simp [Token.enclosed, List.getLast?_cons], rfl⟩

theorem Framed.enclosedWhere {compound : Bool} {tokens : List Token} (inner : Framed tokens) :
    Framed (if compound then Token.enclosed tokens else tokens) := by
  cases compound with
  | true => exact .enclosed tokens
  | false => exact inner

theorem conjuncts_free {tokens : List Token} (free : Free "AND" tokens) (framed : Framed tokens) :
    conjuncts tokens = [text tokens] := by
  rw [conjuncts, cut_free free, List.reverse_nil, List.nil_append, framed.trimBlanks_eq]
  rfl

theorem isKeyword_plainWord {word name : String} (plain : isPlainWord word = true)
    (known : name ∈ keywords) : isKeyword name word.toList = false := by
  simp only [isPlainWord, Bool.and_eq_true, Bool.not_eq_true'] at plain
  by_contra same
  rw [Bool.not_eq_false, isKeyword, beq_iff_eq] at same
  have upper : Text.upper word = name := by
    rw [Text.upper, same, String.ofList_toList]
  have absent := plain.2
  rw [upper, List.contains_iff_mem.2 known] at absent
  cases absent

theorem toUpper_of_isDigit {c : Char} (digit : c.isDigit = true) : c.toUpper = c := by
  simp only [Char.isDigit, Bool.and_eq_true, decide_eq_true_eq] at digit
  have below : ¬('a'.val ≤ c.val) := fun letter =>
    absurd (UInt32.le_trans letter digit.2) (by decide)
  exact dif_neg (fun letter => below letter.1)

theorem isKeyword_digits (n : Nat) {name : String} (known : name ∈ keywords) :
    isKeyword name (Integer.digits n) = false := by
  obtain ⟨nonempty, run⟩ := digits_run n
  have letters : keywords.all (fun k => k.toList.all (!·.isDigit)) = true := by decide
  cases digits : Integer.digits n with
  | nil => exact absurd digits nonempty
  | cons d ds =>
    have digit := run d (by simp [digits])
    by_contra same
    rw [Bool.not_eq_false, isKeyword, beq_iff_eq, List.map_cons, toUpper_of_isDigit digit] at same
    have letter := List.all_eq_true.1 (List.all_eq_true.1 letters name known) d (by simp [← same])
    rw [digit] at letter
    cases letter

end Token

end RowGuard.Sql
