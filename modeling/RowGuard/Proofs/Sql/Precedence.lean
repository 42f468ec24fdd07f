import RowGuard.Proofs.Sql.Meaning
/-!
What the reader of conditions makes of operators, lists and names. Whatever has been read in front,
the tokens of an operand, a comparison, a conjunction or a disjunction are read with their meaning
where one of that kind may stand.
-/
namespace RowGuard.Sql

namespace Token

open Reader

def Pending.isSettled : Pending → Bool
  | .nothing => true
  | .name _ => true
  | _ => false

/-- Wherever an operand may stand, the tokens are read as an operand with the meaning. -/
def ReadsOperand (tokens : List Token) (m : Meaning) : Prop :=
  ∀ level outer, level.pending = .nothing → ∃ pending, pending.isSettled = true ∧
    (reading level outer).run tokens = reading { level with operand := some m, pending } outer

def ReadsComparison (tokens : List Token) (m : Meaning) : Prop :=
  ∀ level outer, level.pending = .nothing → level.compared = none →
    ∃ compared operand pending, pending.isSettled = true ∧
      (reading level outer).run tokens = reading { level with compared, operand, pending } outer ∧
      joinedBy .equal compared operand = some m

/-- Behind the conjuncts of a level, the tokens are read as further ones. -/
def ReadsConjuncts (tokens : List Token) (m : Meaning) : Prop :=
  ∀ level outer, level.pending = .nothing → level.compared = none →
    ∃ conjuncts compared operand pending, pending.isSettled = true ∧
      (reading level outer).run tokens =
        reading { level with conjuncts, compared, operand, pending } outer ∧
      joinedBy .conjunction conjuncts (joinedBy .equal compared operand) =
        joinedBy .conjunction level.conjuncts (some m)

def ReadsDisjuncts (tokens : List Token) (m : Meaning) : Prop :=
  ∀ level outer, level.pending = .nothing → level.compared = none → level.conjuncts = none →
    ∃ disjuncts conjuncts compared operand pending, pending.isSettled = true ∧
      (reading level outer).run tokens =
        reading { level with disjuncts, conjuncts, compared, operand, pending } outer ∧
      joinedBy .disjunction disjuncts
          (joinedBy .conjunction conjuncts (joinedBy .equal compared operand)) =
        joinedBy .disjunction level.disjuncts (some m)

theorem ReadsOperand.comparison {tokens : List Token} {m : Meaning}
    (reads : ReadsOperand tokens m) : ReadsComparison tokens m := by
  intro level outer ready first
  obtain ⟨pending, settled, run⟩ := reads level outer ready
  refine ⟨none, some m, pending, settled, ?_, rfl⟩
  rw [run, first]

theorem ReadsComparison.conjuncts {tokens : List Token} {m : Meaning}
    (reads : ReadsComparison tokens m) : ReadsConjuncts tokens m := by
  intro level outer ready first
  obtain ⟨compared, operand, pending, settled, run, whole⟩ := reads level outer ready first
  exact ⟨level.conjuncts, compared, operand, pending, settled, run, by rw [whole]⟩

theorem ReadsConjuncts.disjuncts {tokens : List Token} {m : Meaning}
    (reads : ReadsConjuncts tokens m) : ReadsDisjuncts tokens m := by
  intro level outer ready first alone
  obtain ⟨conjuncts, compared, operand, pending, settled, run, whole⟩ :=
    reads level outer ready first
  rw [alone] at whole
  exact ⟨level.disjuncts, conjuncts, compared, operand, pending, settled, run, by rw [whole]; rfl⟩

theorem joinedBy_assoc {operator : Meaning → Meaning → Meaning}
    (assoc : ∀ a b c, operator (operator a b) c = operator a (operator b c)) (left : Option Meaning)
    (m n : Meaning) :
    joinedBy operator (joinedBy operator left (some m)) (some n) =
      joinedBy operator left (some (operator m n)) := by
  cases left with
  | none => rfl
  | some l => exact congrArg some (assoc l m n)

theorem run_joined {reader : Reader} {level : Level} {outer : List Level} {left : List Token}
    (front : reader.run left = reading level outer) (operator : Token) (right : List Token) :
    reader.run (joined left operator right) =
      (((reading level outer).step operator).step blank).run right := by
  rw [joined, run_append, front, run_cons, run_cons, run_cons]
  rfl

theorem step_operator {level : Level} (settled : level.pending.isSettled = true)
    (outer : List Level) :
    (reading level outer).step (keyword "OR") =
        reading { level with
          disjuncts := level.disjunction
          conjuncts := none
          compared := none
          operand := none
          pending := .nothing } outer ∧
      (reading level outer).step (keyword "AND") =
        reading { level with
          conjuncts := level.conjunction
          compared := none
          operand := none
          pending := .nothing } outer ∧
      (reading level outer).step (keyword "IN") =
        reading { level with
          compared := none
          operand := level.comparison
          pending := .membership } outer := by
  obtain ⟨opener, items, disjuncts, conjuncts, compared, operand, pending⟩ := level
  cases pending with
  | nothing => exact ⟨rfl, rfl, rfl⟩
  | name cs => exact ⟨rfl, rfl, rfl⟩
  | _ => cases settled

theorem ReadsConjuncts.joined {a b : List Token} {m n : Meaning} (first : ReadsConjuncts a m)
    (second : ReadsConjuncts b n) :
    ReadsConjuncts (joined a (keyword "AND") b) (.conjunction m n) := by
  intro level outer ready alone
  obtain ⟨conjuncts, compared, operand, pending, settled, run, left⟩ :=
    first level outer ready alone
  obtain ⟨conjuncts', compared', operand', pending', settled', run', right⟩ :=
    second { level with
      conjuncts := joinedBy .conjunction level.conjuncts (some m)
      compared := none
      operand := none
      pending := .nothing } outer rfl rfl
  refine ⟨conjuncts', compared', operand', pending', settled', ?_, ?_⟩
  · rw [← left] at run'
    rw [run_joined run, (step_operator (by exact settled) outer).2.1]
    exact run'
  · rw [right, joinedBy_assoc Meaning.conjunction_assoc]

theorem ReadsDisjuncts.joined {a b : List Token} {m n : Meaning} (first : ReadsDisjuncts a m)
    (second : ReadsDisjuncts b n) :
    ReadsDisjuncts (joined a (keyword "OR") b) (.disjunction m n) := by
  intro level outer ready alone fresh
  obtain ⟨disjuncts, conjuncts, compared, operand, pending, settled, run, left⟩ :=
    first level outer ready alone fresh
  obtain ⟨disjuncts', conjuncts', compared', operand', pending', settled', run', right⟩ :=
    second { level with
      disjuncts := joinedBy .disjunction level.disjuncts (some m)
      conjuncts := none
      compared := none
      operand := none
      pending := .nothing } outer rfl rfl rfl
  refine ⟨disjuncts', conjuncts', compared', operand', pending', settled', ?_, ?_⟩
  · rw [← left] at run'
    rw [run_joined run, (step_operator (by exact settled) outer).1]
    exact run'
  · rw [right, joinedBy_assoc Meaning.disjunction_assoc]

theorem ReadsComparison.equal {a b : List Token} {m n : Meaning} (first : ReadsComparison a m)
    (second : ReadsOperand b n) : ReadsComparison (Token.joined a (mark '=') b) (.equal m n) := by
  intro level outer ready alone
  obtain ⟨compared, operand, pending, settled, run, left⟩ := first level outer ready alone
  obtain ⟨pending', settled', run'⟩ :=
    second { level with compared := some m, operand := none, pending := .nothing } outer rfl
  refine ⟨some m, some n, pending', settled', ?_, rfl⟩
  rw [← left] at run' ⊢
  rw [run_joined run]
  exact run'

theorem ReadsDisjuncts.enclosed {tokens : List Token} {m : Meaning}
    (inner : ReadsDisjuncts tokens m) : ReadsOperand (Token.enclosed tokens) m := by
  intro level outer ready
  obtain ⟨disjuncts, conjuncts, compared, operand, pending, -, run, whole⟩ :=
    inner {} (level :: outer) rfl rfl rfl
  have group : level.opens = .group := by
    unfold Level.opens
    rw [ready]
  refine ⟨.nothing, rfl, ?_⟩
  rw [Token.enclosed, run_cons, step, group, run_append, run]
  exact congrArg (fun found => reading (level.receive found) outer) whole

theorem run_listed {items : List (List Token)} {ms : List Meaning}
    (each : List.Forall₂ ReadsDisjuncts items ms) (opener : Opener) (before : List Meaning)
    (outer : List Level) : ∃ level : Level,
      (reading { opener, items := before } outer).run (listed items) = reading level outer ∧
        level.opener = opener ∧ level.allItems = before ++ ms := by
  induction each generalizing before with
  | nil => exact ⟨{ opener, items := before }, rfl, rfl, rfl⟩
  | @cons item m items ms first rest ih =>
    obtain ⟨disjuncts, conjuncts, compared, operand, pending, -, run, whole⟩ :=
      first { opener, items := before } outer rfl rfl rfl
    have found :
        Level.disjunction ⟨opener, before, disjuncts, conjuncts, compared, operand, pending⟩ =
          some m := whole
    have read : Level.allItems ⟨opener, before, disjuncts, conjuncts, compared, operand, pending⟩ =
        before ++ [m] := by rw [Level.allItems, found]; rfl
    cases rest with
    | nil => exact ⟨_, run, rfl, read⟩
    | cons second rest =>
      obtain ⟨level, run', same, all⟩ := ih (before ++ [m])
      refine ⟨level, ?_, same, by rw [all, List.append_assoc]; rfl⟩
      rw [listed, run_append, run, run_cons, run_cons, ← run', ← read]
      rfl

theorem run_enclosed_listed {items : List (List Token)} {ms : List Meaning}
    (each : List.Forall₂ ReadsDisjuncts items ms) (level : Level) (outer : List Level) :
    ∃ inner : Level, (reading level outer).run (enclosed (listed items)) =
        reading (level.receive inner.closed) outer ∧
      inner.opener = level.opens ∧ inner.allItems = ms := by
  obtain ⟨inner, run, opened, all⟩ := run_listed each level.opens [] (level :: outer)
  refine ⟨inner, ?_, opened, all⟩
  rw [enclosed, run_cons, step, run_append, run]
  rfl

theorem ReadsComparison.member {needle : List Token} {m : Meaning} {items : List (List Token)}
    {ms : List Meaning} (first : ReadsComparison needle m)
    (each : List.Forall₂ ReadsDisjuncts items ms) :
    ReadsComparison (Token.joined needle (keyword "IN") (Token.enclosed (listed items)))
      (.member m ms) := by
  intro level outer ready alone
  obtain ⟨compared, operand, pending, settled, run, left⟩ := first level outer ready alone
  obtain ⟨inner, run', opened, all⟩ := run_enclosed_listed each
    { level with compared := none, operand := some m, pending := .membership } outer
  refine ⟨none, some (.member m ms), .nothing, rfl, ?_, rfl⟩
  have closed : inner.closed = some (.member m ms) := by
    rw [Level.closed, opened, all]
    rfl
  rw [closed, ← left] at run'
  rw [run_joined run, (step_operator (by exact settled) outer).2.2]
  exact run'

/-- Tokens with all parentheses closed are skipped as they are. -/
theorem run_skipping {depth final : Nat} {tokens : List Token}
    (ends : depthAfter depth tokens = some final) (needle : Meaning) (skipped : List Token)
    (level : Level) (outer : List Level) :
    (skipping needle depth skipped level outer).run tokens =
      skipping needle final (tokens.reverse ++ skipped) level outer := by
  induction tokens generalizing depth skipped with
  | nil =>
    rw [depthAfter, Option.some.injEq] at ends
    rw [ends]
    rfl
  | cons t rest ih =>
    rw [depthAfter] at ends
    split_ifs at ends with unopened
    rw [run_cons, step, if_neg unopened, ih ends, List.reverse_cons, List.append_assoc]
    rfl

theorem ReadsComparison.lookup {needle rest : List Token} {m : Meaning}
    (first : ReadsComparison needle m) (balanced : Balanced rest) :
    ReadsComparison
      (Token.joined needle (keyword "IN") (Token.enclosed (keyword "SELECT" :: rest)))
      (.lookup m (text (keyword "SELECT" :: rest))) := by
  intro level outer ready alone
  obtain ⟨compared, operand, pending, settled, run, left⟩ := first level outer ready alone
  refine ⟨none, some (.lookup m (text (keyword "SELECT" :: rest))), .nothing, rfl, ?_, rfl⟩
  have skip := run_skipping balanced m [keyword "SELECT"]
    { level with compared := none, operand := some m, pending := .membership } outer
  rw [run_joined run, (step_operator (by exact settled) outer).2.2]
  have found : Level.comparison ⟨level.opener, level.items, level.disjuncts, level.conjuncts,
      compared, operand, pending⟩ = some m := left
  rw [found, Token.enclosed, List.cons_append, run_cons, run_cons]
  change ((skipping m 0 [keyword "SELECT"] { level with
    compared := none
    operand := some m
    pending := .membership } outer).run (rest ++ [closing])) = _
  rw [run_append, skip, run_cons, run_nil, step, if_pos ⟨rfl, rfl⟩, List.reverse_append,
    List.reverse_reverse]
  rfl

theorem step_word {cs : List Char} (other : isKeyword "SELECT" cs = false) (level : Level)
    (outer : List Level) :
    (reading level outer).step (word cs) = reading (level.readWord cs) outer := by
  simp only [step, other, Bool.false_eq_true, if_false]

/-- A name that may stand for a column, a table or a function: a plain word that does not begin
with a digit. -/
def isIdentifier (name : String) : Bool := isPlainWord name && !startsWithDigit name.toList

theorem step_identifier {name : String} (valid : isIdentifier name = true) {level : Level}
    (ready : level.pending = .nothing) (outer : List Level) :
    (reading level outer).step (word name.toList) =
      reading { level with
        operand := some (.column (.bare name))
        pending := .name name.toList } outer := by
  simp only [isIdentifier, Bool.and_eq_true, Bool.not_eq_true'] at valid
  obtain ⟨plain, noDigit⟩ := valid
  have other (k : String) (known : k ∈ keywords) := isKeyword_plainWord plain known
  rw [step_word (other "SELECT" (by decide))]
  simp [Level.readWord, ready, noDigit, String.ofList_toList, other "OR" (by decide),
    other "AND" (by decide), other "IN" (by decide), other "NULL" (by decide)]

theorem readsOperand_call {name : String} (valid : isIdentifier name = true)
    {items : List (List Token)} {ms : List Meaning} (each : List.Forall₂ ReadsDisjuncts items ms) :
    ReadsOperand (word name.toList :: enclosed (listed items)) (.call name ms) := by
  intro level outer ready
  obtain ⟨inner, run, opened, all⟩ := run_enclosed_listed each
    { level with operand := some (.column (.bare name)), pending := .name name.toList } outer
  have closed : inner.closed = some (.call name ms) := by
    rw [Level.closed, opened, all]
    simp only [Level.opens, String.ofList_toList]
  refine ⟨.nothing, rfl, ?_⟩
  rw [run_cons, step_identifier valid ready, run, closed]
  rfl

theorem readsOperand_column {c : Column} (name : isIdentifier c.name = true)
    (qualifier : ∀ q ∈ c.qualifier, isIdentifier q = true) :
    ReadsOperand c.tokens (.column c) := by
  intro level outer ready
  obtain ⟨qualifier?, last⟩ := c
  cases qualifier? with
  | none => exact ⟨.name last.toList, rfl, step_identifier name ready outer⟩
  | some q =>
    refine ⟨.nothing, rfl, ?_⟩
    have other : isKeyword "SELECT" last.toList = false := by
      simp only [isIdentifier, Bool.and_eq_true] at name
      exact isKeyword_plainWord name.1 (by decide)
    simp only [Column.tokens]
    rw [run_cons, step_identifier (qualifier q rfl) ready, run_cons, run_cons, run_nil, step,
      step_word other]
    simp [Level.readMark, Level.readWord, Level.receive, String.ofList_toList]

theorem startsWithDigit_digits (n : Nat) : startsWithDigit (Integer.digits n) = true := by
  obtain ⟨nonempty, run⟩ := digits_run n
  cases digits : Integer.digits n with
  | nil => exact absurd digits nonempty
  | cons d ds => simpa [startsWithDigit] using run d (by simp [digits])

theorem readsOperand_int (n : Int64) : ReadsOperand (ofInt n.toInt) (.literal (.int n)) := by
  intro level outer ready
  have denotes : numeral (Integer.chars n.toInt) = some (.literal (.int n)) := by
    have same := Integer.read?_text n
    rw [Integer.text] at same
    rw [numeral, same]
    rfl
  have other (k : String) (known : k ∈ keywords) := isKeyword_digits n.toInt.natAbs known
  refine ⟨.nothing, rfl, ?_⟩
  unfold ofInt
  unfold Integer.chars at denotes
  by_cases negative : n.toInt < 0
  · rw [if_pos negative] at denotes ⊢
    rw [run_cons, run_cons, run_nil, step, step_word (other "SELECT" (by decide))]
    simp [Level.readMark, Level.readWord, denotes, Level.receive]
  · rw [if_neg negative] at denotes ⊢
    rw [run_cons, run_nil, step_word (other "SELECT" (by decide))]
    simp [Level.readWord, ready, startsWithDigit_digits, denotes, Level.receive,
      other "OR" (by decide), other "AND" (by decide), other "IN" (by decide),
      other "NULL" (by decide)]

theorem readsOperand_value (v : Value) : ReadsOperand v.tokens (.literal v) := by
  cases v with
  | int n => exact readsOperand_int n
  | text s =>
    intro level outer ready
    refine ⟨.nothing, rfl, ?_⟩
    rw [Value.tokens, run_cons, run_nil, step, Value.unescape_flatMap_escape,
      String.ofList_toList]
    rfl
  | null =>
    intro level outer ready
    refine ⟨.nothing, rfl, ?_⟩
    have word : level.readWord "NULL".toList = level.receive (some (.literal .null)) := by
      unfold Level.readWord
      rw [ready]
      rfl
    rw [Value.tokens, run_cons, run_nil, keyword, step_word (by decide), word]
    rfl

end Token

end RowGuard.Sql
