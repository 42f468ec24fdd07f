import Mathlib.Data.List.Forall2
import Mathlib.Data.List.Perm.Basic
import Mathlib.Logic.Relation
import RowGuard.Proofs.Sql.Regrouping
/-!
Exchanging operands. Which operands are evaluated depends on their order, and with it whether an
error is met. What all orders agree on is the answer that comes out when the operands are looked at
side by side: a decisive operand decides, whatever becomes of the others. Evaluation from the left
gives this answer or an error, so two orders that both give a result give the same.
-/
namespace RowGuard.Sql

namespace Connective

def decisive : Connective → Bool
  | conjunction => false
  | disjunction => true

/-- Two conditions looked at side by side, each of which may have no answer. -/
def beside (c : Connective) (left right : Option (Option Bool)) : Option (Option Bool) :=
  if left = some (some c.decisive) ∨ right = some (some c.decisive) then some (some c.decisive)
  else do
    let l ← left
    let r ← right
    return if l = none ∨ r = none then none else some !c.decisive

def together (c : Connective) (answers : List (Option (Option Bool))) : Option (Option Bool) :=
  answers.foldr c.beside (some (some !c.decisive))

theorem beside_comm (c : Connective) (l r : Option (Option Bool)) :
    c.beside l r = c.beside r l := by
  cases c <;> rcases l with _ | _ | _ | _ <;> rcases r with _ | _ | _ | _ <;> rfl

theorem beside_left_comm (c : Connective) (p q r : Option (Option Bool)) :
    c.beside p (c.beside q r) = c.beside q (c.beside p r) := by
  cases c <;> rcases p with _ | _ | _ | _ <;> rcases q with _ | _ | _ | _ <;>
    rcases r with _ | _ | _ | _ <;> rfl

theorem together_perm (c : Connective) {answers others : List (Option (Option Bool))}
    (perm : answers.Perm others) : c.together answers = c.together others := by
  have swap : LeftCommutative c.beside := ⟨c.beside_left_comm⟩
  exact perm.foldr_eq _

end Connective

theorem Value.equals_comm (v w : Value) : v.equals w = w.equals v := by
  cases v <;> cases w <;> simp only [equals, BEq.comm]

/-- Where there is a result, it is the answer. -/
def Settles {α : Type} (result : Eval α) (answer : Option α) : Prop :=
  ∀ a, result = .ok a → answer = some a

namespace Settles

variable {α β : Type}

theorem ok (a : α) : Settles (.ok a) (some a) := by
  intro b same
  cases same
  rfl

theorem error (fault : EvalError) (answer : Option α) : Settles (.error fault) answer := nofun

theorem bind {result : Eval α} {answer : Option α} (first : Settles result answer)
    {f : α → Eval β} {g : α → Option β} (next : ∀ a, Settles (f a) (g a)) :
    Settles (result >>= f) (answer >>= g) := by
  cases result with
  | error fault => exact error fault _
  | ok a =>
    rw [first a rfl]
    exact next a

theorem map {result : Eval α} {answer : Option α} (first : Settles result answer) (f : α → β) :
    Settles (result.map f) (answer.map f) := by
  cases result with
  | error fault => exact error fault _
  | ok a =>
    rw [first a rfl]
    exact ok (f a)

/-- A decisive left side decides side by side too; otherwise both sides have been evaluated. -/
theorem apply (c : Connective) {l r : Eval (Option Bool)} {left right : Option (Option Bool)}
    (first : Settles l left) (second : Settles r right) :
    Settles (c.apply l r) (c.beside left right) := by
  cases l with
  | error fault => cases c <;> exact error fault _
  | ok a =>
    cases first a rfl
    cases r with
    | error fault =>
      intro t evaluated
      cases c <;> rcases a with _ | _ | _ <;> cases evaluated <;> exact if_pos (.inl rfl)
    | ok b =>
      cases second b rfl
      cases c <;> rcases a with _ | _ | _ <;> rcases b with _ | _ | _ <;> exact ok _

theorem whole (c : Connective) {results : List (Eval (Option Bool))}
    {answers : List (Option (Option Bool))} (each : List.Forall₂ Settles results answers) :
    Settles (c.whole results) (c.together answers) := by
  induction each with
  | nil => cases c <;> exact ok _
  | cons first _ ih =>
    rw [Connective.whole_cons]
    exact first.apply c ih

end Settles

def callAnswer (name : String) (arguments : List (Option Value)) : Option Value :=
  if !Text.sameLetters name "FIND_IN_SET" then none
  else match arguments with
    | [needle, list] => do return findInSet (← needle) (← list)
    | _ => none

theorem Settles.callFunction (name : String) {results : List (Eval Value)}
    {answers : List (Option Value)} (each : List.Forall₂ Settles results answers) :
    Settles (callFunction name results) (callAnswer name answers) := by
  unfold Sql.callFunction callAnswer
  by_cases unnamed : (!Text.sameLetters name "FIND_IN_SET") = true
  · rw [if_pos unnamed, if_pos unnamed]
    exact error _ _
  · rw [if_neg unnamed, if_neg unnamed]
    cases each with
    | nil => exact error _ _
    | cons first rest =>
      cases rest with
      | nil => exact error _ _
      | cons second rest =>
        cases rest with
        | nil => exact first.bind fun needle => second.bind fun list => ok (findInSet needle list)
        | cons third rest => exact error _ _

namespace Expr

mutual

/-- The value of an expression as far as it does not depend on the order of its operands. -/
def answer (row : Row) : Expr → Option Value
  | .column c => some ((row c).getD .null)
  | .literal v => some v
  | .eq left right => do return .ofTruth ((← answer row left).equals (← answer row right))
  | .inValues needle values => do
    let sought ← answer row needle
    (Connective.disjunction.together
      ((answerEach row values).map (Option.map sought.equals))).map .ofTruth
  | .inSubquery _ _ _ _ => none
  | .and left right =>
    (Connective.conjunction.beside ((answer row left).map Value.truth)
      ((answer row right).map Value.truth)).map .ofTruth
  | .or left right =>
    (Connective.disjunction.beside ((answer row left).map Value.truth)
      ((answer row right).map Value.truth)).map .ofTruth
  | .nested inner => answer row inner
  | .function name arguments => callAnswer name (answerEach row arguments)

def answerEach (row : Row) : List Expr → List (Option Value)
  | [] => []
  | e :: rest => answer row e :: answerEach row rest

end

theorem answerEach_eq_map (row : Row) (es : List Expr) :
    answerEach row es = es.map (answer row) := by
  induction es with
  | nil => rfl
  | cons e rest ih => rw [answerEach, ih, List.map_cons]

theorem answer_node (row : Row) (c : Connective) (a b : Expr) :
    (node c a b).answer row =
      (c.beside ((a.answer row).map Value.truth) ((b.answer row).map Value.truth)).map
        .ofTruth := by
  cases c <;> simp only [node, answer]

mutual

theorem value_settles (row : Row) : (e : Expr) → Settles (e.value row) (e.answer row)
  | .column _ => .ok _
  | .literal _ => .ok _
  | .eq left right =>
    (value_settles row left).bind fun _ => (value_settles row right).bind fun _ => .ok _
  | .inValues needle values => by
    refine (value_settles row needle).bind fun sought => ?_
    have each : List.Forall₂ Settles ((valueEach row values).map (Except.map sought.equals))
        ((answerEach row values).map (Option.map sought.equals)) := by
      rw [List.forall₂_map_left_iff, List.forall₂_map_right_iff]
      exact (valueEach_settles row values).imp fun _ _ first => first.map sought.equals
    have found := (Settles.whole .disjunction each).map Value.ofTruth
    rw [Connective.whole, ← memberOf_false] at found
    exact found
  | .inSubquery needle _ _ _ => by
    intro v evaluated
    rw [value] at evaluated
    cases result : value row needle <;> rw [result] at evaluated <;> cases evaluated
  | .and left right =>
    (((value_settles row left).map Value.truth).apply .conjunction
      ((value_settles row right).map Value.truth)).map Value.ofTruth
  | .or left right =>
    (((value_settles row left).map Value.truth).apply .disjunction
      ((value_settles row right).map Value.truth)).map Value.ofTruth
  | .nested inner => value_settles row inner
  | .function name arguments => .callFunction name (valueEach_settles row arguments)

theorem valueEach_settles (row : Row) :
    (es : List Expr) → List.Forall₂ Settles (valueEach row es) (answerEach row es)
  | [] => .nil
  | e :: rest => .cons (value_settles row e) (valueEach_settles row rest)

end

/-- One exchange somewhere in an expression: the operands of a connective or of a comparison change
places, or the values of a membership come in another order. -/
inductive Exchange : Expr → Expr → Prop
  | operands (c : Connective) (a b : Expr) : Exchange (node c a b) (node c b a)
  | sides (a b : Expr) : Exchange (.eq a b) (.eq b a)
  | items (needle : Expr) {values others : List Expr} (perm : values.Perm others) :
    Exchange (.inValues needle values) (.inValues needle others)
  -- The same further inside.
  | left (c : Connective) {a a' : Expr} (inner : Exchange a a') (b : Expr) :
    Exchange (node c a b) (node c a' b)
  | right (c : Connective) (a : Expr) {b b' : Expr} (inner : Exchange b b') :
    Exchange (node c a b) (node c a b')
  | leftSide {a a' : Expr} (inner : Exchange a a') (b : Expr) : Exchange (.eq a b) (.eq a' b)
  | rightSide (a : Expr) {b b' : Expr} (inner : Exchange b b') : Exchange (.eq a b) (.eq a b')
  | sought {e e' : Expr} (inner : Exchange e e') (values : List Expr) :
    Exchange (.inValues e values) (.inValues e' values)
  | item (needle : Expr) (front : List Expr) {e e' : Expr} (inner : Exchange e e')
    (back : List Expr) :
    Exchange (.inValues needle (front ++ e :: back)) (.inValues needle (front ++ e' :: back))
  | lookedUp {e e' : Expr} (inner : Exchange e e') (projection : Column) (source : String)
    (filter : Option Expr) :
    Exchange (.inSubquery e projection source filter) (.inSubquery e' projection source filter)
  | filter (needle : Expr) (projection : Column) (source : String) {e e' : Expr}
    (inner : Exchange e e') :
    Exchange (.inSubquery needle projection source (some e))
      (.inSubquery needle projection source (some e'))
  | nested {e e' : Expr} (inner : Exchange e e') : Exchange (.nested e) (.nested e')
  | argument (name : String) (front : List Expr) {e e' : Expr} (inner : Exchange e e')
    (back : List Expr) :
    Exchange (.function name (front ++ e :: back)) (.function name (front ++ e' :: back))

theorem answer_exchange (row : Row) {e f : Expr} (exchange : Exchange e f) :
    e.answer row = f.answer row := by
  induction exchange with
  | operands c a b => rw [answer_node, answer_node, Connective.beside_comm]
  | sides a b =>
    rw [answer, answer]
    cases a.answer row with
    | none => cases b.answer row <;> rfl
    | some v =>
      cases b.answer row with
      | none => rfl
      | some w => exact congrArg (some ∘ Value.ofTruth) (Value.equals_comm v w)
  | items needle perm =>
    rw [answer, answer, answerEach_eq_map, answerEach_eq_map]
    refine congrArg _ (funext fun sought => ?_)
    rw [Connective.together_perm _ ((perm.map _).map _)]
  | left c inner b ih => rw [answer_node, answer_node, ih]
  | right c a inner ih => rw [answer_node, answer_node, ih]
  | leftSide inner b ih => rw [answer, answer, ih]
  | rightSide a inner ih => rw [answer, answer, ih]
  | sought inner values ih => rw [answer, answer, ih]
  | item needle front inner back ih =>
    simp only [answer, answerEach_eq_map, List.map_append, List.map_cons, ih]
  | lookedUp inner projection source filter ih => rw [answer, answer]
  | filter needle projection source inner ih => rw [answer, answer]
  | nested inner ih => rw [answer, answer, ih]
  | argument name front inner back ih =>
    simp only [answer, answerEach_eq_map, List.map_append, List.map_cons, ih]

theorem answer_exchanges (row : Row) {e f : Expr} (exchanges : Relation.ReflTransGen Exchange e f) :
    e.answer row = f.answer row := by
  induction exchanges with
  | refl => rfl
  | tail _ last ih => exact ih.trans (answer_exchange row last)

theorem value_exchanges {row : Row} {e f : Expr} (exchanges : Relation.ReflTransGen Exchange e f)
    {v w : Value} (first : e.value row = .ok v) (second : f.value row = .ok w) : v = w := by
  have before := value_settles row e v first
  have after := value_settles row f w second
  rw [answer_exchanges row exchanges, after] at before
  exact (Option.some.inj before).symm

theorem truth_exchanges {row : Row} {e f : Expr} (exchanges : Relation.ReflTransGen Exchange e f)
    {t u : Option Bool} (first : e.truth row = .ok t) (second : f.truth row = .ok u) : t = u := by
  rw [truth] at first second
  cases before : e.value row with
  | error fault =>
    rw [before] at first
    cases first
  | ok v =>
    cases after : f.value row with
    | error fault =>
      rw [after] at second
      cases second
    | ok w =>
      rw [before] at first
      rw [after] at second
      cases value_exchanges exchanges before after
      exact Except.ok.inj (first.symm.trans second)

/-- Regrouping and reordering never flip a verdict. Operands joined by one connective in one order
have the same value, the same truth value and the same error on a row, whatever the nesting and the
parentheses; where no parentheses are written the texts agree too, so the nesting that a text does
not show means nothing. Expressions that come from each other by exchanging the operands of
conjunctions, disjunctions and comparisons and the values of memberships, at any depth, have the
same value and the same truth value wherever both have one. -/
theorem regrouping_and_reordering_never_flip (row : Row) :
    (∀ (c : Connective) (a b : Arrangement), a.operands = b.operands →
      (a.expr c).value row = (b.expr c).value row ∧ (a.expr c).truth row = (b.expr c).truth row ∧
        (a.isBare = true → b.isBare = true → (a.expr c).render = (b.expr c).render)) ∧
    ∀ e f : Expr, Relation.ReflTransGen Exchange e f →
      (∀ v w, e.value row = .ok v → f.value row = .ok w → v = w) ∧
        ∀ t u, e.truth row = .ok t → f.truth row = .ok u → t = u := by
  refine ⟨fun c a b same => ⟨?_, ?_, fun bare bare' => ?_⟩, fun e f exchanges => ⟨?_, ?_⟩⟩
  · rw [Arrangement.value_expr, Arrangement.value_expr, same]
  · rw [Arrangement.truth_expr, Arrangement.truth_expr, same]
  · rw [Arrangement.render_expr c bare, Arrangement.render_expr c bare', same]
  · exact fun v w => value_exchanges exchanges
  · exact fun t u => truth_exchanges exchanges

/-- Three conjuncts of which the second fails on the row are nested in two ways. In a conjunction
with exchanged sides one order never evaluates the call that fails, and the other stops just before
it. -/
theorem regrouping_and_reordering_never_flip_call :
    let row := Row.ofTable [("dept", .int 3)]
    let dept : Expr := .column (.bare "dept")
    let call : Expr := .function "LENGTH" []
    let a : Arrangement := .joined (.operand dept)
      (.enclosed (.joined (.operand call) (.operand never)))
    let b : Arrangement := .joined (.joined (.operand dept) (.operand call)) (.operand never)
    let found : Expr := .or (.inValues dept [int 3, call]) call
    let e : Expr := .and (.eq (int 1) (int 0)) found
    let f : Expr := .and found (.eq (int 0) (int 1))
    (a.operands = b.operands ∧
      (a.expr .conjunction).truth row = .error (.unknownFunction "LENGTH") ∧
      (b.expr .conjunction).truth row = .error (.unknownFunction "LENGTH")) ∧
    Relation.ReflTransGen Exchange e f ∧
      ∃ t u, e.truth row = .ok t ∧ f.truth row = .ok u ∧ t = u := by
  intro row dept call a b found e f
  obtain ⟨regrouping, reordering⟩ := regrouping_and_reordering_never_flip row
  have operands : a.operands = b.operands := rfl
  have fails : (a.expr .conjunction).truth row = .error (.unknownFunction "LENGTH") := rfl
  have outer : Exchange e (.and found (.eq (int 1) (int 0))) :=
    .operands .conjunction (.eq (int 1) (int 0)) found
  have inner : Exchange (.and found (.eq (int 1) (int 0))) f :=
    .right .conjunction found (.sides (int 1) (int 0))
  have exchanges : Relation.ReflTransGen Exchange e f := .tail (.single outer) inner
  have first : e.truth row = .ok (some false) := rfl
  have second : f.truth row = .ok (some false) := rfl
  exact ⟨⟨operands, fails, (regrouping .conjunction a b operands).2.1 ▸ fails⟩, exchanges, _, _,
    first, second, (reordering e f exchanges).2 _ _ first second⟩

end Expr

end RowGuard.Sql
