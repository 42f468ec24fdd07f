import Mathlib.Data.List.Forall2
import RowGuard.Proofs.Sql.Logic
/-!
What becomes of a result when more is known of the row. Where a NULL or a missing column gets a
value, an unknown result may become any other, but a known result stays as it is, and where there
was a result there is one still. Every operator keeps to this, the ones that stop early included:
what they leave out for the fuller row is a part of what they evaluate for the other.
-/
namespace RowGuard.Sql

/-- A row with everything another one knows: what is neither missing nor NULL there is the same
here. -/
def Row.Fills (fuller row : Row) : Prop :=
  ∀ c v, row c = some v → v ≠ .null → fuller c = some v

/-- Writing a value into a cell that holds NULL makes a fuller row. The qualified columns that fall
back on the cell see the value too, since no cell of their own appears. -/
theorem Row.fills_ofTable_insert {cells : Table Value} {key : String}
    (null : Table.find? key cells = some .null) (value : Value) :
    (ofTable (Table.insert key value cells)).Fills (ofTable cells) := by
  have elsewhere : ∀ other, Table.find? other cells ≠ some .null →
      Table.find? other (Table.insert key value cells) = Table.find? other cells := by
    intro other holds
    have differs : key ≠ other := by
      rintro rfl
      exact holds null
    exact Table.find?_insert_other key other value cells differs
  intro c v held known
  have name : Table.find? c.name cells = some v →
      Table.find? c.name (Table.insert key value cells) = some v := by
    intro found
    rw [elsewhere c.name (by simp [found, known]), found]
  simp only [ofTable, lookup] at held ⊢
  cases qualified : c.qualifier with
  | none =>
    simp only [qualified] at held ⊢
    exact name held
  | some qualifier =>
    simp only [qualified] at held ⊢
    cases found : Table.find? c.render cells with
    | none =>
      rw [found, Option.none_or] at held
      rw [elsewhere c.render (by simp [found]), found, Option.none_or]
      exact name held
    | some w =>
      rw [found, Option.some_or] at held
      cases held
      rw [elsewhere c.render (by simp [found, known]), found, Option.some_or]

def Keeps {α : Type} (unknown before after : α) : Prop := before ≠ unknown → after = before

/-- Where there is a result beforehand there is one afterwards, the same unless it was unknown. -/
def Sharpens {α : Type} (unknown : α) (before after : Eval α) : Prop :=
  ∀ a, before = .ok a → ∃ b, after = .ok b ∧ Keeps unknown a b

theorem Keeps.refl {α : Type} (unknown a : α) : Keeps unknown a a := fun _ => rfl

section Strict

variable {α β : Type} {unknown : α} {unclear : β}

theorem Keeps.map {a b : α} (same : Keeps unknown a b) {f : α → β} (strict : f unknown = unclear) :
    Keeps unclear (f a) (f b) := by
  intro known
  have settled : a ≠ unknown := by
    rintro rfl
    exact known strict
  rw [same settled]

theorem Keeps.map₂ {a b c d : α} (first : Keeps unknown a b) (second : Keeps unknown c d)
    {f : α → α → β} (left : ∀ x, f unknown x = unclear) (right : ∀ x, f x unknown = unclear) :
    Keeps unclear (f a c) (f b d) := by
  intro known
  have firstSettled : a ≠ unknown := by
    rintro rfl
    exact known (left c)
  have secondSettled : c ≠ unknown := by
    rintro rfl
    exact known (right a)
  rw [first firstSettled, second secondSettled]

end Strict

theorem Value.keeps_equals {v v' w w' : Value} (left : Keeps .null v v')
    (right : Keeps .null w w') : Keeps none (v.equals w) (v'.equals w') := by
  refine left.map₂ right (fun _ => rfl) fun x => ?_
  cases x <;> rfl

theorem Value.keeps_truth {v w : Value} (same : Keeps .null v w) : Keeps none v.truth w.truth :=
  same.map rfl

theorem Value.keeps_ofTruth {t u : Option Bool} (same : Keeps none t u) :
    Keeps .null (ofTruth t) (ofTruth u) :=
  same.map rfl

theorem keeps_findInSet {v v' w w' : Value} (needle : Keeps .null v v') (list : Keeps .null w w') :
    Keeps .null (findInSet v w) (findInSet v' w') := by
  refine needle.map₂ list (fun _ => rfl) fun x => ?_
  cases x <;> rfl

namespace Sharpens

variable {α β : Type} {unknown : α} {unclear : β}

theorem ok {a b : α} (same : Keeps unknown a b) : Sharpens unknown (.ok a) (.ok b) := by
  intro c evaluated
  cases evaluated
  exact ⟨b, rfl, same⟩

theorem error (e : EvalError) (after : Eval α) : Sharpens unknown (.error e) after := by
  intro a evaluated
  cases evaluated

theorem bind {before after : Eval α} {f g : α → Eval β} (first : Sharpens unknown before after)
    (next : ∀ a b, Keeps unknown a b → Sharpens unclear (f a) (g b)) :
    Sharpens unclear (before >>= f) (after >>= g) := by
  cases before with
  | error e => exact error e _
  | ok a =>
    obtain ⟨b, evaluated, same⟩ := first a rfl
    rw [evaluated]
    exact next a b same

theorem map {before after : Eval α} {f g : α → β} (first : Sharpens unknown before after)
    (next : ∀ a b, Keeps unknown a b → Keeps unclear (f a) (g b)) :
    Sharpens unclear (before.map f) (after.map g) := by
  cases before with
  | error e => exact error e _
  | ok a =>
    obtain ⟨b, evaluated, same⟩ := first a rfl
    rw [evaluated]
    exact ok (next a b same)

/-- Where the left side was unknown the right side was evaluated, so there is a result even if the
left side has become true. -/
theorem bothTrue {l l' r r' : Eval (Option Bool)} (left : Sharpens none l l')
    (right : Sharpens none r r') : Sharpens none (bothTrue l r) (bothTrue l' r') := by
  refine left.bind fun a b same => ?_
  change Sharpens none (Sql.bothTrue (.ok a) r) (Sql.bothTrue (.ok b) r')
  cases a with
  | some known =>
    rw [same (Option.some_ne_none known)]
    cases known with
    | false => exact ok (.refl none _)
    | true =>
      rw [bothTrue_true_left, bothTrue_true_left]
      exact right
  | none =>
    intro t evaluated
    cases r with
    | error e => cases evaluated
    | ok x =>
      obtain ⟨y, rightResult, kept⟩ := right x rfl
      obtain ⟨u, result, decided⟩ := bothTrue_ok b y
      rw [rightResult]
      refine ⟨u, result, fun known => ?_⟩
      -- With one side unknown, only a false on the other side makes the conjunction known.
      rcases x with _ | _ | _ <;> cases evaluated
      · exact absurd rfl known
      · exact decided.2 (.inr (kept nofun))
      · exact absurd rfl known

theorem denied {r r' : Eval (Option Bool)} (same : Sharpens none r r') :
    Sharpens none (denied r) (denied r') :=
  same.map fun _ _ kept => kept.map rfl

theorem someTrue {l l' r r' : Eval (Option Bool)} (left : Sharpens none l l')
    (right : Sharpens none r r') : Sharpens none (someTrue l r) (someTrue l' r') := by
  rw [someTrue_eq_denied, someTrue_eq_denied]
  exact (left.denied.bothTrue right.denied).denied

end Sharpens

theorem memberOf_unknown (needle : Value) (values : List (Eval Value)) :
    memberOf needle true values ≠ .ok (some false) := by
  induction values with
  | nil => nofun
  | cons value rest ih =>
    cases value with
    | error e => nofun
    | ok v =>
      simp only [memberOf, bind, Except.bind]
      cases needle.equals v with
      | none => exact ih
      | some same =>
        cases same with
        | false => exact ih
        | true => nofun

namespace Sharpens

/-- The fuller row may find its match earlier. Where it has found none, it has met no more NULLs. -/
theorem memberOf {v w : Value} (needle : Keeps .null v w) {unknown fewer : Bool}
    (weaker : fewer = true → unknown = true) {values values' : List (Eval Value)}
    (each : List.Forall₂ (Sharpens .null) values values') :
    Sharpens none (memberOf v unknown values) (memberOf w fewer values') := by
  induction each generalizing unknown fewer with
  | nil =>
    cases unknown with
    | true => exact ok fun known => absurd rfl known
    | false =>
      cases fewer with
      | false => exact ok (.refl none _)
      | true => exact absurd (weaker rfl) nofun
  | cons first _ ih =>
    refine first.bind fun a b same => ?_
    have compared := Value.keeps_equals needle same
    cases before : v.equals a with
    | some equal =>
      rw [compared (by simp [before]), before]
      cases equal with
      | true => exact ok (.refl none _)
      | false => exact ih weaker
    | none =>
      cases w.equals b with
      | none => exact ih fun _ => rfl
      | some equal =>
        cases equal with
        | false => exact ih fun _ => rfl
        | true =>
          -- The other row has still to go through the rest, and will not find the answer false.
          intro t evaluated
          refine ⟨some true, rfl, fun known => ?_⟩
          rcases t with _ | _ | _
          · exact absurd rfl known
          · exact absurd evaluated (memberOf_unknown _ _)
          · rfl

theorem callFunction (name : String) {arguments arguments' : List (Eval Value)}
    (each : List.Forall₂ (Sharpens .null) arguments arguments') :
    Sharpens .null (callFunction name arguments) (callFunction name arguments') := by
  unfold Sql.callFunction
  split_ifs with unnamed
  · exact error _ _
  · cases each with
    | nil => exact error _ _
    | cons first rest =>
      cases rest with
      | nil => exact error _ _
      | cons second rest =>
        cases rest with
        | nil =>
          exact first.bind fun _ _ needle => second.bind fun _ _ list =>
            ok (keeps_findInSet needle list)
        | cons third rest => exact error _ _

end Sharpens

namespace Expr

mutual

theorem value_sharpens {row fuller : Row} (fills : fuller.Fills row) :
    (e : Expr) → Sharpens .null (e.value row) (e.value fuller)
  | .column c => by
    refine .ok fun known => ?_
    cases found : row c with
    | none => simp [found] at known
    | some v =>
      rw [found, Option.getD_some] at known
      rw [fills c v found known]
  | .literal v => .ok (.refl .null v)
  | .eq left right =>
    (value_sharpens fills left).bind fun _ _ l => (value_sharpens fills right).bind fun _ _ r =>
      .ok (Value.keeps_ofTruth (Value.keeps_equals l r))
  | .inValues needle values =>
    (value_sharpens fills needle).bind fun _ _ sought =>
      (Sharpens.memberOf sought id (valueEach_sharpens fills values)).bind fun _ _ t =>
        .ok (Value.keeps_ofTruth t)
  | .inSubquery needle _ _ _ =>
    (value_sharpens fills needle).bind fun _ _ _ => .error _ _
  | .and left right =>
    (Sharpens.bothTrue ((value_sharpens fills left).map fun _ _ => Value.keeps_truth)
      ((value_sharpens fills right).map fun _ _ => Value.keeps_truth)).map
        fun _ _ => Value.keeps_ofTruth
  | .or left right =>
    (Sharpens.someTrue ((value_sharpens fills left).map fun _ _ => Value.keeps_truth)
      ((value_sharpens fills right).map fun _ _ => Value.keeps_truth)).map
        fun _ _ => Value.keeps_ofTruth
  | .nested inner => value_sharpens fills inner
  | .function name arguments => .callFunction name (valueEach_sharpens fills arguments)

theorem valueEach_sharpens {row fuller : Row} (fills : fuller.Fills row) :
    (es : List Expr) → List.Forall₂ (Sharpens .null) (valueEach row es) (valueEach fuller es)
  | [] => .nil
  | e :: rest => .cons (value_sharpens fills e) (valueEach_sharpens fills rest)

end

end Expr

/-- Unknown data never decides. Take two rows of which the second has every value of the first that
is not NULL. An expression with a result on the first row has one on the second; a value other than
NULL and a definite truth value are the same there; so a row that matched a filter goes on matching
it, and a row that was rejected stays so. -/
theorem unknown_never_decides {row fuller : Row} (fills : fuller.Fills row) (e : Expr) :
    (∀ v, e.value row = .ok v → ∃ w, e.value fuller = .ok w ∧ (v ≠ .null → w = v)) ∧
      (∀ t, e.truth row = .ok t → ∃ u, e.truth fuller = .ok u ∧ (t ≠ none → u = t)) ∧
      (row.matches e = .ok true → fuller.matches e = .ok true) ∧
      (e.truth row = .ok (some false) → fuller.matches e = .ok false) := by
  have values := Expr.value_sharpens fills e
  have truths : Sharpens none (e.truth row) (e.truth fuller) :=
    values.map fun _ _ => Value.keeps_truth
  have settled : ∀ b, e.truth row = .ok (some b) → e.truth fuller = .ok (some b) := by
    intro b decided
    obtain ⟨u, evaluated, kept⟩ := truths _ decided
    rw [evaluated, kept (Option.some_ne_none b)]
  refine ⟨values, truths, fun matched => ?_, fun rejected => ?_⟩
  · exact Row.matches_eq_true.2 (settled true (Row.matches_eq_true.1 matched))
  · rw [Row.matches, settled false rejected]
    rfl

/-- The owner of a row becomes known. While it was NULL, membership was true by another item and the
disjunction by its other side. -/
theorem unknown_never_decides_owner :
    let cells : Table Value := [("dept", .int 3), ("owner", .null), ("path", .text "1,3")]
    let fuller := Row.ofTable (Table.insert "owner" (.int 7) cells)
    let e : Expr := .and
      (.inValues (.column (.bare "dept")) [.column (.bare "owner"), .literal (.text " 3 ")])
      (.or (.columnEq (.bare "owner") (.int 8))
        (.function "find_in_set" [.literal (.int 3), .column (.bare "path")]))
    fuller.Fills (Row.ofTable cells) ∧ (Row.ofTable cells).matches e = .ok true ∧
      fuller.matches e = .ok true := by
  intro cells fuller e
  have fills : fuller.Fills (Row.ofTable cells) := Row.fills_ofTable_insert rfl (.int 7)
  have matched : (Row.ofTable cells).matches e = .ok true := by decide +kernel
  exact ⟨fills, matched, (unknown_never_decides fills e).2.2.1 matched⟩

end RowGuard.Sql
