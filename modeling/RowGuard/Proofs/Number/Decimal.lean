import RowGuard.Number.Integer
/-!
Decimal text of integers. The characters that are read as a 64-bit integer are those that write it,
with or without a sign and with any zeros in front; the text that is printed has no zeros in front
and reads back as the same integer.
-/
namespace RowGuard.Integer

/-! ## Digits and signs -/

def IsDigit (c : Char) : Prop := '0' ≤ c ∧ c ≤ '9'

instance (c : Char) : Decidable (IsDigit c) := inferInstanceAs (Decidable (_ ∧ _))

/-- The number written by the digits of `n` and the ones given behind them. -/
def numberFrom (n : Nat) (ds : List Char) : Nat :=
  ds.foldl (fun n c => 10 * n + (c.toNat - '0'.toNat)) n

@[simp] theorem numberFrom_nil (n : Nat) : numberFrom n [] = n := rfl

@[simp] theorem numberFrom_cons (n : Nat) (c : Char) (rest : List Char) :
    numberFrom n (c :: rest) = numberFrom (10 * n + (c.toNat - '0'.toNat)) rest :=
  List.foldl_cons ..

/-- The characters write an integer: one digit or more, perhaps with a sign in front. -/
inductive Writes : List Char → Int → Prop where
  | plain {ds : List Char} : ds ≠ [] → (∀ c ∈ ds, IsDigit c) → Writes ds (numberFrom 0 ds)
  | plus {ds : List Char} : ds ≠ [] → (∀ c ∈ ds, IsDigit c) → Writes ('+' :: ds) (numberFrom 0 ds)
  | minus {ds : List Char} :
    ds ≠ [] → (∀ c ∈ ds, IsDigit c) → Writes ('-' :: ds) (-numberFrom 0 ds)

/-- The decimal text of an integer: its digits, without zeros in front that could be left out,
behind a minus where it is negative. -/
def DecimalText (s : String) (t : Int) : Prop :=
  ∃ ds, s.toList = (if t < 0 then '-' :: ds else ds) ∧ ds ≠ [] ∧ (∀ c ∈ ds, IsDigit c) ∧
    (ds.head? = some '0' → ds = ['0']) ∧ numberFrom 0 ds = t.natAbs

def signed (negative : Bool) (n : Nat) : Int := if negative then -n else n

theorem numberFrom_append (n : Nat) (front back : List Char) :
    numberFrom n (front ++ back) = numberFrom (numberFrom n front) back :=
  List.foldl_append

theorem le_numberFrom (n : Nat) (cs : List Char) : n ≤ numberFrom n cs := by
  induction cs generalizing n with
  | nil => exact Nat.le_refl n
  | cons c rest ih =>
    have longer := ih (10 * n + (c.toNat - '0'.toNat))
    rw [numberFrom_cons]
    omega

theorem digit?_eq_some {c : Char} (digit : IsDigit c) : digit? c = some (c.toNat - '0'.toNat) :=
  if_pos digit

/-! ## Reading -/

theorem signed_next (negative : Bool) (n d : Nat) :
    (if negative then signed negative n * 10 - d else signed negative n * 10 + d) =
      signed negative (10 * n + d) := by
  cases negative <;> simp only [signed, if_true, Bool.false_eq_true, if_false] <;> omega

theorem signed_between {negative : Bool} {m n : Nat} (less : m ≤ n)
    (lower : minimum ≤ signed negative n) (upper : signed negative n ≤ maximum) :
    minimum ≤ signed negative m ∧ signed negative m ≤ maximum := by
  cases negative <;> simp only [signed, minimum, maximum, if_true, Bool.false_eq_true, if_false]
    at lower upper ⊢ <;> omega

/-- Digits are read as the number they write, as long as it has 64 bits. -/
theorem readDigits_eq_ok {negative : Bool} {n : Nat} {cs : List Char} {v : Int}
    (lower : minimum ≤ signed negative n) (upper : signed negative n ≤ maximum) :
    readDigits negative (signed negative n) cs = .ok v ↔
      (∀ c ∈ cs, IsDigit c) ∧ v = signed negative (numberFrom n cs) ∧
        minimum ≤ v ∧ v ≤ maximum := by
  induction cs generalizing n with
  | nil =>
    rw [readDigits, numberFrom_nil, Except.ok.injEq]
    constructor
    · rintro rfl
      exact ⟨List.forall_mem_nil _, rfl, lower, upper⟩
    · exact fun both => both.2.1.symm
  | cons c rest ih =>
    rw [readDigits, numberFrom_cons, List.forall_mem_cons]
    by_cases digit : IsDigit c
    · rw [digit?_eq_some digit]
      dsimp only
      rw [signed_next]
      have longer := le_numberFrom (10 * n + (c.toNat - '0'.toNat)) rest
      split
      · next large =>
        refine iff_of_false (by intro read; cases read) ?_
        rintro ⟨-, rfl, least, most⟩
        have between := signed_between longer least most
        omega
      · next notLarge =>
        split
        · next small =>
          refine iff_of_false (by intro read; cases read) ?_
          rintro ⟨-, rfl, least, most⟩
          have between := signed_between longer least most
          omega
        · next notSmall =>
          rw [ih (Int.not_lt.1 notSmall) (Int.not_lt.1 notLarge)]
          simp only [digit, true_and]
    · have none : digit? c = none := if_neg digit
      rw [none]
      exact iff_of_false (by intro read; cases read) fun both => digit both.1.1

theorem readDigits_zero {negative : Bool} {cs : List Char} {v : Int} :
    readDigits negative 0 cs = .ok v ↔
      (∀ c ∈ cs, IsDigit c) ∧ v = signed negative (numberFrom 0 cs) ∧
        minimum ≤ v ∧ v ≤ maximum := by
  have zero : signed negative 0 = 0 := by cases negative <;> rfl
  have lower : minimum ≤ signed negative 0 := by rw [zero]; decide
  have upper : signed negative 0 ≤ maximum := by rw [zero]; decide
  rw [← readDigits_eq_ok lower upper, zero]

theorem readChars_sign {ds : List Char} (some : ds ≠ []) (digits : ∀ c ∈ ds, IsDigit c) :
    readChars ds = readDigits false 0 ds ∧ readChars ('+' :: ds) = readDigits false 0 ds ∧
      readChars ('-' :: ds) = readDigits true 0 ds := by
  obtain ⟨first, rest, rfl⟩ := List.exists_cons_of_ne_nil some
  have digit := digits first List.mem_cons_self
  refine ⟨?_, rfl, rfl⟩
  unfold readChars
  split
  · contradiction
  · next same => exact absurd digit (by rw [(List.cons.inj same).1]; decide)
  · next same => exact absurd digit (by rw [(List.cons.inj same).1]; decide)
  · next same => exact absurd digit (by rw [(List.cons.inj same).1]; decide)
  · next same => exact absurd digit (by rw [(List.cons.inj same).1]; decide)
  · rfl

theorem readChars_eq_ok {cs : List Char} {v : Int} :
    readChars cs = .ok v ↔ Writes cs v ∧ minimum ≤ v ∧ v ≤ maximum := by
  constructor
  · intro read
    unfold readChars at read
    split at read
    · cases read
    · cases read
    · cases read
    · next some =>
      obtain ⟨digits, rfl, range⟩ := readDigits_zero.1 read
      exact ⟨.plus some digits, range⟩
    · next some =>
      obtain ⟨digits, rfl, range⟩ := readDigits_zero.1 read
      exact ⟨.minus some digits, range⟩
    · next some _ _ _ _ =>
      obtain ⟨digits, rfl, range⟩ := readDigits_zero.1 read
      exact ⟨.plain some digits, range⟩
  · rintro ⟨writes, range⟩
    cases writes with
    | plain some digits =>
      rw [(readChars_sign some digits).1]
      exact readDigits_zero.2 ⟨digits, rfl, range⟩
    | plus some digits =>
      rw [(readChars_sign some digits).2.1]
      exact readDigits_zero.2 ⟨digits, rfl, range⟩
    | minus some digits =>
      rw [(readChars_sign some digits).2.2]
      exact readDigits_zero.2 ⟨digits, rfl, range⟩

theorem toInt_range (n : Int64) : minimum ≤ n.toInt ∧ n.toInt ≤ maximum := by
  have lower := n.minValue_le_toInt
  have upper := n.toInt_le
  simp only [minimum, maximum]
  have least : Int64.minValue.toInt = -9223372036854775808 := by decide
  have greatest : Int64.maxValue.toInt = 9223372036854775807 := by decide
  omega

theorem toInt_ofInt {t : Int} (lower : minimum ≤ t) (upper : t ≤ maximum) :
    (Int64.ofInt t).toInt = t := by
  simp only [minimum, maximum] at lower upper
  exact Int64.toInt_ofInt_of_le (by omega) (by omega)

theorem read_eq_ok {s : String} {n : Int64} :
    read s = .ok n ↔ readChars s.toList = .ok n.toInt := by
  unfold read
  cases chars : readChars s.toList with
  | error fault => exact iff_of_false nofun nofun
  | ok v =>
    obtain ⟨-, lower, upper⟩ := readChars_eq_ok.1 chars
    have same := toInt_ofInt lower upper
    rw [Except.map, Except.ok.injEq, Except.ok.injEq]
    constructor
    · rintro rfl
      exact same.symm
    · rintro rfl
      exact Int64.ofInt_toInt n

/-! ## Printing -/

theorem digitChar_spec {d : Nat} (small : d < 10) :
    IsDigit (Nat.digitChar d) ∧ (Nat.digitChar d).toNat - '0'.toNat = d ∧
      (Nat.digitChar d = '0' → d = 0) := by
  have each : ∀ d < 10, IsDigit (Nat.digitChar d) ∧ (Nat.digitChar d).toNat - '0'.toNat = d ∧
      (Nat.digitChar d = '0' → d = 0) := by decide
  exact each d small

/-- The digits of a number write the number, and start with a zero only where it is zero. -/
theorem digits_spec (n : Nat) :
    digits n ≠ [] ∧ (∀ c ∈ digits n, IsDigit c) ∧ ((digits n).head? = some '0' → n = 0) ∧
      numberFrom 0 (digits n) = n := by
  induction n using digits.induct with
  | case1 n small =>
    obtain ⟨digit, value, zero⟩ := digitChar_spec small
    rw [digits, if_pos small]
    refine ⟨List.cons_ne_nil _ _, List.forall_mem_singleton.2 digit, ?_, ?_⟩
    · intro first
      exact zero (Option.some.inj first)
    · rw [numberFrom_cons, numberFrom_nil, value]
      omega
  | case2 n large ih =>
    obtain ⟨some, front, zero, number⟩ := ih
    obtain ⟨digit, value, -⟩ := digitChar_spec (Nat.mod_lt n (by decide))
    rw [digits, if_neg large]
    refine ⟨List.append_ne_nil_of_left_ne_nil some _, ?_, ?_, ?_⟩
    · intro c member
      rcases List.mem_append.1 member with among | last
      · exact front c among
      · rw [List.mem_singleton.1 last]
        exact digit
    · intro first
      obtain ⟨head, rest, same⟩ := List.exists_cons_of_ne_nil some
      rw [same, List.cons_append, List.head?_cons] at first
      have tenth := zero (by rw [same, List.head?_cons, first])
      omega
    · rw [numberFrom_append, number, numberFrom_cons, numberFrom_nil, value]
      omega

theorem decimalText_text (t : Int) : DecimalText (text t) t := by
  obtain ⟨some, each, zero, number⟩ := digits_spec t.natAbs
  refine ⟨digits t.natAbs, ?_, some, each, ?_, number⟩
  · rw [text, String.toList_ofList, chars]
  · intro first
    rw [zero first, digits]
    rfl

theorem writes_chars (t : Int) : Writes (chars t) t := by
  obtain ⟨some, each, -, number⟩ := digits_spec t.natAbs
  unfold chars
  by_cases negative : t < 0
  · have writes := Writes.minus some each
    have same : -(t.natAbs : Int) = t := by omega
    rw [number, same] at writes
    rw [if_pos negative]
    exact writes
  · have writes := Writes.plain some each
    have same : (t.natAbs : Int) = t := by omega
    rw [number, same] at writes
    rw [if_neg negative]
    exact writes

theorem read?_text (n : Int64) : read? (text n.toInt) = some n := by
  have chars := readChars_eq_ok.2 ⟨writes_chars n.toInt, toInt_range n⟩
  have read : read (text n.toInt) = .ok n := by
    rw [read_eq_ok, text, String.toList_ofList]
    exact chars
  rw [read?, read]
  rfl

theorem text_injective {m n : Int64} (same : text m.toInt = text n.toInt) : m = n := by
  have first := read?_text m
  rw [same, read?_text n] at first
  exact (Option.some.inj first).symm

end RowGuard.Integer
