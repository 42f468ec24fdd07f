import Mathlib.Data.List.Forall2
import Mathlib.Logic.Relation
import RowGuard.Proofs.Text.Pieces
import RowGuard.Proofs.Text.Trimming
import RowGuard.Tenancy.Config
/-!
Spellings of a table name. A name may be written with a schema in front, with quotes anywhere, in
other letters of either case and with white space around; two names have one normal form exactly
where such changes lead from one to the other. So which tables are ignored depends neither on how
the ignored tables were written down nor on how a statement spells its table.
-/
namespace RowGuard

namespace Text

theorem toLower_cases (c : Char) :
    c.toLower = c ∨ (65 ≤ c.toNat ∧ c.toNat ≤ 90 ∧ c.toLower.toNat = c.toNat + 32) := by
  unfold Char.toLower
  split
  · next capital =>
    right
    have least : 65 ≤ c.toNat := capital.1
    have most : c.toNat ≤ 90 := capital.2
    refine ⟨least, most, ?_⟩
    change (c.val + 32).toNat = c.val.toNat + 32
    have bound : c.val.toNat ≤ 90 := most
    rw [UInt32.toNat_add]
    exact Nat.mod_eq_of_lt (by simp; omega)
  · exact .inl rfl

theorem comp_toLower {p : Char → Bool} (answer : Bool)
    (letters : ∀ c : Char, 65 ≤ c.toNat → c.toNat ≤ 122 → c.toNat ≤ 90 ∨ 97 ≤ c.toNat →
      p c = answer) : p ∘ Char.toLower = p := by
  funext c
  rcases toLower_cases c with same | ⟨least, most, moved⟩
  · exact congrArg p same
  · rw [Function.comp_apply, letters c least (by omega) (.inl most),
      letters c.toLower (by omega) (by omega) (.inr (by omega))]

theorem isBlank_comp_toLower : isBlank ∘ Char.toLower = isBlank := by
  refine comp_toLower false fun c least most _ => ?_
  simp [isBlank, blankRanges]
  omega

theorem toLower_comp_toLower : Char.toLower ∘ Char.toLower = Char.toLower := by
  funext c
  rcases toLower_cases c with same | ⟨least, most, moved⟩
  · exact congrArg Char.toLower same
  · rcases toLower_cases c.toLower with same | ⟨_, beyond, _⟩
    · exact same
    · omega

theorem trimChars_map_toLower (cs : List Char) :
    trimChars (cs.map Char.toLower) = (trimChars cs).map Char.toLower := by
  simp only [trimChars, trimStart, trimEnd, List.dropWhile_map, isBlank_comp_toLower,
    ← List.map_reverse]

end Text

namespace TableName

open Text

theorem isQuote_comp_toLower : isQuote ∘ Char.toLower = isQuote := by
  refine comp_toLower false fun c least most gap => ?_
  simp only [isQuote, Bool.or_eq_false_iff, decide_eq_false_iff_not]
  refine ⟨⟨⟨?_, ?_⟩, ?_⟩, ?_⟩ <;> rintro rfl <;> simp at least most gap

theorem afterDot_map_toLower (cs : List Char) :
    afterLast '.' (cs.map Char.toLower) = (afterLast '.' cs).map Char.toLower := by
  have dot : (fun c : Char => c != '.') ∘ Char.toLower = fun c => c != '.' := by
    refine comp_toLower true fun c least _ _ => bne_iff_ne.2 ?_
    rintro rfl
    simp at least
  rw [afterLast, afterLast, ← List.map_reverse, List.takeWhile_map, dot, List.map_reverse]

inductive Respelling : List Char → List Char → Prop
  | schema (qualifier table : List Char) : Respelling table (qualifier ++ '.' :: table)
  | quote (front : List Char) {c : Char} (mark : isQuote c = true) (back : List Char) :
    Respelling (front ++ back) (front ++ c :: back)
  | letters {table other : List Char} (same : table.map Char.toLower = other.map Char.toLower) :
    Respelling table other
  | blanks {before after : List Char} (front : ∀ c ∈ before, isBlank c = true)
    (back : ∀ c ∈ after, isBlank c = true) (table : List Char) :
    Respelling table (before ++ table ++ after)

/-- Whether two names are spellings of one table: changes of spelling, made or undone, lead from one
to the other. -/
def Same (table other : String) : Prop :=
  Relation.EqvGen Respelling table.toList other.toList

theorem normalChars_map_toLower (cs : List Char) :
    normalChars (cs.map Char.toLower) = normalChars cs := by
  have unquoted : (fun c => !isQuote c) ∘ Char.toLower = fun c => !isQuote c := by
    funext c
    exact congrArg not (congrFun isQuote_comp_toLower c)
  rw [normalChars, List.filter_map, unquoted, afterDot_map_toLower, trimChars_map_toLower,
    List.map_map, toLower_comp_toLower, ← normalChars]

theorem not_dot_of_blank {cs : List Char} (blank : ∀ c ∈ cs, isBlank c = true) : '.' ∉ cs := by
  intro member
  exact absurd (blank '.' member) (by decide)

theorem normalChars_padded {before after : List Char} (front : ∀ c ∈ before, isBlank c = true)
    (back : ∀ c ∈ after, isBlank c = true) (cs : List Char) :
    normalChars (before ++ cs ++ after) = normalChars cs := by
  have blank {ds : List Char} (each : ∀ c ∈ ds, isBlank c = true) :
      ∀ c ∈ ds.filter fun c => !isQuote c, isBlank c = true :=
    fun c member => each c (List.mem_filter.1 member).1
  rw [normalChars, List.filter_append, List.filter_append,
    afterLast_append (not_dot_of_blank (blank back)), normalChars]
  by_cases present : '.' ∈ cs.filter fun c => !isQuote c
  · -- The white space in front goes with what stands in front of the last dot.
    obtain ⟨qualifier, split⟩ := exists_afterLast present
    have cut : afterLast '.' (before.filter (fun c => !isQuote c) ++
        cs.filter fun c => !isQuote c) = afterLast '.' (cs.filter fun c => !isQuote c) := by
      rw [split, ← List.append_assoc, afterLast_behind, afterLast_behind]
    rw [cut, trimChars_append (blank back)]
  · have absent : '.' ∉ before.filter (fun c => !isQuote c) ++ cs.filter fun c => !isQuote c :=
      fun member => (List.mem_append.1 member).elim (not_dot_of_blank (blank front)) present
    rw [afterLast_of_not_mem absent, afterLast_of_not_mem present,
      trimChars_padded (blank front) (blank back)]

theorem normalChars_respelling {table other : List Char} (change : Respelling table other) :
    normalChars table = normalChars other := by
  cases change with
  | schema qualifier table =>
    have dot : ('.' :: table).filter (fun c => !isQuote c) =
        '.' :: table.filter fun c => !isQuote c := rfl
    rw [normalChars, normalChars, List.filter_append, dot, afterLast_behind]
  | quote front mark back =>
    rw [normalChars, normalChars, List.filter_append, List.filter_append,
      List.filter_cons_of_neg (by simp [mark])]
  | letters same => rw [← normalChars_map_toLower table, same, normalChars_map_toLower]
  | blanks front back table => exact (normalChars_padded front back table).symm

section Spellings

theorem normalChars_eq {table other : List Char}
    (changes : Relation.EqvGen Respelling table other) : normalChars table = normalChars other := by
  induction changes with
  | rel _ _ change => exact normalChars_respelling change
  | refl _ => rfl
  | symm _ _ _ ih => exact ih.symm
  | trans _ _ _ _ _ first second => exact first.trans second

theorem unquoted_spelling (front cs : List Char) :
    Relation.EqvGen Respelling (front ++ cs.filter fun c => !isQuote c) (front ++ cs) := by
  induction cs generalizing front with
  | nil => exact .refl _
  | cons c rest ih =>
    by_cases mark : isQuote c = true
    · rw [List.filter_cons_of_neg (by simp [mark])]
      exact (ih front).trans _ _ _ (.rel _ _ (.quote front mark rest))
    · have further := ih (front ++ [c])
      rw [List.filter_cons_of_pos (by simp [mark])]
      rwa [List.append_assoc, List.append_assoc] at further

theorem unqualified_spelling (cs : List Char) :
    Relation.EqvGen Respelling (afterLast '.' cs) cs := by
  by_cases present : '.' ∈ cs
  · obtain ⟨qualifier, split⟩ := exists_afterLast present
    have named : Respelling (afterLast '.' cs) (qualifier ++ '.' :: afterLast '.' cs) :=
      .schema qualifier _
    rw [← split] at named
    exact .rel _ _ named
  · rw [afterLast_of_not_mem present]
    exact .refl cs

theorem trimmed_spelling (cs : List Char) : Relation.EqvGen Respelling (trimChars cs) cs := by
  obtain ⟨before, after, split, front, back⟩ := trimChars_split cs
  have padded : Respelling (trimChars cs) (before ++ trimChars cs ++ after) :=
    .blanks front back _
  rw [← split] at padded
  exact .rel _ _ padded

theorem lowered_spelling (cs : List Char) :
    Relation.EqvGen Respelling (cs.map Char.toLower) cs := by
  refine .rel _ _ (.letters ?_)
  rw [List.map_map, toLower_comp_toLower]

/-- The normal form is itself a spelling of the name: each step towards it undoes changes. -/
theorem normalChars_spelling (cs : List Char) :
    Relation.EqvGen Respelling (normalChars cs) cs :=
  (lowered_spelling _).trans _ _ _ <| (trimmed_spelling _).trans _ _ _ <|
    (unqualified_spelling _).trans _ _ _ (unquoted_spelling [] cs)

end Spellings

theorem same_normal (table : String) : Same (normal table) table := by
  rw [Same, normal, String.toList_ofList]
  exact normalChars_spelling table.toList

theorem normal_eq_iff {table other : String} : normal table = normal other ↔ Same table other := by
  constructor
  · intro equal
    have through := same_normal table
    rw [equal] at through
    exact through.symm.trans _ _ _ (same_normal other)
  · intro same
    exact congrArg String.ofList (normalChars_eq same)

instance (table other : String) : Decidable (Same table other) :=
  decidable_of_iff _ normal_eq_iff

theorem normal_normal (table : String) : normal (normal table) = normal table :=
  normal_eq_iff.2 (same_normal table)

theorem normal_trim (table : String) : normal (trim table) = normal table := by
  refine normal_eq_iff.2 ?_
  rw [Same, trim, String.toList_ofList]
  exact trimmed_spelling table.toList

/-- Whether each of two lists has a spelling of every table on the other. -/
def Alike (tables others : List String) : Prop :=
  (∀ table ∈ tables, ∃ other ∈ others, Same table other) ∧
    ∀ other ∈ others, ∃ table ∈ tables, Same table other

instance (tables others : List String) : Decidable (Alike tables others) :=
  inferInstanceAs (Decidable (_ ∧ _))

end TableName

namespace TenantConfig

theorem ignores_iff (config : TenantConfig) (table : String) :
    config.ignores table = true ↔
      ∃ entry ∈ config.ignoredTables.toList, TableName.normal entry = TableName.normal table := by
  simp only [ignores, List.any_eq_true, beq_iff_eq]

end TenantConfig

namespace GuardConfig

open Text

def Padded (name piece : String) : Prop :=
  ∃ before after, piece.toList = before ++ name.toList ++ after ∧
    (∀ c ∈ before, isBlank c = true) ∧ ∀ c ∈ after, isBlank c = true

/-- A name that keeps its place in a comma-separated list: it has no comma and is not left out. -/
def Listable (name : String) : Prop := ',' ∉ name.toList ∧ isBlankText name = false

instance (name : String) : Decidable (Listable name) := inferInstanceAs (Decidable (_ ∧ _))

theorem Padded.trim_eq {name piece : String} (padded : Padded name piece) :
    trim piece = trim name := by
  obtain ⟨before, after, spelled, front, back⟩ := padded
  rw [trim, trim, spelled, trimChars_padded front back]

theorem Padded.not_mem {name piece : String} (padded : Padded name piece)
    (absent : ',' ∉ name.toList) : ',' ∉ piece.toList := by
  obtain ⟨before, after, spelled, front, back⟩ := padded
  have visible : isBlank ',' ≠ true := by decide
  rw [spelled, List.mem_append, List.mem_append]
  rintro ((member | member) | member)
  · exact visible (front _ member)
  · exact absent member
  · exact visible (back _ member)

theorem tableList_join {names pieces : List String} (padded : List.Forall₂ Padded names pieces)
    (listable : ∀ name ∈ names, Listable name) :
    tableList (join "," pieces) = names.map trim := by
  have trimmed : pieces.map trim = names.map trim := by
    clear listable
    induction padded with
    | nil => rfl
    | cons first _ ih => rw [List.map_cons, List.map_cons, first.trim_eq, ih]
  have whole : ∀ piece ∈ pieces, ',' ∉ piece.toList := by
    clear trimmed
    induction padded with
    | nil => nofun
    | cons first _ ih =>
      rw [List.forall_mem_cons] at listable ⊢
      exact ⟨first.not_mem listable.1.1, ih listable.2⟩
  have kept : ∀ name ∈ names.map trim, (!name.isEmpty) = true := by
    intro shown member
    obtain ⟨name, among, rfl⟩ := List.mem_map.1 member
    by_contra nothing
    have empty : trim name = "" := by simpa using nothing
    have visible := (listable name among).2
    rw [isBlankText_of_trim empty] at visible
    cases visible
  cases pieces with
  | nil =>
    rw [← trimmed]
    rfl
  | cons piece rest =>
    have cut : split ',' (join "," (piece :: rest)) = piece :: rest :=
      split_join (List.cons_ne_nil piece rest) whole
    rw [tableList, cut, trimmed, List.filter_eq_self.2 kept]

theorem mem_ignoredTables {lookup : String → Option String} {raw : String}
    (given : lookup "ROWGATE_IGNORE_TABLES" = some raw) (entry : String) :
    entry ∈ (ofEnvironment lookup).tenant.ignoredTables.toList ↔ entry ∈ tableList raw := by
  have taken : (ofEnvironment lookup).tenant.ignoredTables = OrderedSet.ofList (tableList raw) := by
    simp only [ofEnvironment, given, Option.map_some, Option.getD_some]
  have none : entry ∉ (OrderedSet.empty : OrderedSet String).toList := nofun
  rw [taken, OrderedSet.ofList, OrderedSet.mem_insertAll, or_iff_left none]

theorem ofEnvironment_ignores {lookup : String → Option String} {names pieces : List String}
    (given : lookup "ROWGATE_IGNORE_TABLES" = some (join "," pieces))
    (padded : List.Forall₂ Padded names pieces) (listable : ∀ name ∈ names, Listable name)
    (table : String) :
    (ofEnvironment lookup).tenant.ignores table = true ↔
      ∃ name ∈ names, TableName.normal name = TableName.normal table := by
  simp only [TenantConfig.ignores_iff, mem_ignoredTables given, tableList_join padded listable,
    List.mem_map, exists_exists_and_eq_and, TableName.normal_trim]

end GuardConfig

namespace TenantConfig

open TableName

theorem ignores_iff_same (config : TenantConfig) (table : String) :
    config.ignores table = true ↔ ∃ entry ∈ config.ignoredTables.toList, Same entry table := by
  simp only [ignores_iff, normal_eq_iff]

theorem ignores_of_same {config other : TenantConfig} {table spelled : String}
    (listed : ∀ entry ∈ config.ignoredTables.toList,
      ∃ entry' ∈ other.ignoredTables.toList, Same entry' entry)
    (same : Same table spelled) (ignored : config.ignores table = true) :
    other.ignores spelled = true := by
  rw [ignores_iff_same] at ignored ⊢
  obtain ⟨entry, member, spelling⟩ := ignored
  obtain ⟨entry', among, equal⟩ := listed entry member
  exact ⟨entry', among, equal.trans _ _ _ (spelling.trans _ _ _ same)⟩

/-- Which tables are ignored does not depend on how tables are spelled. The entries of a
configuration stand for all spellings of their tables, the normal form is one of these spellings
and is normal, and the list of an environment counts by the normal forms of its names. -/
theorem ignores_every_spelling :
    (∀ table other, normal table = normal other ↔ Same table other) ∧
    (∀ table, normal (normal table) = normal table) ∧
    (∀ (config : TenantConfig) (table : String), config.ignores table = true ↔
      ∃ entry ∈ config.ignoredTables.toList, Same entry table) ∧
    (∀ (config other : TenantConfig) (table spelled : String),
      Alike config.ignoredTables.toList other.ignoredTables.toList → Same table spelled →
        config.ignores table = other.ignores spelled) ∧
    ∀ (lookup : String → Option String) (names pieces : List String),
      List.Forall₂ GuardConfig.Padded names pieces → (∀ name ∈ names, GuardConfig.Listable name) →
      lookup "ROWGATE_IGNORE_TABLES" = some (Text.join "," pieces) →
        ∀ table, (GuardConfig.ofEnvironment lookup).tenant.ignores table = true ↔
          ∃ name ∈ names, normal name = normal table := by
  refine ⟨fun table other => normal_eq_iff, normal_normal, ignores_iff_same, ?_,
    fun lookup names pieces padded listable given =>
      GuardConfig.ofEnvironment_ignores given padded listable⟩
  intro config other table spelled alike same
  rw [Bool.eq_iff_iff]
  constructor
  · refine ignores_of_same (fun entry member => ?_) same
    obtain ⟨entry', among, equal⟩ := alike.1 entry member
    exact ⟨entry', among, equal.symm⟩
  · exact ignores_of_same alike.2 same.symm

/-- Two tables of an environment, one quoted, with a schema and padded, against a configuration
that spells both in other ways. -/
theorem ignores_every_spelling_listed :
    let names := ["\x60Sys\x60.Dict", "logs"]
    let pieces := [" \x60Sys\x60.Dict\t", "logs"]
    let lookup := fun key =>
      if key = "ROWGATE_IGNORE_TABLES" then some (Text.join "," pieces) else none
    let loaded := (GuardConfig.ofEnvironment lookup).tenant
    let written : TenantConfig := { ignoredTables := .ofList ["app.[LOGS]", "dict"] }
    List.Forall₂ GuardConfig.Padded names pieces ∧ (∀ name ∈ names, GuardConfig.Listable name) ∧
      loaded.ignores "app.dict" = true ∧ ¬ loaded.ignores "app.dict.items" = true ∧
      TableName.Alike loaded.ignoredTables.toList written.ignoredTables.toList ∧
      TableName.Same " Logs" "a.\"b.logs\"" ∧
      loaded.ignores " Logs" = written.ignores "a.\"b.logs\"" := by
  intro names pieces lookup loaded written
  have padded : List.Forall₂ GuardConfig.Padded names pieces :=
    .cons ⟨[' '], ['\t'], by decide, List.forall_mem_singleton.2 rfl,
        List.forall_mem_singleton.2 rfl⟩
      (.cons ⟨[], [], by decide, nofun, nofun⟩ .nil)
  have listable : ∀ name ∈ names, GuardConfig.Listable name := by decide
  have alike : TableName.Alike loaded.ignoredTables.toList written.ignoredTables.toList := by decide
  have same : TableName.Same " Logs" "a.\"b.logs\"" := by decide
  obtain ⟨_, _, _, respelled, environment⟩ := ignores_every_spelling
  have counted := environment lookup names pieces padded listable rfl
  exact ⟨padded, listable, (counted _).2 (by decide), mt (counted _).1 (by decide), alike, same,
    respelled loaded written _ _ alike same⟩

end TenantConfig

end RowGuard
