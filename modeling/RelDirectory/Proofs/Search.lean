import RelDirectory.Directory.Search
import RelDirectory.Proofs.Like
import RelDirectory.Proofs.Locator

/-!
# What a search finds

A filter names a table and may ask one more thing of its rows (`Asks`).  A row answers a term if
its column is not null and its text is what the value stands for, `*` being any run of characters
(`Term.Answers`).  A search finds the rows that answer the term loosely: where the value has a `*`,
its `%` and `_` are wild too (`result_search`).  So it is exact if all that it finds answers the
term, and on every store exactly if the value has no `*`, or neither of the two (`search_exact_iff`).
-/
set_option autoImplicit false
namespace RelDirectory

open Text (Pieces)

namespace Filter

/-- What a character of a term's value takes of a text. -/
def Takes (c : Char) (piece : List Char) : Prop := c = '*' ∨ piece = [c]

instance (c : Char) (piece : List Char) : Decidable (Takes c piece) :=
  inferInstanceAs (Decidable (c = '*' ∨ piece = [c]))

/-- What it takes if the characters that are wild in patterns are so here. -/
def TakesLoosely (c : Char) (piece : List Char) : Prop := c = '*' ∨ Like.Takes c piece

instance (c : Char) (piece : List Char) : Decidable (TakesLoosely c piece) :=
  inferInstanceAs (Decidable (c = '*' ∨ Like.Takes c piece))

namespace Term

/-- A lone `*` asks nothing; any other term asks for a text that its value stands for. -/
def Answers (t : Term) (row : Row) : Prop :=
  t.value = "*" ∨ ∃ text ∈ (row.get? t.name).bind Value.shown?,
    Pieces Takes t.value.toList text.toList

instance (t : Term) (row : Row) : Decidable (t.Answers row) :=
  inferInstanceAs (Decidable (t.value = "*" ∨ ∃ text ∈ (row.get? t.name).bind Value.shown?,
    Pieces Takes t.value.toList text.toList))

/-- The term's value is the row's text, or with a `*` in it stands for it loosely. -/
def AnswersLoosely (t : Term) (row : Row) : Prop :=
  t.value = "*" ∨ ∃ text ∈ (row.get? t.name).bind Value.shown?,
    text = t.value ∨ hasStar t.value = true ∧ Pieces TakesLoosely t.value.toList text.toList

instance (t : Term) (row : Row) : Decidable (t.AnswersLoosely row) :=
  inferInstanceAs (Decidable (t.value = "*" ∨ ∃ text ∈ (row.get? t.name).bind Value.shown?,
    text = t.value ∨ hasStar t.value = true ∧ Pieces TakesLoosely t.value.toList text.toList))

/-- The value has no `*`, or no character that is wild in patterns. -/
def Plain (t : Term) : Prop :=
  hasStar t.value = false ∨ ∀ c ∈ t.value.toList, c ≠ '%' ∧ c ≠ '_'

instance (t : Term) : Decidable t.Plain :=
  @instDecidableOr _ _ inferInstance
    (List.decidableBAll (fun c => c ≠ '%' ∧ c ≠ '_') t.value.toList)

end Term

/-- The filter names its table with one term, the first that can, and may have another one. -/
inductive Asks : Filter → Term → Option Term → Prop
  | single {cls : Term} : cls.namesTable = true → Asks (.single cls) cls none
  | first {cls other : Term} : cls.namesTable = true →
      Asks (.conjunction cls other) cls (some other)
  | second {cls other : Term} : other.namesTable = false → cls.namesTable = true →
      Asks (.conjunction other cls) cls (some other)

variable {t : Term} {row : Row}

/-! ## What a term asks of a row -/

theorem ne_star_of_hasStar {value : String} (plain : hasStar value = false) {c : Char}
    (member : c ∈ value.toList) : c ≠ '*' := by
  rintro rfl
  rw [hasStar, List.contains_eq_mem, decide_eq_false_iff_not] at plain
  exact plain member

theorem takes_literal {c : Char} (plain : c ≠ '*') (piece : List Char) :
    Takes c piece ↔ piece = [c] := by
  rw [Takes, or_iff_right plain]

theorem pieces_of_plain {value : String} (plain : hasStar value = false) {text : List Char} :
    Pieces Takes value.toList text ↔ text = value.toList :=
  Text.pieces_literal_iff fun _ member => takes_literal (ne_star_of_hasStar plain member)

theorem loosely_of_answers (answers : t.Answers row) : t.AnswersLoosely row := by
  rcases answers with lone | ⟨text, shown, cut⟩
  · exact Or.inl lone
  · refine Or.inr ⟨text, shown, ?_⟩
    cases star : hasStar t.value with
    | false => exact Or.inl (String.toList_inj.1 ((pieces_of_plain star).1 cut))
    | true =>
      refine Or.inr ⟨rfl, Text.pieces_mono ?_ cut⟩
      intro c _ piece takes
      exact takes.imp id fun same => Or.inr (Or.inr same)

theorem answers_of_plain (plain : t.Plain) (loosely : t.AnswersLoosely row) : t.Answers row := by
  rcases loosely with lone | ⟨text, shown, rfl | ⟨star, cut⟩⟩
  · exact Or.inl lone
  · exact Or.inr ⟨t.value, shown, Text.pieces_self fun _ _ => Or.inr rfl⟩
  · refine Or.inr ⟨text, shown, Text.pieces_mono ?_ cut⟩
    rcases plain with none | free
    · rw [star] at none
      cases none
    · intro c member piece takes
      exact takes.imp id (Like.takes_literal (free c member) piece).1

/-- The pattern made of a value stands for what the value loosely does. -/
theorem accepts_replaceChar {value text : List Char} :
    Like.accepts (Text.replaceChar '*' ['%'] value) text = true ↔
      Pieces TakesLoosely value text := by
  have mapped : Text.replaceChar '*' ['%'] value =
      value.map fun c => if c = '*' then '%' else c := by
    induction value with
    | nil => rfl
    | cons c cs ih =>
      rw [Text.replaceChar, List.flatMap_cons, ← Text.replaceChar, ih, List.map_cons]
      by_cases star : c = '*' <;> simp [star]
  have taken : (fun c => Like.Takes (if c = '*' then '%' else c)) = TakesLoosely := by
    funext c piece
    by_cases star : c = '*' <;> simp [star, TakesLoosely, Like.Takes]
  rw [Like.accepts_iff, mapped, Text.pieces_map_iff, taken]

theorem satisfies_iff : Memory.satisfiesAll t.predicate?.toList row = true ↔
    t.AnswersLoosely row := by
  simp only [Term.predicate?, Term.AnswersLoosely]
  by_cases lone : t.value = "*"
  · simp [lone, Memory.satisfiesAll]
  · rw [if_neg lone, or_iff_right lone]
    cases star : hasStar t.value with
    | false =>
      simp only [Bool.false_eq_true, if_false, Option.toList_some, Memory.satisfiesAll,
        List.all_cons, List.all_nil, Bool.and_true, Memory.satisfies, Memory.passes_equals_iff,
        Option.mem_def, false_and, or_false, exists_eq_right]
    | true =>
      simp only [if_true, Option.toList_some, Memory.satisfiesAll, List.all_cons, List.all_nil,
        Bool.and_true, Memory.satisfies, Memory.passes_like_iff, Like.matchesPattern,
        String.toList_ofList, accepts_replaceChar, Option.mem_def, true_and]
      constructor
      · rintro ⟨text, shown, cut⟩
        exact ⟨text, shown, Or.inr cut⟩
      · rintro ⟨text, shown, same | cut⟩
        · refine ⟨text, shown, ?_⟩
          rw [same]
          exact Text.pieces_self fun c _ => Or.inr (Like.takes_self c)
        · exact ⟨text, shown, cut⟩

theorem query?_of_asks {f : Filter} {cls : Term} {other : Option Term} (asks : Asks f cls other) :
    f.query? = some ⟨cls.value, (other.bind Term.predicate?).toList⟩ := by
  cases asks with
  | single names => simp [query?, terms, queryOf, names]
  | first names =>
    simp only [query?, terms, queryOf, names, if_true, List.nil_append, List.filterMap_cons,
      List.filterMap_nil, Option.bind_some]
    cases Term.predicate? _ <;> rfl
  | second unnamed names =>
    simp only [query?, terms, queryOf, unnamed, names, Bool.false_eq_true, if_false, if_true,
      List.nil_append, List.append_nil, List.filterMap_cons, List.filterMap_nil, Option.bind_some]
    cases Term.predicate? _ <;> rfl

theorem column_of_predicate? {p : Predicate} (asked : t.predicate? = some p) :
    p.column = t.name := by
  simp only [Term.predicate?] at asked
  split at asked
  · cases asked
  · split at asked <;> cases asked <;> rfl

end Filter

namespace Directory

open Step
open RelDirectory.Filter (Term Asks)

variable {d : Directory Memory} {filter : String} {cls : Term} {other : Option Term} {t : Table}

/-- How many rows are wanted: all, or only the first. -/
def wanted (many : Bool) : Option Nat := if many then none else some 1

/-- The rows that answer what else is asked, in stored order: all of them, or only the first.
`answeringLoosely` are those that answer it loosely. -/
def answering (rows : List Row) (other : Option Term) (many : Bool) : List Row :=
  Memory.upTo (wanted many) (rows.filter fun row => ∀ o ∈ other, o.Answers row)

def answeringLoosely (rows : List Row) (other : Option Term) (many : Bool) : List Row :=
  Memory.upTo (wanted many) (rows.filter fun row => ∀ o ∈ other, o.AnswersLoosely row)

/-- Whatever its base and scope, the search finds just the rows that answer. -/
def SearchExact (d : Directory Memory) (filter : String) (t : Table) (other : Option Term)
    (many : Bool) : Prop :=
  ∀ base scope, (search base filter scope many d).result =
    .ok (.rows (answering (d.store.rows t.name) other many))

theorem answersLoosely_of_mem {rows : List Row} {many : Bool} {row : Row}
    (member : row ∈ answeringLoosely rows other many) : ∀ o ∈ other, o.AnswersLoosely row := by
  have passes : row ∈ rows.filter fun row => ∀ o ∈ other, o.AnswersLoosely row := by
    cases many with
    | true => exact member
    | false => exact List.mem_of_mem_take member
  exact of_decide_eq_true (List.mem_filter.1 passes).2

/-- A filter is searched for as the query that it makes, whatever the base and the scope. -/
theorem effect_search {σ : Type} [Store σ] {d : Directory σ}
    (asks : Asks (Filter.parse filter) cls other) (base : String) (scope : Scope) (many : Bool) :
    effect (search base filter scope many) d =
      effect (runQuery ⟨cls.value, (other.bind Term.predicate?).toList⟩ many) d := by
  have supported : Filter.parse filter ≠ .unsupported := by
    intro none
    rw [none] at asks
    cases asks
  simp only [search, effect_bind, effect_report, if_neg supported, Filter.query?_of_asks asks]

theorem result_search (asks : Asks (Filter.parse filter) cls other)
    (known : (table? cls.value d).result = .ok (some t))
    (stored : ∃ s, d.store.tables.get? t.name = some s)
    (columns : ∀ o ∈ other, t.hasColumn o.name = true) (base : String) (scope : Scope)
    (many : Bool) : (search base filter scope many d).result =
      .ok (.rows (answeringLoosely (d.store.rows t.name) other many)) := by
  obtain ⟨d', asked, store⟩ := table?_known known
  obtain ⟨s, found⟩ := stored
  have named : ∀ p ∈ (other.bind Term.predicate?).toList, t.hasColumn p.column = true := by
    intro p member
    obtain ⟨o, held, asked⟩ := Option.bind_eq_some_iff.1 (Option.mem_toList.1 member)
    rw [Filter.column_of_predicate? asked]
    exact columns o held
  have present : (other.bind Term.predicate?).toList.find? (fun p => !t.hasColumn p.column) =
      none := by
    refine List.find?_eq_none.2 ?_
    intro p member
    simp [named p member]
  have conditions : Memory.satisfiesAll (other.bind Term.predicate?).toList =
      fun row => decide (∀ o ∈ other, o.AnswersLoosely row) := by
    funext row
    cases other with
    | none => simp [Memory.satisfiesAll]
    | some o =>
      rw [Bool.eq_iff_iff, Option.bind_some, Filter.satisfies_iff]
      simp
  have selected := Memory.select_of_stored (m := d'.store) named (store ▸ found) (wanted many)
  rw [conditions, store] at selected
  have ran : effect (search base filter scope many) d =
      (.ok (.rows (answeringLoosely (d.store.rows t.name) other many)), d') := by
    simp only [effect_search asks, runQuery, effect_bind, effect_attempt, asked,
      present, effect_select]
    rw [wanted] at selected
    rw [store, selected]
    rfl
  exact result_of_effect ran

theorem upTo_filter_iff {loose strict : Row → Bool}
    (wider : ∀ row, strict row = true → loose row = true) (rows : List Row) (limit : Option Nat) :
    Memory.upTo limit (rows.filter loose) = Memory.upTo limit (rows.filter strict) ↔
      ∀ row ∈ Memory.upTo limit (rows.filter loose), strict row = true := by
  cases limit with
  | none =>
    constructor
    · intro same row member
      rw [same] at member
      exact (List.mem_filter.1 member).2
    · intro narrow
      refine List.filter_congr ?_
      intro row member
      rw [Bool.eq_iff_iff]
      exact ⟨fun passes => narrow row (List.mem_filter.2 ⟨member, passes⟩), wider row⟩
  | some n =>
    constructor
    · intro same row member
      rw [same] at member
      exact (List.mem_filter.1 (List.mem_of_mem_take member)).2
    · -- the first rows that pass loosely are the first that pass at all
      intro narrow
      simp only [Memory.upTo] at narrow ⊢
      induction rows generalizing n with
      | nil => rfl
      | cons row rest ih =>
        cases passes : loose row with
        | false =>
          have fails : ¬ strict row = true := by
            intro strictly
            rw [wider row strictly] at passes
            cases passes
          rw [List.filter_cons_of_neg (by simp [passes])] at narrow ⊢
          rw [List.filter_cons_of_neg fails]
          exact ih n narrow
        | true =>
          cases n with
          | zero => rfl
          | succ n =>
            rw [List.filter_cons_of_pos passes, List.take_succ_cons] at narrow ⊢
            obtain ⟨here, there⟩ := List.forall_mem_cons.1 narrow
            rw [List.filter_cons_of_pos here, List.take_succ_cons, ih n there]

theorem searchExact_iff (asks : Asks (Filter.parse filter) cls other)
    (known : (table? cls.value d).result = .ok (some t))
    (stored : ∃ s, d.store.tables.get? t.name = some s)
    (columns : ∀ o ∈ other, t.hasColumn o.name = true) (many : Bool) :
    SearchExact d filter t other many ↔
      ∀ row ∈ answeringLoosely (d.store.rows t.name) other many, ∀ o ∈ other, o.Answers row := by
  have found := result_search asks known stored columns
  have wider : ∀ row : Row, decide (∀ o ∈ other, o.Answers row) = true →
      decide (∀ o ∈ other, o.AnswersLoosely row) = true := by
    intro row answers
    refine decide_eq_true ?_
    intro o held
    exact Filter.loosely_of_answers (of_decide_eq_true answers o held)
  have same := upTo_filter_iff wider (d.store.rows t.name) (wanted many)
  simp only [decide_eq_true_eq] at same
  rw [answeringLoosely, ← same]
  constructor
  · intro exact_
    have given := exact_ "" .base
    rw [found, Except.ok.injEq, QueryOutcome.rows.injEq] at given
    exact given
  · intro given base scope
    rw [found, answeringLoosely, given]
    rfl

/-! ## Terms that are searched for too loosely -/

/-- A table with the column that a term is about, and a row with a text in it. -/
def asked (cls o : Term) : Table := ⟨cls.value, [⟨o.name, "VARCHAR"⟩]⟩

def holding (cls o : Term) (text : String) : Row := (Row.empty cls.value).set o.name (.text text)

def ofTerm (cls o : Term) (text : String) : Directory Memory :=
  new (Memory.single (asked cls o) [holding cls o text]) ⟨[], .empty, .empty, .empty⟩

theorem home_holding (cls o : Term) (text : String) :
    ∀ row ∈ [holding cls o text], row.table = (asked cls o).name := by
  intro row member
  rw [List.mem_singleton.1 member]
  rfl

theorem rows_ofTerm (cls o : Term) (text : String) :
    (ofTerm cls o text).store.rows (asked cls o).name = [holding cls o text] :=
  (Memory.rows_single (home_holding cls o text)).1

theorem table?_ofTerm (cls o : Term) (text : String) :
    (table? cls.value (ofTerm cls o text)).result = .ok (some (asked cls o)) := by
  have known := effect_knownTables_single (home_holding cls o text) ⟨[], .empty, .empty, .empty⟩
  have found : (keyed [asked cls o]).get? cls.value = some (asked cls o) := by
    simp [keyed, Keyed.ofList, asked]
  have ran : effect (table? cls.value) (ofTerm cls o text) =
      (.ok (some (asked cls o)), { ofTerm cls o text with tables := some (keyed [asked cls o]) }) := by
    simp only [table?, effect_bind, ofTerm, known, found, effect_pure]
  exact result_of_effect ran

theorem shown_holding (cls o : Term) (text : String) :
    ((holding cls o text).get? o.name).bind Value.shown? = some text := by
  rw [holding, Row.get?_set, if_pos rfl]
  rfl

/-- Where a value has a `*` and a wild character, some text answers the term only loosely. -/
theorem loose_of_not_plain {o : Term} (fancy : ¬ o.Plain) (cls : Term) :
    ∃ text, o.AnswersLoosely (holding cls o text) ∧ ¬ o.Answers (holding cls o text) := by
  simp only [Term.Plain, not_or, Bool.not_eq_false, not_forall] at fancy
  obtain ⟨star, wild, member, any⟩ := fancy
  have any : wild = '%' ∨ wild = '_' := by
    by_contra neither
    exact any (not_or.1 neither)
  have other : wild ≠ '*' ∧ wild ≠ 'x' := by
    rcases any with rfl | rfl <;> decide
  obtain ⟨before, behind, split⟩ := List.append_of_mem member
  refine ⟨String.ofList (before ++ 'x' :: behind),
    Or.inr ⟨_, shown_holding _ _ _, Or.inr ⟨star, ?_⟩⟩, ?_⟩
  · rw [String.toList_ofList, split]
    exact Text.pieces_mono (fun _ _ _ => Or.inr) (Like.fits_wild any before behind 'x')
  · rintro (lone | ⟨text, shown, cut⟩)
    · rw [lone] at member
      exact other.1 (List.mem_singleton.1 member)
    · -- the wild character is met less often in the text than in the value
      rw [shown_holding, Option.mem_some_iff] at shown
      subst shown
      have fewer := Text.count_le_of_pieces
        (fun piece => (Filter.takes_literal other.1 piece).1) cut
      rw [String.toList_ofList, split, List.count_append, List.count_append, List.count_cons_self,
        List.count_cons_of_ne other.2.symm] at fewer
      omega

/-- A search is exact if all rows that it finds answer the term; it is so on every store exactly
if the value of the term has no `*`, or neither `%` nor `_`. -/
theorem search_exact_iff (filter : String) (cls : Term) (other : Option Term)
    (asks : Asks (Filter.parse filter) cls other) :
    (∀ (d : Directory Memory) (t : Table) (many : Bool),
      (table? cls.value d).result = .ok (some t) →
      (∃ s, d.store.tables.get? t.name = some s) → (∀ o ∈ other, t.hasColumn o.name = true) →
        (SearchExact d filter t other many ↔
          ∀ row ∈ answeringLoosely (d.store.rows t.name) other many,
            ∀ o ∈ other, o.Answers row)) ∧
    ((∀ (d : Directory Memory) (t : Table) (many : Bool),
      (table? cls.value d).result = .ok (some t) →
      (∃ s, d.store.tables.get? t.name = some s) → (∀ o ∈ other, t.hasColumn o.name = true) →
        SearchExact d filter t other many) ↔ ∀ o ∈ other, o.Plain) := by
  refine ⟨fun d t many known stored columns => searchExact_iff asks known stored columns many,
    ?_, ?_⟩
  · intro always o held
    by_contra fancy
    cases Option.mem_def.1 held
    obtain ⟨text, loosely, not⟩ := loose_of_not_plain fancy cls
    have rows := rows_ofTerm cls o text
    have member : holding cls o text ∈ (ofTerm cls o text).store.rows (asked cls o).name := by
      rw [rows]
      exact List.mem_singleton_self _
    have stored := Memory.isStored_of_mem member
    have columns : ∀ o' ∈ some o, (asked cls o).hasColumn o'.name = true := by
      intro o' held
      cases held
      simp [Table.hasColumn, Table.column?, asked]
    have known := table?_ofTerm cls o text
    have answers := (searchExact_iff asks known stored columns true).1
      (always _ _ true known stored columns)
    refine not (answers _ ?_ o rfl)
    rw [answeringLoosely, rows]
    simp [wanted, Memory.upTo, loosely]
  · intro plain d t many known stored columns
    refine (searchExact_iff asks known stored columns many).2 ?_
    intro row member o held
    exact Filter.answers_of_plain (plain o held) (answersLoosely_of_mem member o held)

/-- Two clients called alike, but for the character that stands in a filter. -/
def alikeClients : List Row :=
  [Memory.client "inum=1,o=jans" "app_one" [], Memory.client "inum=2,o=jans" "apple" []]

def clientTerm : Term := ⟨"objectClass", "jansClnt"⟩

theorem table?_clients : (table? clientTerm.value (ofClients alikeClients)).result =
    .ok (some Memory.clients) := by decide +kernel

theorem stored_clients :
    ∃ s, (ofClients alikeClients).store.tables.get? Memory.clients.name = some s :=
  ⟨⟨Memory.clients, alikeClients⟩, by decide +kernel⟩

theorem searchExact_alikeClients :
    Asks (Filter.parse "(&(objectClass=jansClnt)(displayName=app*))") clientTerm
        (some ⟨"displayName", "app*"⟩) ∧
      ∀ many, SearchExact (ofClients alikeClients) "(&(objectClass=jansClnt)(displayName=app*))"
        Memory.clients (some ⟨"displayName", "app*"⟩) many := by
  have parsed : Filter.parse "(&(objectClass=jansClnt)(displayName=app*))" =
      .conjunction clientTerm ⟨"displayName", "app*"⟩ := by decide +kernel
  have asks : Asks (Filter.parse "(&(objectClass=jansClnt)(displayName=app*))") clientTerm
      (some ⟨"displayName", "app*"⟩) := by
    rw [parsed]
    exact .first (by decide)
  exact ⟨asks, fun many => (search_exact_iff _ _ _ asks).2.2 (by decide) _ _ many table?_clients
    stored_clients (by decide)⟩

/-- A search may find a row that does not answer: `app_*` finds the client `apple` too. -/
theorem not_search_exact : ¬ ∀ (d : Directory Memory) (filter : String) (cls : Term)
    (other : Option Term) (t : Table) (many : Bool), Asks (Filter.parse filter) cls other →
      (table? cls.value d).result = .ok (some t) →
      (∃ s, d.store.tables.get? t.name = some s) → (∀ o ∈ other, t.hasColumn o.name = true) →
        SearchExact d filter t other many := by
  intro always
  have parsed : Filter.parse "(&(objectClass=jansClnt)(displayName=app_*))" =
      .conjunction clientTerm ⟨"displayName", "app_*"⟩ := by decide +kernel
  have found := always (ofClients alikeClients) "(&(objectClass=jansClnt)(displayName=app_*))"
    clientTerm (some ⟨"displayName", "app_*"⟩) Memory.clients true
    (by rw [parsed]; exact .first (by decide)) table?_clients stored_clients (by decide) "" .base
  exact absurd found (by decide +kernel)

end Directory

end RelDirectory
