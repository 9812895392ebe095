import RelDirectory.Proofs.Grammar
import RelDirectory.Proofs.Search

/-!
# Searching by a column that the table lacks

A term on a column that the table does not have makes the search fail, whatever store it runs on,
and no row is asked for.  A lone `*` is the exception: it asks nothing, so no column is looked for,
and the search is the one for the table alone (`search_unknownColumn`).
-/
set_option autoImplicit false
namespace RelDirectory.Directory

open Step
open RelDirectory.Filter (Term Asks)

variable {σ : Type} [Store σ] {d : Directory σ} {filter : String} {cls other : Term} {t : Table}

theorem predicate?_of_asking (asking : other.value ≠ "*") :
    ∃ p, other.predicate? = some p ∧ p.column = other.name := by
  simp only [Term.predicate?, if_neg asking]
  split
  · exact ⟨_, rfl, rfl⟩
  · exact ⟨_, rfl, rfl⟩

/-- A condition on a column that is not there stops a query once its table is known. -/
theorem effect_runQuery_unknown {q : Filter.Query} {p : Predicate}
    (known : (table? q.table d).result = .ok (some t))
    (first : (q.predicates.find? fun p => !t.hasColumn p.column) = some p) (many : Bool) :
    effect (runQuery q many) d =
      (.ok (.failed (Failure.noColumn t.name p.column).message), after (table? q.table) d) := by
  have asked : effect (table? q.table) d = (.ok (some t), after (table? q.table) d) :=
    Prod.ext known rfl
  simp only [runQuery, effect_bind, effect_attempt, asked, first, failed, effect_report,
    effect_pure]

theorem effect_search_unknown (asks : Asks (Filter.parse filter) cls (some other))
    (known : (table? cls.value d).result = .ok (some t))
    (absent : t.hasColumn other.name = false) (asking : other.value ≠ "*") (base : String)
    (scope : Scope) (many : Bool) : effect (search base filter scope many) d =
      (.ok (.failed (Failure.noColumn t.name other.name).message),
        after (table? cls.value) d) := by
  obtain ⟨p, asked, column⟩ := predicate?_of_asking asking
  have first : ((some other).bind Term.predicate?).toList.find? (fun p => !t.hasColumn p.column) =
      some p := by
    simp [asked, column, absent]
  rw [effect_search asks, ← column]
  exact effect_runQuery_unknown (q := ⟨cls.value, _⟩) known first many

/-- The term that names the table can be asked alone. -/
theorem exists_alone (asks : Asks (Filter.parse filter) cls (some other)) :
    ∃ alone, Filter.parse alone = .single cls := by
  have written : ∃ s : Filter.Spelling, cls = s.term := by
    generalize read : Filter.parse filter = f at asks
    cases asks with
    | first _ =>
      obtain ⟨s, _, _, same, _⟩ := Filter.parse_eq_conjunction_iff.1 read
      exact ⟨s, same⟩
    | second _ _ =>
      obtain ⟨_, s, _, _, same⟩ := Filter.parse_eq_conjunction_iff.1 read
      exact ⟨s, same⟩
  obtain ⟨s, rfl⟩ := written
  exact ⟨_, Filter.parse_written s⟩

theorem namesTable_of_asks {f : Filter} {o : Option Term} (asks : Asks f cls o) :
    cls.namesTable = true := by
  cases asks <;> assumption

theorem effect_search_star (asks : Asks (Filter.parse filter) cls (some other))
    (star : other.value = "*") {alone : String} (single : Filter.parse alone = .single cls)
    (base : String) (scope : Scope) (many : Bool) :
    effect (search base filter scope many) d = effect (search base alone scope many) d := by
  have asksAlone : Asks (Filter.parse alone) cls none := by
    rw [single]
    exact .single (namesTable_of_asks asks)
  have silent : other.predicate? = none := if_pos star
  rw [effect_search asks, effect_search asksAlone, Option.bind_some, silent]
  rfl

/-- A search by a column that the table lacks fails and says so, unless its value is a lone `*`;
then it does what the search for the table alone does. -/
theorem search_unknownColumn (d : Directory σ) (filter : String) (cls other : Term) (t : Table)
    (asks : Asks (Filter.parse filter) cls (some other))
    (known : (table? cls.value d).result = .ok (some t))
    (absent : t.hasColumn other.name = false) :
    (other.value ≠ "*" → ∀ base scope many, effect (search base filter scope many) d =
      (.ok (.failed (Failure.noColumn t.name other.name).message),
        after (table? cls.value) d)) ∧
    (other.value = "*" → ∃ alone, Filter.parse alone = .single cls ∧
      ∀ base scope many,
        effect (search base filter scope many) d = effect (search base alone scope many) d) := by
  refine ⟨effect_search_unknown asks known absent, ?_⟩
  intro star
  obtain ⟨alone, single⟩ := exists_alone asks
  exact ⟨alone, single, effect_search_star asks star single⟩

def mailSearch : String := "(&(objectClass=jansClnt)(mail=*@jans.io))"

def anyMailSearch : String := "(&(mail=*)(objectClass=jansClnt))"

theorem asks_mailSearch :
    Asks (Filter.parse mailSearch) clientTerm (some ⟨"mail", "*@jans.io"⟩) := by
  have parsed : Filter.parse mailSearch =
      .conjunction clientTerm ⟨"mail", "*@jans.io"⟩ := by decide +kernel
  rw [parsed]
  exact .first (by decide)

theorem asks_anyMailSearch :
    Asks (Filter.parse anyMailSearch) clientTerm (some ⟨"mail", "*"⟩) := by
  have parsed : Filter.parse anyMailSearch = .conjunction ⟨"mail", "*"⟩ clientTerm := by
    decide +kernel
  rw [parsed]
  exact .second (by decide) (by decide)

theorem search_unknownColumn_mail :
    Asks (Filter.parse mailSearch) clientTerm (some ⟨"mail", "*@jans.io"⟩) ∧
    Asks (Filter.parse anyMailSearch) clientTerm (some ⟨"mail", "*"⟩) ∧
    (table? clientTerm.value (ofClients alikeClients)).result = .ok (some Memory.clients) ∧
    Memory.clients.hasColumn "mail" = false ∧
    (∀ base scope many, (effect (search base mailSearch scope many) (ofClients alikeClients)).1 =
      .ok (.failed "Table 'jansClnt' has no column 'mail'")) ∧
    ∃ alone, Filter.parse alone = .single clientTerm ∧ ∀ base scope many,
      effect (search base anyMailSearch scope many) (ofClients alikeClients) =
        effect (search base alone scope many) (ofClients alikeClients) := by
  refine ⟨asks_mailSearch, asks_anyMailSearch, table?_clients, by decide, ?_, ?_⟩
  · intro base scope many
    have stops := search_unknownColumn _ _ _ _ _ asks_mailSearch table?_clients (by decide)
    exact congrArg Prod.fst (stops.1 (by decide) base scope many)
  · have goesOn := search_unknownColumn _ _ _ _ _ asks_anyMailSearch table?_clients (by decide)
    exact goesOn.2 rfl

/-- A lone `*` on a column that is not there finds all clients. -/
theorem not_search_unknownColumn : ¬ ∀ (d : Directory Memory) (filter : String) (cls other : Term)
    (t : Table), Asks (Filter.parse filter) cls (some other) →
      (table? cls.value d).result = .ok (some t) → t.hasColumn other.name = false →
        ∀ base scope many, ∃ message,
          (search base filter scope many d).result = .ok (.failed message) := by
  intro always
  obtain ⟨message, stopped⟩ := always (ofClients alikeClients) anyMailSearch clientTerm
    ⟨"mail", "*"⟩ Memory.clients asks_anyMailSearch table?_clients (by decide) "" .base true
  have found : (search "" anyMailSearch .base true (ofClients alikeClients)).result =
      .ok (.rows alikeClients) := by decide +kernel
  rw [found] at stopped
  cases stopped

end RelDirectory.Directory
