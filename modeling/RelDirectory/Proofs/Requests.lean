import RelDirectory.Proofs.Effect
import RelDirectory.Proofs.Keyed
import RelDirectory.Proofs.Tokens
import RelDirectory.Store.Session

/-!
# Requests and their statements

Reading a statement gives back what was asked for, whatever the names are: its tokens are the
`skeleton` of the request, with the names of the table and the columns in it and one place for each
value that is bound (`request_read`).  A statement is `Built` from names: it fails just if one of
them is not permitted.  This is followed through each of the three builders.
-/
set_option autoImplicit false
namespace RelDirectory.Statement

/-- What a name needs to be an identifier. -/
def Permitted (name : String) : Prop :=
  name ≠ "" ∧ Char.ofNat 0 ∉ name.toList ∧ name.utf8ByteSize ≤ 64

instance (name : String) : Decidable (Permitted name) :=
  inferInstanceAs (Decidable (_ ∧ _ ∧ _))

/-- Made of names: it fails just if one of them is not permitted, and is good otherwise. -/
structure Built {α : Type} (names : List String) (good : α → Prop)
    (made : Except Identifier.Fault α) : Prop where
  sound : ∀ a, made = .ok a → good a
  fails : (∃ fault, made = .error fault) ↔ ∃ name ∈ names, ¬ Permitted name

namespace Built

variable {α β : Type} {names others : List String} {good : α → Prop} {fine : β → Prop}
  {made : Except Identifier.Fault α}

theorem done {a : α} (held : good a) : Built [] good (pure a) := by
  refine ⟨?_, ?_, nofun⟩
  · rintro _ ⟨⟩
    exact held
  · rintro ⟨_, ⟨⟩⟩

theorem andThen (first : Built names good made) {f : α → Except Identifier.Fault β}
    (second : ∀ a, good a → Built others fine (f a)) :
    Built (names ++ others) fine (made >>= f) := by
  cases made with
  | error fault =>
    obtain ⟨name, member, bad⟩ := first.fails.1 ⟨fault, rfl⟩
    refine ⟨nofun, fun _ => ⟨name, List.mem_append_left _ member, bad⟩, fun _ => ⟨fault, rfl⟩⟩
  | ok a =>
    obtain ⟨sound, fails⟩ := second a (first.sound a rfl)
    refine ⟨sound, fails.trans ⟨?_, ?_⟩⟩
    · rintro ⟨name, member, bad⟩
      exact ⟨name, List.mem_append_right _ member, bad⟩
    · rintro ⟨name, member, bad⟩
      rcases List.mem_append.1 member with here | there
      · obtain ⟨_, ⟨⟩⟩ := first.fails.2 ⟨name, here, bad⟩
      · exact ⟨name, there, bad⟩

theorem finish (built : Built names good made) {f : α → β} (implies : ∀ a, good a → fine (f a)) :
    Built names fine (made >>= fun a => pure (f a)) := by
  rw [← List.append_nil names]
  exact built.andThen fun a held => done (implies a held)

theorem of_mem (built : Built names good made) (same : ∀ name, name ∈ names ↔ name ∈ others) :
    Built others good made :=
  ⟨built.sound, built.fails.trans (exists_congr fun name => and_congr_left' (same name))⟩

end Built

theorem validate_eq_ok_iff (name : String) :
    Identifier.validate name = .ok () ↔ Permitted name := by
  rw [Identifier.validate, Permitted]
  split
  · simp_all
  · split
    · simp_all
    · split
      · simp_all [Identifier.greatestLength]
      · simp_all [Identifier.greatestLength]

theorem quote_eq_ok_iff (b : Backend) (name : String) :
    (∃ quoted, Identifier.quote b name = .ok quoted) ↔ Permitted name := by
  rw [← validate_eq_ok_iff, Identifier.quote]
  cases Identifier.validate name with
  | error fault =>
    refine iff_of_false ?_ fun same => ?_
    · rintro ⟨_, ⟨⟩⟩
    · cases same
  | ok _ => exact iff_of_true ⟨_, rfl⟩ rfl

theorem built_quote (b : Backend) (name : String) :
    Built [name] (fun quoted => Reads b quoted [.name name]) (Identifier.quote b name) := by
  refine ⟨fun _ => reads_quoted, ?_⟩
  have one : (∃ other ∈ [name], ¬ Permitted other) ↔ ¬ Permitted name := by simp
  rw [one, ← quote_eq_ok_iff b]
  cases Identifier.quote b name with
  | error fault => exact iff_of_true ⟨fault, rfl⟩ nofun
  | ok quoted => exact iff_of_false nofun fun bad => bad ⟨quoted, rfl⟩

/-! ## Places -/

variable {b : Backend} {t : Table}

/-- No column type has a mark or a sign in it, as far as types enter statements. -/
def PlainTypes (b : Backend) (t : Table) : Prop :=
  b = .pgsql → ∀ c ∈ t.columns, '"' ∉ c.dataType.toList ∧ '$' ∉ c.dataType.toList

def castTokens (b : Backend) (column : Option Column) : List Token :=
  match b with
  | .mysql => []
  | .pgsql => ((column.filter needsCast).map fun c => words ("::" ++ c.dataType)).getD []

def placeTokens (b : Backend) (index : Nat) (column : Option Column) : List Token :=
  .place (place b index) :: castTokens b column

theorem reads_placeholder (plain : PlainTypes b t) (index : Nat) (name : String) :
    Reads b (placeholder b index (t.column? name)) (placeTokens b index (t.column? name)) := by
  cases b with
  | mysql => exact reads_place .mysql index
  | pgsql =>
    cases cast : (t.column? name).filter needsCast with
    | none =>
      simp only [placeholder, placeTokens, castTokens, cast]
      exact reads_place .pgsql index
    | some c =>
      have found : t.column? name = some c := (Option.filter_eq_some_iff.1 cast).1
      obtain ⟨noMark, noSign⟩ := plain rfl c (List.mem_of_find?_eq_some found)
      have inert : Inert .pgsql c.dataType :=
        fun _ held => ⟨ne_of_mem_of_not_mem held noMark, ne_of_mem_of_not_mem held noSign⟩
      have colons : Separates .pgsql "::" := by decide
      simp only [placeholder, placeTokens, castTokens, cast]
      rw [String.append_assoc]
      exact (reads_place .pgsql index).words (colons.append inert)

/-! ## Conditions -/

def textCastTokens (b : Backend) (column : Option Column) : List Token :=
  match b with
  | .mysql => []
  | .pgsql => if (column.filter fun c => !c.isTextual).isSome then words "::text" else []

theorem reads_likeOperand {quoted : String} {ts : List Token} (reads : Reads b quoted ts)
    (column : Option Column) :
    Reads b (likeOperand b quoted column) (ts ++ textCastTokens b column) := by
  cases b with
  | mysql =>
    rw [textCastTokens, List.append_nil]
    exact reads
  | pgsql =>
    simp only [likeOperand, textCastTokens]
    split
    · exact reads.words (by decide)
    · rw [List.append_nil]
      exact reads

def clauseTokens (b : Backend) (t : Table) (index : Nat) (p : Predicate) : List Token :=
  match p.test with
  | .equals _ => .name p.column :: (words " = " ++ placeTokens b index (t.column? p.column))
  | .like _ =>
    .name p.column :: (textCastTokens b (t.column? p.column) ++
      (words " LIKE " ++ [.place (place b index)]))

theorem built_clause (plain : PlainTypes b t) (index : Nat) (p : Predicate) :
    Built [p.column] (fun text => Reads b text (clauseTokens b t index p)) (clause b t index p) := by
  rw [clause]
  refine (built_quote b p.column).finish fun quoted reads => ?_
  cases test : p.test with
  | equals value =>
    simp only [clauseTokens, test]
    rw [String.append_assoc]
    exact reads.between (by cases b <;> decide) (reads_placeholder plain index p.column)
  | like pattern =>
    have numbered : placeholder b index none = place b index := by cases b <;> rfl
    simp only [clauseTokens, test]
    rw [String.append_assoc, numbered, ← List.singleton_append, ← List.append_assoc]
    exact (reads_likeOperand reads _).between (by cases b <;> decide) (reads_place b index)

def clausesTokens (b : Backend) (t : Table) : Nat → List Predicate → List (List Token)
  | _, [] => []
  | index, p :: ps => clauseTokens b t index p :: clausesTokens b t (index + 1) ps

theorem built_clauses (plain : PlainTypes b t) (index : Nat) (ps : List Predicate) :
    Built (ps.map (·.column))
      (fun texts => List.Forall₂ (Reads b) texts (clausesTokens b t index ps))
      (clauses b t index ps) := by
  induction ps generalizing index with
  | nil => exact Built.done .nil
  | cons p ps ih =>
    rw [clauses]
    refine (built_clause plain index p).andThen fun text reads => ?_
    exact (ih (index + 1)).finish fun texts others => .cons reads others

/-! ## The three builders -/

def conditionTokens (b : Backend) (t : Table) : List Predicate → List Token
  | [] => []
  | p :: ps => words " WHERE " ++ (words " AND ").intercalate (clausesTokens b t 1 (p :: ps))

def limitTokens : Option Nat → List Token
  | none => []
  | some n => words " LIMIT " ++ words (toString n)

def selectTokens (b : Backend) (t : Table) (ps : List Predicate) (limit : Option Nat) :
    List Token :=
  words "SELECT * FROM " ++ (.name t.name :: conditionTokens b t ps ++ limitTokens limit)

theorem built_select (plain : PlainTypes b t) (ps : List Predicate) (limit : Option Nat) :
    Built (t.name :: ps.map (·.column)) (fun text => Reads b text (selectTokens b t ps limit))
      (select b t ps limit) := by
  rw [select.eq_def, ← List.singleton_append]
  refine (built_quote b t.name).andThen fun quoted named => ?_
  refine (built_clauses plain 1 ps).finish fun texts reads => ?_
  have wanted : Reads b
      (quoted ++ if texts.isEmpty then "" else " WHERE " ++ " AND ".intercalate texts)
      (.name t.name :: conditionTokens b t ps) := by
    cases ps with
    | nil =>
      cases reads
      rw [conditionTokens, List.isEmpty_nil, if_pos rfl, String.append_empty]
      exact named
    | cons p ps =>
      have separates : Separates b " AND " := by cases b <;> decide
      have joined := Reads.joined separates reads
      cases reads
      exact named.between (by cases b <;> decide) joined
  have first : Flows b "SELECT * FROM " (words "SELECT * FROM ") :=
    flows_words (by cases b <;> decide)
  rw [String.append_assoc, String.append_assoc, ← @String.append_assoc quoted]
  refine first.append_reads ?_
  cases limit with
  | none =>
    rw [limitTokens, List.append_nil, String.append_empty]
    exact wanted
  | some n =>
    exact wanted.between (by cases b <;> decide) (flows_words (inert_toString b n)).reads

def columnTokens (names : List String) : List (List Token) := names.map fun name => [.name name]

def valueTokens (b : Backend) (t : Table) : Nat → List String → List (List Token)
  | _, [] => []
  | index, name :: names =>
    placeTokens b index (t.column? name) :: valueTokens b t (index + 1) names

theorem built_columnTexts (plain : PlainTypes b t) (index : Nat) (names : List String) :
    Built names (fun texts => List.Forall₂ (Reads b) (texts.map (·.1)) (columnTokens names) ∧
        List.Forall₂ (Reads b) (texts.map (·.2)) (valueTokens b t index names))
      (columnTexts b t index names) := by
  induction names generalizing index with
  | nil => exact Built.done ⟨.nil, .nil⟩
  | cons name names ih =>
    rw [columnTexts]
    refine (built_quote b name).andThen fun quoted named => ?_
    refine (ih (index + 1)).finish fun texts others => ?_
    exact ⟨.cons named others.1, .cons (reads_placeholder plain index name) others.2⟩

def insertTokens (b : Backend) (t : Table) (names : List String) : List Token :=
  words "INSERT INTO " ++ (.name t.name :: (words " (" ++
    ((words ", ").intercalate (columnTokens names) ++ (words ") VALUES (" ++
      ((words ", ").intercalate (valueTokens b t 1 names) ++ words ")")))))

theorem built_insert (plain : PlainTypes b t) (row : Row) :
    Built (t.name :: row.values.keys)
      (fun text => Reads b text (insertTokens b t row.values.keys)) (insert b t row) := by
  have built : Built (row.values.keys ++ [t.name])
      (fun text => Reads b text (insertTokens b t row.values.keys)) (insert b t row) := by
    rw [insert]
    refine (built_columnTexts plain 1 row.values.keys).andThen fun texts reads => ?_
    refine (built_quote b t.name).finish fun quoted named => ?_
    have separates : Separates b ", " := by cases b <;> decide
    have columns := Reads.joined separates reads.1
    have values := Reads.joined separates reads.2
    have first : Flows b "INSERT INTO " (words "INSERT INTO ") :=
      flows_words (by cases b <;> decide)
    simp only [String.append_assoc]
    refine first.append_reads (named.between (by cases b <;> decide) ?_)
    refine columns.between (by cases b <;> decide) ?_
    exact values.words (by cases b <;> decide)
  refine built.of_mem fun name => ?_
  rw [List.mem_append, List.mem_singleton, List.mem_cons, or_comm]

def updateTokens (b : Backend) (t : Table) (column : String) : List Token :=
  words "UPDATE " ++ (.name t.name :: (words " SET " ++ (.name column :: (words " = " ++
    (placeTokens b 1 (t.column? column) ++ (words " WHERE " ++ (.name dnColumn :: (words " = " ++
      placeTokens b 2 (t.column? dnColumn)))))))))

theorem built_update (plain : PlainTypes b t) (column : String) :
    Built [t.name, column, dnColumn] (fun text => Reads b text (updateTokens b t column))
      (update b t column) := by
  have names : [t.name, column, dnColumn] = [t.name] ++ ([column] ++ [dnColumn]) := rfl
  rw [update, names]
  refine (built_quote b t.name).andThen fun quoted named => ?_
  refine (built_quote b column).andThen fun target targeted => ?_
  refine (built_quote b dnColumn).finish fun dn selected => ?_
  have first : Flows b "UPDATE " (words "UPDATE ") := flows_words (by cases b <;> decide)
  simp only [String.append_assoc]
  refine first.append_reads (named.between (by cases b <;> decide) ?_)
  refine targeted.between (by cases b <;> decide) ?_
  refine (reads_placeholder plain 1 column).between (by cases b <;> decide) ?_
  exact selected.between (by cases b <;> decide) (reads_placeholder plain 2 dnColumn)

/-! ## Names and places of the skeletons -/

def Token.solid : Token → Bool
  | .char _ => false
  | _ => true

def Token.place? : Token → Option String
  | .place text => some text
  | _ => none

/-- The names and places of a statement, in order. -/
def outline (ts : List Token) : List Token := ts.filter Token.solid

section Outline

variable (b : Backend) (t : Table) (index : Nat)

@[simp] theorem outline_append (ss ts : List Token) :
    outline (ss ++ ts) = outline ss ++ outline ts := List.filter_append ss ts

@[simp] theorem outline_name (name : String) (ts : List Token) :
    outline (.name name :: ts) = .name name :: outline ts := rfl

@[simp] theorem outline_place (text : String) (ts : List Token) :
    outline (.place text :: ts) = .place text :: outline ts := rfl

@[simp] theorem outline_nil : outline [] = [] := rfl

@[simp] theorem outline_words (text : String) : outline (words text) = [] := by
  rw [outline, words, List.filter_eq_nil_iff]
  intro token member
  obtain ⟨c, _, rfl⟩ := List.mem_map.1 member
  exact Bool.false_ne_true

theorem outline_intercalate {sep : List Token} (none : outline sep = []) (ls : List (List Token)) :
    outline (sep.intercalate ls) = ls.flatMap outline := by
  induction ls with
  | nil => rfl
  | cons l ls ih =>
    cases ls with
    | nil => simp
    | cons next ls =>
      rw [List.intercalate_cons_cons, outline_append, outline_append, none, ih, List.append_nil]
      rfl

@[simp] theorem outline_placeTokens (column : Option Column) :
    outline (placeTokens b index column) = [.place (place b index)] := by
  rw [placeTokens, outline_place]
  cases b with
  | mysql => rfl
  | pgsql =>
    rw [castTokens]
    cases column.filter needsCast with
    | none => rfl
    | some c => exact congrArg _ (outline_words _)

@[simp] theorem outline_textCastTokens (column : Option Column) :
    outline (textCastTokens b column) = [] := by
  cases b with
  | mysql => rfl
  | pgsql =>
    rw [textCastTokens]
    split
    · exact outline_words _
    · rfl

@[simp] theorem outline_clauseTokens (p : Predicate) :
    outline (clauseTokens b t index p) = [.name p.column, .place (place b index)] := by
  rw [clauseTokens]
  split <;> simp

/-- Each column with the place of its value behind it. -/
def paired (b : Backend) : Nat → List String → List Token
  | _, [] => []
  | index, name :: names => .name name :: .place (place b index) :: paired b (index + 1) names

theorem places_paired (names : List String) :
    (paired b index names).filterMap Token.place? =
      (List.range' index names.length).map (place b) := by
  induction names generalizing index with
  | nil => rfl
  | cons name names ih =>
    simp [paired, List.filterMap_cons, Token.place?, ih, List.range'_succ]

theorem outline_clausesTokens (ps : List Predicate) :
    (clausesTokens b t index ps).flatMap outline = paired b index (ps.map (·.column)) := by
  induction ps generalizing index with
  | nil => rfl
  | cons p ps ih => simp [clausesTokens, paired, ih]

theorem outline_conditionTokens (ps : List Predicate) :
    outline (conditionTokens b t ps) = paired b 1 (ps.map (·.column)) := by
  cases ps with
  | nil => rfl
  | cons p ps =>
    rw [conditionTokens, outline_append, outline_words,
      outline_intercalate (outline_words _), outline_clausesTokens]
    rfl

theorem outline_limitTokens (limit : Option Nat) : outline (limitTokens limit) = [] := by
  cases limit <;> simp [limitTokens]

theorem outline_columnTokens (names : List String) :
    (columnTokens names).flatMap outline = names.map .name := by
  induction names with
  | nil => rfl
  | cons name names ih => exact congrArg (Token.name name :: ·) ih

theorem outline_valueTokens (names : List String) :
    (valueTokens b t index names).flatMap outline =
      (List.range' index names.length).map fun k => .place (place b k) := by
  induction names generalizing index with
  | nil => rfl
  | cons name names ih => simp [valueTokens, ih, List.range'_succ]

end Outline

/-! ## Requests to a session -/

/-- What a session is asked of a table. -/
inductive Request where
  | select (predicates : List Predicate) (limit : Option Nat)
  | insert (row : Row)
  | update (dn column : String) (value : Value)

namespace Request

def statement (t : Table) (r : Request) (b : Backend) : Except Identifier.Fault String :=
  match r with
  | .select predicates limit => Statement.select b t predicates limit
  | .insert row => Statement.insert b t row
  | .update _ column _ => Statement.update b t column

/-- The values that are bound, in order, with their columns. -/
def bound : Request → List (String × Value)
  | .select predicates _ => predicates.map fun p => (p.column, p.operand)
  | .insert row => row.values.toList
  | .update dn column value => [(column, value), (dnColumn, .text dn)]

def columns (r : Request) : List String := r.bound.map (·.1)

def skeleton (b : Backend) (t : Table) : Request → List Token
  | .select predicates limit => selectTokens b t predicates limit
  | .insert row => insertTokens b t row.values.keys
  | .update _ column _ => updateTokens b t column

/-- The session after it has answered. -/
def after (t : Table) (r : Request) (s : Session) : Session :=
  match r with
  | .select predicates limit => Step.after (Session.select t predicates limit) s
  | .insert row => Step.after (Session.insert t row) s
  | .update dn column value => Step.after (Session.update t dn column value) s

/-- Where the columns of a request stand, and where the places of their values do. -/
def arranged (b : Backend) : Request → List Token
  | .insert row =>
    row.values.keys.map .name ++
      (List.range' 1 row.values.keys.length).map fun k => .place (place b k)
  | r => paired b 1 r.columns

theorem columns_select (predicates : List Predicate) (limit : Option Nat) :
    (Request.select predicates limit).columns = predicates.map (·.column) := by
  rw [columns, bound, List.map_map]
  rfl

theorem built_statement (plain : PlainTypes b t) (r : Request) :
    Built (t.name :: r.columns) (fun text => Reads b text (r.skeleton b t)) (r.statement t b) := by
  cases r with
  | select predicates limit =>
    rw [columns_select]
    exact built_select plain predicates limit
  | insert row => exact built_insert plain row
  | update dn column value => exact built_update plain column

theorem places_arranged (b : Backend) (r : Request) :
    (r.arranged b).filterMap Token.place? = (List.range' 1 r.bound.length).map (place b) := by
  have count : r.columns.length = r.bound.length := List.length_map _
  rw [← count]
  cases r with
  | insert row =>
    have names : (row.values.keys.map Token.name).filterMap Token.place? = [] := by
      simp [Token.place?]
    rw [arranged, List.filterMap_append, names, List.filterMap_map, List.nil_append]
    exact congrFun List.filterMap_eq_map _
  | select predicates limit => exact places_paired b 1 _
  | update dn column value => exact places_paired b 1 _

theorem outline_skeleton (b : Backend) (t : Table) (r : Request) :
    outline (r.skeleton b t) = .name t.name :: r.arranged b := by
  cases r with
  | select predicates limit =>
    simp [skeleton, selectTokens, outline_conditionTokens, outline_limitTokens, arranged,
      columns_select]
  | insert row =>
    simp [skeleton, insertTokens, outline_intercalate, outline_columnTokens, outline_valueTokens,
      arranged]
  | update dn column value => simp [skeleton, updateTokens, arranged, columns, bound, paired]

end Request

end RelDirectory.Statement

namespace RelDirectory.Session

open Statement (Request)

/-! ## What the server is asked -/

variable {α : Type}

@[simp] theorem effect_ask (e : ServerEvent) (s : Session) :
    Step.effect (ask e) s = (.ok (), { s with asked := s.asked ++ [e] }) := rfl

theorem effect_nextReply (s : Session) :
    ∃ reply script, Step.effect nextReply s = (.ok reply, { s with script := script }) := by
  rw [Step.effect, nextReply]
  split
  · exact ⟨_, _, rfl⟩
  · exact ⟨_, _, rfl⟩

theorem asked_send (statement : String) (parameters : List Value) (context : String)
    (s : Session) :
    (Step.after (send statement parameters context) s).asked =
      s.asked ++ [.execute statement (parameters.map (bind s.backend))] := by
  obtain ⟨reply, script, next⟩ := effect_nextReply
    { s with asked := s.asked ++ [.execute statement (parameters.map (bind s.backend))] }
  simp only [Step.after, send, Step.effect_bind, Step.effect_current, effect_ask, next]
  cases reply <;> rfl

theorem effect_build (statement : Backend → Except Identifier.Fault String) (s : Session) :
    Step.effect (build statement) s = ((statement s.backend).mapError .badIdentifier, s) := by
  simp only [build, Step.effect_bind, Step.effect_current, Step.effect_ofExcept]
  cases statement s.backend <;> rfl

/-- A call builds its statement, sends it with its values and asks for nothing else. -/
theorem asked_call {statement : Backend → Except Identifier.Fault String}
    (parameters : List Value) (context : String) {finish : ServerReply → Step Session α}
    (quiet : ∀ reply s, (Step.after (finish reply) s).asked = s.asked) (s : Session) :
    (Step.after (do
        let text ← build statement
        let reply ← send text parameters context
        finish reply) s).asked =
      match statement s.backend with
      | .ok text => s.asked ++ [.execute text (parameters.map (bind s.backend))]
      | .error _ => s.asked := by
  rw [Step.after, Step.effect_bind, effect_build]
  cases made : statement s.backend with
  | error fault => rfl
  | ok text =>
    have sent := asked_send text parameters context s
    simp only [Except.mapError, Step.effect_bind]
    rw [Step.after] at sent
    cases run : Step.effect (send text parameters context) s with
    | mk result s' =>
      rw [run] at sent
      cases result with
      | error e => exact sent
      | ok reply => exact (quiet reply s').trans sent

end RelDirectory.Session

namespace RelDirectory.Statement.Request

theorem asked_after (t : Table) (r : Request) (s : Session) :
    (r.after t s).asked =
      match r.statement t s.backend with
      | .ok text =>
        s.asked ++ [.execute text ((r.bound.map (·.2)).map (Session.bind s.backend))]
      | .error _ => s.asked := by
  cases r with
  | select predicates limit =>
    have operands : (Request.select predicates limit).bound.map (·.2) =
        predicates.map Predicate.operand := by
      rw [bound, List.map_map]
      rfl
    rw [operands]
    exact Session.asked_call _ _ (fun reply s => rfl) s
  | insert row => exact Session.asked_call _ _ (fun _ _ => rfl) s
  | update dn column value => exact Session.asked_call _ _ (fun _ _ => rfl) s

/-- The text of a request is read as the skeleton of it, whatever the names are, and comes with the
values that stand for its places. -/
theorem request_read (t : Table) (r : Request) (s : Session) (plain : PlainTypes s.backend t) :
    (∀ text, r.statement t s.backend = .ok text →
      tokens? s.backend text = some (r.skeleton s.backend t) ∧
      (r.after t s).asked =
        s.asked ++ [.execute text ((r.bound.map (·.2)).map (Session.bind s.backend))]) ∧
    outline (r.skeleton s.backend t) = .name t.name :: r.arranged s.backend ∧
    (r.arranged s.backend).filterMap Token.place? =
      (List.range' 1 r.bound.length).map (place s.backend) ∧
    (∀ fault, r.statement t s.backend = .error fault → (r.after t s).asked = s.asked) ∧
    ((∃ fault, r.statement t s.backend = .error fault) ↔ ∃ name ∈ t.name :: r.columns,
      name = "" ∨ Char.ofNat 0 ∈ name.toList ∨ 64 < name.utf8ByteSize) := by
  have built := built_statement plain r
  have asked := asked_after t r s
  refine ⟨?_, outline_skeleton _ t r, places_arranged _ r, ?_, ?_⟩
  · intro text made
    rw [made] at asked
    exact ⟨(built.sound text made).tokens?, asked⟩
  · intro fault made
    rw [made] at asked
    exact asked
  · refine built.fails.trans (exists_congr fun name => and_congr_right fun _ => ?_)
    rw [Permitted, not_and_or, not_and_or, not_not, not_not, Nat.not_le]

def oddTable : Table := ⟨"t\" --", [⟨"$1?", "jsonb"⟩]⟩

def oddRequest : Request := .select [⟨"$1?", .equals (.text "v")⟩] (some 2)

def oddStatement : String := "SELECT * FROM \"t\"\" --\" WHERE \"$1?\" = $1::jsonb LIMIT 2"

theorem request_read_odd : PlainTypes .pgsql oddTable ∧
    tokens? .pgsql oddStatement = some (oddRequest.skeleton .pgsql oddTable) ∧
    outline (oddRequest.skeleton .pgsql oddTable) =
      [.name "t\" --", .name "$1?", .place "$1"] := by
  have plain : PlainTypes .pgsql oddTable := fun _ => by decide
  have all := request_read oddTable oddRequest ⟨.pgsql, ⟨none, none, none, []⟩, []⟩ plain
  exact ⟨plain, (all.1 oddStatement (by decide +kernel)).1, all.2.1⟩

end RelDirectory.Statement.Request
