import Mathlib.Data.List.Nodup
import RelDirectory.Proofs.Base64
import RelDirectory.Proofs.Locator
import RelDirectory.Store.Session

/-!
# Tables from column reports

A server describes its tables by reports on columns.  Each run of reports on one table is taken for
a table, and of several tables of one name the last one is kept.  So every table that is reported
on is known with all its columns exactly if the reports on each table stand together
(`reflect_complete_iff`).  An order that does not tell letter case apart can mix the reports on two
tables, and then columns are lost (`not_complete_collated`).
-/
set_option autoImplicit false
namespace RelDirectory

namespace Table

variable {reports : List ColumnReport} {name : String}

def ColumnReport.described (r : ColumnReport) : Column := ⟨r.column, r.dataType⟩

/-- The columns that the reports give to a table, in their order. -/
def columnsOf (reports : List ColumnReport) (name : String) : List Column :=
  (reports.filter (·.table == name)).map (·.described)

/-- Between two reports on one table there is none on another. -/
def Together (reports : List ColumnReport) : Prop :=
  ∀ r x s, [r, x, s].Sublist reports → r.table = s.table → x.table = r.table

/-- Every table that is reported on is known with just the columns reported for it. -/
def Complete (reports : List ColumnReport) (tables : Keyed Table) : Prop :=
  ∀ r ∈ reports, tables.get? r.table = some ⟨r.table, columnsOf reports r.table⟩

/-! ## Runs of reports -/

theorem ofReports_cons_cons (r : ColumnReport) {next : ColumnReport} {rest : List ColumnReport}
    {t : Table} {ts : List Table} (told : ofReports (next :: rest) = t :: ts) :
    ofReports (r :: next :: rest) =
      if next.table = r.table then { t with columns := r.described :: t.columns } :: ts
      else ⟨r.table, [r.described]⟩ :: t :: ts := by
  rw [ofReports.eq_def]
  simp only [told]
  rfl

/-- The first table is the one that the first report is on. -/
theorem ofReports_cons (r : ColumnReport) (rest : List ColumnReport) :
    ∃ columns ts, ofReports (r :: rest) = ⟨r.table, columns⟩ :: ts := by
  induction rest generalizing r with
  | nil => exact ⟨_, _, rfl⟩
  | cons next rest ih =>
    obtain ⟨columns, ts, told⟩ := ih next
    rw [ofReports_cons_cons r told]
    split
    · rename_i same
      exact ⟨_, _, by rw [same]⟩
    · exact ⟨_, _, rfl⟩

/-- A report joins the table of the reports behind it, if the next one is on the same table, or it
begins a table of its own. -/
theorem ofReports_cases (r : ColumnReport) (rest : List ColumnReport) :
    (∃ next later columns ts, rest = next :: later ∧ next.table = r.table ∧
      ofReports rest = ⟨r.table, columns⟩ :: ts ∧
      ofReports (r :: rest) = ⟨r.table, r.described :: columns⟩ :: ts) ∨
    (∀ next ∈ rest.head?, next.table ≠ r.table) ∧
      ofReports (r :: rest) = ⟨r.table, [r.described]⟩ :: ofReports rest := by
  cases rest with
  | nil => exact Or.inr ⟨nofun, rfl⟩
  | cons next later =>
    obtain ⟨columns, ts, told⟩ := ofReports_cons next later
    have joined := ofReports_cons_cons r told
    by_cases same : next.table = r.table
    · rw [if_pos same, same] at joined
      rw [same] at told
      exact Or.inl ⟨next, later, columns, ts, rfl, same, told, joined⟩
    · rw [if_neg same, ← told] at joined
      refine Or.inr ⟨?_, joined⟩
      intro first given
      cases given
      exact same

theorem columns_ne_nil {t : Table} (member : t ∈ ofReports reports) : t.columns ≠ [] := by
  induction reports with
  | nil => cases member
  | cons r rest ih =>
    rcases ofReports_cases r rest with ⟨_, _, columns, ts, _, _, told, joined⟩ | ⟨_, own⟩
    · rw [joined] at member
      rcases List.mem_cons.1 member with rfl | member
      · exact List.cons_ne_nil _ _
      · exact ih (told ▸ List.mem_cons_of_mem _ member)
    · rw [own] at member
      rcases List.mem_cons.1 member with rfl | member
      · exact List.cons_ne_nil _ _
      · exact ih member

/-- The tables of one name have the reported columns between them. -/
theorem columns_ofReports (reports : List ColumnReport) (name : String) :
    ((ofReports reports).filter (·.name == name)).flatMap (·.columns) =
      columnsOf reports name := by
  induction reports with
  | nil => rfl
  | cons r rest ih =>
    rcases ofReports_cases r rest with ⟨_, _, columns, ts, _, _, told, joined⟩ | ⟨_, own⟩
    · rw [told] at ih
      rw [joined]
      by_cases same : r.table = name
      · simp_all [columnsOf, ColumnReport.described]
      · simp_all [columnsOf]
    · rw [own]
      by_cases same : r.table = name
      · simp_all [columnsOf, ColumnReport.described]
      · simp_all [columnsOf]

/-! ## Reports that stand together -/

theorem together_cons {r : ColumnReport} {rest : List ColumnReport} : Together (r :: rest) ↔
    Together rest ∧ ∀ x s, [x, s].Sublist rest → r.table = s.table → x.table = r.table := by
  constructor
  · intro together
    refine ⟨?_, ?_⟩
    · intro a x s inside same
      exact together a x s (inside.cons r) same
    · intro x s inside same
      exact together r x s (inside.cons_cons r) same
  · rintro ⟨later, first⟩ a x s inside same
    rcases List.sublist_cons_iff.1 inside with inside | ⟨_, cut, inside⟩
    · exact later a x s inside same
    · cases cut
      exact first x s inside same

theorem mem_names_iff {name : String} : name ∈ (ofReports reports).map (·.name) ↔
    name ∈ reports.map (·.table) := by
  induction reports with
  | nil => rfl
  | cons r rest ih =>
    rcases ofReports_cases r rest with ⟨_, _, columns, ts, _, _, told, joined⟩ | ⟨_, own⟩
    · rw [told] at ih
      simp only [joined, List.map_cons, List.mem_cons] at ih ⊢
      rw [← ih, or_self_left]
    · rw [own, List.map_cons, List.map_cons, List.mem_cons, List.mem_cons, ih]

/-- Each table is made once exactly if the reports on it stand together. -/
theorem nodup_names_iff : ((ofReports reports).map (·.name)).Nodup ↔ Together reports := by
  induction reports with
  | nil => simp [ofReports, Together]
  | cons r rest ih =>
    rw [together_cons, ← ih]
    rcases ofReports_cases r rest with
      ⟨next, later, columns, ts, rfl, same, told, joined⟩ | ⟨apart, own⟩
    · -- the next report is on the same table, so it bounds what may lie between
      rw [joined, told]
      refine ⟨fun distinct => ⟨distinct, ?_⟩, And.left⟩
      intro x s inside own
      have together : Together (next :: later) := ih.1 (told ▸ distinct)
      rcases List.sublist_cons_iff.1 inside with inside | ⟨_, cut, _⟩
      · exact (together next x s (inside.cons_cons next) (same.trans own)).trans same
      · cases cut
        exact same
    · rw [own, List.map_cons, List.nodup_cons, mem_names_iff, and_comm]
      refine and_congr_right fun _ => ⟨?_, ?_⟩
      · intro fresh x s inside same
        have member : s ∈ rest := inside.subset (by simp)
        exact absurd (List.mem_map.2 ⟨s, member, same.symm⟩) fresh
      · intro between member
        obtain ⟨s, member, same⟩ := List.mem_map.1 member
        cases rest with
        | nil => cases member
        | cons next later =>
          have differs := apart next rfl
          rcases List.mem_cons.1 member with rfl | member
          · exact differs same
          · have inside : [next, s].Sublist (next :: later) :=
              (List.singleton_sublist.2 member).cons_cons next
            exact differs (between next s inside same.symm)

/-! ## Tables that are known -/

theorem filter_eq_nil_iff : (ofReports reports).filter (·.name == name) = [] ↔
    name ∉ reports.map (·.table) := by
  rw [← mem_names_iff, List.filter_eq_nil_iff]
  simp

/-- The last of some tables has the columns of all only if there is no other. -/
theorem columns_eq_flatMap_iff {before : List Table} (last : Table)
    (filled : ∀ t ∈ before, t.columns ≠ []) :
    last.columns = (before ++ [last]).flatMap (·.columns) ↔ before = [] := by
  rw [List.flatMap_append, List.flatMap_singleton, List.self_eq_append_left,
    List.flatMap_eq_nil_iff]
  constructor
  · intro empty
    exact List.eq_nil_iff_forall_not_mem.2 fun t member => filled t member (empty t member)
  · rintro rfl t member
    cases member

/-- The table that is kept of those with one name has all its columns exactly if it is the only
one. -/
theorem kept_iff (reported : name ∈ reports.map (·.table)) :
    (Directory.keyed (ofReports reports)).get? name = some ⟨name, columnsOf reports name⟩ ↔
      ((ofReports reports).map (·.name)).count name ≤ 1 := by
  have counted : ((ofReports reports).map (·.name)).count name =
      ((ofReports reports).filter (·.name == name)).length := by
    rw [List.count, List.countP_map, List.countP_eq_length_filter]
    rfl
  have named : ∀ t ∈ (ofReports reports).filter (·.name == name), t.name = name :=
    fun t member => eq_of_beq (List.mem_filter.1 member).2
  have filled : ∀ t ∈ (ofReports reports).filter (·.name == name), t.columns ≠ [] :=
    fun t member => columns_ne_nil (List.mem_filter.1 member).1
  have present : (ofReports reports).filter (·.name == name) ≠ [] := fun none =>
    filter_eq_nil_iff.1 none reported
  rw [Directory.get?_keyed, counted, ← columns_ofReports]
  generalize (ofReports reports).filter (·.name == name) = same at named filled present
  obtain rfl | ⟨before, last, rfl⟩ := List.eq_nil_or_concat' same
  · exact absurd rfl present
  · have home : last.name = name := named last (by simp)
    have others : ∀ t ∈ before, t.columns ≠ [] := fun t member =>
      filled t (List.mem_append_left _ member)
    have only : (before ++ [last]).length ≤ 1 ↔ before = [] := by simp
    rw [List.getLast?_concat, Option.some.injEq, only, ← columns_eq_flatMap_iff last others]
    obtain ⟨own, columns⟩ := last
    subst home
    simp

/-- Every table is known with all its columns exactly if the reports on each stand together. -/
theorem complete_iff : Complete reports (Directory.keyed (ofReports reports)) ↔
    Together reports := by
  rw [← nodup_names_iff, List.nodup_iff_count_le_one]
  constructor
  · intro complete name
    by_cases reported : name ∈ reports.map (·.table)
    · refine (kept_iff reported).1 ?_
      obtain ⟨r, member, rfl⟩ := List.mem_map.1 reported
      exact complete r member
    · rw [← mem_names_iff] at reported
      rw [List.count_eq_zero.2 reported]
      exact Nat.zero_le 1
  · intro once r member
    exact (kept_iff (List.mem_map.2 ⟨r, member, rfl⟩)).2 (once r.table)

/-! ## Reports in the order of a collation -/

/-- Reports with the positions of their columns, in order of what a collation makes of the names of
their tables, and then of position. -/
def Collated (collation : String → String) (entries : List (ColumnReport × Nat)) : Prop :=
  entries.Pairwise fun a b => collation a.1.table < collation b.1.table ∨
    collation a.1.table = collation b.1.table ∧ a.2 ≤ b.2

instance (collation : String → String) (entries : List (ColumnReport × Nat)) :
    Decidable (Collated collation entries) :=
  inferInstanceAs (Decidable (List.Pairwise _ entries))

/-- A collation that tells the reported tables apart puts the reports on each together. -/
theorem together_of_collated {collation : String → String} {entries : List (ColumnReport × Nat)}
    (collated : Collated collation entries)
    (apart : ∀ a ∈ entries, ∀ b ∈ entries, collation a.1.table = collation b.1.table →
      a.1.table = b.1.table) : Together (entries.map (·.1)) := by
  intro r x s inside same
  obtain ⟨chosen, kept, images⟩ := List.sublist_map_iff.1 inside
  obtain ⟨a, _, rfl, rfl, others⟩ := List.map_eq_cons_iff.1 images.symm
  obtain ⟨b, _, rfl, rfl, remaining⟩ := List.map_eq_cons_iff.1 others
  obtain ⟨c, _, rfl, rfl, _⟩ := List.map_eq_cons_iff.1 remaining
  have ordered := collated.sublist kept
  have beforeB := (List.pairwise_cons.1 ordered).1 b (by simp)
  have beforeC := (List.pairwise_cons.1 (List.pairwise_cons.1 ordered).2).1 c (by simp)
  have level : collation a.1.table = collation b.1.table := by
    rcases beforeB with less | ⟨level, _⟩
    · -- a lesser name at the start would be lesser than itself at the end
      have below : collation a.1.table < collation c.1.table := by
        rcases beforeC with further | ⟨level, _⟩
        · exact String.lt_trans less further
        · exact level ▸ less
      rw [same] at below
      exact absurd below (String.lt_irrefl _)
    · exact level
  exact (apart a (kept.subset (by simp)) b (kept.subset (by simp)) level).symm

end Table

namespace Directory

open Step

variable {σ : Type} [Store σ]

/-- Tables that are asked for are kept by their names. -/
theorem effect_reflect_anew {d : Directory σ} {force : Bool}
    (anew : d.tables = none ∨ force = true) {found : List Table} {s : σ}
    (told : effect Store.reflect d.store = (.ok found, s)) :
    effect (reflect force) d = (.ok (), { d with store := s, tables := some (keyed found) }) := by
  have needed : (d.tables.isSome && !force) = false := by
    rcases anew with none | rfl
    · simp [none]
    · simp
  have asked : effect (onStore (Store.reflect (σ := σ))) d = (.ok found, { d with store := s }) := by
    rw [onStore, effect_onPart, told]
  simp only [reflect, discover, effect_bind, effect_current, effect_report, effect_replace, needed,
    Bool.false_eq_true, if_false, asked]

end Directory

namespace Session

open Step

/-- The reply gives rows that say these reports. -/
def Tells (b : Backend) (reply : ServerReply) (reports : List Table.ColumnReport) : Prop :=
  ∃ columns rows, reply = .rows columns rows ∧
    rows.mapM (fun cells => columnReport b (columns.zip cells)) = .ok reports

/-- The reply that says given reports. -/
def metadata (b : Backend) (reports : List Table.ColumnReport) : ServerReply :=
  .rows ((reflectionColumns b).map fun name => ⟨name, "VARCHAR"⟩)
    (reports.map fun r =>
      [r.table, r.column, r.dataType].map fun text => .bytes (Text.Utf8.encode text))

theorem columnReport_metadata (b : Backend) (r : Table.ColumnReport) :
    columnReport b (((reflectionColumns b).map fun name => ⟨name, "VARCHAR"⟩).zip
      ([r.table, r.column, r.dataType].map fun text => .bytes (Text.Utf8.encode text))) =
        .ok r := by
  have text : (Server.typeOf b "VARCHAR").2 = .text := by cases b <;> decide
  cases b <;>
    simp [columnReport, reflectionColumns, metadataText, text, Text.Utf8.decode?_encode]

/-- Any reports can be told of. -/
theorem tells_metadata (b : Backend) (reports : List Table.ColumnReport) :
    Tells b (metadata b reports) reports := by
  refine ⟨_, _, rfl, ?_⟩
  induction reports with
  | nil => rfl
  | cons r rest ih =>
    rw [List.map_cons, List.mapM_cons, columnReport_metadata, ih]
    rfl

theorem effect_send {s : Session} {reply : ServerReply} {replies : List ServerReply}
    (next : s.script.replies = reply :: replies) (fine : ∀ e, reply ≠ .error e)
    (statement context : String) : effect (send statement [] context) s =
      (.ok reply, { s with
        asked := s.asked ++ [.execute statement []], script.replies := replies }) := by
  obtain ⟨b, ⟨login, probe, ping, _⟩, asked⟩ := s
  cases next
  cases reply with
  | error e => exact absurd rfl (fine e)
  | _ => rfl

/-- A server that tells of columns is taken to have the tables that the reports make. -/
theorem effect_reflect {s : Session} {reply : ServerReply} {replies : List ServerReply}
    {reports : List Table.ColumnReport} (next : s.script.replies = reply :: replies)
    (told : Tells s.backend reply reports) :
    effect Session.reflect s = (.ok (Table.ofReports reports), { s with
      asked := s.asked ++ [.execute (reflectionQuery s.backend) []],
      script.replies := replies }) := by
  obtain ⟨columns, rows, rfl, read⟩ := told
  have sent := effect_send next nofun (reflectionQuery s.backend)
    ("reflecting " ++ s.backend.title ++ " tables")
  simp only [Session.reflect, effect_bind, effect_current, sent, effect_ofExcept, resultOf, read]
  rfl

end Session

namespace Directory

open Table (Together Complete Collated together_of_collated complete_iff)

/-- After a server was asked for its tables, every table that it reports on is known with all its
columns exactly if the reports on each table stand together; so they do in the order of a collation
that tells the tables apart. -/
theorem reflect_complete_iff (d : Directory Session) (force : Bool) (reply : ServerReply)
    (replies : List ServerReply) (reports : List Table.ColumnReport)
    (anew : d.tables = none ∨ force = true)
    (next : d.store.script.replies = reply :: replies)
    (told : Session.Tells d.store.backend reply reports) :
    ∃ tables, (reflect force d).result = .ok () ∧ (reflect force d).state.tables = some tables ∧
      (Complete reports tables ↔ Together reports) ∧
      ∀ collation entries, entries.map (·.1) = reports → Collated collation entries →
        (∀ a ∈ entries, ∀ b ∈ entries, collation a.1.table = collation b.1.table →
          a.1.table = b.1.table) → Complete reports tables := by
  have ran := effect_reflect_anew anew (Session.effect_reflect next told)
  refine ⟨_, Step.result_of_effect ran, congrArg tables (Step.state_of_effect ran), complete_iff, ?_⟩
  rintro collation entries rfl collated apart
  exact complete_iff.2 (together_of_collated collated apart)

/-- A directory whose server gives one reply. -/
def reporting (reply : ServerReply) : Directory Session :=
  new ⟨.mysql, ⟨none, none, none, [reply]⟩, []⟩ ⟨[], .empty, .empty, .empty⟩

/-- Two tables whose names differ in case only, in order of name. -/
def sortedEntries : List (Table.ColumnReport × Nat) :=
  [(⟨"Client", "dn", "varchar"⟩, 1), (⟨"Client", "uid", "varchar"⟩, 2),
    (⟨"client", "dn", "varchar"⟩, 1)]

theorem reflect_complete_iff_sorted :
    let reports := sortedEntries.map (·.1)
    let reply := Session.metadata .mysql reports
    Session.Tells .mysql reply reports ∧ Collated id sortedEntries ∧
      ∃ tables, (reflect false (reporting reply)).state.tables = some tables ∧
        Complete reports tables ∧ Together reports := by
  intro reports reply
  have told : Session.Tells .mysql reply reports := Session.tells_metadata .mysql reports
  have collated : Collated id sortedEntries := by decide
  obtain ⟨tables, _, known, exact, sorted⟩ :=
    reflect_complete_iff (reporting reply) false reply [] reports (Or.inl rfl) rfl told
  have complete := sorted id sortedEntries rfl collated fun _ _ _ _ same => same
  exact ⟨told, collated, tables, known, complete, exact.1 complete⟩

/-- The same tables with a column more, in order of position. -/
def mixedEntries : List (Table.ColumnReport × Nat) :=
  [(⟨"Client", "dn", "varchar"⟩, 1), (⟨"client", "dn", "varchar"⟩, 1),
    (⟨"Client", "uid", "varchar"⟩, 2), (⟨"client", "uid", "varchar"⟩, 2)]

/-- Reports in an order that does not tell letter case apart may lose columns. -/
theorem not_complete_collated : ¬ ∀ (d : Directory Session) (force : Bool) (reply : ServerReply)
    (replies : List ServerReply) (entries : List (Table.ColumnReport × Nat)),
    (d.tables = none ∨ force = true) → d.store.script.replies = reply :: replies →
      Session.Tells d.store.backend reply (entries.map (·.1)) →
        Collated Text.lower entries →
          ∃ tables, (reflect force d).state.tables = some tables ∧
            Complete (entries.map (·.1)) tables := by
  intro always
  let reports := mixedEntries.map (·.1)
  have told := Session.tells_metadata .mysql reports
  have collated : Collated Text.lower mixedEntries := by decide +kernel
  obtain ⟨tables, known, complete⟩ := always (reporting (Session.metadata .mysql reports)) false
    _ [] mixedEntries (Or.inl rfl) rfl told collated
  have ran := effect_reflect_anew (d := reporting (Session.metadata .mysql reports))
    (Or.inl rfl : none = none ∨ false = true) (Session.effect_reflect rfl told)
  have kept : (reflect false (reporting (Session.metadata .mysql reports))).state.tables =
      some (keyed (Table.ofReports reports)) := congrArg Directory.tables (Step.state_of_effect ran)
  rw [kept, Option.some.injEq] at known
  subst known
  have between : "client" = "Client" := complete_iff.1 complete ⟨"Client", "dn", "varchar"⟩
    ⟨"client", "dn", "varchar"⟩ ⟨"Client", "uid", "varchar"⟩ (by simp [mixedEntries]) rfl
  exact absurd between (by decide)

end Directory

end RelDirectory
