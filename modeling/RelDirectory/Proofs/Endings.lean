import RelDirectory.Proofs.Like
import RelDirectory.Proofs.Locator

/-!
# Names found by their endings

The rows that an entry may be found in stand in one list, and what is found is the first of them
with just the name, or else the first whose `dn` the name fits at its end (`entryRow?_eq`).  In
the second case `%` and `_` in the name are wild, so the `dn` need not end with the name: a lookup
finds no more than endings exactly if it is not misled in this way, and on every store exactly if
the name has neither of the two characters (`find?_suffix_iff`).
-/
set_option autoImplicit false
namespace RelDirectory.Directory

open Step
open Memory (naming)
open Text (Pieces)

/-- The text of the row's `dn` ends with the name. -/
def EndsWith (dn : String) (row : Row) : Prop :=
  ∃ text, row.shownDn? = some text ∧ dn.toList <:+ text.toList

/-- The text of the row's `dn` ends with what the name stands for as a pattern. -/
def EndsLoosely (dn : String) (row : Row) : Prop :=
  ∃ text rest, row.shownDn? = some text ∧ rest <:+ text.toList ∧
    Pieces Like.Takes dn.toList rest

/-- The rows of the tables that can name entries, in the order in which they are looked at. -/
def candidates (m : Memory) (tables : Keyed Table) : List Row :=
  (naming tables).flatMap fun t => m.rows t.name

/-- Whatever is found ends with the name, and where no row does nothing is found. -/
def SuffixLookup (d : Directory Memory) (dn : String) : Prop :=
  (∀ row, (find? dn d).result = .ok (some row) → EndsWith dn row) ∧
    ∀ tables, (knownTables d).result = .ok tables →
      (∀ row ∈ candidates d.store tables, ¬ EndsWith dn row) → (find? dn d).result = .ok none

/-- No row has just this name, and the first that the name fits as a pattern does not end with
it. -/
def Misled (d : Directory Memory) (dn : String) : Prop :=
  ∃ tables before row behind, (knownTables d).result = .ok tables ∧
    candidates d.store tables = before ++ row :: behind ∧
    (∀ other ∈ candidates d.store tables, other.shownDn? ≠ some dn) ∧
    (∀ other ∈ before, ¬ EndsLoosely dn other) ∧ EndsLoosely dn row ∧ ¬ EndsWith dn row

/-- A name without the characters that are wild in patterns. -/
def Plain (dn : String) : Prop := ∀ c ∈ dn.toList, c ≠ '%' ∧ c ≠ '_'

instance (dn : String) : Decidable (Plain dn) :=
  List.decidableBAll (fun c => c ≠ '%' ∧ c ≠ '_') dn.toList

variable {m : Memory} {tables : Keyed Table} {d : Directory Memory} {dn : String} {row : Row}

/-! ## What the two tests ask of a row -/

theorem passes_exactly_iff : Memory.passes (exactly dn) (row.get? dnColumn) = true ↔
    row.shownDn? = some dn :=
  Memory.passes_equals_iff

theorem passes_endingIn_iff : Memory.passes (endingIn dn) (row.get? dnColumn) = true ↔
    EndsLoosely dn row := by
  simp only [endingIn, Memory.passes_like_iff, Like.matchesPattern_ending_iff, EndsLoosely,
    Row.shownDn?, exists_and_left]

theorem endsWith_of_shownDn? (named : row.shownDn? = some dn) : EndsWith dn row :=
  ⟨dn, named, List.suffix_refl _⟩

theorem endsWith_of_plain (plain : Plain dn) (ends : EndsLoosely dn row) : EndsWith dn row := by
  obtain ⟨text, rest, named, suffix, cut⟩ := ends
  rw [(Like.fits_plain_iff plain).1 cut] at suffix
  exact ⟨text, named, suffix⟩

/-! ## The row that is found -/

theorem firstRow_eq_find? (test : Test) : m.firstRow test (naming tables) =
    (candidates m tables).find? fun row => Memory.passes test (row.get? dnColumn) := by
  rw [candidates, List.find?_flatMap]
  rfl

theorem entryRow?_eq (named : Text.allBlank dn.toList = false) : m.entryRow? tables dn =
    ((candidates m tables).find? fun row => Memory.passes (exactly dn) (row.get? dnColumn)).or
      ((candidates m tables).find? fun row =>
        Memory.passes (endingIn dn) (row.get? dnColumn)) := by
  simp only [Memory.entryRow?, named, Bool.false_eq_true, if_false, firstRow_eq_find?]

/-- What is found has just the name, or is the first that the name fits as a pattern. -/
theorem entryRow?_cases (named : Text.allBlank dn.toList = false)
    (found : m.entryRow? tables dn = some row) :
    row ∈ candidates m tables ∧ (row.shownDn? = some dn ∨
      ((∀ other ∈ candidates m tables, other.shownDn? ≠ some dn) ∧ EndsLoosely dn row ∧
        ∃ before behind, candidates m tables = before ++ row :: behind ∧
          ∀ other ∈ before, ¬ EndsLoosely dn other)) := by
  rw [entryRow?_eq named] at found
  rcases Option.or_eq_some_iff.1 found with found | ⟨none, found⟩
  · have passed := List.find?_some found
    exact ⟨List.mem_of_find?_eq_some found, Or.inl (passes_exactly_iff.1 passed)⟩
  · refine ⟨List.mem_of_find?_eq_some found, Or.inr ⟨?_, ?_, ?_⟩⟩
    · intro other member same
      have failed := List.find?_eq_none.1 none other member
      exact failed (passes_exactly_iff.2 same)
    · have passed := List.find?_some found
      exact passes_endingIn_iff.1 passed
    · obtain ⟨_, before, behind, split, earlier⟩ := List.find?_eq_some_iff_append.1 found
      refine ⟨before, behind, split, ?_⟩
      intro other member ends
      have failed := earlier other member
      rw [passes_endingIn_iff.2 ends] at failed
      cases failed

theorem entryRow?_of_misled (named : Text.allBlank dn.toList = false) {before behind : List Row}
    (split : candidates m tables = before ++ row :: behind)
    (nobody : ∀ other ∈ candidates m tables, other.shownDn? ≠ some dn)
    (earlier : ∀ other ∈ before, ¬ EndsLoosely dn other) (ends : EndsLoosely dn row) :
    m.entryRow? tables dn = some row := by
  have none : (candidates m tables).find? (fun row =>
      Memory.passes (exactly dn) (row.get? dnColumn)) = none := by
    refine List.find?_eq_none.2 ?_
    intro other member passed
    exact nobody other member (passes_exactly_iff.1 passed)
  rw [entryRow?_eq named, none, Option.none_or]
  refine List.find?_eq_some_iff_append.2 ⟨passes_endingIn_iff.2 ends, before, behind, split, ?_⟩
  intro other member
  rw [Bool.not_eq_true', ← Bool.not_eq_true]
  exact fun passed => earlier other member (passes_endingIn_iff.1 passed)

theorem suffixLookup_iff (named : Text.allBlank dn.toList = false) :
    SuffixLookup d dn ↔ ¬ Misled d dn := by
  rcases knownTables_cases d with ⟨e, failed⟩ | ⟨d', tables, asked, store, known⟩
  · -- without tables the lookup fails too
    have answer := result_of_effect failed
    have ran := result_of_effect (effect_find?_error failed named)
    constructor
    · rintro _ ⟨_, _, _, _, told, _⟩
      rw [answer] at told
      cases told
    · intro _
      refine ⟨?_, ?_⟩
      · intro row found
        rw [ran] at found
        cases found
      · intro tables told
        rw [answer] at told
        cases told
  · have answer := result_of_effect asked
    have ran := result_of_effect (effect_find?_asked asked known named)
    rw [store] at ran
    constructor
    · rintro ⟨finds, _⟩ ⟨tables', before, row, behind, told, split, nobody, earlier, ends, not⟩
      rw [answer, Except.ok.injEq] at told
      subst told
      rw [entryRow?_of_misled named split nobody earlier ends] at ran
      exact not (finds row ran)
    · intro straight
      have finds : ∀ row, d.store.entryRow? tables dn = some row → EndsWith dn row := by
        intro row found
        rcases (entryRow?_cases named found).2 with same | misled
        · exact endsWith_of_shownDn? same
        · obtain ⟨nobody, ends, before, behind, split, earlier⟩ := misled
          by_contra not
          exact straight
            ⟨tables, before, row, behind, answer, split, nobody, earlier, ends, not⟩
      refine ⟨?_, ?_⟩
      · intro row found
        rw [ran, Except.ok.injEq] at found
        exact finds row found
      · intro tables' told nobody
        rw [answer, Except.ok.injEq] at told
        subst told
        rw [ran, Except.ok.injEq]
        cases found : d.store.entryRow? tables dn with
        | none => rfl
        | some row => exact absurd (finds row found) (nobody row (entryRow?_cases named found).1)

/-! ## Names that mislead -/

theorem candidates_ofClients {rows : List Row}
    (home : ∀ row ∈ rows, row.table = Memory.clients.name) :
    candidates (ofClients rows).store (keyed [Memory.clients]) = rows := by
  have named : naming (keyed [Memory.clients]) = [Memory.clients] := by decide
  rw [candidates, named, List.flatMap_singleton]
  exact (Memory.rows_single home).1

theorem shownDn?_client (dn displayName : String) (uris : List String) :
    (Memory.client dn displayName uris).shownDn? = some dn := by
  have afterName : dnColumn ≠ "displayName" := by decide
  have afterUris : dnColumn ≠ "jansRedirectURI" := by decide
  simp only [Row.shownDn?, Memory.client, Row.get?_set, if_neg afterName, if_neg afterUris, if_true]
  rfl

/-- A name with a wild character is misled by a client called the same but for this character. -/
theorem misled_of_wild {before behind : List Char} {wild : Char}
    (split : dn.toList = before ++ wild :: behind) (any : wild = '%' ∨ wild = '_') :
    ∃ d : Directory Memory, Misled d dn := by
  let text := String.ofList (before ++ 'x' :: behind)
  have chars : text.toList = before ++ 'x' :: behind := String.toList_ofList
  have other : wild ≠ 'x' := by
    rcases any with rfl | rfl <;> decide
  have different : dn.toList ≠ text.toList := by
    rw [split, chars]
    intro same
    exact other (List.cons.inj (List.append_cancel_left same)).1
  have lengths : dn.toList.length = text.toList.length := by
    rw [split, chars]
    simp
  have fits : Pieces Like.Takes dn.toList text.toList := by
    rw [split, chars]
    exact Like.fits_wild any before behind 'x'
  have shown := shownDn?_client text "" []
  have home : ∀ row ∈ [Memory.client text "" []], row.table = Memory.clients.name := by
    intro row member
    rw [List.mem_singleton.1 member]
    rfl
  have rows := candidates_ofClients home
  refine ⟨ofClients [Memory.client text "" []], keyed [Memory.clients], [], _, [],
    result_of_effect (effect_knownTables_single home _), rows, ?_, nofun, ?_, ?_⟩
  · rw [rows]
    intro row member same
    rw [List.mem_singleton.1 member, shown, Option.some.injEq] at same
    exact different (congrArg String.toList same.symm)
  · exact ⟨text, text.toList, shown, List.suffix_refl _, fits⟩
  · rintro ⟨text', named, suffix⟩
    rw [shown, Option.some.injEq] at named
    subst named
    exact different (suffix.eq_of_length lengths)

/-- A lookup finds only what ends with the name, exactly if it is not misled; it does so on every
store exactly if the name has no `%` and no `_`. -/
theorem find?_suffix_iff (dn : String) (named : Text.allBlank dn.toList = false) :
    (∀ d : Directory Memory, SuffixLookup d dn ↔ ¬ Misled d dn) ∧
      ((∀ d : Directory Memory, SuffixLookup d dn) ↔ Plain dn) := by
  refine ⟨fun d => suffixLookup_iff named, ?_, ?_⟩
  · intro always c member
    refine ⟨?_, ?_⟩
    all_goals
      intro wild
      obtain ⟨before, behind, split⟩ := List.append_of_mem member
      obtain ⟨d, misled⟩ := misled_of_wild split (by simp [wild])
      exact (suffixLookup_iff named).1 (always d) misled
  · intro plain d
    refine (suffixLookup_iff named).2 ?_
    rintro ⟨_, _, _, _, _, _, _, _, ends, not⟩
    exact not (endsWith_of_plain plain ends)

def jansClient : List Row := [Memory.client "inum=1,o=jans" "one" []]

theorem suffixLookup_jans : Text.allBlank "o=jans".toList = false ∧
    SuffixLookup (ofClients jansClient) "o=jans" := by
  have named : Text.allBlank "o=jans".toList = false := by decide
  have plain : Plain "o=jans" := by decide
  exact ⟨named, (find?_suffix_iff "o=jans" named).2.2 plain (ofClients jansClient)⟩

/-- A lookup may find a row whose `dn` does not end with the name: `o=j_ns` finds a client below
`o=jans`. -/
theorem not_suffixLookup : ¬ ∀ (d : Directory Memory) (dn : String),
    Text.allBlank dn.toList = false → SuffixLookup d dn := by
  intro always
  have named : Text.allBlank "o=j_ns".toList = false := by decide
  have found : (find? "o=j_ns" (ofClients jansClient)).result =
      .ok (some (Memory.client "inum=1,o=jans" "one" [])) := by decide +kernel
  obtain ⟨text, shown, suffix⟩ := (always (ofClients jansClient) "o=j_ns" named).1 _ found
  rw [shownDn?_client, Option.some.injEq] at shown
  subst shown
  exact absurd suffix (by decide)

end RelDirectory.Directory
