import Mathlib.Data.List.ReduceOption
import RelDirectory.Proofs.Effect
import RelDirectory.Proofs.Ldif.LetterCase
import RelDirectory.Proofs.Ldif.Reading

/-!
# Where records begin and end

Blank lines cut a text into blocks, and each record is made of one block alone: of its first `dn`
line and all lines behind it (`Makes`).  So the records have the names that the first `dn` lines of
their blocks give.  They are as many as the `dn` lines exactly if no block has two of these, for a
further `dn` line is an attribute of the record that is going on (`read_blocks`).
-/
set_option autoImplicit false
namespace RelDirectory.Ldif

open ChangeRecord (pushAll ofPairs sameLetters_congr)
open Text (sameLetters allBlank)

/-- The lines between blank ones. -/
def blocks (lines : List Line) : List (List Line) := lines.splitOnP fun line => allBlank line.text

/-- The name that a `dn` line gives. -/
def dn? (line : Line) : Option String :=
  match pair line with
  | .ok p => if sameLetters p.name "dn" then some p.value else none
  | .error _ => none

def dns (lines : List Line) : List String := lines.filterMap dn?

/-- The record that pairs yield, if they yield one: the first `dn` begins it, and there is nothing
but versions in front of that. -/
inductive Yields : List (String × String) → Option ChangeRecord → Prop
  | nothing : Yields [] none
  | version {name value : String} {pairs : List (String × String)} {found : Option ChangeRecord} :
      sameLetters name "version" = true → Yields pairs found → Yields ((name, value) :: pairs) found
  | record {name dn : String} {pairs : List (String × String)} :
      sameLetters name "dn" = true → Yields ((name, dn) :: pairs) (some (ofPairs dn pairs))

/-- What pairs make of a record that may be going on. -/
def Continues : Option ChangeRecord → List (String × String) → Option ChangeRecord → Prop
  | none, pairs, found => Yields pairs found
  | some r, pairs, found => found = some (pushAll r pairs)

/-- What a block makes of a record that may be going on: each of its lines says a pair, a lone `-`
apart. -/
def Goes (current : Option ChangeRecord) (block : List Line) (found : Option ChangeRecord) : Prop :=
  ∃ pairs, said block = some pairs ∧ Continues current pairs found

/-- The record that a block makes, if it makes one. -/
def Makes (block : List Line) (found : Option ChangeRecord) : Prop := Goes none block found

variable {lines block : List Line} {rest : List (List Line)} {line : Line}
  {current found : Option ChangeRecord} {pairs : List (String × String)} {name : String}

/-! ## Blocks -/

theorem blocks_blank (blank : allBlank line.text = true) (lines : List Line) :
    blocks (line :: lines) = [] :: blocks lines := by
  rw [blocks, List.splitOnP_cons_eq_if_modifyHead, if_pos blank]
  rfl

theorem blocks_solid (solid : allBlank line.text = false) (cut : blocks lines = block :: rest) :
    blocks (line :: lines) = (line :: block) :: rest := by
  rw [blocks] at cut
  rw [blocks, List.splitOnP_cons_eq_if_modifyHead, if_neg (by simp [solid]), cut]
  rfl

theorem exists_blocks (lines : List Line) : ∃ block rest, blocks lines = block :: rest :=
  List.exists_cons_of_ne_nil (List.splitOnP_ne_nil _ lines)

theorem dn?_of_blank (blank : allBlank line.text = true) : dn? line = none := by
  cases told : pair line with
  | error fault => rw [dn?, told]
  | ok p =>
    rw [not_allBlank_of_pair told] at blank
    cases blank

theorem dns_cons (line : Line) (lines : List Line) :
    dns (line :: lines) = (dn? line).toList ++ dns lines := by
  rw [dns, List.filterMap_cons]
  cases dn? line <;> rfl

/-- Every `dn` line stands in a block. -/
theorem dns_eq_flatMap (lines : List Line) : dns lines = (blocks lines).flatMap dns := by
  induction lines with
  | nil => rfl
  | cons line lines ih =>
    obtain ⟨block, rest, cut⟩ := exists_blocks lines
    rw [dns_cons, ih, cut]
    cases shape : allBlank line.text with
    | true =>
      rw [blocks_blank shape, dn?_of_blank shape, cut]
      rfl
    | false =>
      rw [blocks_solid shape cut, List.flatMap_cons, List.flatMap_cons, dns_cons,
        List.append_assoc]

/-! ## One line -/

theorem not_dn_of_version (version : sameLetters name "version" = true) :
    ¬ sameLetters name "dn" = true := by
  rw [sameLetters_congr version]
  decide

theorem yields_dn (named : sameLetters name "dn" = true) (value : String) :
    Yields ((name, value) :: pairs) found ↔ found = some (ofPairs value pairs) := by
  constructor
  · intro made
    cases made with
    | version version => exact absurd named (not_dn_of_version version)
    | record => rfl
  · rintro rfl
    exact .record named

theorem yields_version (version : sameLetters name "version" = true) (value : String) :
    Yields ((name, value) :: pairs) found ↔ Yields pairs found := by
  constructor
  · intro made
    cases made with
    | version _ made => exact made
    | record named => exact absurd named (not_dn_of_version version)
  · exact .version version

theorem not_yields (unnamed : ¬ sameLetters name "dn" = true)
    (unversioned : ¬ sameLetters name "version" = true) (value : String) :
    ¬ Yields ((name, value) :: pairs) found := by
  intro made
  cases made with
  | version version => exact unversioned version
  | record named => exact unnamed named

theorem goes_nil : Goes current [] found ↔ found = current := by
  constructor
  · rintro ⟨pairs, told, goes⟩
    cases told
    cases current with
    | some r => exact goes
    | none =>
      cases goes
      rfl
  · rintro rfl
    refine ⟨[], rfl, ?_⟩
    cases found with
    | some r => rfl
    | none => exact .nothing

theorem goes_pair {p : Pair} (told : pair line = .ok p) :
    Goes current (line :: block) found ↔
      ∃ pairs, said block = some pairs ∧
        Continues current ((p.name, p.value) :: pairs) found := by
  rw [Goes, said_pair told]
  constructor
  · rintro ⟨_, told, goes⟩
    obtain ⟨pairs, saying, rfl⟩ := Option.map_eq_some_iff.1 told
    exact ⟨pairs, saying, goes⟩
  · rintro ⟨pairs, saying, goes⟩
    exact ⟨_, Option.map_eq_some_iff.2 ⟨pairs, saying, rfl⟩, goes⟩

/-- A line takes the reader and the block that it stands in to the same place, or ends both. -/
theorem solid_cases (solid : allBlank line.text = false) (current : Option ChangeRecord) :
    (∃ next, (∀ lines, (records current (line :: lines)).1 = (records next lines).1) ∧
      ∀ block found, Goes current (line :: block) found ↔ Goes next block found) ∨
    ((∀ lines, ∃ e, (records current (line :: lines)).1 = .error e) ∧
      ∀ block found, ¬ Goes current (line :: block) found) := by
  by_cases dash : line.text = ['-']
  · refine .inl ⟨current, fun lines => by rw [records_dash dash], fun block found => ?_⟩
    rw [Goes, said_dash dash]
    rfl
  cases told : pair line with
  | error fault =>
    refine .inr ⟨fun lines => ⟨_, records_of_fault told (by simp [solid]) dash current lines⟩, ?_⟩
    rintro block found ⟨pairs, saying, -⟩
    rw [said_fault told dash] at saying
    cases saying
  | ok p =>
    simp only [records_of_pair told, goes_pair told]
    cases current with
    | some r => exact .inl ⟨some (r.push p.name p.value), fun _ => rfl, fun _ _ => Iff.rfl⟩
    | none =>
      by_cases named : sameLetters p.name "dn" = true
      · refine .inl ⟨some (.new p.value), fun _ => by simp only [named, if_true], ?_⟩
        simp only [Continues, yields_dn named]
        exact fun _ _ => Iff.rfl
      by_cases version : sameLetters p.name "version" = true
      · refine .inl ⟨none, fun _ => by simp only [if_neg named, version, if_true], ?_⟩
        simp only [Continues, yields_version version]
        exact fun _ _ => Iff.rfl
      · refine .inr ⟨fun _ => ⟨_, by simp only [if_neg named, if_neg version]; rfl⟩, ?_⟩
        rintro _ _ ⟨pairs, -, made⟩
        exact not_yields named version _ made

/-! ## All lines -/

theorem reduceOption_cons (found : Option ChangeRecord) (others : List (Option ChangeRecord)) :
    (found :: others).reduceOption = found.toList ++ others.reduceOption := by
  cases found with
  | none => exact List.reduceOption_cons_of_none others
  | some r => exact List.reduceOption_cons_of_some r others

/-- The lines are read exactly if the first block goes on with what is going on and each further
block makes a record or none. -/
theorem records_blocks {rs : List ChangeRecord} (cut : blocks lines = block :: rest) :
    (records current lines).1 = .ok rs ↔
      ∃ found others, Goes current block found ∧ List.Forall₂ Makes rest others ∧
        rs = (found :: others).reduceOption := by
  induction lines generalizing current block rest rs with
  | nil =>
    cases cut
    constructor
    · intro done
      cases done
      refine ⟨current, [], goes_nil.2 rfl, .nil, ?_⟩
      rw [reduceOption_cons, List.reduceOption_nil, List.append_nil]
    · rintro ⟨found, others, goes, made, rfl⟩
      cases made
      rw [goes_nil.1 goes, reduceOption_cons, List.reduceOption_nil, List.append_nil]
      rfl
  | cons line lines ih =>
    obtain ⟨first, more, tail⟩ := exists_blocks lines
    cases shape : allBlank line.text with
    | true =>
      rw [blocks_blank shape, tail] at cut
      cases cut
      rw [records_blank shape]
      constructor
      · intro run
        obtain ⟨rs, read, rfl⟩ := map_ok run
        obtain ⟨found, others, goes, made, rfl⟩ := (ih tail).1 read
        exact ⟨current, found :: others, goes_nil.2 rfl, .cons goes made,
          (reduceOption_cons current _).symm⟩
      · rintro ⟨found, _, goes, made, rfl⟩
        cases made with
        | @cons _ next _ others makes made =>
          rw [(ih tail).2 ⟨next, others, makes, made, rfl⟩, goes_nil.1 goes,
            reduceOption_cons current]
          rfl
    | false =>
      rw [blocks_solid shape tail] at cut
      cases cut
      rcases solid_cases shape current with ⟨next, reads, goes⟩ | ⟨fails, stuck⟩
      · rw [reads, ih tail]
        simp only [goes]
      · obtain ⟨e, fails⟩ := fails lines
        rw [fails]
        exact iff_of_false nofun fun ⟨found, _, goes, _⟩ => stuck first found goes

theorem records_ok_iff {rs : List ChangeRecord} :
    (records none lines).1 = .ok rs ↔
      ∃ found, List.Forall₂ Makes (blocks lines) found ∧ rs = found.reduceOption := by
  obtain ⟨block, rest, cut⟩ := exists_blocks lines
  rw [records_blocks cut, cut]
  constructor
  · rintro ⟨found, others, makes, made, same⟩
    exact ⟨found :: others, .cons makes made, same⟩
  · rintro ⟨_, made, same⟩
    cases made with
    | cons makes made => exact ⟨_, _, makes, made, same⟩

theorem exists_forall₂_iff {α β : Type} {R : α → β → Prop} {l : List α} :
    (∃ found, List.Forall₂ R l found) ↔ ∀ a ∈ l, ∃ b, R a b := by
  induction l with
  | nil => exact iff_of_true ⟨[], .nil⟩ nofun
  | cons a l ih =>
    rw [List.forall_mem_cons, ← ih]
    constructor
    · rintro ⟨_, made⟩
      cases made with
      | cons makes made => exact ⟨⟨_, makes⟩, _, made⟩
    · rintro ⟨⟨b, makes⟩, found, made⟩
      exact ⟨b :: found, .cons makes made⟩

/-! ## Names -/

/-- The names that pairs give. -/
def dnsOf (pairs : List (String × String)) : List String :=
  (pairs.filter fun p => sameLetters p.1 "dn").map (·.2)

theorem dnsOf_cons (name value : String) (pairs : List (String × String)) :
    dnsOf ((name, value) :: pairs) =
      if sameLetters name "dn" then value :: dnsOf pairs else dnsOf pairs := by
  rw [dnsOf, List.filter_cons]
  split <;> rfl

theorem dns_of_said (told : said block = some pairs) : dns block = dnsOf pairs := by
  induction block generalizing pairs with
  | nil =>
    cases told
    rfl
  | cons line block ih =>
    rw [dns_cons]
    by_cases dash : line.text = ['-']
    · rw [said_dash dash] at told
      have silent : dn? line = none := by simp [dn?, pair, dash, Text.cutAt]
      rw [silent, ih told]
      rfl
    cases lineSays : pair line with
    | error fault =>
      rw [said_fault lineSays dash] at told
      cases told
    | ok p =>
      rw [said_pair lineSays] at told
      obtain ⟨others, restSays, rfl⟩ := Option.map_eq_some_iff.1 told
      rw [ih restSays, dn?, lineSays, dnsOf_cons]
      by_cases named : sameLetters p.name "dn" = true
      · simp only [named, if_true, Option.toList_some, List.singleton_append]
      · simp only [if_neg named, Option.toList_none, List.nil_append]

/-- A record has the first name that its pairs give. -/
theorem dn_of_yields (made : Yields pairs found) : found.map (·.dn) = (dnsOf pairs).head? := by
  induction made with
  | nothing => rfl
  | version version _ ih => rw [ih, dnsOf_cons, if_neg (not_dn_of_version version)]
  | record named =>
    rw [dnsOf_cons, if_pos named, List.head?_cons, Option.map_some, ChangeRecord.dn_ofPairs]

theorem dn_of_makes (makes : Makes block found) : found.map (·.dn) = (dns block).head? := by
  obtain ⟨pairs, told, made⟩ := makes
  rw [dns_of_said told]
  exact dn_of_yields made

theorem map_dn_reduceOption {blocks : List (List Line)} {found : List (Option ChangeRecord)}
    (made : List.Forall₂ Makes blocks found) :
    found.reduceOption.map (·.dn) = blocks.filterMap fun block => (dns block).head? := by
  induction made with
  | nil => rfl
  | @cons block found blocks others makes made ih =>
    rw [reduceOption_cons, List.map_append, ih, List.filterMap_cons, ← dn_of_makes makes]
    cases found <;> rfl

section Firsts
variable {α β : Type} {f : α → List β} {l : List α}

theorem firsts_cons (a : α) (l : List α) :
    (a :: l).filterMap (fun a => (f a).head?) =
      (f a).take 1 ++ l.filterMap fun a => (f a).head? := by
  rw [List.filterMap_cons]
  cases f a <;> rfl

theorem firsts_sublist : (l.filterMap fun a => (f a).head?).Sublist (l.flatMap f) := by
  induction l with
  | nil => exact .slnil
  | cons a l ih =>
    rw [firsts_cons, List.flatMap_cons]
    exact (List.take_sublist 1 (f a)).append ih

theorem length_firsts_iff :
    (l.filterMap fun a => (f a).head?).length = (l.flatMap f).length ↔
      ∀ a ∈ l, (f a).length ≤ 1 := by
  induction l with
  | nil => exact iff_of_true rfl nofun
  | cons a l ih =>
    have short := (firsts_sublist (f := f) (l := l)).length_le
    rw [List.forall_mem_cons, ← ih, firsts_cons, List.flatMap_cons, List.length_append,
      List.length_append, List.length_take]
    omega

theorem firsts_eq_iff :
    l.filterMap (fun a => (f a).head?) = l.flatMap f ↔ ∀ a ∈ l, (f a).length ≤ 1 :=
  ⟨fun same => length_firsts_iff.1 (congrArg List.length same),
    fun single => firsts_sublist.eq_of_length (length_firsts_iff.2 single)⟩

end Firsts

/-! ## The text -/

theorem read_ok_iff {text : String} {rs : List ChangeRecord} :
    (read text).1 = .ok rs ↔ (records none (unfold text.toList)).1 = .ok rs := by
  simp only [read]
  constructor
  · exact mapError_ok
  · intro done
    rw [done]
    rfl

theorem read_error {text : String} {e : Failure} (failed : (read text).1 = .error e) :
    ∃ line fault, e = .ldif line fault := by
  simp only [read] at failed
  cases result : (records none (unfold text.toList)).1 with
  | ok rs => simp [result, Except.mapError] at failed
  | error place =>
    rw [result] at failed
    cases failed
    exact ⟨_, _, rfl⟩

/-- Each record of a text is made of one block, and every block is read or the text is rejected.
The records are those of all `dn` lines exactly if no block has two. -/
theorem read_blocks (text : String) :
    (∀ rs, (read text).1 = .ok rs ↔
      ∃ found, List.Forall₂ Makes (blocks (unfold text.toList)) found ∧
        rs = found.reduceOption) ∧
    ((∃ line fault, (read text).1 = .error (.ldif line fault)) ↔
      ∃ block ∈ blocks (unfold text.toList), ∀ found, ¬ Makes block found) ∧
    ∀ rs, (read text).1 = .ok rs →
      rs.map (·.dn) = (blocks (unfold text.toList)).filterMap (fun block => (dns block).head?) ∧
      (rs.length = (dns (unfold text.toList)).length ↔
        ∀ block ∈ blocks (unfold text.toList), (dns block).length ≤ 1) ∧
      (rs.map (·.dn) = dns (unfold text.toList) ↔
        ∀ block ∈ blocks (unfold text.toList), (dns block).length ≤ 1) := by
  have accepted (rs : List ChangeRecord) : (read text).1 = .ok rs ↔
      ∃ found, List.Forall₂ Makes (blocks (unfold text.toList)) found ∧
        rs = found.reduceOption := read_ok_iff.trans records_ok_iff
  refine ⟨accepted, ⟨?_, ?_⟩, ?_⟩
  · rintro ⟨line, fault, failed⟩
    by_contra! all
    obtain ⟨found, made⟩ := exists_forall₂_iff.2 all
    rw [(accepted _).2 ⟨found, made, rfl⟩] at failed
    cases failed
  · rintro ⟨block, member, nothing⟩
    cases result : (read text).1 with
    | ok rs =>
      obtain ⟨found, made, -⟩ := (accepted rs).1 result
      obtain ⟨r, makes⟩ := exists_forall₂_iff.1 ⟨found, made⟩ block member
      exact absurd makes (nothing r)
    | error e =>
      obtain ⟨line, fault, rfl⟩ := read_error result
      exact ⟨line, fault, rfl⟩
  · intro rs read
    obtain ⟨found, made, rfl⟩ := (accepted rs).1 read
    have named := map_dn_reduceOption made
    refine ⟨named, ?_, ?_⟩
    · rw [← List.length_map (·.dn), named, dns_eq_flatMap, length_firsts_iff]
    · rw [named, dns_eq_flatMap, firsts_eq_iff]

/-- Two entries with no blank line between them. -/
def runTogether : String :=
  "dn: inum=1,o=jans\nobjectClass: top\ndn: inum=2,o=jans\nobjectClass: top\n"

/-- The second `dn` line begins no record. -/
theorem not_read_dns :
    ¬ ∀ text rs, (read text).1 = .ok rs →
      rs.length = (dns (unfold text.toList)).length ∧
        rs.map (·.dn) = dns (unfold text.toList) := by
  intro all
  exact absurd (all runTogether _ rfl).1 (by decide +kernel)

end RelDirectory.Ldif
