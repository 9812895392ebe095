import Mathlib.Data.List.Forall2
import RelDirectory.Statement

/-!
# Statements as they are read

A server reads a statement one character after the other (`tokens?`): a name ends at the first mark
that is not doubled, and a place for a parameter is a sign outside names, which a number follows
where places are numbered.  A text `Reads` as tokens if it does in front of everything that does
not change its last token.  Quoted names, places and plain words do (`reads_quoted`,
`reads_place`, `flows_words`), and so do the texts that are put together from such
(`Reads.append`, `Reads.joined`).
-/
set_option autoImplicit false
namespace RelDirectory.Statement

/-- A character of the statement itself, a name without its marks or a place for a parameter. -/
inductive Token where
  | char (c : Char)
  | name (name : String)
  | place (text : String)
deriving DecidableEq

/-- Where the reader is: behind a mark in a name, the next character tells if the name ended. -/
inductive Mode where
  | outside
  | inside (soFar : List Char)
  | closing (soFar : List Char)
  | numbering (soFar : List Char)

/-- What begins a place for a parameter. -/
def sign : Backend → Char
  | .mysql => '?'
  | .pgsql => '$'

def opening (b : Backend) (c : Char) : List Token × Mode :=
  if c = Identifier.mark b then ([], .inside [])
  else if c = sign b then
    match b with
    | .mysql => ([.place "?"], .outside)
    | .pgsql => ([], .numbering ['$'])
  else ([.char c], .outside)

/-- A token that ended, and what the next character is. -/
def ending (b : Backend) (ended : Token) (c : Char) : List Token × Mode :=
  (ended :: (opening b c).1, (opening b c).2)

def advance (b : Backend) : Mode → Char → List Token × Mode
  | .outside, c => opening b c
  | .inside soFar, c =>
    if c = Identifier.mark b then ([], .closing soFar) else ([], .inside (soFar ++ [c]))
  | .closing soFar, c =>
    if c = Identifier.mark b then ([], .inside (soFar ++ [c]))
    else ending b (.name (String.ofList soFar)) c
  | .numbering soFar, c =>
    if c.isDigit then ([], .numbering (soFar ++ [c]))
    else ending b (.place (String.ofList soFar)) c

def finish : Mode → Option (List Token)
  | .outside => some []
  | .inside _ => none
  | .closing soFar => some [.name (String.ofList soFar)]
  | .numbering soFar => some [.place (String.ofList soFar)]

def tokensFrom (b : Backend) : Mode → List Char → Option (List Token)
  | mode, [] => finish mode
  | mode, c :: cs =>
    (tokensFrom b (advance b mode c).2 cs).map ((advance b mode c).1 ++ ·)

/-- The tokens of a statement, unless it ends inside a name. -/
def tokens? (b : Backend) (statement : String) : Option (List Token) :=
  tokensFrom b .outside statement.toList

/-! ## One piece after the other -/

variable {b : Backend}

/-- What can stand behind a name or a place without becoming a part of it. -/
def Loose (b : Backend) (rest : List Char) : Prop :=
  ∀ c ∈ rest.head?, c ≠ Identifier.mark b ∧ c.isDigit = false

theorem loose_append {front : List Char} (nonempty : front ≠ []) (loose : Loose b front)
    (rest : List Char) : Loose b (front ++ rest) := by
  rw [Loose, List.head?_append_of_ne_nil _ nonempty]
  exact loose

section Silent

variable {c : Char} (soFar : List Char)

theorem advance_mark :
    advance b (.inside soFar) (Identifier.mark b) = ([], .closing soFar) := if_pos rfl

theorem advance_doubled :
    advance b (.closing soFar) (Identifier.mark b) = ([], .inside (soFar ++ [Identifier.mark b])) :=
  if_pos rfl

theorem advance_inside (other : c ≠ Identifier.mark b) :
    advance b (.inside soFar) c = ([], .inside (soFar ++ [c])) := if_neg other

theorem advance_digit (digit : c.isDigit = true) :
    advance b (.numbering soFar) c = ([], .numbering (soFar ++ [c])) := if_pos digit

end Silent

theorem tokensFrom_silent {mode next : Mode} {c : Char} (step : advance b mode c = ([], next))
    (cs : List Char) : tokensFrom b mode (c :: cs) = tokensFrom b next cs := by
  rw [tokensFrom, step]
  exact Option.map_id_apply

/-- A token that ends at the end of the text or where something loose follows. -/
theorem tokensFrom_ending {mode : Mode} {ended : Token} {rest : List Char}
    (last : finish mode = some [ended])
    (ends : ∀ c ∈ rest.head?, advance b mode c = ending b ended c) :
    tokensFrom b mode rest = (tokensFrom b .outside rest).map ([ended] ++ ·) := by
  cases rest with
  | nil => exact last
  | cons c cs =>
    rw [tokensFrom, tokensFrom, ends c rfl, Option.map_map]
    rfl

theorem tokensFrom_closing (name : List Char) {rest : List Char} (loose : Loose b rest) :
    tokensFrom b (.closing name) rest =
      (tokensFrom b .outside rest).map ([Token.name (String.ofList name)] ++ ·) :=
  tokensFrom_ending rfl fun c first => if_neg (loose c first).1

theorem tokensFrom_numbering (digits : List Char) {rest : List Char} (loose : Loose b rest) :
    tokensFrom b (.numbering digits) rest =
      (tokensFrom b .outside rest).map ([Token.place (String.ofList digits)] ++ ·) := by
  refine tokensFrom_ending rfl fun c first => if_neg ?_
  rw [(loose c first).2]
  exact Bool.false_ne_true

/-- Doubled marks are read as single ones, up to the mark that ends the name. -/
theorem tokensFrom_inside (soFar name rest : List Char) :
    tokensFrom b (.inside soFar)
        (Text.replaceChar (Identifier.mark b) [Identifier.mark b, Identifier.mark b] name ++
          Identifier.mark b :: rest) =
      tokensFrom b (.closing (soFar ++ name)) rest := by
  induction name generalizing soFar with
  | nil =>
    rw [List.append_nil]
    exact tokensFrom_silent (advance_mark soFar) rest
  | cons c name ih =>
    rw [Text.replaceChar, List.flatMap_cons, List.append_assoc, ← Text.replaceChar]
    have moved : soFar ++ c :: name = soFar ++ [c] ++ name := by simp
    rw [moved, ← ih]
    by_cases same : c = Identifier.mark b
    · subst same
      rw [if_pos rfl]
      exact (tokensFrom_silent (advance_mark soFar) _).trans
        (tokensFrom_silent (advance_doubled soFar) _)
    · rw [if_neg same]
      exact tokensFrom_silent (advance_inside soFar same) _

theorem tokensFrom_digits (soFar : List Char) {digits : List Char}
    (numeric : ∀ c ∈ digits, c.isDigit = true) (rest : List Char) :
    tokensFrom b (.numbering soFar) (digits ++ rest) =
      tokensFrom b (.numbering (soFar ++ digits)) rest := by
  induction digits generalizing soFar with
  | nil => rw [List.append_nil, List.nil_append]
  | cons c digits ih =>
    obtain ⟨here, there⟩ := List.forall_mem_cons.1 numeric
    rw [List.cons_append, tokensFrom_silent (advance_digit soFar here), ih _ there]
    simp

/-! ## Texts and their tokens -/

/-- Read in front of anything that is loose, the text gives the tokens. -/
def Reads (b : Backend) (text : String) (tokens : List Token) : Prop :=
  ∀ rest, Loose b rest →
    tokensFrom b .outside (text.toList ++ rest) = (tokensFrom b .outside rest).map (tokens ++ ·)

/-- Read in front of anything at all. -/
def Flows (b : Backend) (text : String) (tokens : List Token) : Prop :=
  ∀ rest,
    tokensFrom b .outside (text.toList ++ rest) = (tokensFrom b .outside rest).map (tokens ++ ·)

variable {s t : String} {ss ts : List Token}

theorem Flows.reads (flows : Flows b s ss) : Reads b s ss := fun rest _ => flows rest

theorem Flows.append (first : Flows b s ss) (second : Flows b t ts) :
    Flows b (s ++ t) (ss ++ ts) := by
  intro rest
  rw [String.toList_append, List.append_assoc, first, second, Option.map_map]
  exact congrArg (Option.map · _) (funext fun _ => (List.append_assoc _ _ _).symm)

theorem Flows.append_reads (first : Flows b s ss) (second : Reads b t ts) :
    Reads b (s ++ t) (ss ++ ts) := by
  intro rest loose
  rw [String.toList_append, List.append_assoc, first, second rest loose, Option.map_map]
  exact congrArg (Option.map · _) (funext fun _ => (List.append_assoc _ _ _).symm)

theorem Reads.append (first : Reads b s ss) (loose : Loose b t.toList) (nonempty : t ≠ "")
    (second : Reads b t ts) : Reads b (s ++ t) (ss ++ ts) := by
  intro rest after
  have behind := loose_append (mt String.toList_eq_nil_iff.1 nonempty) loose rest
  rw [String.toList_append, List.append_assoc, first _ behind, second rest after, Option.map_map]
  exact congrArg (Option.map · _) (funext fun _ => (List.append_assoc _ _ _).symm)

theorem Reads.tokens? (reads : Reads b s ss) : tokens? b s = some ss := by
  have whole := reads [] nofun
  rw [List.append_nil] at whole
  rw [Statement.tokens?, whole]
  simp [tokensFrom, finish]

def words (text : String) : List Token := text.toList.map .char

/-- The text has no marks and no signs. -/
def Inert (b : Backend) (text : String) : Prop :=
  ∀ c ∈ text.toList, c ≠ Identifier.mark b ∧ c ≠ sign b

theorem tokensFrom_words {cs : List Char}
    (inert : ∀ c ∈ cs, c ≠ Identifier.mark b ∧ c ≠ sign b) (rest : List Char) :
    tokensFrom b .outside (cs ++ rest) =
      (tokensFrom b .outside rest).map (cs.map Token.char ++ ·) := by
  induction cs with
  | nil => exact Option.map_id_apply.symm
  | cons c cs ih =>
    obtain ⟨⟨noMark, noSign⟩, there⟩ := List.forall_mem_cons.1 inert
    have step : advance b .outside c = ([.char c], .outside) :=
      (if_neg noMark).trans (if_neg noSign)
    rw [List.cons_append, tokensFrom, step, ih there, Option.map_map]
    rfl

theorem flows_words {text : String} (inert : Inert b text) : Flows b text (words text) :=
  tokensFrom_words inert

theorem reads_quoted {name quoted : String} (made : Identifier.quote b name = .ok quoted) :
    Reads b quoted [.name name] := by
  intro rest loose
  have text : quoted.toList = Identifier.enclose (Identifier.mark b) name.toList := by
    rw [Identifier.quote] at made
    cases valid : Identifier.validate name with
    | error fault => rw [valid] at made; cases made
    | ok _ =>
      rw [valid] at made
      cases made
      rw [String.toList_ofList]
  have opened : advance b .outside (Identifier.mark b) = ([], .inside []) := if_pos rfl
  rw [text, Identifier.enclose, List.cons_append, List.append_assoc, tokensFrom_silent opened,
    List.singleton_append, tokensFrom_inside, List.nil_append, tokensFrom_closing _ loose,
    String.ofList_toList]

/-- How a place is written. -/
def place (b : Backend) (index : Nat) : String :=
  match b with
  | .mysql => "?"
  | .pgsql => "$" ++ toString index

theorem isDigit_of_mem_toString {n : Nat} {c : Char} (member : c ∈ (toString n).toList) :
    c.isDigit = true := by
  have digits : (toString n).toList = Nat.toDigits 10 n := Nat.toList_repr
  rw [digits] at member
  exact Nat.isDigit_of_mem_toDigits (by decide) (by decide) member

theorem reads_place (b : Backend) (index : Nat) :
    Reads b (place b index) [.place (place b index)] := by
  intro rest loose
  cases b with
  | mysql =>
    have text : (place .mysql index).toList = ['?'] := by simp [place]
    rw [text]
    rfl
  | pgsql =>
    have opened : advance .pgsql .outside '$' = ([], .numbering ['$']) := rfl
    have text : ("$" ++ toString index).toList = '$' :: (toString index).toList := by simp
    rw [place, text, List.cons_append, tokensFrom_silent opened,
      tokensFrom_digits _ (fun _ => isDigit_of_mem_toString), tokensFrom_numbering _ loose,
      List.singleton_append, ← text, String.ofList_toList]

theorem inert_toString (b : Backend) (n : Nat) : Inert b (toString n) := by
  intro c member
  have digit := isDigit_of_mem_toString member
  constructor
  · rintro rfl
    cases b <;> cases digit
  · rintro rfl
    cases b <;> cases digit

/-! ## Texts between words -/

/-- Words that can stand behind a name or a place, and in front of anything. -/
structure Separates (b : Backend) (text : String) : Prop where
  inert : Inert b text
  loose : Loose b text.toList
  nonempty : text ≠ ""

instance (b : Backend) (text : String) : Decidable (Inert b text) :=
  decidable_of_iff
    ((text.toList.all fun c => c != Identifier.mark b && c != sign b) = true)
    (by simp [Inert])

instance (b : Backend) (rest : List Char) : Decidable (Loose b rest) :=
  decidable_of_iff ((rest.head?.all fun c => c != Identifier.mark b && !c.isDigit) = true)
    (by simp [Loose, Option.all_eq_true])

instance (b : Backend) (text : String) : Decidable (Separates b text) :=
  decidable_of_iff (Inert b text ∧ Loose b text.toList ∧ text ≠ "")
    ⟨fun ⟨inert, loose, nonempty⟩ => ⟨inert, loose, nonempty⟩,
      fun ⟨inert, loose, nonempty⟩ => ⟨inert, loose, nonempty⟩⟩

theorem Separates.append (first : Separates b s) (second : Inert b t) : Separates b (s ++ t) := by
  refine ⟨?_, ?_, ?_⟩
  · intro c member
    rw [String.toList_append, List.mem_append] at member
    exact member.elim (first.inert c) (second c)
  · rw [String.toList_append]
    exact loose_append (mt String.toList_eq_nil_iff.1 first.nonempty) first.loose _
  · intro none
    exact first.nonempty (String.append_eq_empty_iff.1 none).1

/-- Words behind a name or a place. -/
theorem Reads.words {word : String} (first : Reads b s ss) (separates : Separates b word) :
    Reads b (s ++ word) (ss ++ words word) :=
  first.append separates.loose separates.nonempty (flows_words separates.inert).reads

theorem Reads.between {word : String} (first : Reads b s ss) (separates : Separates b word)
    (second : Reads b t ts) : Reads b (s ++ (word ++ t)) (ss ++ (Statement.words word ++ ts)) := by
  refine first.append ?_ ?_ ((flows_words separates.inert).append_reads second)
  · rw [String.toList_append]
    exact loose_append (mt String.toList_eq_nil_iff.1 separates.nonempty) separates.loose _
  · intro none
    exact separates.nonempty (String.append_eq_empty_iff.1 none).1

theorem flows_empty : Flows b "" [] := fun _ => Option.map_id_apply.symm

theorem Reads.joined {sep : String} (separates : Separates b sep) {texts : List String}
    {tokens : List (List Token)} (reads : List.Forall₂ (Reads b) texts tokens) :
    Reads b (sep.intercalate texts) ((Statement.words sep).intercalate tokens) := by
  induction reads with
  | nil => exact flows_empty.reads
  | @cons text ts texts tokens here others ih =>
    cases others with
    | nil =>
      rw [String.intercalate_singleton, List.intercalate_singleton]
      exact here
    | @cons next ns texts tokens _ _ =>
      rw [String.intercalate_cons_cons, List.intercalate_cons_cons, String.append_assoc,
        List.append_assoc]
      exact here.between separates ih

end RelDirectory.Statement
