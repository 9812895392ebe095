import RelDirectory.Proofs.Dn.Display

/-!
# Names and how their values are quoted

A value stands in a name bare, with a backslash in front of each comma, backslash and double quote,
or between double quotes, with a backslash in front of each backslash and double quote.  Either way
it is read as it was (`denote_write`) and its component stays whole (`whole_text`), whatever commas,
quotes, backslashes, equals signs and blanks it holds.  So a name that is written in this way gives
back its components, the value of the first and the text of the others (`parse_text`).
-/
set_option autoImplicit false
namespace RelDirectory.Dn

/-- How a value is written in a name. -/
inductive Quoting where
  | bare
  | quoted
deriving DecidableEq

namespace Quoting

/-- The characters that get a backslash. -/
def special : Quoting → List Char
  | .bare => [',', '\\', '"']
  | .quoted => ['\\', '"']

def escape (style : Quoting) (value : List Char) : List Char :=
  value.flatMap fun c => if c ∈ style.special then ['\\', c] else [c]

def write (value : List Char) : Quoting → List Char
  | .bare => Quoting.bare.escape value
  | .quoted => '"' :: (Quoting.quoted.escape value ++ ['"'])

/-- Only quotes keep the blanks at the ends of a value. -/
def Fits (value : String) (style : Quoting) : Prop :=
  style = .bare → Text.trim value.toList = value.toList

instance (value : String) (style : Quoting) : Decidable (style.Fits value) :=
  inferInstanceAs (Decidable (style = .bare → Text.trim value.toList = value.toList))

end Quoting

/-- A name and a value, and how the value is written. -/
structure Component where
  name : String
  value : String
  style : Quoting
  nonempty : name ≠ ""
  trimmed : Text.trim name.toList = name.toList
  plain : ∀ c ∈ name.toList, c ∉ ['=', ',', '\\', '"']
  fits : style.Fits value

namespace Component

def text (c : Component) : List Char := c.name.toList ++ '=' :: c.style.write c.value.toList

/-- What the component says. -/
def rdn (c : Component) : Rdn := ⟨c.name, c.value, String.ofList (c.style.write c.value.toList)⟩

end Component

/-- The name that the components make up. -/
def text (cs : List Component) : String := String.ofList ([','].intercalate (cs.map Component.text))

/-! ## Values -/

section Values

variable (style : Quoting) (value : List Char)

theorem ne_of_unmarked {style : Quoting} {c : Char} (unmarked : c ∉ style.special) :
    c ≠ '\\' ∧ c ≠ '"' := by
  have both : '\\' ∈ style.special ∧ '"' ∈ style.special := by cases style <;> decide
  exact ⟨fun same => unmarked (same ▸ both.1), fun same => unmarked (same ▸ both.2)⟩

theorem escape_cons (c : Char) : style.escape (c :: value) =
    (if c ∈ style.special then ['\\', c] else [c]) ++ style.escape value := List.flatMap_cons

theorem unescape_escape : unescape (style.escape value) = value := by
  induction value with
  | nil => rfl
  | cons c value ih =>
    rw [escape_cons]
    by_cases marked : c ∈ style.special
    · rw [if_pos marked]
      exact congrArg (c :: ·) ih
    · rw [if_neg marked]
      have slash := (ne_of_unmarked marked).1
      exact (unescape.eq_4 c _ (fun same _ => slash same) fun _ _ same _ => slash same).trans
        (congrArg (c :: ·) ih)

/-- An escaped value leaves the quotes as they are, which are open for a quoted one. -/
theorem scan_escaped :
    scan ⟨style == .quoted, false⟩ (style.escape value) = some ⟨style == .quoted, false⟩ := by
  induction value with
  | nil => rfl
  | cons c value ih =>
    rw [escape_cons]
    by_cases marked : c ∈ style.special
    · rw [if_pos marked]
      exact (scan_escape _ c _).trans ih
    · rw [if_neg marked]
      obtain ⟨slash, quote⟩ := ne_of_unmarked marked
      have bare : ¬ (c = ',' ∧ (style == .quoted) = false) := by
        rintro ⟨rfl, outside⟩
        cases style with
        | bare => exact marked (by decide)
        | quoted => exact absurd outside (by decide)
      exact (scan_plain slash quote bare _).trans ih

theorem whole_write : Whole (style.write value) := by
  cases style with
  | bare => exact scan_escaped .bare value
  | quoted =>
    have inside : scan ⟨true, false⟩ (Quoting.quoted.escape value) = some ⟨true, false⟩ :=
      scan_escaped .quoted value
    rw [Whole, Quoting.write, Mode.start, scan_quote, scan_append]
    simp only [Bool.not_false, inside, Option.bind_some]
    rfl

/-- What an escaped value begins with. -/
theorem head?_escape : ∀ c ∈ (style.escape value).head?,
    c = '\\' ∨ c ∈ value.head? ∧ c ∉ style.special := by
  cases value with
  | nil => exact nofun
  | cons c value =>
    intro first held
    rw [escape_cons] at held
    by_cases marked : c ∈ style.special
    · rw [if_pos marked] at held
      exact Or.inl (Option.some.inj held).symm
    · rw [if_neg marked] at held
      obtain rfl : c = first := Option.some.inj held
      exact Or.inr ⟨rfl, marked⟩

theorem getLast?_escape : (style.escape value).getLast? = value.getLast? := by
  rcases List.eq_nil_or_concat value with rfl | ⟨front, last, rfl⟩
  · rfl
  · rw [List.concat_eq_append, Quoting.escape, List.flatMap_append, List.getLast?_concat,
      List.flatMap_singleton]
    by_cases marked : last ∈ style.special
    · rw [if_pos marked]
      simp
    · rw [if_neg marked]
      simp

variable {style : Quoting} {value : String}

theorem trim_write (fits : style.Fits value) :
    Text.trim (style.write value.toList) = style.write value.toList := by
  cases style with
  | bare =>
    have trimmed := fits rfl
    refine Text.trim_of_ends ?_ ?_
    · intro c first
      rcases head?_escape .bare value.toList c first with rfl | ⟨own, -⟩
      · decide
      · rw [← trimmed] at own
        exact Text.head?_trim own
    · intro c last
      rw [Quoting.write, getLast?_escape, ← trimmed] at last
      exact Text.getLast?_trim last
  | quoted =>
    refine Text.trim_of_ends ?_ ?_
    · rintro c ⟨⟩
      decide
    · intro c last
      rw [Quoting.write, ← List.cons_append, List.getLast?_concat] at last
      cases last
      decide

theorem unquote_write (style : Quoting) (value : List Char) :
    unquote (style.write value) = style.escape value := by
  cases style with
  | bare =>
    have first := head?_escape .bare value
    rw [Quoting.write]
    cases escaped : Quoting.bare.escape value with
    | nil => rfl
    | cons c rest =>
      have quote : c ≠ '"' := by
        rw [escaped] at first
        rcases first c rfl with rfl | ⟨-, unmarked⟩
        · decide
        · exact (ne_of_unmarked unmarked).2
      exact unquote.eq_2 _ fun _ same => quote (List.cons.inj same).1
  | quoted =>
    rw [Quoting.write, unquote, if_pos List.getLast?_concat, List.dropLast_concat]

/-- A value that was written is read as it was. -/
theorem denote_write (style : Quoting) (value : List Char) :
    denote (style.write value) = value := by
  rw [denote, unquote_write, unescape_escape]

end Values

/-! ## Components and names -/

theorem scan_name {name : List Char} (plain : ∀ c ∈ name, c ∉ ['=', ',', '\\', '"'])
    (cs : List Char) : scan .start (name ++ cs) = scan .start cs := by
  induction name with
  | nil => rfl
  | cons c name ih =>
    obtain ⟨here, there⟩ := List.forall_mem_cons.1 plain
    simp only [List.mem_cons, List.not_mem_nil, or_false, not_or] at here
    exact (scan_plain here.2.2.1 here.2.2.2 (fun bare => here.2.1 bare.1) _).trans (ih there)

theorem whole_text (c : Component) : Whole c.text := by
  rw [Whole, Component.text, scan_name c.plain, scan_equals]
  exact whole_write c.style c.value.toList

theorem rdn_text (c : Component) : rdn c.text = .ok c.rdn := by
  have named : c.name.toList ≠ [] := mt String.toList_eq_nil_iff.1 c.nonempty
  refine rdn_ok_iff.2 ⟨_, _, rfl, ?_, ?_, ?_⟩
  · intro member
    exact c.plain '=' member List.mem_cons_self
  · rwa [c.trimmed]
  · rw [trim_write c.fits, c.trimmed, denote_write, String.ofList_toList, String.ofList_toList]
    rfl

theorem joined_rdns (cs : List Component) : joined (cs.map Component.rdn) = text cs := by
  rw [joined_eq, text, List.map_map]
  refine congrArg (fun texts => String.ofList ([','].intercalate texts)) ?_
  refine List.map_congr_left fun c _ => ?_
  rw [Function.comp_apply, toList_display]
  simp only [Component.rdn, String.toList_ofList]
  rfl

/-- A name gives back the components that it was made of, the value of the first one, and the text
of the others. -/
theorem parse_text (first : Component) (others : List Component) :
    parse (text (first :: others)) = .ok ((first :: others).map Component.rdn) ∧
      leaf (text (first :: others)) = .ok first.value ∧
      root (text (first :: others)) = .ok (text others) := by
  have read : parse (text (first :: others)) = .ok ((first :: others).map Component.rdn) := by
    refine parse_joined ?_ ?_
    · intro p member
      obtain ⟨c, _, rfl⟩ := List.mem_map.1 member
      exact whole_text c
    · rw [List.forall₂_map_left_iff, List.forall₂_map_right_iff, List.forall₂_same]
      exact fun c _ => rdn_text c
  refine ⟨read, ?_, ?_⟩
  · rw [leaf, read]
    rfl
  · rw [root_of_parse read, ← joined_rdns]
    rfl

/-- Blanks, a comma and quotes between quotes. -/
def quotedComponent : Component :=
  ⟨"cn", " Doe, \"J\" ", .quoted, by decide, by decide, by simp, by decide⟩

/-- A name with a blank inside, and a value of characters that are read as signs. -/
def markedComponent : Component :=
  ⟨"given name", "\\ ,=\"", .bare, by decide, by decide, by simp, by decide⟩

def emptyComponent : Component := ⟨"o", "", .bare, by decide, by decide, by simp, by decide⟩

theorem parse_text_odd :
    let dn := "cn=\" Doe, \\\"J\\\" \",given name=\\\\ \\,=\\\",o="
    parse dn = .ok [⟨"cn", " Doe, \"J\" ", "\" Doe, \\\"J\\\" \""⟩,
        ⟨"given name", "\\ ,=\"", "\\\\ \\,=\\\""⟩, ⟨"o", "", ""⟩] ∧
      leaf dn = .ok " Doe, \"J\" " ∧ root dn = .ok "given name=\\\\ \\,=\\\",o=" := by
  intro dn
  have whole : text [quotedComponent, markedComponent, emptyComponent] = dn := by decide +kernel
  have others : text [markedComponent, emptyComponent] = "given name=\\\\ \\,=\\\",o=" := by
    decide +kernel
  obtain ⟨read, first, rest⟩ := parse_text quotedComponent [markedComponent, emptyComponent]
  rw [whole] at read first rest
  rw [others] at rest
  exact ⟨read.trans (by decide +kernel), first, rest⟩

end RelDirectory.Dn
