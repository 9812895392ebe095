import RelDirectory.Proofs.Dn.Components

/-!
# Names written out

A component that is written out has lost nothing but the blanks around its name and its value.  It
is read as before, but it may no longer be whole: if a blank that was trimmed stood behind a
backslash, the escape now reaches for the next comma (`scan_display`).  A name that was read reads
back from what is written of it exactly if this happened to none of its components
(`readsBack_iff`).
-/
set_option autoImplicit false
namespace RelDirectory.Dn

/-- Whether a written value ends behind a backslash that has nothing left to escape. -/
def dangles : List Char → Bool
  | [] => false
  | ['\\'] => true
  | '\\' :: _ :: cs => dangles cs
  | _ :: cs => dangles cs

/-- The components written out, with commas between them. -/
def joined (rdns : List Rdn) : String := ",".intercalate (rdns.map Rdn.display)

/-- No escape is cut short at the end of a value as it is written out. -/
def Closed (rdns : List Rdn) : Prop := ∀ r ∈ rdns, dangles r.written.toList = false

/-- Written out, the components of a name are read as they were, and so is its root with the first
one left out. -/
def ReadsBack (dn : String) (rdns : List Rdn) : Prop :=
  parse (joined rdns) = .ok rdns ∧ ∃ rest, root dn = .ok rest ∧ parse rest = .ok (rdns.drop 1)

variable {component : List Char} {r : Rdn} {rdns : List Rdn} {dn : String}

theorem toList_display (r : Rdn) :
    r.display.toList = r.name.toList ++ '=' :: r.written.toList := by
  simp [Rdn.display]

theorem joined_eq (rdns : List Rdn) :
    joined rdns = String.ofList ([','].intercalate (rdns.map fun r => r.display.toList)) := by
  refine String.toList_inj.1 ?_
  simp [joined, String.toList_intercalate, Function.comp_def]

/-! ## One component -/

theorem rdn_display (read : rdn component = .ok r) : rdn r.display.toList = .ok r := by
  obtain ⟨before, after, -, free, named, rfl⟩ := rdn_ok_iff.1 read
  obtain ⟨lead, tail, split, -, -⟩ := Text.exists_trim before
  refine rdn_ok_iff.2 ⟨Text.trim before, Text.trim after, ?_, ?_, ?_, ?_⟩
  · simp [toList_display]
  · intro member
    refine free ?_
    rw [split]
    exact List.mem_append_left tail (List.mem_append_right lead member)
  · rwa [Text.trim_trim]
  · rw [Text.trim_trim, Text.trim_trim]

/-- No component is shorter than it is written out, and one that is no longer is written out just
as it stands. -/
theorem display_shortest (read : rdn component = .ok r) :
    r.display.toList.length ≤ component.length ∧
      (component.length ≤ r.display.toList.length → component = r.display.toList) := by
  obtain ⟨before, after, rfl, -, -, rfl⟩ := rdn_ok_iff.1 read
  obtain ⟨lead, tail, name, -, -⟩ := Text.exists_trim before
  obtain ⟨lead', tail', value, -, -⟩ := Text.exists_trim after
  have long := congrArg List.length name
  have long' := congrArg List.length value
  simp only [List.length_append] at long long'
  simp only [toList_display, String.toList_ofList, List.length_append, List.length_cons]
  refine ⟨by omega, ?_⟩
  intro short
  have none : lead.length = 0 ∧ tail.length = 0 ∧ lead'.length = 0 ∧ tail'.length = 0 := by omega
  simp only [List.length_eq_zero_iff] at none
  obtain ⟨rfl, rfl, rfl, rfl⟩ := none
  rw [List.nil_append, List.append_nil] at name value
  rw [← name, ← value]

/-- A text leaves an escape open if it dangles. -/
theorem escaped_of_scan {q : Bool} {cs : List Char} {s : Mode}
    (flows : scan ⟨q, false⟩ cs = some s) : s.escaped = dangles cs := by
  induction cs using dangles.induct generalizing q with
  | case1 => cases flows; rfl
  | case2 => cases flows; rfl
  | case3 c cs ih => exact ih flows
  | case4 c cs last escape ih =>
    have slash := ne_slash last escape
    rw [dangles.eq_4 c cs last escape]
    by_cases quote : c = '"'
    · subst quote
      exact ih flows
    · by_cases bare : c = ',' ∧ q = false
      · obtain ⟨rfl, rfl⟩ := bare
        cases flows
      · rw [scan_plain slash quote bare] at flows
        exact ih flows

theorem scan_lead (q : Bool) {lead : List Char} (blank : ∀ c ∈ lead, Text.isBlank c = true)
    (cs : List Char) : scan ⟨q, false⟩ (lead ++ cs) = scan ⟨q, false⟩ cs := by
  rw [scan_append, scan_blanks _ blank]
  rfl

theorem scan_gap (s : Mode) {gap : List Char} (blank : ∀ c ∈ gap, Text.isBlank c = true)
    (cs : List Char) : scan s (gap ++ '=' :: cs) = scan s ('=' :: cs) := by
  rw [scan_append, scan_blanks _ blank, Option.bind_some, scan_equals, scan_equals]

/-- Up to the blanks at its end a component is scanned like it is written out.  An escape that
these blanks have closed is open in what is written. -/
theorem scan_display (whole : Whole component) (read : rdn component = .ok r) :
    scan .start r.display.toList = some ⟨false, dangles r.written.toList⟩ := by
  obtain ⟨before, after, rfl, -, -, rfl⟩ := rdn_ok_iff.1 read
  obtain ⟨lead, gap, split, blankLead, blankGap⟩ := Text.exists_trim before
  obtain ⟨margin, tail, split', blankMargin, blankTail⟩ := Text.exists_trim after
  simp only [toList_display, String.toList_ofList]
  rw [split, split'] at whole
  generalize Text.trim before = name at *
  generalize Text.trim after = value at *
  have ends : ((scan .start name).bind fun s =>
      (scan ⟨s.quoted, false⟩ value).bind (scan · tail)) = some .start := by
    rw [← whole]
    simp only [Mode.start, List.append_assoc, scan_lead _ blankLead, scan_append _ name,
      scan_gap _ blankGap, scan_equals, scan_lead _ blankMargin, scan_append _ value]
  obtain ⟨s, named, ends⟩ := Option.bind_eq_some_iff.1 ends
  obtain ⟨t, valued, ends⟩ := Option.bind_eq_some_iff.1 ends
  rw [scan_blanks t blankTail, Option.some.injEq] at ends
  have closed : t.quoted = false := congrArg Mode.quoted ends
  rw [scan_append, named, Option.bind_some, scan_equals, valued, ← escaped_of_scan valued, ← closed]

/-! ## Names -/

/-- Components that together are no longer than they are written out stand as they are. -/
theorem displays_shortest {ps : List (List Char)}
    (read : List.Forall₂ (fun p r => rdn p = .ok r) ps rdns) :
    let shown := rdns.map fun r => r.display.toList
    ([','].intercalate shown).length ≤ ([','].intercalate ps).length ∧
      (([','].intercalate ps).length ≤ ([','].intercalate shown).length → ps = shown) := by
  induction read with
  | nil => exact ⟨Nat.le_refl 0, fun _ => rfl⟩
  | cons here there ih =>
    obtain ⟨shorter, same⟩ := display_shortest here
    obtain ⟨shorter', same'⟩ := ih
    cases there with
    | nil =>
      refine ⟨by simpa using shorter, ?_⟩
      intro short
      rw [same (by simpa using short)]
      rfl
    | cons _ _ =>
      simp only [List.map_cons, List.intercalate_cons_cons, List.length_append,
        List.length_singleton] at shorter' same' ⊢
      refine ⟨by omega, ?_⟩
      intro short
      rw [same (by omega), same' (by omega)]

theorem component_of_mem {ps : List (List Char)}
    (read : List.Forall₂ (fun p r => rdn p = .ok r) ps rdns) (member : r ∈ rdns) :
    ∃ p ∈ ps, rdn p = .ok r := by
  induction read with
  | nil => cases member
  | cons here _ ih =>
    rcases List.mem_cons.1 member with rfl | later
    · exact ⟨_, List.mem_cons_self, here⟩
    · obtain ⟨p, held, told⟩ := ih later
      exact ⟨p, List.mem_cons_of_mem _ held, told⟩

theorem parse_joined_of_closed {ps : List (List Char)} (whole : ∀ p ∈ ps, Whole p)
    (read : List.Forall₂ (fun p r => rdn p = .ok r) ps rdns) (closed : Closed rdns) :
    parse (joined rdns) = .ok rdns := by
  have shown : ∀ r ∈ rdns, Whole r.display.toList ∧ rdn r.display.toList = .ok r := by
    intro r member
    obtain ⟨p, held, told⟩ := component_of_mem read member
    refine ⟨?_, rdn_display told⟩
    rw [Whole, scan_display (whole p held) told, closed r member]
    rfl
  rw [joined_eq]
  refine parse_joined ?_ ?_
  · intro p member
    obtain ⟨r, held, rfl⟩ := List.mem_map.1 member
    exact (shown r held).1
  · rw [List.forall₂_map_left_iff, List.forall₂_same]
    exact fun r member => (shown r member).2

theorem closed_of_parse_joined (again : parse (joined rdns) = .ok rdns) : Closed rdns := by
  rcases parse_ok again with rfl | ⟨ps, split, whole, read⟩
  · exact nofun
  · -- the components found are together as long as what was written out, so they are the same
    have same : ps = rdns.map fun r => r.display.toList := by
      refine (displays_shortest read).2 ?_
      rw [split, joined_eq, String.toList_ofList]
    intro r member
    obtain ⟨p, held, told⟩ := component_of_mem read member
    have shown : r.display.toList ∈ ps := by
      rw [same]
      exact List.mem_map_of_mem member
    have ends := scan_display (whole p held) told
    rw [whole _ shown, Option.some.injEq] at ends
    exact (congrArg Mode.escaped ends).symm

theorem parse_joined_drop (accepted : parse dn = .ok rdns) (n : Nat)
    (closed : Closed (rdns.drop n)) : parse (joined (rdns.drop n)) = .ok (rdns.drop n) := by
  rcases parse_ok accepted with rfl | ⟨ps, -, whole, read⟩
  · rw [List.drop_nil]
    rfl
  · exact parse_joined_of_closed (fun p member => whole p (List.mem_of_mem_drop member))
      (List.forall₂_drop n read) closed

theorem root_of_parse (accepted : parse dn = .ok rdns) : root dn = .ok (joined (rdns.drop 1)) := by
  rw [root, accepted]
  rfl

/-- The components of a name and its root read back exactly if no value that is written out ends
in the middle of an escape; for the root alone the first component does not matter. -/
theorem readsBack_iff (accepted : parse dn = .ok rdns) :
    (ReadsBack dn rdns ↔ Closed rdns) ∧
      ∃ rest, root dn = .ok rest ∧
        (parse rest = .ok (rdns.drop 1) ↔ Closed (rdns.drop 1)) := by
  refine ⟨⟨fun back => closed_of_parse_joined back.1, ?_⟩, _, root_of_parse accepted,
    closed_of_parse_joined, parse_joined_drop accepted 1⟩
  intro closed
  have fewer : Closed (rdns.drop 1) := fun r member => closed r (List.mem_of_mem_drop member)
  exact ⟨parse_joined_drop accepted 0 closed, _, root_of_parse accepted,
    parse_joined_drop accepted 1 fewer⟩

/-- Blanks around names and values, a quoted comma, an escaped quote and two backslashes. -/
def spacedName : String := " cn = \"a, \\\" \" , o=\\ jans\\\\ "

def spacedRdns : List Rdn :=
  [⟨"cn", "a, \" ", "\"a, \\\" \""⟩, ⟨"o", " jans\\", "\\ jans\\\\"⟩]

theorem readsBack_iff_spaced : parse spacedName = .ok spacedRdns ∧
    parse "cn=\"a, \\\" \",o=\\ jans\\\\" = .ok spacedRdns ∧ ReadsBack spacedName spacedRdns := by
  have accepted : parse spacedName = .ok spacedRdns := by decide +kernel
  have closed : Closed spacedRdns := by
    rw [Closed]
    decide
  have back := (readsBack_iff accepted).1.2 closed
  have shown : joined spacedRdns = "cn=\"a, \\\" \",o=\\ jans\\\\" := by decide +kernel
  exact ⟨accepted, shown ▸ back.1, back⟩

/-- A name may read back as another one: an escaped blank at the end of a value is trimmed, and
its backslash makes the next comma a part of the value. -/
theorem not_readsBack :
    ¬ ∀ (dn : String) (rdns : List Rdn), parse dn = .ok rdns → ReadsBack dn rdns := by
  intro always
  have accepted : parse "o=jans,cn=a\\ ,ou=b" =
      .ok [⟨"o", "jans", "jans"⟩, ⟨"cn", "a", "a\\"⟩, ⟨"ou", "b", "b"⟩] := by decide +kernel
  have other : parse (joined [⟨"o", "jans", "jans"⟩, ⟨"cn", "a", "a\\"⟩, ⟨"ou", "b", "b"⟩]) =
      .ok [⟨"o", "jans", "jans"⟩, ⟨"cn", "a,ou=b", "a\\,ou=b"⟩] := by decide +kernel
  have again := (always _ _ accepted).1
  rw [other] at again
  exact absurd again (by decide)

end RelDirectory.Dn
