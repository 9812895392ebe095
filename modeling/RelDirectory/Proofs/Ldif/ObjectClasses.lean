import Mathlib.Data.List.Forall2
import RelDirectory.Ldif.Apply
import RelDirectory.Proofs.Ldif.Grouping
import RelDirectory.Proofs.Ldif.LetterCase
import RelDirectory.Proofs.Ldif.Reading

/-!
# The classes of a record

The lines of a record may write the attribute of its classes in several cases.  The record takes
for its classes only the lines that write it as the first of them does (`classes_of_first`), and no
line that writes it otherwise is an attribute of the new entry.  So no class is lost exactly if all
of them are under one spelling, and the table that the record aims at does not depend on the
spellings exactly if it does not depend on the later classes (`classes_complete_iff`).
-/
set_option autoImplicit false
namespace RelDirectory.ChangeRecord

open Text (sameLetters)
open Ldif (oneRecord? read targetClass?)

/-- The attribute of the classes, in any case. -/
def NamesClasses (name : String) : Prop := sameLetters name classColumn = true

instance (name : String) : Decidable (NamesClasses name) :=
  inferInstanceAs (Decidable (sameLetters name classColumn = true))

/-- The classes that pairs give, in whatever case their attribute is written. -/
def classValues (pairs : List (String × String)) : List String :=
  (pairs.filter fun p => sameLetters p.1 classColumn).map (·.2)

/-- The attribute of the classes is written in one way only. -/
def SpelledAlike (pairs : List (String × String)) : Prop :=
  ∀ p ∈ pairs, ∀ q ∈ pairs, NamesClasses p.1 → NamesClasses q.1 → q.1 = p.1

/-- The pair with the attribute of the classes in another case. -/
def Respelled (p q : String × String) : Prop :=
  q.2 = p.2 ∧ (q.1 = p.1 ∨ NamesClasses p.1 ∧ NamesClasses q.1)

/-- The pairs with the attribute of the classes in another case in some of them. -/
def Recapitalized : List (String × String) → List (String × String) → Prop :=
  List.Forall₂ Respelled

/-- The names that are neither that of the classes nor that of the change type, each once. -/
def dataNames (pairs : List (String × String)) : List String :=
  (namesOf pairs).filter fun name =>
    !sameLetters name classColumn && !sameLetters name changeType

/-- The class whose table a record with these classes aims at. -/
def aim? (classes : List String) : Option String := targetClass? ⟨"", [(classColumn, classes)]⟩

variable {pairs front back : List (String × String)} {p : String × String} {name : String}

theorem targetClass?_eq_aim? (r : ChangeRecord) : targetClass? r = aim? r.classes := by
  have listed : classes ⟨"", [(classColumn, r.classes)]⟩ = r.classes := by
    simp [classes, sameLetters_self]
  rw [aim?, targetClass?, targetClass?, listed]

/-! ## The classes are those under the first spelling -/

theorem valuesOf_sublist (named : NamesClasses name) :
    (valuesOf pairs name).Sublist (classValues pairs) := by
  refine List.Sublist.map _ ?_
  refine List.monotone_filter_right pairs ?_
  intro p same
  rw [eq_of_beq same]
  exact named

theorem valuesOf_eq_classValues_iff (named : NamesClasses name) :
    valuesOf pairs name = classValues pairs ↔ ∀ q ∈ pairs, NamesClasses q.1 → q.1 = name := by
  have narrow : pairs.filter (·.1 == name) =
      (pairs.filter fun q => sameLetters q.1 classColumn).filter (·.1 == name) := by
    rw [List.filter_filter]
    refine List.filter_congr ?_
    intro q _
    rw [Bool.eq_iff_iff, Bool.and_eq_true]
    refine ⟨fun same => ⟨same, ?_⟩, fun both => both.1⟩
    rw [eq_of_beq same]
    exact named
  constructor
  · intro same q member names
    have lengths := congrArg List.length same
    rw [valuesOf, classValues, List.length_map, List.length_map, narrow,
      List.length_filter_eq_length_iff] at lengths
    exact eq_of_beq (lengths q (List.mem_filter.2 ⟨member, names⟩))
  · intro alike
    rw [valuesOf, classValues, narrow]
    refine congrArg _ (List.filter_eq_self.2 ?_)
    intro q member
    obtain ⟨inside, names⟩ := List.mem_filter.1 member
    exact beq_iff_eq.2 (alike q inside names)

theorem classValues_of_none (none : ∀ q ∈ pairs, ¬ NamesClasses q.1) : classValues pairs = [] := by
  rw [classValues, List.map_eq_nil_iff, List.filter_eq_nil_iff]
  exact none

theorem classValues_cons (p : String × String) (pairs : List (String × String)) :
    classValues (p :: pairs) =
      if NamesClasses p.1 then p.2 :: classValues pairs else classValues pairs := by
  by_cases named : sameLetters p.1 classColumn = true
  · simp [classValues, NamesClasses, named]
  · simp [classValues, NamesClasses, named]

theorem classValues_of_first (none : ∀ q ∈ front, ¬ NamesClasses q.1) (named : NamesClasses p.1) :
    classValues (front ++ p :: back) = p.2 :: classValues back := by
  have apart : classValues (front ++ p :: back) =
      classValues front ++ classValues (p :: back) := by
    simp only [classValues, List.filter_append, List.map_append]
  rw [apart, classValues_of_none none, List.nil_append, classValues_cons, if_pos named]

/-- Names are looked for in the order in which they are first met. -/
theorem find?_namesOf (pairs : List (String × String)) (test : String → Bool) :
    (namesOf pairs).find? test = (pairs.find? fun p => test p.1).map (·.1) := by
  induction pairs using List.reverseRecOn with
  | nil => rfl
  | append_singleton pairs p ih =>
    rw [namesOf_concat, List.find?_append]
    split
    · rename_i held
      rw [ih]
      cases found : pairs.find? fun p => test p.1 with
      | some q => rfl
      | none =>
        obtain ⟨q, member, same⟩ := mem_namesOf_iff.1 held
        have fails := List.find?_eq_none.1 found q member
        rw [same] at fails
        simp [fails]
    · rw [List.find?_append, ih]
      cases found : pairs.find? fun p => test p.1 with
      | some q => rfl
      | none => cases passes : test p.1 <;> simp [passes]

theorem classes_ofPairs (dn : String) (pairs : List (String × String)) :
    (ofPairs dn pairs).classes =
      ((pairs.find? fun p => sameLetters p.1 classColumn).map fun p => valuesOf pairs p.1).getD
        [] := by
  have found := find?_namesOf pairs fun name => sameLetters name classColumn
  rw [classes, entry_ofPairs, List.find?_map, Function.comp_def, found, Option.map_map,
    Option.map_map]
  rfl

/-- Before the first pair that gives a class there is none, unless no pair gives one. -/
theorem firstClass_cases (pairs : List (String × String)) :
    (∀ q ∈ pairs, ¬ NamesClasses q.1) ∨
      ∃ front p back, pairs = front ++ p :: back ∧ (∀ q ∈ front, ¬ NamesClasses q.1) ∧
        NamesClasses p.1 := by
  cases first : pairs.find? fun p => sameLetters p.1 classColumn with
  | none => exact Or.inl (List.find?_eq_none.1 first)
  | some p =>
    obtain ⟨named, front, back, split, none⟩ := List.find?_eq_some_iff_append.1 first
    refine Or.inr ⟨front, p, back, split, ?_, named⟩
    intro q member names
    have fails := none q member
    rw [show sameLetters q.1 classColumn = true from names] at fails
    cases fails

theorem classes_of_none (dn : String) (none : ∀ q ∈ pairs, ¬ NamesClasses q.1) :
    (ofPairs dn pairs).classes = [] := by
  rw [classes_ofPairs, List.find?_eq_none.2 none]
  rfl

theorem classes_of_first (dn : String) (none : ∀ q ∈ front, ¬ NamesClasses q.1)
    (named : NamesClasses p.1) :
    (ofPairs dn (front ++ p :: back)).classes = p.2 :: valuesOf back p.1 := by
  have first : (front ++ p :: back).find? (fun p => sameLetters p.1 classColumn) = some p := by
    have held : sameLetters p.1 classColumn = true := named
    simp only [List.find?_append, List.find?_eq_none.2 none, List.find?_cons, held,
      Option.none_or]
  have nothing : valuesOf front p.1 = [] := by
    refine valuesOf_of_not_mem ?_
    intro held
    obtain ⟨q, member, same⟩ := mem_namesOf_iff.1 held
    exact none q member (same ▸ named)
  rw [classes_ofPairs, first, Option.map_some, Option.getD_some, valuesOf_append, nothing,
    List.nil_append, valuesOf_cons, if_pos rfl]

theorem classes_eq_classValues_iff (dn : String) (pairs : List (String × String)) :
    (ofPairs dn pairs).classes = classValues pairs ↔ SpelledAlike pairs := by
  rcases firstClass_cases pairs with none | ⟨front, p, back, rfl, none, named⟩
  · refine iff_of_true ?_ fun p member _ _ names => absurd names (none p member)
    rw [classes_of_none dn none, classValues_of_none none]
  · rw [classes_of_first dn none named, classValues_of_first none named, List.cons.injEq,
      valuesOf_eq_classValues_iff named]
    constructor
    · rintro ⟨_, alike⟩
      have same : ∀ q ∈ front ++ p :: back, NamesClasses q.1 → q.1 = p.1 := by
        intro q member names
        rcases List.mem_append.1 member with early | member
        · exact absurd names (none q early)
        · rcases List.mem_cons.1 member with rfl | late
          · rfl
          · exact alike q late names
      intro r held q member first names
      rw [same r held first, same q member names]
    · intro alike
      refine ⟨rfl, ?_⟩
      intro q late names
      exact alike p (by simp) q (by simp [late]) named names

/-! ## The target -/

/-- The record has the first of its classes, and some of the later ones. -/
theorem exists_kept (dn : String) (pairs : List (String × String)) :
    ∃ kept, kept.Sublist (classValues pairs).tail ∧
      (ofPairs dn pairs).classes = (classValues pairs).head?.toList ++ kept := by
  rcases firstClass_cases pairs with none | ⟨front, p, back, rfl, none, named⟩
  · refine ⟨[], List.nil_sublist _, ?_⟩
    rw [classes_of_none dn none, classValues_of_none none]
    rfl
  · refine ⟨valuesOf back p.1, ?_, ?_⟩
    · rw [classValues_of_first none named]
      exact valuesOf_sublist named
    · rw [classes_of_first dn none named, classValues_of_first none named]
      rfl

theorem respelled_self (p : String × String) : Respelled p p := ⟨rfl, Or.inl rfl⟩

theorem recapitalized_refl (pairs : List (String × String)) : Recapitalized pairs pairs :=
  List.forall₂_same.2 fun p _ => respelled_self p

theorem namesClasses_respelled {q : String × String} (respelled : Respelled p q) :
    NamesClasses q.1 ↔ NamesClasses p.1 := by
  obtain ⟨_, same | ⟨before, after⟩⟩ := respelled
  · rw [same]
  · exact iff_of_true after before

theorem classValues_recapitalized {pairs' : List (String × String)}
    (recapitalized : Recapitalized pairs pairs') : classValues pairs' = classValues pairs := by
  induction recapitalized with
  | nil => rfl
  | cons first _ ih =>
    rw [classValues_cons, classValues_cons, ih, first.1]
    simp only [namesClasses_respelled first]

/-- Any of the classes can be those that are written in the usual case. -/
theorem exists_recapitalized {kept : List String} (inside : kept.Sublist (classValues pairs)) :
    ∃ pairs', Recapitalized pairs pairs' ∧ valuesOf pairs' classColumn = kept := by
  have other : "OBJECTCLASS" ≠ classColumn := by decide
  have alike : NamesClasses "OBJECTCLASS" ∧ NamesClasses classColumn := by decide
  induction pairs generalizing kept with
  | nil =>
    cases List.sublist_nil.1 inside
    exact ⟨[], .nil, rfl⟩
  | cons p pairs ih =>
    rw [classValues_cons] at inside
    by_cases named : NamesClasses p.1
    · rw [if_pos named] at inside
      cases inside with
      | cons _ later =>
        obtain ⟨pairs', recapitalized, same⟩ := ih later
        refine ⟨("OBJECTCLASS", p.2) :: pairs',
          .cons ⟨rfl, Or.inr ⟨named, alike.1⟩⟩ recapitalized, ?_⟩
        rw [valuesOf_cons, if_neg other, same]
      | cons_cons _ later =>
        obtain ⟨pairs', recapitalized, same⟩ := ih later
        refine ⟨(classColumn, p.2) :: pairs',
          .cons ⟨rfl, Or.inr ⟨named, alike.2⟩⟩ recapitalized, ?_⟩
        rw [valuesOf_cons, if_pos rfl, same]
    · rw [if_neg named] at inside
      obtain ⟨pairs', recapitalized, same⟩ := ih inside
      have apart : p.1 ≠ classColumn := by
        intro usual
        rw [usual] at named
        exact named alike.2
      refine ⟨p :: pairs', .cons (respelled_self p) recapitalized, ?_⟩
      rw [← same]
      exact (valuesOf_cons p.1 p.2 pairs' classColumn).trans (if_neg apart)

theorem exists_recapitalized_classes (dn : String) {kept : List String}
    (inside : kept.Sublist (classValues pairs).tail) :
    ∃ pairs', Recapitalized pairs pairs' ∧
      (ofPairs dn pairs').classes = (classValues pairs).head?.toList ++ kept := by
  rcases firstClass_cases pairs with none | ⟨front, p, back, rfl, none, named⟩
  · rw [classValues_of_none none] at inside ⊢
    cases List.sublist_nil.1 inside
    exact ⟨pairs, recapitalized_refl pairs, classes_of_none dn none⟩
  · rw [classValues_of_first none named] at inside ⊢
    obtain ⟨back', recapitalized, same⟩ := exists_recapitalized inside
    have usual : NamesClasses classColumn := sameLetters_self classColumn
    refine ⟨front ++ (classColumn, p.2) :: back', ?_, ?_⟩
    · exact List.rel_append (recapitalized_refl front)
        (.cons ⟨rfl, Or.inr ⟨named, usual⟩⟩ recapitalized)
    · rw [classes_of_first dn none usual, same]
      rfl

/-- The target can depend on the case of each line unless no class but the first matters. -/
theorem targetClass?_recapitalized_iff (dn : String) (pairs : List (String × String)) :
    (∀ pairs', Recapitalized pairs pairs' →
        targetClass? (ofPairs dn pairs') = targetClass? (ofPairs dn pairs)) ↔
      ∀ kept, kept.Sublist (classValues pairs).tail →
        aim? ((classValues pairs).head?.toList ++ kept) = aim? (classValues pairs) := by
  have whole : (classValues pairs).head?.toList ++ (classValues pairs).tail =
      classValues pairs := by
    cases classValues pairs <;> rfl
  simp only [targetClass?_eq_aim?]
  constructor
  · intro same kept inside
    obtain ⟨some, recapitalized, classes⟩ := exists_recapitalized_classes dn inside
    obtain ⟨all, recapitalized', classes'⟩ :=
      exists_recapitalized_classes dn (List.Sublist.refl (classValues pairs).tail)
    have aims := (same some recapitalized).trans (same all recapitalized').symm
    rwa [classes, classes', whole] at aims
  · intro same pairs' recapitalized
    have steady : ∀ {other}, classValues other = classValues pairs →
        aim? (ofPairs dn other).classes = aim? (classValues pairs) := by
      intro other values
      obtain ⟨kept, inside, classes⟩ := exists_kept dn other
      rw [values] at inside classes
      rw [classes]
      exact same kept inside
    rw [steady (classValues_recapitalized recapitalized), steady rfl]

/-! ## The attributes -/

theorem dataAttributes_ofPairs (dn : String) (pairs : List (String × String)) :
    (ofPairs dn pairs).dataAttributes =
      (dataNames pairs).map fun name => (name, valuesOf pairs name) := by
  rw [dataAttributes, entry_ofPairs, List.filter_map, dataNames]
  rfl

/-- A record of lines has all their classes exactly if it has one spelling for their attribute.
Its target stays the same in whatever case that is written exactly if it is already that of the
first class with any of the later ones.  All other attributes but the change type are there with
their values. -/
theorem classes_complete_iff (dn : String) (pairs : List (String × String)) :
    (∀ text, oneRecord? text = some (dn, pairs) → (read text).1 = .ok [ofPairs dn pairs]) ∧
    ((ofPairs dn pairs).classes = classValues pairs ↔ SpelledAlike pairs) ∧
    ((∀ pairs', Recapitalized pairs pairs' →
        targetClass? (ofPairs dn pairs') = targetClass? (ofPairs dn pairs)) ↔
      ∀ kept, kept.Sublist (classValues pairs).tail →
        aim? ((classValues pairs).head?.toList ++ kept) = aim? (classValues pairs)) ∧
    (ofPairs dn pairs).dataAttributes =
      (dataNames pairs).map fun name => (name, valuesOf pairs name) :=
  ⟨fun _ one => Ldif.read_oneRecord one, classes_eq_classValues_iff dn pairs,
    targetClass?_recapitalized_iff dn pairs, dataAttributes_ofPairs dn pairs⟩

def mixedText : String := "dn: inum=1,o=jans\nobjectClass: top\nobjectclass: jansClnt\n"

/-- With two spellings a class is lost, and here the only one that names a table. -/
theorem not_classes_complete : ¬ ∀ text dn pairs, oneRecord? text = some (dn, pairs) →
    ∃ r, (read text).1 = .ok [r] ∧ r.classes = classValues pairs := by
  intro always
  obtain ⟨r, found, all⟩ := always mixedText "inum=1,o=jans"
    [("objectClass", "top"), ("objectclass", "jansClnt")] (by decide +kernel)
  have lost : (read mixedText).1 = .ok
      [⟨"inum=1,o=jans", [("objectClass", ["top"]), ("objectclass", ["jansClnt"])]⟩] := by
    decide +kernel
  rw [lost] at found
  cases found
  exact absurd all (by decide)

end RelDirectory.ChangeRecord
