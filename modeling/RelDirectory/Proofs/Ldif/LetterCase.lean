import Mathlib.Data.List.Forall2
import RelDirectory.Ldif.Record

/-!
# Control keys in another letter case

The classes of a record and the attributes of a new entry are the same in whatever case the control
keys are written.  What a record asks for is not: only the key `changetype` itself is read, so
every record can be written in such a way that it is a new entry (`exists_recased_create`).  It is
taken alike in every case exactly if it has no other change type than `add`
(`operation_recased_iff`).
-/
set_option autoImplicit false
namespace RelDirectory.ChangeRecord

open Text (sameLetters)

/-- The values under a key in any case, for each time that it is written. -/
def spelled (r : ChangeRecord) (key : String) : List (List String) :=
  (r.entry.filter fun a => sameLetters a.1 key).map (·.2)

/-- The change types that a record gives, in whatever case the key is written. -/
def kinds (r : ChangeRecord) : List String := (r.spelled changeType).filterMap List.head?

def Modifies (r : ChangeRecord) : Prop := ∃ kind ∈ r.kinds, Text.lower kind = "modify"

/-- The names of control keys, in any case. -/
def Controls (r : ChangeRecord) (name : String) : Prop :=
  sameLetters name changeType = true ∨
    r.Modifies ∧ (sameLetters name "add" = true ∨ sameLetters name "replace" = true)

/-- An attribute of the record with its values, the name in another case if it is a control key. -/
def Rewritten (r : ChangeRecord) (a b : String × List String) : Prop :=
  b.2 = a.2 ∧ (b.1 = a.1 ∨ sameLetters b.1 a.1 = true ∧ r.Controls a.1)

/-- The record with the names of some of its control keys in another case. -/
structure Recased (r r' : ChangeRecord) : Prop where
  dn : r'.dn = r.dn
  entry : List.Forall₂ r.Rewritten r.entry r'.entry

variable {r r' : ChangeRecord} {kind : String}

/-! ## Names up to case -/

theorem sameLetters_self (name : String) : sameLetters name name = true := by
  simp [sameLetters]

theorem sameLetters_comm (a b : String) : sameLetters a b = sameLetters b a := by
  simp only [sameLetters, Bool.beq_comm]

theorem sameLetters_congr {a b : String} (same : sameLetters a b = true) (name : String) :
    sameLetters a name = sameLetters b name := by
  simp only [sameLetters, beq_iff_eq] at same ⊢
  rw [same]

theorem sameLetters_rewritten {a b : String × List String} (rewritten : r.Rewritten a b)
    (name : String) : sameLetters b.1 name = sameLetters a.1 name := by
  obtain ⟨_, same | ⟨alike, _⟩⟩ := rewritten
  · rw [same]
  · exact sameLetters_congr alike name

/-! ## What does not depend on the case -/

theorem spelled_recased (recased : Recased r r') (key : String) :
    r'.spelled key = r.spelled key := by
  have general : ∀ {before after : List (String × List String)},
      List.Forall₂ r.Rewritten before after →
        (after.filter fun a => sameLetters a.1 key).map (·.2) =
          (before.filter fun a => sameLetters a.1 key).map (·.2) := by
    intro before after rewritten
    induction rewritten with
    | nil => rfl
    | cons first _ ih =>
      simp only [List.filter_cons, sameLetters_rewritten first]
      split
      · rw [List.map_cons, List.map_cons, first.1, ih]
      · exact ih
  exact general recased.entry

theorem kinds_recased (recased : Recased r r') : r'.kinds = r.kinds := by
  rw [kinds, kinds, spelled_recased recased]

theorem classes_eq_spelled (r : ChangeRecord) :
    r.classes = (r.spelled classColumn).head?.getD [] := by
  rw [classes, spelled, List.head?_map, List.head?_filter]

theorem classes_recased (recased : Recased r r') : r'.classes = r.classes := by
  rw [classes_eq_spelled, classes_eq_spelled, spelled_recased recased]

/-- In a record that does not modify an entry the change type is the only control key, and it is
no attribute. -/
theorem dataAttributes_recased (recased : Recased r r') (plain : ¬ r.Modifies) :
    r'.dataAttributes = r.dataAttributes := by
  have general : ∀ {before after : List (String × List String)},
      List.Forall₂ r.Rewritten before after →
        (after.filter fun a => !sameLetters a.1 classColumn && !sameLetters a.1 changeType) =
          before.filter fun a => !sameLetters a.1 classColumn && !sameLetters a.1 changeType := by
    intro before after rewritten
    induction rewritten with
    | nil => rfl
    | cons first _ ih =>
      simp only [List.filter_cons, sameLetters_rewritten first]
      obtain ⟨values, same | ⟨_, control⟩⟩ := first
      · rw [Prod.ext same values, ih]
      · have dropped := control.resolve_right fun other => plain other.1
        simp only [dropped, Bool.not_true, Bool.and_false, Bool.false_eq_true, if_false, ih]
  exact general recased.entry

/-! ## What depends on it -/

theorem operation_eq_create_iff :
    r.operation = .create ↔ ∀ kind, r.first? changeType = some kind → Text.lower kind = "add" := by
  cases given : r.first? changeType with
  | none => simp [operation, given]
  | some kind =>
    simp only [operation, given, Option.some.injEq, forall_eq']
    by_cases adds : Text.lower kind = "add"
    · simp [adds]
    · simp only [adds, if_false, iff_false]
      split
      · split <;> nofun
      · nofun

theorem mem_kinds_of_first? (given : r.first? changeType = some kind) : kind ∈ r.kinds := by
  simp only [first?, values?, Option.bind_eq_some_iff, Option.map_eq_some_iff] at given
  obtain ⟨_, ⟨a, found, rfl⟩, head⟩ := given
  have named : (a.1 == changeType) = true :=
    List.find?_some (p := fun a : String × List String => a.1 == changeType) found
  have held : a ∈ r.entry.filter fun a => sameLetters a.1 changeType := by
    refine List.mem_filter.2 ⟨List.mem_of_find?_eq_some found, ?_⟩
    rw [eq_of_beq named]
    exact sameLetters_self changeType
  exact List.mem_filterMap.2 ⟨a.2, List.mem_map.2 ⟨a, held, rfl⟩, head⟩

/-- A change type under a key that is not read. -/
def shouted (a : String × List String) : String × List String :=
  if sameLetters a.1 changeType = true then ("CHANGETYPE", a.2) else a

theorem shouted_ne (a : String × List String) : ((shouted a).1 == changeType) = false := by
  have other : "CHANGETYPE" ≠ changeType := by decide
  rw [beq_eq_false_iff_ne, shouted]
  split
  · exact other
  · rename_i apart
    intro same
    rw [same] at apart
    exact apart (sameLetters_self changeType)

theorem find?_shouted (entry : List (String × List String)) :
    (entry.map shouted).find? (·.1 == changeType) = none := by
  rw [List.find?_eq_none]
  intro b member
  obtain ⟨a, _, rfl⟩ := List.mem_map.1 member
  rw [shouted_ne]
  exact Bool.false_ne_true

/-- The key of a change type may be written in any case. -/
theorem rewritten_key {a : String × List String} (named : sameLetters a.1 changeType = true)
    {key : String} (alike : sameLetters key changeType = true) : r.Rewritten a (key, a.2) := by
  refine ⟨rfl, Or.inr ⟨?_, Or.inl named⟩⟩
  rw [sameLetters_congr alike, sameLetters_comm]
  exact named

theorem rewritten_shouted (r : ChangeRecord) (entry : List (String × List String)) :
    List.Forall₂ r.Rewritten entry (entry.map shouted) := by
  rw [List.forall₂_map_right_iff, List.forall₂_same]
  intro a _
  rw [shouted]
  split
  · rename_i named
    exact rewritten_key named (by decide)
  · exact ⟨rfl, Or.inl rfl⟩

/-- Whatever a record asks for, with its control keys in some case it is a new entry. -/
theorem exists_recased_create (r : ChangeRecord) :
    ∃ r', Recased r r' ∧ r'.operation = .create := by
  refine ⟨⟨r.dn, r.entry.map shouted⟩, ⟨rfl, rewritten_shouted r r.entry⟩, ?_⟩
  rw [operation_eq_create_iff]
  intro kind given
  rw [first?, values?, find?_shouted] at given
  cases given

/-- Each of the change types is the one that is read if the keys are written so. -/
theorem exists_recased_first? (member : kind ∈ r.kinds) :
    ∃ r', Recased r r' ∧ r'.first? changeType = some kind := by
  obtain ⟨_, given, head⟩ := List.mem_filterMap.1 member
  obtain ⟨a, held, rfl⟩ := List.mem_map.1 given
  obtain ⟨inside, named⟩ := List.mem_filter.1 held
  obtain ⟨before, behind, split⟩ := List.append_of_mem inside
  refine ⟨⟨r.dn, before.map shouted ++ (changeType, a.2) :: behind.map shouted⟩, ⟨rfl, ?_⟩, ?_⟩
  · rw [split]
    exact List.rel_append (rewritten_shouted r before)
      (.cons (rewritten_key named (sameLetters_self changeType)) (rewritten_shouted r behind))
  · rw [first?, values?, List.find?_append, find?_shouted, Option.none_or, List.find?_cons,
      beq_self_eq_true]
    exact head

/-- The classes do not depend on the case of control keys, nor do the attributes of a record that
does not modify an entry.  What the record asks for does, unless it says nothing but `add`. -/
theorem operation_recased_iff (r : ChangeRecord) :
    (∀ r', Recased r r' → r'.classes = r.classes ∧
        (¬ r.Modifies → r'.dataAttributes = r.dataAttributes)) ∧
      ((∀ r', Recased r r' → r'.operation = r.operation) ↔
        ∀ kind ∈ r.kinds, Text.lower kind = "add") := by
  refine ⟨fun r' recased => ⟨classes_recased recased, dataAttributes_recased recased⟩, ?_, ?_⟩
  · intro same kind member
    obtain ⟨silent, recased, new⟩ := exists_recased_create r
    obtain ⟨said, recased', given⟩ := exists_recased_first? member
    have create : said.operation = .create := by
      rw [same said recased', ← same silent recased, new]
    exact operation_eq_create_iff.1 create kind given
  · intro adds r' recased
    have create : ∀ {s : ChangeRecord}, s.kinds = r.kinds → s.operation = .create := by
      intro s kinds
      rw [operation_eq_create_iff]
      intro kind given
      exact adds kind (kinds ▸ mem_kinds_of_first? given)
    rw [create (kinds_recased recased), create rfl]

/-- A deletion, and the same with a capital letter in its control key. -/
def deletion : ChangeRecord :=
  ⟨"inum=1,o=jans", [("changetype", ["delete"]), ("objectClass", ["top", "jansClnt"])]⟩

def capitalDeletion : ChangeRecord :=
  ⟨"inum=1,o=jans", [("changeType", ["delete"]), ("objectClass", ["top", "jansClnt"])]⟩

theorem not_operation_recased : ¬ ∀ r r', Recased r r' → r'.operation = r.operation := by
  intro always
  have recased : Recased deletion capitalDeletion := by
    refine ⟨rfl, .cons (rewritten_key (by decide) (by decide)) (.cons ⟨rfl, Or.inl rfl⟩ .nil)⟩
  have same := always deletion capitalDeletion recased
  have create : capitalDeletion.operation = .create := by decide
  have delete : deletion.operation = .unsupported "delete" := by decide +kernel
  rw [create, delete] at same
  cases same

end RelDirectory.ChangeRecord
