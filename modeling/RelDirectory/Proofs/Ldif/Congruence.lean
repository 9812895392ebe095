import RelDirectory.Ldif.Apply
import RelDirectory.Proofs.Lookups

/-!
# Applying records to directories that are alike

Directories are alike for writing if lookups cannot tell them apart and they discover, insert and
update alike.  Then records are applied to both with the same outcome, and leave them alike
(`respects_apply`).
-/
set_option autoImplicit false
namespace RelDirectory

open Step

namespace Directory

/-- Related directories look alike, have one catalog, and discover and write alike. -/
structure WritesAlike (R : Directory Memory → Directory Memory → Prop) : Prop
    extends LooksAlike R where
  catalog : ∀ d d', R d d' → d'.catalog = d.catalog
  reflects : Respects R (reflect false)
  inserts : ∀ t row, Respects R (insertRow t row)
  updates : ∀ t dn column value, Respects R (updateColumn t dn column value)

variable {R : Directory Memory → Directory Memory → Prop} (alike : WritesAlike R)

include alike

theorem respects_coerce (name : String) (values : List String) :
    Respects R (coerce name values) := by
  refine respects_current ?_ fun _ => respects_ofExcept _
  intro d d' related
  rw [coercion, coercion, alike.catalog d d' related, alike.backend d d' related]

end Directory

namespace Ldif

open Directory (WritesAlike)

variable {R : Directory Memory → Directory Memory → Prop} (alike : WritesAlike R)

theorem respects_missing (dn : String) : Respects R (missing dn) :=
  respects_bind (respects_report _) fun _ => respects_pure _

include alike

theorem respects_locate (dn : String) : Respects R (locate dn) := by
  refine respects_bind (Directory.respects_find? alike.toLooksAlike dn) ?_
  intro found
  cases found with
  | none => exact respects_pure none
  | some row =>
    exact respects_bind (Directory.respects_tableOf alike.toLooksAlike row) fun _ =>
      respects_pure _

theorem respects_writeColumn (t : Table) (row : Row) (dn column : String) (value : Value) :
    Respects R (writeColumn t row dn column value) := by
  simp only [writeColumn]
  split
  · exact respects_bind (respects_report _) fun _ => respects_pure _
  · refine respects_bind (alike.updates t _ column value) fun _ => ?_
    exact respects_bind (respects_report _) fun _ => respects_pure _

theorem respects_addAttribute (r : ChangeRecord) (name : String) :
    Respects R (addAttribute r name) := by
  refine respects_bind (respects_ofExcept _) ?_
  intro values
  refine respects_bind (respects_locate alike r.dn) ?_
  intro found
  split
  · exact respects_missing r.dn
  · split
    · exact respects_fail _
    · split
      · exact respects_bind (respects_pure _) fun _ => respects_writeColumn alike _ _ _ _ _
      · exact respects_bind (Directory.respects_coerce alike name values) fun _ =>
          respects_writeColumn alike _ _ _ _ _

theorem respects_replaceAttribute (r : ChangeRecord) (name : String) :
    Respects R (replaceAttribute r name) := by
  refine respects_bind (respects_ofExcept _) ?_
  intro values
  refine respects_bind (Directory.respects_coerce alike name values) ?_
  intro value
  refine respects_bind (respects_locate alike r.dn) ?_
  intro found
  split
  · exact respects_missing r.dn
  · split
    · exact respects_writeColumn alike _ _ _ _ _
    · exact respects_fail _

theorem respects_fillRow (t : Table) (row : Row) (attributes : List (String × List String)) :
    Respects R (fillRow t row attributes) := by
  induction attributes generalizing row with
  | nil => exact respects_pure row
  | cons held rest ih =>
    obtain ⟨name, values⟩ := held
    simp only [fillRow]
    split
    · exact respects_bind (Directory.respects_coerce alike name values) fun _ => ih _
    · exact respects_bind (respects_report _) fun _ => ih row

theorem respects_createIn (t : Table) (cls : String) (r : ChangeRecord) :
    Respects R (createIn t cls r) := by
  refine respects_bind (Directory.respects_existsIn alike.toLooksAlike r.dn t.name) ?_
  intro present
  split
  · refine respects_current ?_ fun _ => ?_
    · intro d d' related
      rw [alike.backend d d' related]
    · exact respects_bind (respects_report _) fun _ => respects_pure _
  · refine respects_bind (respects_ofExcept _) fun leaf => ?_
    refine respects_bind (respects_fillRow alike t _ _) fun filled => ?_
    refine respects_bind (respects_report _) fun _ => ?_
    exact respects_bind (alike.inserts t _) fun _ => respects_pure _

theorem respects_createEntry (r : ChangeRecord) : Respects R (createEntry r) := by
  simp only [createEntry]
  split
  · exact respects_bind (respects_report _) fun _ => respects_pure _
  · refine respects_bind (Directory.respects_table? alike.toLooksAlike _) ?_
    intro home
    split
    · exact respects_bind (respects_report _) fun _ => respects_pure _
    · exact respects_createIn alike _ _ r

theorem respects_applyRecord (r : ChangeRecord) : Respects R (applyRecord r) := by
  simp only [applyRecord]
  cases r.operation with
  | create => exact respects_createEntry alike r
  | add name => exact respects_addAttribute alike r name
  | replace name => exact respects_replaceAttribute alike r name
  | unsupported kind => exact respects_bind (respects_report _) fun _ => respects_pure _

theorem respects_applyOrSkip (r : ChangeRecord) : Respects R (applyOrSkip r) := by
  refine respects_bind (respects_attempt (respects_applyRecord alike r)) ?_
  intro answer
  cases answer with
  | ok applied => exact respects_pure applied
  | error e => exact respects_bind (respects_report _) fun _ => respects_pure _

theorem respects_applyRecords (report : Report) (rs : List ChangeRecord) :
    Respects R (applyRecords report rs) := by
  induction rs generalizing report with
  | nil => exact respects_pure report
  | cons r rs ih => exact respects_bind (respects_applyOrSkip alike r) fun _ => ih _

theorem respects_apply (rs : List ChangeRecord) : Respects R (apply rs false) := by
  refine respects_bind alike.reflects fun _ => ?_
  refine respects_bind (respects_applyRecords alike _ rs) fun report => ?_
  exact respects_bind (respects_report _) fun _ => respects_pure report

end Ldif

end RelDirectory
