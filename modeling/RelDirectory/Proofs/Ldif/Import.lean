import Mathlib.Data.List.Forall2
import RelDirectory.Proofs.Ldif.Run

/-!
# Importing files

An import reads its files one at a time and applies the records of each as a batch of its own,
before the next file is read.  Once the tables are known a file leaves them known, so the batches
run as one (`effect_importFiles_known`).  Only the first file discovers tables, and for it
discovery comes after the reading (`effect_importFiles_loaded`, `effect_importFiles_unread`).
-/
set_option autoImplicit false
namespace RelDirectory

namespace Report

variable (r s t : Report)

theorem empty_add : empty.add r = r := by
  simp [add, empty]

theorem add_empty : r.add empty = r := rfl

theorem add_assoc : (r.add s).add t = r.add (s.add t) := by
  simp [add, Nat.add_assoc]

end Report

namespace Ldif

open Step

/-- The files at the paths can be read, and hold just these batches of records. -/
def Loads (files : Reader) (paths : List String) (batches : List (List ChangeRecord)) : Prop :=
  List.Forall₂ (fun path rs => (load files path).1 = .ok rs) paths batches

variable {files : Reader} {path : String} {paths : List String} {report : Report}
variable {rs : List ChangeRecord} {batches : List (List ChangeRecord)}
variable {d d' : Directory Memory} {tables : Keyed Table} {force : Bool} {e : Failure}

theorem reportOf_append (as bs : List Applied) :
    reportOf (as ++ bs) = (reportOf as).add (reportOf bs) := by
  simp [reportOf, foldl_count, Report.add, Report.empty]

/-! ## One file -/

theorem effect_importFiles_unread (unread : (load files path).1 = .error e) (report : Report)
    (paths : List String) (force : Bool) (d : Directory Memory) :
    effect (importFiles files report (path :: paths) force) d = (.error e, d) := by
  simp only [importFiles, effect_bind, effect_report, effect_reportAll, effect_ofExcept, unread]

theorem effect_importFiles_loaded (loaded : (load files path).1 = .ok rs) :
    effect (importFiles files report (path :: paths) force) d =
      effect (do
        let applied ← apply rs force
        importFiles files (report.add applied) paths false) d := by
  simp only [importFiles, effect_bind, effect_report, effect_reportAll, effect_ofExcept, loaded]

/-! ## Many files -/

/-- The files of a directory with known tables do what their records do as one batch. -/
theorem effect_importFiles_known (known : d.tables = some tables)
    (loads : Loads files paths batches) (report : Report) (later : List String) :
    effect (importFiles files report (paths ++ later) false) d =
      effect
        (importFiles files
          (report.add (reportOf (outcomes tables d.coercion d.store batches.flatten).1))
          later false)
        { d with store := (outcomes tables d.coercion d.store batches.flatten).2 } := by
  induction loads generalizing d report with
  | nil =>
    have nothing : report.add (reportOf []) = report := Report.add_empty report
    simp only [List.nil_append, List.flatten_nil, outcomes, nothing]
  | @cons path rs paths batches loaded _ ih =>
    have first := effect_apply (Directory.effect_reflect_known known) known rs
    have alike := outcomes_alike tables d.coercion d.store rs
    have rest := ih (d := { d with store := (outcomes tables d.coercion d.store rs).2 }) known
      (report.add (reportOf (outcomes tables d.coercion d.store rs).1))
    rw [coercion_alike alike] at rest
    simp only [List.cons_append, effect_importFiles_loaded loaded, effect_bind, first, rest,
      List.flatten_cons, outcomes_append, reportOf_append, Report.add_assoc]

/-- The first file discovers the tables for all of them. -/
theorem effect_importFiles_discovered
    (discovered : effect (Directory.reflect force) d = (.ok (), d'))
    (known : d'.tables = some tables) (given : paths ≠ []) (loads : Loads files paths batches)
    (report : Report) (later : List String) :
    effect (importFiles files report (paths ++ later) force) d =
      effect (importFiles files report (paths ++ later) false) d' := by
  cases loads with
  | nil => exact absurd rfl given
  | cons loaded _ =>
    simp only [List.cons_append, effect_importFiles_loaded loaded, effect_bind,
      effect_apply discovered known, effect_apply (Directory.effect_reflect_known known) known]

/-- Files that can all be read do what all their records do as one batch. -/
theorem effect_importFiles (given : paths ≠ []) (loads : Loads files paths batches) :
    effect (importFiles files .empty paths force) d = effect (apply batches.flatten force) d := by
  rcases Directory.reflect_cases d force with
    ⟨e, undiscovered⟩ | ⟨d', tables, discovered, _, known⟩
  · rw [effect_apply_error undiscovered]
    cases loads with
    | nil => exact absurd rfl given
    | cons loaded _ =>
      rw [effect_importFiles_loaded loaded, effect_bind, effect_apply_error undiscovered]
  · have found := effect_importFiles_discovered discovered known given loads .empty []
    rw [effect_importFiles_known known loads, List.append_nil, Report.empty_add] at found
    rw [found, effect_apply discovered known]
    rfl

/-- A file that cannot be read leaves what the records of the files before it have made. -/
theorem effect_importFiles_stopped (given : paths ≠ [])
    (fine : (Directory.reflect force d).result = .ok ()) (loads : Loads files paths batches)
    (unread : (load files path).1 = .error e) (later : List String) :
    effect (importFiles files .empty (paths ++ path :: later) force) d =
      (.error e, (apply batches.flatten force d).state) := by
  rcases Directory.reflect_cases d force with
    ⟨e, undiscovered⟩ | ⟨d', tables, discovered, _, known⟩
  · rw [result_of_effect undiscovered] at fine
    cases fine
  · rw [effect_importFiles_discovered discovered known given loads,
      effect_importFiles_known known loads, effect_importFiles_unread unread,
      state_of_effect (effect_apply discovered known _)]

theorem store_apply_nil (d : Directory Memory) (force : Bool) :
    (apply [] force d).state.store = d.store := by
  rcases Directory.reflect_cases d force with
    ⟨e, undiscovered⟩ | ⟨d', tables, discovered, same, known⟩
  · rw [state_of_effect (effect_apply_error undiscovered [])]
  · rw [state_of_effect (effect_apply discovered known [])]
    exact same

/-- Importing files is applying all their records as one batch; and a file that cannot be read or
parsed ends the import with its failure, when the records of the files before it are applied. -/
theorem importFiles_batch (files : Reader) (d : Directory Memory) (force : Bool)
    {paths : List String} {batches : List (List ChangeRecord)} (loads : Loads files paths batches) :
    (paths ≠ [] →
      effect (importFiles files .empty paths force) d = effect (apply batches.flatten force) d) ∧
    ∀ path later e, (load files path).1 = .error e →
      (paths ≠ [] → (Directory.reflect force d).result = .ok ()) →
      (importFiles files .empty (paths ++ path :: later) force d).result = .error e ∧
        (importFiles files .empty (paths ++ path :: later) force d).state.store =
          (apply batches.flatten force d).state.store := by
  refine ⟨fun given => effect_importFiles given loads, ?_⟩
  intro path later e unread reached
  by_cases given : paths = []
  · -- without a file before it the failure comes before the tables are looked for
    subst given
    cases loads
    have ended := effect_importFiles_unread unread .empty later force d
    refine ⟨result_of_effect ended, ?_⟩
    rw [List.nil_append, state_of_effect ended, List.flatten_nil, store_apply_nil]
  · have ended := effect_importFiles_stopped given (reached given) loads unread later
    exact ⟨result_of_effect ended, congrArg Directory.store (state_of_effect ended)⟩

/-- A new client, another name for it, and a file that does not begin with a name. -/
def clientFiles : FileTree := .ofEntries [
  ("client.ldif", Text.Utf8.encode
    "dn: inum=1,o=jans\nobjectClass: jansClnt\ndisplayName: one\n"),
  ("name.ldif", Text.Utf8.encode
    "dn: inum=1,o=jans\nchangetype: modify\nreplace: displayName\ndisplayName: two\n"),
  ("broken.ldif", Text.Utf8.encode "displayName: three\n")]

def clientBatches : List (List ChangeRecord) := [
  [⟨"inum=1,o=jans", [("objectClass", ["jansClnt"]), ("displayName", ["one"])]⟩],
  [⟨"inum=1,o=jans", [("changetype", ["modify"]), ("replace", ["displayName"]),
    ("displayName", ["two"])]⟩]]

theorem importFiles_batch_broken :
    let d := Directory.ofClients []
    let files := clientFiles.read
    let whole := importFiles files .empty ["client.ldif", "name.ldif"] true d
    let broken := importFiles files .empty ["client.ldif", "name.ldif", "broken.ldif"] true d
    Loads files ["client.ldif", "name.ldif"] clientBatches ∧
      whole.result = .ok ⟨1, 1, 0, 0⟩ ∧
      broken.result = .error (.ldif 1 (.notDn "displayName")) ∧
      broken.state.store = whole.state.store := by
  intro d files whole broken
  have loads : Loads files ["client.ldif", "name.ldif"] clientBatches :=
    .cons (by decide +kernel) (.cons (by decide +kernel) .nil)
  have unread : (load files "broken.ldif").1 = .error (.ldif 1 (.notDn "displayName")) := by
    decide +kernel
  have fine : (Directory.reflect true d).result = .ok () := by decide
  obtain ⟨all, stopped⟩ := importFiles_batch files d true loads
  have together := all (by decide)
  obtain ⟨failed, left⟩ := stopped "broken.ldif" [] _ unread fun _ => fine
  refine ⟨loads, ?_, failed, left.trans ?_⟩
  · rw [result_of_effect together]
    decide +kernel
  · exact congrArg Directory.store (state_of_effect together).symm

end Ldif

end RelDirectory
