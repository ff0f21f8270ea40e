import Rtunnel.Anytls.Codec
import Rtunnel.Data.FileChanges
import Rtunnel.Data.Paths

namespace Rtunnel.Acme

open Rtunnel.Data Rtunnel.Data.Paths
open Rtunnel.Anytls (Failure)

/-! Replacing one file of the cache.

The new content is written to a temporary file next to the target, which is then
renamed.  Each of the three steps can fail, and a failed write can leave anything
in the temporary file.  Directories are not kept track of.
-/

abbrev CacheFiles := Files String (List UInt8)

abbrev CacheChange := Change String (List UInt8)

/-- The temporary file's name is the target's with another extension. -/
def tmpPath (path : String) : String :=
  match splitExtension path.toList with
  | (stem, some extension) => String.ofList (stem ++ '.' :: (extension ++ ".tmp".toList))
  | (stem, none) => String.ofList (stem ++ '.' :: "pem.tmp".toList)

/-- How the file system answers: whether each step succeeds, and what the
temporary file holds on the way. -/
structure WriteAnswers where
  created : Bool
  drafts : List (List UInt8)
  written : Bool
  renamed : Bool
deriving DecidableEq

def WriteAnswers.Succeed (answers : WriteAnswers) : Prop :=
  answers.created = true ∧ answers.written = true ∧ answers.renamed = true

instance (answers : WriteAnswers) : Decidable answers.Succeed :=
  inferInstanceAs (Decidable (_ ∧ _))

/-- The changes that are made to the files, and the outcome. -/
def atomicWrite (answers : WriteAnswers) (path : String) (bytes : List UInt8) :
    List CacheChange × Except Failure Unit :=
  let drafts := answers.drafts.map (.write (tmpPath path))
  if !answers.created then ([], .error ("failed to create directory " ++ parent path))
  else if !answers.written then
    (drafts, .error ("failed to write temporary file " ++ tmpPath path))
  else if !answers.renamed then
    (drafts ++ [.write (tmpPath path) bytes],
      .error ("failed to replace " ++ path ++ " with " ++ tmpPath path))
  else (Change.replace (tmpPath path) path answers.drafts bytes, .ok ())

theorem atomicWrite_of_succeed {answers : WriteAnswers} (succeed : answers.Succeed)
    (path : String) (bytes : List UInt8) :
    atomicWrite answers path bytes =
      (Change.replace (tmpPath path) path answers.drafts bytes, .ok ()) := by
  obtain ⟨created, written, renamed⟩ := succeed
  simp [atomicWrite, created, written, renamed]

/-- A replacement that fails has at most written to the temporary file. -/
theorem atomicWrite_of_fail {answers : WriteAnswers} (fail : ¬ answers.Succeed) (path : String)
    (bytes : List UInt8) :
    (∃ reason, (atomicWrite answers path bytes).2 = .error reason) ∧
      ∀ change ∈ (atomicWrite answers path bytes).1,
        ∃ text, change = .write (tmpPath path) text := by
  have drafts : ∀ change ∈ answers.drafts.map (Change.write (tmpPath path)),
      ∃ text, change = .write (tmpPath path) text := by
    intro change member
    obtain ⟨text, _, rfl⟩ := List.mem_map.mp member
    exact ⟨text, rfl⟩
  unfold atomicWrite
  dsimp only
  split
  · exact ⟨⟨_, rfl⟩, by simp⟩
  · rename_i created
    split
    · exact ⟨⟨_, rfl⟩, drafts⟩
    · rename_i written
      split
      · refine ⟨⟨_, rfl⟩, fun change member => ?_⟩
        rcases List.mem_append.mp member with draft | final
        · exact drafts change draft
        · exact ⟨bytes, List.mem_singleton.mp final⟩
      · rename_i renamed
        exact absurd ⟨by simpa using created, by simpa using written, by simpa using renamed⟩ fail

/-- Whatever happens, only the temporary file and the target are touched. -/
theorem touches_atomicWrite {answers : WriteAnswers} {path other : String} {bytes : List UInt8}
    {change : CacheChange} (member : change ∈ (atomicWrite answers path bytes).1)
    (touched : change.Touches other) : other = tmpPath path ∨ other = path := by
  by_cases succeed : answers.Succeed
  · rw [atomicWrite_of_succeed succeed] at member
    exact Change.touches_replace member touched
  · obtain ⟨text, rfl⟩ := (atomicWrite_of_fail succeed path bytes).2 change member
    exact .inl touched.symm

/-- A file with an extension has its temporary file under the longer name. -/
theorem tmpPath_named {path : String} {before extension : List Char} {last : Char}
    (spelled : path.toList = before ++ '.' :: extension) (named : before.getLast? = some last)
    (inside : last ≠ '/')
    (plain : extension.all (fun character => character ≠ '.' ∧ character ≠ '/') = true) :
    tmpPath path = path ++ ".tmp" := by
  rw [← String.toList_inj, tmpPath, spelled, splitExtension_named named inside plain,
    String.toList_append, spelled, String.toList_ofList]
  simp

theorem getLast?_tmp (path : String) : (path ++ ".tmp").toList.getLast? = some 'p' := by
  rw [String.toList_append, List.getLast?_append]
  rfl

end Rtunnel.Acme
