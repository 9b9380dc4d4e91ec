import Haulage.Storage.Path
import Mathlib.Data.List.TakeWhile

/-! How remote places are written: the scheme, a bucket without a slash and, behind one slash more, the
key. A text is read as the one place that it is a writing of, and a place is printed as the shortest
writing of it; a bare bucket has one other, with a slash behind it. -/
namespace Haulage

/-- The texts that name a place. Where no slash stands behind the bucket there is no key. -/
inductive RemotePath.Written : RemotePath → String → Prop where
  | bare {bucket : String} (plain : '/' ∉ bucket.toList) : Written ⟨bucket, ""⟩ ("s3://" ++ bucket)
  | keyed {bucket : String} (plain : '/' ∉ bucket.toList) (key : String) :
      Written ⟨bucket, key⟩ ("s3://" ++ bucket ++ "/" ++ key)

namespace StoragePath

open RemotePath (Written)

variable {text : String} {path : RemotePath}

theorem namesRemote_iff : namesRemote text = true ↔ ∃ rest, text = "s3://" ++ rest := by
  rw [namesRemote, List.isPrefixOf_iff_prefix]
  constructor
  · rintro ⟨rest, whole⟩
    refine ⟨String.ofList rest, String.toList_inj.mp ?_⟩
    rw [String.toList_append, String.toList_ofList (l := rest)]
    exact whole.symm
  · rintro ⟨rest, rfl⟩
    rw [String.toList_append]
    exact List.prefix_append ..

theorem namesRemote_iff_exists :
    namesRemote text = true ↔ ∃ path, ofText text = .remote path := by
  rw [← isRemote_ofText]
  cases ofText text with
  | disk held => exact iff_of_false nofun nofun
  | remote path => exact iff_of_true rfl ⟨path, rfl⟩

private theorem ofText_scheme (rest : String) : ofText ("s3://" ++ rest) = .remote {
    bucket := String.ofList (rest.toList.takeWhile (· != '/'))
    key := String.ofList ((rest.toList.dropWhile (· != '/')).drop 1) } := by
  have behind : ("s3://" ++ rest).toList.drop RemotePath.scheme.length = rest.toList := by
    rw [String.toList_append]
    exact List.drop_left
  rw [ofText, if_pos (namesRemote_iff.mpr ⟨rest, rfl⟩), behind]

theorem written_of_ofText (found : ofText text = .remote path) : path.Written text := by
  have named : namesRemote text = true := by
    rw [← isRemote_ofText, found]
    rfl
  have plain := slash_not_mem_bucket found
  obtain ⟨rest, rfl⟩ := namesRemote_iff.mp named
  rw [ofText_scheme] at found
  cases found
  have whole := List.takeWhile_append_dropWhile (p := (· != '/')) (l := rest.toList)
  match dropped : rest.toList.dropWhile (· != '/') with
  | [] =>
    rw [dropped, List.append_nil] at whole
    rw [whole, String.ofList_toList] at plain ⊢
    exact .bare plain
  | mark :: key =>
    have slash : mark = '/' := by
      have stopped := List.head?_dropWhile_not (· != '/') rest.toList
      rw [dropped] at stopped
      simpa using stopped
    have spelled : rest = String.ofList (rest.toList.takeWhile (· != '/')) ++ "/" ++
        String.ofList key := by
      apply String.toList_inj.mp
      rw [dropped, slash] at whole
      simpa using whole.symm
    generalize rest.toList.takeWhile (· != '/') = bucket at plain spelled ⊢
    rw [spelled, ← String.append_assoc, ← String.append_assoc]
    exact .keyed plain _

theorem ofText_of_written (written : path.Written text) : ofText text = .remote path := by
  have passed {bucket : String} (plain : '/' ∉ bucket.toList) :
      ∀ letter ∈ bucket.toList, (letter != '/') = true := by
    intro letter member
    exact bne_iff_ne.mpr fun same => plain (same ▸ member)
  cases written with
  | @bare bucket plain =>
    have dropped : bucket.toList.dropWhile (· != '/') = [] :=
      List.dropWhile_eq_nil_iff.mpr (passed plain)
    rw [ofText_scheme, List.takeWhile_eq_self_iff.mpr (passed plain), dropped, String.ofList_toList]
    rfl
  | @keyed bucket plain key =>
    have whole : (bucket ++ "/" ++ key).toList = bucket.toList ++ '/' :: key.toList := by simp
    rw [String.append_assoc, String.append_assoc, ofText_scheme, ← String.append_assoc, whole,
      List.takeWhile_append_of_pos (passed plain), List.dropWhile_append_of_pos (passed plain)]
    simp

/-- Every other text names itself. -/
theorem eq_of_ofText_eq_disk {held : String} (found : ofText text = .disk held) : held = text := by
  unfold ofText at found
  split at found
  · cases found
  · exact (StoragePath.disk.inj found).symm

end StoragePath

namespace RemotePath

variable {text : String} {path : RemotePath}

theorem fullPath_eq (path : RemotePath) : path.fullPath =
    if path.key = "" then "s3://" ++ path.bucket else "s3://" ++ path.bucket ++ "/" ++ path.key := by
  apply String.toList_inj.mp
  rw [fullPath, String.toList_ofList]
  by_cases keyless : path.key = ""
  · rw [if_pos keyless, if_pos (by simp [keyless]), List.append_nil]
    rw [String.toList_append]
    rfl
  · rw [if_neg keyless, if_neg (by simpa using keyless)]
    simp only [String.toList_append, List.append_assoc]
    rfl

theorem written_fullPath (plain : '/' ∉ path.bucket.toList) : path.Written path.fullPath := by
  obtain ⟨bucket, key⟩ := path
  rw [fullPath_eq]
  split
  · rename_i keyless
    cases keyless
    exact .bare plain
  · exact .keyed plain key

/-- A place is printed as it is written, but for the slash that may stand behind a bare bucket. -/
theorem Written.printed (written : path.Written text) :
    path.fullPath =
      if text = "s3://" ++ path.bucket ++ "/" then "s3://" ++ path.bucket else text := by
  cases written with
  | bare plain =>
    rw [fullPath_eq, if_pos rfl]
    split <;> rfl
  | @keyed bucket plain key =>
    rw [fullPath_eq]
    by_cases keyless : key = ""
    · subst keyless
      rw [if_pos rfl, String.append_empty, if_pos rfl]
    · have longer : "s3://" ++ bucket ++ "/" ++ key ≠ "s3://" ++ bucket ++ "/" := by
        intro same
        rw [← String.toList_inj, String.toList_append, List.append_right_eq_self] at same
        exact keyless (by simpa using same)
      rw [if_neg keyless, if_neg longer]

end RemotePath

end Haulage
