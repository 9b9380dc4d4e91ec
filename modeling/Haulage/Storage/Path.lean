import Haulage.Text.Trim

/-! Where data lives: a path on disk, or a bucket and a key on a remote store. A text names a
remote place exactly when it begins with the scheme; the first slash after the scheme ends the
bucket, and everything behind that slash is the key as typed. -/
namespace Haulage

/-- A bucket and a key inside it; the key may also be a prefix of many keys. -/
structure RemotePath where
  bucket : String
  key : String
  deriving DecidableEq

/-- A classified location text. -/
inductive StoragePath where
  | disk (text : String)
  | remote (path : RemotePath)
  deriving DecidableEq

namespace RemotePath

/-- The mark that makes a text remote. -/
def scheme : List Char := ['s', '3', ':', '/', '/']

/-- An empty key, or one that ends in a slash, stands for what lies below it. -/
def isDirectory (path : RemotePath) : Bool :=
  path.key.toList.getLast?.all (· == '/')

/-- The text that names the path: a bare bucket carries no slash. -/
def fullPath (path : RemotePath) : String :=
  String.ofList <| scheme ++ path.bucket.toList ++
    if path.key.toList.isEmpty then [] else '/' :: path.key.toList

/-- The child below this path: slashes that end the key give way to a single one. -/
def join (path : RemotePath) (child : String) : RemotePath :=
  let base := Text.dropTrailing '/' path.key.toList
  { path with
    key := if base.isEmpty then child else String.ofList (base ++ '/' :: child.toList) }

end RemotePath

namespace StoragePath

/-- Whether a location text names a remote place. -/
def namesRemote (text : String) : Bool :=
  RemotePath.scheme.isPrefixOf text.toList

/-- Reads a location text. -/
def ofText (text : String) : StoragePath :=
  if namesRemote text then
    let rest := text.toList.drop RemotePath.scheme.length
    .remote {
      bucket := String.ofList (rest.takeWhile (· != '/'))
      key := String.ofList ((rest.dropWhile (· != '/')).drop 1) }
  else
    .disk text

def isRemote : StoragePath → Bool
  | .remote _ => true
  | .disk _ => false

def isDisk : StoragePath → Bool
  | .remote _ => false
  | .disk _ => true

def remote? : StoragePath → Option RemotePath
  | .remote path => some path
  | .disk _ => none

def disk? : StoragePath → Option String
  | .remote _ => none
  | .disk text => some text

theorem isRemote_ofText (text : String) : (ofText text).isRemote = namesRemote text := by
  unfold ofText
  split
  · rename_i named
    exact named.symm
  · rename_i other
    simpa [isRemote] using other

/-- A slash never belongs to a bucket. -/
theorem slash_not_mem_bucket {text : String} {path : RemotePath}
    (found : ofText text = .remote path) : '/' ∉ path.bucket.toList := by
  unfold ofText at found
  split at found
  · injection found with same
    subst same
    intro member
    rw [String.toList_ofList] at member
    have kept := List.all_eq_true.mp (List.all_takeWhile (l := text.toList.drop
      RemotePath.scheme.length) (p := (· != '/'))) '/' member
    simp at kept
  · cases found

end StoragePath

end Haulage
