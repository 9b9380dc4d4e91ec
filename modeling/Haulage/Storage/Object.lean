import Haulage.ByteSize

/-! What is known of one stored object. -/
namespace Haulage

/-- Times are in seconds since 1970. -/
structure ObjectInfo where
  key : String
  sizeBytes : Option Int
  sizeHuman : Option String
  lastModified : Option Int
  etag : Option String
  deriving DecidableEq

/-- An object of a known size; a negative size reads as an empty one. -/
def ObjectInfo.file (key : String) (size : Int) : ObjectInfo where
  key := key
  sizeBytes := some size
  sizeHuman := some (ByteSize.human size.toNat)
  lastModified := none
  etag := none

end Haulage
