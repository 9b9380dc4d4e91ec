import Haulage.Output.Console
import Haulage.Transfer

/-! What a run says of its outcome. -/
namespace Haulage

/-- The outcome as a document. -/
def DeleteOutcome.document (outcome : DeleteOutcome) : Json :=
  .object <| ("status", .string "success") ::
    match outcome with
    | .remote target deleted =>
      [("kind", .string "remote"), ("target", .string target), ("deleted", .integer deleted)]
    | .diskRemoved path => [("kind", .string "local_removed"), ("path", .string path)]
    | .diskMissing path => [("kind", .string "local_missing"), ("path", .string path)]

def TransferOutcome.document (outcome : TransferOutcome) : Json :=
  .object [
    ("status", .string "success"),
    ("source", .string outcome.source),
    ("destination", .string outcome.destination),
    ("size_bytes", .integer outcome.size),
    ("size_human", .string (ByteSize.human outcome.size))]

namespace Style

/-- The outcome of a deletion in a line; finding nothing below a remote path is worth a warning. -/
def deletionLine (style : Style) (outcome : DeleteOutcome) : Console :=
  match outcome with
  | .remote target 0 => style.warning ("No objects found under " ++ target)
  | .remote target deleted =>
    style.line ("Directory " ++ target ++ " removed successfully from S3 (" ++ toString deleted ++
      " object(s))")
  | .diskRemoved path => style.line ("Directory " ++ path ++ " removed successfully")
  | .diskMissing path => style.line ("Directory " ++ path ++ " does not exist")

def transferLine (style : Style) (outcome : TransferOutcome) : Console :=
  let verb := if StoragePath.namesRemote outcome.destination then "uploaded" else "copied"
  style.line ("File " ++ outcome.source ++ " " ++ verb ++ " successfully to " ++
    outcome.destination ++ " (" ++ ByteSize.human outcome.size ++ ")")

/-- All that a successful deletion writes. -/
def deletion (style : Style) (outcome : DeleteOutcome) : Console :=
  (if style.json then Console.document outcome.document else style.deletionLine outcome) ++
    style.success "Cleanup completed successfully."

/-- All that a successful transfer writes. -/
def transfer (style : Style) (outcome : TransferOutcome) : Console :=
  (if style.json then Console.document outcome.document else style.transferLine outcome) ++
    style.success "Transfer completed successfully."

def deletionFailure (style : Style) (destination : String) (fault : Fault) : Console :=
  style.error ("Error removing directory " ++ destination ++ ": " ++ fault.message) ++
    style.error "Cleanup failed."

def transferFailure (style : Style) (source : String) (fault : Fault) : Console :=
  style.error ("Error transferring " ++ source ++ ": " ++ fault.message) ++
    style.error "Transfer failed."

end Style

end Haulage
