import Haulage.Files.Route

/-! Content types of files, told by the last extension of a name without regard to ASCII case. Only the
commonest extensions are listed; a library may know many more. -/
namespace Haulage.S3

private def office (kind : String) : String :=
  "application/vnd.openxmlformats-officedocument." ++ kind

def commonContentTypes : List (String × String) := [
  ("html", "text/html"), ("htm", "text/html"),
  ("txt", "text/plain"), ("log", "text/plain"), ("c", "text/plain"), ("h", "text/plain"),
  ("py", "text/plain"),
  ("json", "application/json"), ("xml", "text/xml"), ("css", "text/css"),
  ("js", "text/javascript"), ("jsx", "text/javascript"), ("mjs", "application/javascript"),
  ("png", "image/png"), ("jpg", "image/jpeg"), ("jpeg", "image/jpeg"), ("gif", "image/gif"),
  ("svg", "image/svg+xml"), ("webp", "image/webp"), ("ico", "image/x-icon"),
  ("pdf", "application/pdf"), ("zip", "application/zip"), ("tar", "application/x-tar"),
  ("gz", "application/gzip"), ("tgz", "application/x-compressed"), ("bz2", "application/x-bzip2"),
  ("xz", "application/x-xz"), ("7z", "application/x-7z-compressed"),
  ("csv", "text/csv"), ("md", "text/markdown"), ("rs", "text/x-rust"), ("sh", "application/x-sh"),
  ("toml", "text/x-toml"), ("yaml", "text/x-yaml"), ("yml", "text/x-yaml"),
  ("wasm", "application/wasm"), ("mp3", "audio/mpeg"), ("mp4", "video/mp4"),
  ("webm", "video/webm"), ("ogg", "audio/ogg"), ("wav", "audio/wav"), ("avi", "video/x-msvideo"),
  ("mov", "video/quicktime"), ("woff", "application/font-woff"), ("woff2", "font/woff2"),
  ("ttf", "font/ttf"), ("dll", "application/x-msdownload"), ("doc", "application/msword"),
  ("xls", "application/vnd.ms-excel"), ("ppt", "application/vnd.ms-powerpoint"),
  ("docx", office "wordprocessingml.document"), ("xlsx", office "spreadsheetml.sheet"),
  ("pptx", office "presentationml.presentation"),
  ("rtf", "application/rtf"), ("ts", "video/vnd.dlna.mpeg-tts")]

/-- What follows the last point of a name, unless the name begins with that point. -/
def extension? (name : String) : Option String :=
  let last := (name.toList.reverse.takeWhile (· != '.')).reverse
  let stem := name.toList.take (name.toList.length - last.length - 1)
  if stem.isEmpty then none else some (String.ofList last)

/-- The content type of the file that a path text names, if it is a common one. -/
def commonContentType? (path : String) : Option String :=
  ((Files.PathText.fileName? path).bind extension?).bind fun extension =>
    commonContentTypes.lookup (String.ofList (extension.toList.map Char.toLower))

end Haulage.S3
