import Outbox.ObjectKey
import Outbox.Disk.Error
import Outbox.Url.Host

/-!
Why a destination cannot be set up, or an upload fails. Every error has a wording and a chain: its
own wording, then that of its cause, and so on.
-/

set_option autoImplicit false

namespace Outbox

inductive StoreError where
  | unknownUrl (url : Text)
  | badPath (cause : KeyError)
  /-- A store of a kind that is left out of this program. -/
  | leftOut (kind : String)
  | noBucket (url : Text)
  | unreachable (kind : String)
  | directoryNotMade (path : Path) (cause : IoError)
  | fileNotOpened (path : Path) (cause : IoError)
  | dataNotCopied (cause : IoError)
  | fileNotRenamed (cause : IoError)
  deriving DecidableEq, Repr

namespace StoreError

/-- The kind of store that refuses, and the chain of its reasons. -/
def reason : StoreError → String × List String
  | .unknownUrl url => ("URL", ["Unable to recognise URL \"" ++ String.ofList url ++ "\""])
  | .badPath cause => ("URL", "Path" :: cause.chain)
  | .leftOut kind => ("parse_url", ["feature for " ++ kind ++ " not enabled"])
  | .noBucket url =>
    ("S3", ["URL did not match any known pattern for scheme: " ++ String.ofList url])
  | .unreachable kind => (kind, ["no connection"])
  | .directoryNotMade path cause =>
    ("LocalFileSystem", ["Unable to create dir " ++ path.text ++ ": " ++ cause.message,
      cause.message])
  | .fileNotOpened path cause =>
    ("LocalFileSystem", ["Unable to open file " ++ path.text ++ ": " ++ cause.message,
      cause.message])
  | .dataNotCopied cause =>
    ("LocalFileSystem", ["Unable to copy data to file: " ++ cause.message, cause.message])
  | .fileNotRenamed cause =>
    ("LocalFileSystem", ["Unable to rename file: " ++ cause.message, cause.message])

def message (e : StoreError) : String :=
  "Generic " ++ e.reason.1 ++ " error: " ++ e.reason.2.headD ""

/-- The wording of a refusal and of its causes. -/
def chain (e : StoreError) : List String :=
  e.message :: e.reason.2

end StoreError

/-- Why a destination does not take its descriptor, as far as the descriptor's own text goes. -/
inductive DescriptorError where
  | noDirectory
  | badUrl (url : Text) (cause : UrlError)
  | badKey (text : Text) (cause : KeyError)
  | other (text : String)
  deriving DecidableEq, Repr

def DescriptorError.message : DescriptorError → String
  | .noDirectory => "local mirror needs a destination directory"
  | .badUrl url cause => "invalid store url '" ++ String.ofList url ++ "': " ++ cause.message
  | .badKey text cause => "invalid key prefix '" ++ String.ofList text ++ "': " ++ cause.message
  | .other text => text

inductive UploadError where
  | io (cause : IoError)
  | store (cause : StoreError)
  | descriptor (cause : DescriptorError)
  /-- The path of an upload does not end in a file name. -/
  | noFileName (path : Path)
  | other (text : String)
  deriving DecidableEq, Repr

namespace UploadError

def message : UploadError → String
  | .io cause => "I/O error: " ++ cause.message
  | .store cause => "object store error: " ++ cause.message
  | .descriptor cause => "invalid backend descriptor: " ++ cause.message
  | .noFileName path => "not a file path: " ++ path.text
  | .other text => text

/-- The wording of a failure and of its causes. -/
def chain (e : UploadError) : List String :=
  e.message ::
    match e with
    | .io cause => [cause.message]
    | .store cause => cause.chain
    | _ => []

end UploadError

end Outbox
