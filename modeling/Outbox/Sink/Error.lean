import Outbox.Destination.Error

/-!
Why a sink cannot start or has to stop.
-/

set_option autoImplicit false

namespace Outbox

/-- Why a sink does not start, apart from its buffer directory and its destination. -/
inductive StartError where
  | noDestination
  /-- The destination writes into the buffer directory. -/
  | sameDirectory (destination : Path)
  | liveFileNotOpened (path : Path) (cause : IoError)
  | other (text : String)
  deriving DecidableEq, Repr

def StartError.message : StartError → String
  | .noDestination => "bundle sink initialized without a backend"
  | .sameDirectory destination =>
    "upload destination " ++ destination.text ++ " is the buffer directory"
  | .liveFileNotOpened path cause => "failed to open " ++ path.text ++ ": " ++ cause.message
  | .other text => text

/-- Why a sink fails. Failures of uploads are not among the reasons: uploads are tried again. -/
inductive SinkError where
  | start (cause : StartError)
  | bufferDir (path : Path) (cause : IoError)
  | write (cause : IoError)
  | rollOver (cause : IoError)
  | destination (cause : UploadError)
  deriving DecidableEq, Repr

namespace SinkError

/-- Whether an error is one that nothing can be done about: the clock cannot be read. -/
def isCrash : SinkError → Bool
  | .start (.liveFileNotOpened _ .noTime) | .rollOver .noTime => true
  | _ => false

def message : SinkError → String
  | .start cause => "failed to initialize sink: " ++ cause.message
  | .bufferDir path cause => "failed to create directory " ++ path.text ++ ": " ++ cause.message
  | .write cause => "write failed: " ++ cause.message
  | .rollOver cause => "rollover failed: " ++ cause.message
  | .destination cause => "backend error: " ++ cause.message

def chain (e : SinkError) : List String :=
  e.message ::
    match e with
    | .start _ => []
    | .bufferDir _ cause | .write cause | .rollOver cause => [cause.message]
    | .destination cause => cause.chain

end SinkError

end Outbox
