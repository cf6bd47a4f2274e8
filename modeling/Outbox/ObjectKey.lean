import Outbox.Text.Percent
import Outbox.Text.Blank
import Outbox.Disk.Path

/-!
Keys of objects in a store: segments with slashes between them. Segments that come from a file
name are encoded, so that they hold no slash and are neither `.` nor `..`; a key that is given as
a text is taken as it is, if its segments are segments.
-/

set_option autoImplicit false

namespace Outbox

structure ObjectKey where
  segments : List Text
  deriving DecidableEq, Repr

/-- Why a text is no key. -/
inductive KeyError where
  | emptySegment (path : Text)
  | illegal (path segment found : Text)
  | notText (path : Text) (cause : Utf8.Malformed)
  deriving DecidableEq, Repr

namespace KeyError

def chain : KeyError → List String
  | .emptySegment path => ["Path \"" ++ String.ofList path ++ "\" contained empty path segment"]
  | .illegal path segment found =>
    let cause := "Encountered illegal character sequence \"" ++ String.ofList found
      ++ "\" whilst parsing path segment \"" ++ String.ofList segment ++ "\""
    ["Error parsing Path \"" ++ String.ofList path ++ "\": " ++ cause, cause]
  | .notText path cause =>
    ["Path \"" ++ String.ofList path ++ "\" contained non-unicode characters: " ++ cause.message,
      cause.message]

def message (e : KeyError) : String :=
  e.chain.headD ""

end KeyError

namespace ObjectKey

def empty : ObjectKey :=
  ⟨[]⟩

def text (key : ObjectKey) : Text :=
  Path.glue key.segments

def isControl (c : Char) : Bool :=
  c.toNat < 32 || c.toNat = 127

/-- What a segment must not have or be: it is no `.` or `..`, and no control is in it. -/
def illegalIn? (segment : Text) : Option Text :=
  if segment = ['.'] || segment = ['.', '.'] then some segment
  else (segment.find? isControl).map ([·])

/-- The segments of a path, if each is one. -/
def checked (path : Text) : List Text → Except KeyError (List Text)
  | [] => .ok []
  | segment :: rest =>
    if segment = [] then .error (.emptySegment path)
    else
      match illegalIn? segment with
      | some found => .error (.illegal path segment found)
      | none => (checked path rest).map (segment :: ·)

/-- The key that a text writes. One slash at each end counts for nothing. -/
def ofText (path : Text) : Except KeyError ObjectKey :=
  let body := if path.head? = some '/' then path.drop 1 else path
  if body = [] then .ok empty
  else
    let body := if body.getLast? = some '/' then body.dropLast else body
    (checked path (Path.pieces body)).map ObjectKey.mk

/-- The key that the path of a URL writes, its triples read back. -/
def ofUrlPath (path : Text) : Except KeyError ObjectKey :=
  match Utf8.decode (Percent.decode path) with
  | .error cause => .error (.notText path cause)
  | .ok decoded => ofText decoded

/-- A character of a file name that is written as a triple in a key. -/
def isReserved (c : Char) : Bool :=
  isControl c
    || ['/', '\\', '{', '^', '}', '%', '\x60', ']', '"', '>', '[', '~', '<', '#', '|', '*',
      '?'].contains c

def segmentOfName (name : Name) : Text :=
  if name = ['.'] || name = ['.', '.'] then name.flatMap fun _ => "%2E".toList
  else Percent.encode isReserved name

/-- The key of a file name under two keys. -/
def ofName (base front : ObjectKey) (name : Name) : ObjectKey :=
  ⟨base.segments ++ front.segments ++ [segmentOfName name]⟩

end ObjectKey

end Outbox
