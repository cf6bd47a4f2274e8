import Outbox.Url.Domain.Direction
import Outbox.Url.Domain.Joiner
import Outbox.Url.Domain.Mapping
import Outbox.Url.Domain.Punycode

/-!
Domain names: labels with dots between them. A name is looked up in ASCII and in small letters;
labels beyond ASCII are written with the prefix `xn--` for this.
-/

set_option autoImplicit false

namespace Outbox.Domain

/-- A character of ASCII that no name may have. -/
def isForbidden (c : Char) : Bool :=
  c.toNat ≤ 32 || c.toNat = 127
    || ['#', '/', ':', '<', '>', '?', '@', '[', '\\', ']', '^', '|', '%'].contains c

def isAscii (text : Text) : Bool :=
  text.all (·.toNat < 128)

/-- The characters that a character of a name stands for. -/
def mapped? (c : Char) : Option Text :=
  match fate c with
  | .kept => some [c]
  | .omitted => some []
  | .replaced text => some text
  | .refused => none

/-- A label as it is read and as it is looked up. -/
structure Label where
  text : Text
  ascii : Text
  deriving DecidableEq, Repr

namespace Label

/-- What labels in ASCII start with that stand for others. -/
def marker : Text :=
  "xn--".toList

/-- Whether a label beyond ASCII can be one: it does not start with a mark, its joiners fit, and
it is not too long. -/
def isSound (text : Text) : Bool :=
  !text.head?.any isMark && joinersFit [] text && (isAscii text || text.length ≤ 1000)

/-- The label that a text behind the marker stands for. It has to be written as it would be when
it is mapped. -/
def ofMarked? (text : Text) : Option Label :=
  if !isAscii text || text.getLast? = none || text.getLast? = some '-' || 2000 < text.length then
    none
  else
    (Punycode.decode? text).bind fun label =>
      if label.all (fun c => fate c = .kept && !isForbidden c && c ≠ '.')
          && composed label = label && isSound label then
        some { text := label, ascii := marker ++ text }
      else none

def ofMapped? (text : Text) : Option Label :=
  if text.any isForbidden then none
  else if marker.isPrefixOf text then ofMarked? (text.drop marker.length)
  else if isAscii text then some { text, ascii := text }
  else if isSound text then some { text, ascii := marker ++ Punycode.encode text }
  else none

end Label

def labels? (name : Text) : Option (List Label) :=
  (name.mapM mapped?).bind fun texts =>
    (Text.cutAt '.' (composed texts.flatten)).mapM Label.ofMapped?

def runTogether (labels : List Label) : Bool :=
  !labels.any (fun label => hasRight label.text) || labels.all fun label => runsOneWay label.text

/-- A name as it is looked up, if it is one. -/
def ascii? (name : Text) : Option Text :=
  (labels? name).bind fun labels =>
    if runTogether labels then some (['.'].intercalate (labels.map Label.ascii)) else none

end Outbox.Domain
