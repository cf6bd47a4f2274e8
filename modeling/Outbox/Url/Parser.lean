import Outbox.Url.Basic

/-!
Reading URLs. Blanks and controls at the ends, and tabs and line ends anywhere, count for nothing.
A few schemes of the web have rules of their own: a backslash is a slash for them, they have a
host, their path is never empty, and names of files are paths of slashes only.
-/

set_option autoImplicit false

namespace Outbox.Url

inductive SchemeKind where
  | file
  | web
  | other
  deriving DecidableEq, Repr

def kindOf (scheme : Text) : SchemeKind :=
  if scheme = "file".toList then .file
  else if ["http", "https", "ws", "wss", "ftp"].any fun s => scheme = s.toList then .web
  else .other

def usualService (scheme : Text) : Option Nat :=
  if scheme = "http".toList || scheme = "ws".toList then some 80
  else if scheme = "https".toList || scheme = "wss".toList then some 443
  else if scheme = "ftp".toList then some 21
  else none

/-- A character written as a triple in a fragment. -/
def isReservedInFragment (c : Char) : Bool :=
  Host.isControl c || [' ', '"', '<', '>', '\x60'].contains c

def isReservedInPath (c : Char) : Bool :=
  isReservedInFragment c || ['#', '?', '{', '}'].contains c

def isReservedInUser (c : Char) : Bool :=
  isReservedInPath c || ['/', ':', ';', '=', '@', '[', '\\', ']', '^', '|'].contains c

def isReservedInQuery (kind : SchemeKind) (c : Char) : Bool :=
  Host.isControl c || [' ', '"', '#', '<', '>'].contains c || (kind ≠ .other && c = '\'')

/-- A tab or a line end, which counts for nothing in a URL. -/
def isIgnored (c : Char) : Bool :=
  c = '\t' || c = '\n' || c = '\r'

/-- A text without blanks and controls at its ends. -/
def trimmed (text : Text) : Text :=
  ((text.dropWhile (·.toNat ≤ 32)).reverse.dropWhile (·.toNat ≤ 32)).reverse

def cleaned (text : Text) : Text :=
  text.filter (!isIgnored ·)

/-- The scheme of a text in small letters, and what follows its colon. -/
def scheme? (text : Text) : Option (Text × Text) :=
  let isPart (c : Char) : Bool := c.isAlphanum || c = '+' || c = '-' || c = '.'
  match text, text.dropWhile isPart with
  | first :: _, ':' :: rest =>
    if first.isAlpha then some ((text.takeWhile isPart).map Char.toLower, rest) else none
  | _, _ => none

def endsAuthority (kind : SchemeKind) (c : Char) : Bool :=
  c = '/' || c = '?' || c = '#' || (kind ≠ .other && c = '\\')

/-- The user, the password and what follows them: all before the last at sign of the
authority. -/
def userInfo (kind : SchemeKind) (text : Text) : Except UrlError (Text × Text × Text) :=
  let authority := text.takeWhile fun c => !endsAuthority kind c
  if !authority.contains '@' then .ok ([], [], text)
  else
    let host := (authority.reverse.takeWhile (· ≠ '@')).reverse
    let info := authority.take (authority.length - host.length - 1)
    let rest := text.drop (info.length + 1)
    if info = [] then
      if (rest.head?.map (endsAuthority kind)).getD false then .error .emptyHost
      else .ok ([], [], rest)
    else
      .ok (Percent.encode isReservedInUser (info.takeWhile (· ≠ ':')),
        Percent.encode isReservedInUser ((info.dropWhile (· ≠ ':')).drop 1), rest)

/-- The number of characters of the host at the start of a text: up to a colon outside brackets
or the end of the authority. -/
def hostLength (kind : SchemeKind) : Bool → Text → Nat
  | _, [] => 0
  | bracket, c :: rest =>
    if (c = ':' && !bracket) || endsAuthority kind c then 0
    else
      1 + hostLength kind (if c = '[' then true else if c = ']' then false else bracket) rest

/-- The number of the service behind the host's colon. -/
def service (scheme text : Text) : Except UrlError (Option Nat × Text) :=
  let digits := text.takeWhile fun c => (Digits.decimal? c).isSome
  let rest := text.drop digits.length
  let number := Digits.value 10 (digits.filterMap Digits.decimal?)
  if 65535 < number then .error .badPort
  else if (rest.head?.map fun c => !(c = '/' || c = '\\' || c = '?' || c = '#')).getD false then
    .error .badPort
  else if digits = [] || some number = usualService scheme then .ok (none, rest)
  else .ok (some number, rest)

def readAuthority (kind : SchemeKind) (scheme text : Text) :
    Except UrlError (Authority × Text) := do
  let (user, password, text) ← userInfo kind text
  let length := hostLength kind false text
  let hostText := text.take length
  let rest := text.drop length
  let host ←
    if hostText = [] then
      if kind ≠ .other || rest.head? = some ':' then throw UrlError.emptyHost else pure none
    else if kind = .other then (Host.ofOther hostText).map some
    else (Host.ofWeb hostText).map some
  let (number, rest) ←
    if rest.head? = some ':' then service scheme (rest.drop 1) else pure (none, rest)
  if host.isNone && !(user = [] && password = []) then throw UrlError.emptyHost
  return ({ user, password, host, service := number }, rest)

/-- A segment that stands for the one it is in. -/
def isDot (segment : Text) : Bool :=
  segment = ['.'] || segment.map Char.toLower = "%2e".toList

/-- A segment that stands for the one above. -/
def isDoubleDot (segment : Text) : Bool :=
  ["..", "%2e%2e", "%2e.", ".%2e"].any fun s => segment.map Char.toLower = s.toList

/-- A letter and a colon, or a bar in its place. -/
def isDrive (segment : Text) : Bool :=
  match segment with
  | [letter, mark] => letter.isAlpha && (mark = ':' || mark = '|')
  | _ => false

structure PathDraft where
  /-- What has been read, up to the slash behind the last whole segment. -/
  text : Text
  /-- Whether a segment names a drive, so that the file is on no host. -/
  hasDrive : Bool

/-- The segment behind the last slash of a path, and what is before it with the slash. -/
def cutLast (path : Text) : Text × Text :=
  let segment := (path.reverse.takeWhile (· ≠ '/')).reverse
  (path.take (path.length - segment.length), segment)

def startsWithDrive (segment : Text) : Bool :=
  isDrive (segment.take 2) && (segment.drop 2).head?.all (· = '\\')

/-- A path without its last segment. The path ends in a slash. The first slash stays, and a drive is
never left. -/
def parent (path : Text) : Text :=
  let (before, segment) := cutLast path.dropLast
  if before = [] || startsWithDrive segment then path else before

/-- A slash behind a segment, if another segment follows. -/
def closing (last : Bool) : Text :=
  if last then [] else ['/']

/-- What stands behind a drive when a tab or a line end keeps it apart. -/
def behindDrive? (raw : Text) : Option Text :=
  match raw.filter (!isIgnored ·) with
  | letter :: ':' :: rest =>
    let isCut := (raw.dropWhile (· ≠ ':')).drop 1 |>.head?.any isIgnored
    if letter.isAlpha && rest ≠ [] && isCut then some rest else none
  | _ => none

/-- Takes in a segment, given raw; `last` says that none follows. -/
def PathDraft.add (kind : SchemeKind) (draft : PathDraft) (raw : Text) (last : Bool) : PathDraft :=
  let path := draft.text
  let segment := Percent.encode isReservedInPath (raw.filter (!isIgnored ·))
  if isDoubleDot segment then { draft with text := parent path }
  else if isDot segment then draft
  else if kind = .file && isDrive segment then
    { text := path ++ segment.take 1 ++ ':' :: closing last, hasDrive := true }
  else
    match kind, path, behindDrive? raw with
    | .file, ['/'], some rest =>
      { draft with
        text := path ++ segment.take 2 ++ '/' :: Percent.encode isReservedInPath rest
          ++ closing last }
    | _, _, _ => { draft with text := path ++ segment ++ closing last }

def PathDraft.addAll (kind : SchemeKind) (draft : PathDraft) : List Text → PathDraft
  | [] => draft
  | [raw] => draft.add kind raw true
  | raw :: rest => (draft.add kind raw false).addAll kind rest

/-- The path at the start of a text that follows an authority or a slash, and what follows it. The
path of a file has one slash at its start. -/
def readPath (kind : SchemeKind) (text : Text) : PathDraft × Text :=
  let raw := text.takeWhile fun c => c ≠ '?' && c ≠ '#'
  let rest := text.drop raw.length
  let raw := if kind = .other then raw else raw.map fun c => if c = '\\' then '/' else c
  if raw = [] && kind = .other then (⟨[], false⟩, rest)
  else
    let raw := if raw.head? = some '/' then raw.drop 1 else raw
    let draft := PathDraft.addAll kind ⟨['/'], false⟩ (Text.cutAt '/' raw)
    if kind = .file then ({ draft with text := '/' :: draft.text.dropWhile (· = '/') }, rest)
    else (draft, rest)

def queryAndFragment (kind : SchemeKind) (text : Text) : Option Text × Option Text :=
  let beforeFragment := text.takeWhile (· ≠ '#')
  let fragment :=
    if text.contains '#' then
      some (Percent.encode isReservedInFragment (text.drop (beforeFragment.length + 1)))
    else none
  match beforeFragment with
  | '?' :: query => (some (Percent.encode (isReservedInQuery kind) query), fragment)
  | _ => (none, fragment)

/-- A URL whose authority is known, from the text of its path on. A file on a drive is on no
host. -/
def withPath (kind : SchemeKind) (scheme : Text) (authority : Option Authority) (text : Text) :
    Url :=
  let (path, rest) := readPath kind text
  let (query, fragment) := queryAndFragment kind (cleaned rest)
  let authority :=
    if path.hasDrive then authority.map fun a => { a with host := none } else authority
  { scheme, authority, path := path.text, query, fragment }

def noAuthority : Authority :=
  { user := [], password := [], host := none, service := none }

/-- What is left of a text behind a number of characters, tabs and line ends not being counted. -/
def dropCounted : Nat → Text → Text
  | 0, text => text
  | _, [] => []
  | n + 1, c :: rest => if isIgnored c then dropCounted (n + 1) rest else dropCounted n rest

/-- A URL of a file, from behind the scheme's colon on, with its tabs and line ends. -/
def ofFile (scheme text : Text) : Except UrlError Url :=
  let isSlash (c : Char) : Bool := c = '/' || c = '\\'
  match (cleaned text).take 2 with
  | [a, b] =>
    if isSlash a && isSlash b then
      let text := dropCounted 2 text
      let hostText := (cleaned text).takeWhile fun c => !endsAuthority .file c
      if isDrive hostText || hostText = [] then
        .ok (withPath .file scheme (some noAuthority) text)
      else
        match Host.ofWeb hostText with
        | .error e => .error e
        | .ok host =>
          let isLocal := host = .name "localhost".toList
          .ok (withPath .file scheme
            (some { noAuthority with host := if isLocal then none else some host })
            (dropCounted hostText.length text))
    else .ok (withPath .file scheme (some noAuthority) text)
  | _ => .ok (withPath .file scheme (some noAuthority) text)

/-- A URL whose path does not start with a slash and has no authority before it. -/
def rootless (scheme text : Text) : Url :=
  let path := text.takeWhile fun c => c ≠ '?' && c ≠ '#'
  let (query, fragment) := queryAndFragment .other (text.drop path.length)
  { scheme, authority := none, path := Percent.encode Host.isControl path, query, fragment }

def ofText (text : Text) : Except UrlError Url :=
  let text := trimmed text
  match scheme? (cleaned text) with
  | none => .error .noScheme
  | some (scheme, rest) =>
    match kindOf scheme with
    | .file => ofFile scheme ((text.dropWhile (· ≠ ':')).drop 1)
    | .web =>
      let kind := SchemeKind.web
      (readAuthority kind scheme (rest.dropWhile fun c => c = '/' || c = '\\')).map
        fun found => withPath kind scheme (some found.1) found.2
    | .other =>
      match rest with
      | '/' :: '/' :: rest =>
        (readAuthority .other scheme rest).map fun found =>
          withPath .other scheme (some found.1) found.2
      | '/' :: _ => .ok (withPath .other scheme none rest)
      | _ => .ok (rootless scheme rest)

end Outbox.Url
