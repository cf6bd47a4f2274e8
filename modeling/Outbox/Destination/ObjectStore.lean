import Outbox.Destination.Delivery
import Outbox.Connection
import Outbox.Url.Parser

/-!
Object stores: whole files put under keys. A store is chosen by a URL; the keys of its objects are
those under the URL's path and the prefix that the connection names.
-/

set_option autoImplicit false

namespace Outbox

inductive Shelf where
  /-- In memory, each key once. -/
  | memory (objects : List (ObjectKey × Bytes))
  /-- In files under the root of the disk, each under the path that its key writes. -/
  | files
  /-- On another machine, which is out of reach here. -/
  | remote (kind : String)
  deriving Repr

namespace Shelf

/-- A segment of a key as a name in the path of a file. A drive is written with a colon. -/
def nameOf (segment : Text) : Name :=
  if Url.isDrive segment then segment.take 1 ++ [':'] else segment

/-- Whether a path ends in a letter and a colon, as a drive does. -/
def endsInDrive (path : Text) : Bool :=
  match path.reverse with
  | ':' :: letter :: _ => letter.isAlpha
  | _ => false

/-- The path of an object that is kept in a file. One that ends like a drive is written as a
directory. -/
def pathOf (key : ObjectKey) : Path :=
  let path := '/' :: Path.glue (key.segments.map nameOf)
  ⟨if endsInDrive path then path ++ ['/'] else path⟩

/-- The path under which the file of an object is written before it gets its name. -/
def stagedPath (path : Path) (n : Nat) : Path :=
  ⟨path.chars ++ '#' :: Digits.decimal n⟩

/-- Opens the first free staging path from number `n` on, among `tries`, and makes the directories
above it if they are missing. -/
def openStaged (path : Path) : Nat → Nat → World → Except StoreError (Handle × Path) × World
  | 0, n, w => (.error (.fileNotOpened (stagedPath path n) (.os .exists)), w)
  | tries + 1, n, w =>
    let staged := stagedPath path n
    match w.attempt (Disk.createNew staged) with
    | (.ok handle, w) => (.ok (handle, staged), w)
    | (.error (.os .exists), w) => openStaged path tries (n + 1) w
    | (.error (.os .notFound), w) =>
      let parent := staged.parent?.getD ⟨[]⟩
      match w.disk.mkdirs parent with
      | (.ok (), disk) => openStaged path tries n { w with disk }
      | (.error e, disk) => (.error (.directoryNotMade parent e), { w with disk })
    | (.error e, w) => (.error (.fileNotOpened staged e), w)

/-- Puts an object into a file: it is written beside its place and then renamed into it. -/
def putFile (key : ObjectKey) (bytes : Bytes) (w : World) : Except StoreError Unit × World :=
  let path := pathOf key
  match openStaged path (w.disk.nodes.length + 2) 1 w with
  | (.error e, w) => (.error e, w)
  | (.ok (handle, staged), w) =>
    match w.attempt (Disk.write handle bytes) with
    | (.error e, w) => (.error (.dataNotCopied e), (w.attempt (Disk.remove staged)).2)
    | (.ok (), w) =>
      match w.attempt (Disk.rename staged path) with
      | (.error e, w) => (.error (.fileNotRenamed e), (w.attempt (Disk.remove staged)).2)
      | (.ok (), w) => (.ok (), w)

/-- Puts an object under a key, in place of one that is there. -/
def put (shelf : Shelf) (key : ObjectKey) (bytes : Bytes) (w : World) :
    Except StoreError Unit × Shelf × World :=
  match shelf with
  | .memory objects =>
    (.ok (), .memory (objects.filter (fun object => object.1 ≠ key) ++ [(key, bytes)]), w)
  | .files =>
    match putFile key bytes w with
    | (result, w) => (result, .files, w)
  | .remote kind => (.error (.unreachable kind), .remote kind, w)

/-- A text without its beginning up to the second slash, if it starts with one. -/
def behindBucket (path : Text) : Text :=
  match path with
  | '/' :: rest => (rest.dropWhile (· ≠ '/')).drop 1
  | _ => []

def endsWith (text : Text) (suffix : String) : Bool :=
  suffix.toList.isSuffixOf text

/-- Whether the host of a web address is one of the known buckets: `s3.region.…`,
`bucket.s3.region…` or `account.r2.…`. -/
def namesBucket (host : Text) : Bool :=
  let rest3 := ['.'].intercalate ((Text.cutAt '.' host).drop 3)
  match Text.cutAt '.' host with
  | a :: b :: c :: _ :: _ =>
    (a = "s3".toList && c = "amazonaws".toList && rest3 = "com".toList)
      || (b = "s3".toList && rest3 = "amazonaws.com".toList)
      || (b = "r2".toList && c = "cloudflarestorage".toList && rest3 = "com".toList)
  | _ => false

inductive Kind where
  | files
  | memory
  | amazon
  | leftOut (name : String)
  deriving DecidableEq, Repr

/-- The kind of store of a web address, and the path of the keys. -/
def kindOfWeb (u : Url) (host : Text) : Kind × Text :=
  if ["dfs.core.windows.net", "blob.core.windows.net", "dfs.fabric.microsoft.com",
      "blob.fabric.microsoft.com"].any (endsWith host) then
    (.leftOut "MicrosoftAzure", u.path)
  else if endsWith host "amazonaws.com" then
    (.amazon, if "s3".toList.isPrefixOf host then behindBucket u.path else u.path)
  else if endsWith host "r2.cloudflarestorage.com" then (.amazon, behindBucket u.path)
  else (.leftOut "Http", u.path)

/-- The kind of store that a URL selects, and the path of the keys. -/
def kindOf? (u : Url) : Option (Kind × Text) :=
  match String.ofList u.scheme, u.host? with
  | "file", none => some (.files, u.path)
  | "memory", none => some (.memory, u.path)
  | "s3", some _ | "s3a", some _ => some (.amazon, u.path)
  | "gs", some _ => some (.leftOut "GoogleCloudStorage", u.path)
  | "az", some _ | "adl", some _ | "azure", some _ | "abfs", some _ | "abfss", some _ =>
    some (.leftOut "MicrosoftAzure", u.path)
  | "https", some host => some (kindOfWeb u host)
  | "http", some _ => some (.leftOut "Http", u.path)
  | _, _ => none

def ofKind (u : Url) : Kind → Except StoreError Shelf
  | .files => .ok .files
  | .memory => .ok (.memory [])
  | .amazon =>
    if u.scheme = "https".toList && !namesBucket (u.host?.getD []) then .error (.noBucket u.text)
    else .ok (.remote "S3")
  | .leftOut name => .error (.leftOut name)

/-- The store that a URL selects, and the key under which all its objects are. -/
def ofUrl (u : Url) : Except StoreError (Shelf × ObjectKey) :=
  match kindOf? u with
  | none => .error (.unknownUrl u.text)
  | some (kind, path) =>
    match ObjectKey.ofUrlPath path with
    | .error e => .error (.badPath e)
    | .ok base => (ofKind u kind).map fun shelf => (shelf, base)

end Shelf

structure ObjectStore where
  shelf : Shelf
  label : Text
  /-- The key under which all objects of the store are. -/
  base : ObjectKey
  /-- The key, under the base, that the connection names. -/
  front : ObjectKey
  tally : Tally
  deriving Repr

namespace ObjectStore

def ofShelf (shelf : Shelf) (label : Text) : ObjectStore :=
  { shelf, label, base := .empty, front := .empty, tally := .zero }

def ofUrlText (text : Text) : Except UploadError ObjectStore :=
  match Url.ofText text with
  | .error e => .error (.descriptor (.badUrl text e))
  | .ok url =>
    match Shelf.ofUrl url with
    | .error e => .error (.store e)
    | .ok (shelf, base) => .ok { ofShelf shelf text with base }

/-- Takes the prefix of keys that a connection names; slashes at its ends count for nothing. -/
def configure (s : ObjectStore) (connection : Connection) : Except UploadError Unit × ObjectStore :=
  let front := Text.stripWhile (· = '/') (Text.strip connection.rest)
  match ObjectKey.ofText front with
  | .error e => (.error (.descriptor (.badKey front e)), s)
  | .ok front => (.ok (), { s with front })

def keyFor (s : ObjectStore) (path : Path) : Except UploadError ObjectKey :=
  (uploadName path).map (ObjectKey.ofName s.base s.front)

/-- Reads a file and puts its content under its key; the number of bytes. -/
def putContent (s : ObjectStore) (path : Path) (source : Handle) (w : World) :
    Except UploadError Nat × ObjectStore × World :=
  match s.keyFor path with
  | .error e => (.error e, s, w)
  | .ok key =>
    match w.attempt (Disk.read source) with
    | (.error e, w) => (.error (.io e), s, w)
    | (.ok bytes, w) =>
      match s.shelf.put key bytes w with
      | (.error e, shelf, w) => (.error (.store e), { s with shelf }, w)
      | (.ok (), shelf, w) => (.ok bytes.length, { s with shelf }, w)

def turn (s : ObjectStore) (path : Path) (source : Handle) (w : World) :
    Turn × ObjectStore × World :=
  match s.putContent path source w with
  | (.ok bytes, s, w) => (.ended (.ok ()), { s with tally := s.tally.took bytes }, w)
  | (.error e, s, w) => (.ended (.error e), { s with tally := s.tally.failed }, w)

end ObjectStore

end Outbox
