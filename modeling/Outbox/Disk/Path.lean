import Outbox.Text.Utf8

/-!
Paths as they are written, and what can be read off the text alone: components, the file name,
the parent, and paths put together. A slash separates components, repeated slashes and `.`
components count for nothing except at the start, and `..` is a component like any other.
-/

set_option autoImplicit false

namespace Outbox

abbrev Name := List Char

structure Path where
  chars : Text
  deriving DecidableEq, Repr

namespace Path

def ofString (s : String) : Path :=
  ⟨s.toList⟩

def text (p : Path) : String :=
  String.ofList p.chars

/-- A text cut at every slash; a text without a slash is one piece. -/
def pieces : Text → List Name
  | [] => [[]]
  | c :: rest =>
    match pieces rest with
    | [] => [[c]]
    | first :: others => if c = '/' then [] :: first :: others else (c :: first) :: others

/-- Pieces put together again with slashes. -/
def glue : List Name → Text
  | [] => []
  | [last] => last
  | first :: rest => first ++ '/' :: glue rest

def isAbsolute (p : Path) : Bool :=
  p.chars.head? = some '/'

/-- Whether a piece adds nothing to a path. -/
def isIdle (piece : Name) : Bool :=
  piece = [] || piece = ['.']

inductive Component where
  | root
  | current
  | up
  | entry (name : Name)
  deriving DecidableEq, Repr

/-- The component that a piece after the first stands for. -/
def Component.ofPiece (piece : Name) : Component :=
  if piece = ['.', '.'] then .up else .entry piece

/-- The components of a path. A leading `.` is kept, any other is dropped. -/
def components (p : Path) : List Component :=
  match pieces p.chars with
  | [] => []
  | first :: rest =>
    let start :=
      if p.isAbsolute then [.root]
      else if first = [] then []
      else if first = ['.'] then [.current]
      else [Component.ofPiece first]
    start ++ (rest.filter fun piece => !isIdle piece).map Component.ofPiece

def same (p q : Path) : Bool :=
  p.components = q.components

/-- The last component, if it is the name of an entry. -/
def fileName? (p : Path) : Option Name :=
  match p.components.getLast? with
  | some (.entry name) => some name
  | _ => none

/-- Pieces after the first, without idle ones at the end. -/
def dropIdleEnd (rest : List Name) : List Name :=
  (rest.reverse.dropWhile isIdle).reverse

/-- The path before the last component, as it was written; the root and the empty path have no
component to leave out. -/
def parent? (p : Path) : Option Path :=
  match pieces p.chars with
  | [] => none
  | first :: rest =>
    match (dropIdleEnd rest).reverse with
    | _ :: before =>
      let kept := dropIdleEnd before.reverse
      some ⟨if p.isAbsolute && kept = [] then ['/'] else glue (first :: kept)⟩
    | [] => if first = [] then none else some ⟨[]⟩

/-- A path followed by a relative one; an absolute one takes its place. -/
def join (p : Path) (tail : Text) : Path :=
  if tail.head? = some '/' then ⟨tail⟩
  else if p.chars = [] || p.chars.getLast? = some '/' then ⟨p.chars ++ tail⟩
  else ⟨p.chars ++ '/' :: tail⟩

def withFileName (p : Path) (name : Name) : Path :=
  match p.fileName?, p.parent? with
  | some _, some parent => parent.join name
  | _, _ => p.join name

/-- A path, then each path that is left when the last component goes. -/
def ancestors (p : Path) : List Path :=
  go p.chars.length p
where
  /-- The same with a bound on the number of components. -/
  go : Nat → Path → List Path
    | 0, p => [p]
    | bound + 1, p =>
      match p.parent? with
      | some parent => p :: go bound parent
      | none => [p]

end Path

end Outbox
