import Outbox.Event
import Outbox.Log.Expression

/-!
Filters of the log: directives with commas between them, each of the form `target=level`, `target`
or `level`. A directive speaks of the events whose part of the program begins with its target; of
all directives that speak of an event the one with the longest target decides. A directive may
also name, in brackets, a span of work or a field in braces; this program has no spans.
-/

set_option autoImplicit false

namespace Outbox

inductive Directive where
  /-- The events of a target, if a field is named only those with that field, pass up to a rank
  of level. The rank 0 lets none pass. -/
  | events (target : Text) (field : Option Text) (rank : Nat)
  /-- No event: the directive is about spans of work, or about a target that no part has. -/
  | nothing
  deriving DecidableEq, Repr

namespace Directive

def ranks : List (String × Nat) :=
  [("off", 0), ("error", 1), ("warn", 2), ("info", 3), ("debug", 4), ("trace", 5)]

/-- The rank that a numeral writes, a plus sign in front being allowed. -/
def numeral? (text : Text) : Option Nat :=
  let digits := if text.head? = some '+' then text.drop 1 else text
  if digits = [] then none
  else
    match digits.mapM Digits.decimal? with
    | some ds => if Digits.value 10 ds ≤ 5 then some (Digits.value 10 ds) else none
    | none => none

/-- The rank of a level, by its number, or by its name in letters of either case. -/
def rank? (text : Text) : Option Nat :=
  (numeral? text).or (ranks.lookup (String.ofList (text.map Char.toLower)))

/-- A numeral without its sign. -/
def unsigned : Text → Text
  | '+' :: rest | '-' :: rest => rest
  | text => text

/-- Whether a text writes a number: digits that may have a point before, among or behind them, and
an exponent, or one of the two numbers with a name. -/
def isNumber (text : Text) : Bool :=
  let size := unsigned text
  let whole := size.takeWhile Char.isDigit
  let rest := size.drop whole.length
  let places := if rest.head? = some '.' then (rest.drop 1).takeWhile Char.isDigit else []
  let rest := if rest.head? = some '.' then rest.drop (places.length + 1) else rest
  let isExponent :=
    match rest with
    | [] => true
    | e :: exponent =>
      let digits := unsigned exponent
      e.toLower = 'e' && digits ≠ [] && digits.all Char.isDigit
  ["inf", "infinity", "nan"].contains (String.ofList (size.map Char.toLower))
    || (!(whole ++ places).isEmpty && isExponent)

/-- The rank behind an equals sign: all levels if nothing stands there. -/
def limit? (text : Text) : Option Nat :=
  if text = [] then some 5 else rank? text

def startsTarget (c : Char) : Bool :=
  c = '-' || c = ':' || c = '_' || Letter.isLetterOrNumeral c

inductive Fault where
  | malformed
  /-- A part of it would begin or end inside a character. -/
  | torn
  deriving DecidableEq, Repr

/-- The part of a text from one byte up to another. -/
def part (first last : Nat) (text : Text) : Except Fault Text :=
  match Utf8.cut? first last text with
  | some text => .ok text
  | none => .error .torn

def limitFrom (first : Nat) (text : Text) : Except Fault Nat := do
  match limit? (← part first (Utf8.size text) text) with
  | some rank => return rank
  | none => .error .malformed

/-- The rank behind the brackets, which end at a byte: nothing may stand there, or an equals sign
and a level. -/
def limitBehind (text : Text) (first : Nat) (rest : Text) : Except Fault Nat :=
  match rest with
  | [] => .ok 5
  | '=' :: _ => limitFrom (first + 1) text
  | _ => .error .malformed

/-- Whether a field is well-formed: a name, or a name and a value. A value that is no number is an
expression to match with. -/
def isField (field : Text) : Bool :=
  match Text.cutAt '=' field with
  | _ :: value :: _ => isNumber value || Expression.isAccepted value
  | _ => field ≠ []

/-- The rest of a directive with brackets, from the byte behind the opening one. A field with a
value is looked for in spans only. -/
def bracketed (text target : Text) (first : Nat) (inner : Text) : Except Fault Directive := do
  let span := inner.takeWhile fun c => c ≠ ']' && c ≠ '\x7b'
  let spanEnd := first + Utf8.size span
  match inner.drop span.length with
  | ']' :: rest =>
    let _ ← part first spanEnd text
    let _ ← limitBehind text (spanEnd + 1) rest
    return nothing
  | '\x7b' :: inner =>
    let span ← part first spanEnd text
    let field := inner.takeWhile (· ≠ '\x7d')
    let fieldEnd := spanEnd + 1 + Utf8.size field
    match inner.drop field.length with
    | '\x7d' :: rest =>
      let field ← part (spanEnd + 1) fieldEnd text
      match isField field, rest with
      | true, ']' :: rest =>
        let rank ← limitBehind text (fieldEnd + 2) rest
        return if span = [] && !field.contains '=' then events target (some field) rank else nothing
      | _, _ => .error .malformed
    | _ => .error .malformed
  | _ => .error .malformed

/-- A directive from its text. Its parts are told apart in the text without the blanks at both
ends, and are then cut, at the same bytes, out of the text with them. A word that is no level is a
target all of whose events pass. -/
def ofText (text : Text) : Except Fault Directive := do
  let bare := text.strip
  let word := bare.takeWhile fun c => c ≠ '=' && c ≠ '['
  let wordEnd := Utf8.size word
  if word.head?.any (!startsTarget ·) then .error .malformed
  else
    match word, bare.drop word.length with
    | [], '[' :: inner => bracketed text [] 1 inner
    | [], _ => .error .malformed
    | _, [] =>
      match rank? text with
      | some rank => return events [] none rank
      | none => return events text none 5
    | _, sign :: inner =>
      let target ← part 0 wordEnd text
      if sign = '=' then return events target none (← limitFrom (wordEnd + 1) text)
      else bracketed text target (wordEnd + 1) inner

def speaksOf (d : Directive) (e : Event) : Bool :=
  match d with
  | .nothing => false
  | .events target field _ =>
    target.isPrefixOf e.source.target.toList
      && field.all fun name => name = "message".toList || e.fields.any fun f => f.1.toList = name

/-- Whether a directive is at least as particular as another that speaks of the same event: its
target is longer, or it is the same and it names a field. -/
def atLeast : Directive → Directive → Bool
  | .events target field _, .events target' field' _ =>
    if target.length = target'.length then
      match field, field' with
      | _, none => true
      | none, some _ => false
      | some name, some name' => Text.atMost name' name
    else target'.length < target.length
  | _, _ => true

def passes (d : Directive) (e : Event) : Bool :=
  match d with
  | .events _ _ rank => e.level.rank ≤ rank
  | .nothing => false

end Directive

structure LogFilter where
  directives : List Directive
  deriving DecidableEq, Repr

namespace LogFilter

/-- A filter from its text: directives in order. Nothing between two commas is no fault. -/
def read (text : Text) : Except Directive.Fault LogFilter := do
  return ⟨← ((Text.cutAt ',' text).filter (· ≠ [])).mapM Directive.ofText⟩

/-- The filter that lets pass what is at least worth knowing. -/
def usual : LogFilter :=
  ⟨[.events [] none 3]⟩

/-- A filter from its text, the usual one if the text is malformed. There is none for a text that
would be torn inside a character. -/
def ofText? (text : Text) : Option LogFilter :=
  match read text with
  | .ok filter => some filter
  | .error .malformed => some usual
  | .error .torn => none

/-- The directive that decides on an event: of the most particular ones the last. -/
def deciding? (f : LogFilter) (e : Event) : Option Directive :=
  (f.directives.filter (·.speaksOf e)).foldl
    (fun best d =>
      match best with
      | some other => if d.atLeast other then some d else best
      | none => some d)
    none

def passes (f : LogFilter) (e : Event) : Bool :=
  match f.deciding? e with
  | some d => d.passes e
  | none => false

end LogFilter

end Outbox
