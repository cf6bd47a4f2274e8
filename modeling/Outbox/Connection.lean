import Outbox.Disk.Path

/-!
Connection texts, `directory:rest`: where records are kept on the local disk, and where they go.
-/

set_option autoImplicit false

namespace Outbox

structure Connection where
  text : Text
  localDir : Option Path
  /-- What is left for the destination to read. -/
  rest : Text
  deriving DecidableEq, Repr

namespace Connection

/-- Cuts a connection text at its first colon. Without a colon all of it is for the
destination. -/
def ofText (text : Text) : Connection :=
  if text.contains ':' then
    { text
      localDir := some ⟨text.takeWhile (· ≠ ':')⟩
      rest := (text.dropWhile (· ≠ ':')).drop 1 }
  else { text, localDir := none, rest := text }

end Connection

end Outbox
