import Outbox.Url.Host

/-!
URLs that stand on their own: their parts, and their text.
-/

set_option autoImplicit false

namespace Outbox

/-- What a URL has between two slashes and its path. -/
structure Authority where
  user : Text
  password : Text
  host : Option Host
  /-- The number of the service on the host, where it is not the usual one of the scheme. -/
  service : Option Nat
  deriving DecidableEq, Repr

structure Url where
  scheme : Text
  authority : Option Authority
  path : Text
  query : Option Text
  fragment : Option Text
  deriving DecidableEq, Repr

namespace Url

def authorityText (a : Authority) : Text :=
  a.user ++ (if a.password = [] then [] else ':' :: a.password)
    ++ (if a.user = [] && a.password = [] then [] else ['@'])
    ++ (a.host.map Host.text).getD []
    ++ (a.service.map fun n => ':' :: Digits.decimal n).getD []

def text (u : Url) : Text :=
  u.scheme ++ ':' ::
    (match u.authority with
      | some a => '/' :: '/' :: authorityText a
      | none => if ['/', '/'].isPrefixOf u.path then ['/', '.'] else [])
    ++ u.path
    ++ (u.query.map ('?' :: ·)).getD []
    ++ (u.fragment.map ('#' :: ·)).getD []

def host? (u : Url) : Option Text :=
  (u.authority.bind Authority.host).map Host.text

end Url

end Outbox
