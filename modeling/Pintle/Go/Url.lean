import Pintle.Go.Values

/-!
# URLs

The package `net/url` as far as the model calls it. It is a parameter (`Url`): a statement about
every instance is a statement about every way the package may parse a string. The instance for
`Origin` reads a scheme and a host and rejects everything else, as the package reads such a string.
-/

namespace Pintle.Go

/-- The package `net/url`: Go `url.Parse` and `url.ParseRequestURI`, and the fields and methods of
`url.URL` in use. An error is `none`, and so is a missing user. -/
class Url (υ : Type) where
  parse : GoString → Option υ
  parseRequestURI : GoString → Option υ
  scheme : υ → GoString
  user : υ → Option GoString
  host : υ → GoString
  hostname : υ → GoString
  port : υ → GoString
  rawQuery : υ → GoString
  fragment : υ → GoString
  setHost : υ → GoString → υ
  string : υ → GoString

/-- A scheme and a host. -/
structure Origin where
  scheme : GoString
  host : GoString
  deriving DecidableEq, Repr

/-- The bytes between a scheme and a host. -/
def schemeEnd : GoString := lit "://"

/-- Split a string of a scheme and a host of letters, digits, dots and hyphens. -/
def Origin.parse (s : GoString) : Option Origin :=
  let plain (b : UInt8) : Bool :=
    (97 ≤ b && b ≤ 122) || (48 ≤ b && b ≤ 57) || b = 45 || b = 46
  let scheme := s.takeWhile fun b => 97 ≤ b && b ≤ 122
  let rest := s.drop scheme.length
  if scheme ≠ [] ∧ hasPrefix rest schemeEnd ∧ (rest.drop 3).all plain then
    some { scheme, host := rest.drop 3 }
  else none

instance : Url Origin where
  parse := Origin.parse
  parseRequestURI := Origin.parse
  scheme := Origin.scheme
  user _ := none
  host := Origin.host
  hostname := Origin.host
  port _ := []
  rawQuery _ := []
  fragment _ := []
  setHost u host := { u with host }
  string u := u.scheme ++ schemeEnd ++ u.host

example : Origin.parse (lit "http://b.lvh.me") = some ⟨lit "http", lit "b.lvh.me"⟩ := by decide

end Pintle.Go
