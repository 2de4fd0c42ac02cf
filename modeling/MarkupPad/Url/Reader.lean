import MarkupPad.Url.Basic

/-!
# Readers of addresses

What an address is, and how it is written, is up to a reader: it puts a text into the normal form
of an address and tells its parts.  The standard reader knows the schemes http and https, and the
hosts whose names are in ASCII.

    Url.standard t = (Url.ofText? t).map Url.address
-/

namespace MarkupPad

/-- What a reader tells of an address. -/
structure Address where
  scheme : Text
  /-- The username; the empty one is none. -/
  username : Text
  password : Option Text
  host : Option Text
  /-- The origin in ASCII. -/
  origin : Text
  /-- The address in its normal form. -/
  toText : Text
  deriving Repr, DecidableEq

namespace Url

/-- A reader of addresses. -/
abbrev Reader : Type := Text → Option Address

/-- What is told of a web address. -/
def address (u : Url) : Address where
  scheme := u.scheme.name.toList
  username := u.username
  password := u.password
  host := some u.host.toText
  origin := u.origin
  toText := u.toText

/-- The standard reader. -/
def standard : Reader := fun t => (ofText? t).map address

end Url

end MarkupPad
