/-
Mail addresses that can be delivered: a user and a domain around the last at sign, and the domain has a dot inside.  A
domain is a list of labels with dots between them, or ends in an internet address in brackets; it may also be written
with letters of other scripts, and then its ASCII form counts.
-/
import MockBank.Email.AsciiForm
import MockBank.Net.Ip

namespace MockBank.Email

/-! ## Domains -/

/-- the ASCII letters and digits -/
def isAlphanum (c : Char) : Bool :=
  c.isAlpha || c.isDigit

/-- one to 63 letters, digits and hyphens, a hyphen neither first nor last -/
def isLabel (cs : List Char) : Bool :=
  1 ≤ cs.length && cs.length ≤ 63 && cs.all (fun c => isAlphanum c || c == '-') &&
    cs.head?.all isAlphanum && cs.getLast?.all isAlphanum

/-- labels with dots between them -/
def isLabels (domain : List Char) : Bool :=
  (Text.splitAt '.' domain).all isLabel

/-- ends in an address in brackets, whatever stands before the opening one -/
def endsInAddress (domain : List Char) : Bool :=
  match Text.splitLast? '[' domain with
  | none => false
  | some (_, rest) =>
    let inside := rest.dropLast
    rest.getLast? == some ']' && inside.all (fun c => (Text.hexValue? c).isSome || c == ':' || c == '.') &&
      (Ip.read? (String.ofList inside)).isSome

def isAsciiDomain (domain : List Char) : Bool :=
  isLabels domain || endsInAddress domain

/-- a domain as written or in its ASCII form -/
def isDomain (domain : List Char) : Bool :=
  isAsciiDomain domain || (asciiForm? domain).any isAsciiDomain

/-! ## Addresses -/

def isUserChar (c : Char) : Bool :=
  isAlphanum c || ".!#$%&'*+/=?^_`\x7b|\x7d~-".toList.contains c

/-- one to 64 user characters -/
def isUser (user : List Char) : Bool :=
  1 ≤ user.length && user.length ≤ 64 && user.all isUserChar

/-- holds a dot, but neither starts nor ends with one -/
def isDotted (domain : List Char) : Bool :=
  domain.contains '.' && domain.head? != some '.' && domain.getLast? != some '.'

/-- a user, the last at sign, and a dotted domain of at most 255 characters -/
def isDeliverable (text : String) : Bool :=
  match Text.splitLast? '@' text.toList with
  | none => false
  | some (user, domain) => isUser user && domain.length ≤ 255 && isDomain domain && isDotted domain

end MockBank.Email
