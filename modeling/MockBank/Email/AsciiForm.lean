/-
The ASCII form of a domain in any script.  The domain is folded, composed and cut into labels.  A label that is
spelled in ASCII already is read, and what it stands for must be folded and composed too.  As soon as one label holds
a character that is written from right to left, no label may be such that its parts could be shown in another order.
Then all labels beyond ASCII are spelled.
-/
import MockBank.Email.Punycode
import MockBank.Unicode.Direction
import MockBank.Unicode.Folding
import MockBank.Unicode.Normal
import MockBank.Unicode.Table

namespace MockBank.Email.Bidi

/-! ## Labels in scripts of both directions -/

open Unicode (Direction direction)

/-- the directions that make a domain one of both directions -/
def isRightward : Direction → Bool
  | .right | .arabic | .arabicNumber => true
  | _ => false

/-- what any label may hold: European numbers and their signs, and characters without a direction of their own -/
def isFollower : Direction → Bool
  | .europeanNumber | .numberSeparator | .commonSeparator | .numberTerminator | .neutral | .boundary | .mark => true
  | _ => false

/-- the last direction apart from marks -/
def lastSolid? (label : List Direction) : Option Direction :=
  label.reverse.find? (· != .mark)

/-- a label from left to right ends in a letter or a European number -/
def isLeftLabel (label : List Direction) : Bool :=
  label.all (fun d => d == .left || isFollower d) && (lastSolid? label).all fun d => d == .left || d == .europeanNumber

/-- a label from right to left ends in a letter or a number, and its numbers are all of one kind -/
def isRightLabel (label : List Direction) : Bool :=
  label.all (fun d => isRightward d || isFollower d) &&
    (lastSolid? label).all (fun d => isRightward d || d == .europeanNumber) &&
    !(label.contains .arabicNumber && label.contains .europeanNumber)

/-- whether a label keeps its order; its first character says which way it goes -/
def keepsOrder (label : List Direction) : Bool :=
  match label.head? with
  | none => true
  | some .left => isLeftLabel label
  | some .right | some .arabic => isRightLabel label
  | some _ => false

/-- whether the labels of a domain can stand side by side -/
def agree (labels : List (List Char)) : Bool :=
  let directions := labels.map fun label => label.map direction
  !(directions.any fun label => label.any isRightward) || directions.all keepsOrder

end MockBank.Email.Bidi

namespace MockBank.Email

/-! ## The ASCII form -/

/-- marks a label as a spelling -/
def spellingMark : List Char :=
  "xn--".toList

/-- a domain as domains are compared, unless it holds a character that none may hold -/
def prepare? (domain : List Char) : Option (List Char) :=
  if domain.all Unicode.isAdmitted then some (Unicode.normalize (domain.flatMap Unicode.fold)) else none

/-- a label cannot begin with a mark, which would join the dot before it -/
def beginsWell (label : List Char) : Bool :=
  !label.head?.any Unicode.isMark

/-- the label that a prepared one stands for -/
def readLabel? (label : List Char) : Option (List Char) :=
  if spellingMark.isPrefixOf label then
    match Punycode.decode? (label.drop spellingMark.length) with
    | none => none
    | some label => if prepare? label = some label ∧ beginsWell label then some label else none
  else if beginsWell label then some label
  else none

/-- a label in ASCII -/
def spellLabel (label : List Char) : List Char :=
  if label.all Punycode.isAscii then label else spellingMark ++ Punycode.encode label

def asciiForm? (domain : List Char) : Option (List Char) := do
  let prepared ← prepare? domain
  let labels ← (Text.splitAt '.' prepared).mapM readLabel?
  if Bidi.agree labels then some (['.'].intercalate (labels.map spellLabel)) else none

end MockBank.Email
