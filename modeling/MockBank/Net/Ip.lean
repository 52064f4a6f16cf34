/-
Internet addresses of both versions, read from text and written in their customary form: lower-case groups, the
longest run of zero groups as two colons, and mapped version 4 addresses with dots.  The service listens at one of
them; a setting that is absent or cannot be read falls back to its default.
-/
import MockBank.Text.Digits

namespace MockBank

/-! ## Addresses -/

/-- an address: four octets, or eight groups of sixteen bits -/
inductive Ip where
  | v4 (a b c d : UInt8)
  | v6 (groups : List UInt16) (length_eq : groups.length = 8)
  deriving DecidableEq

namespace Ip

open Text

/-- the address of every interface -/
def unspecified : Ip :=
  .v4 0 0 0 0

/-- a decimal octet without leading zeros, and what follows it -/
def octet? (cs : List Char) : Option (UInt8 × List Char) :=
  let ds := cs.takeWhile Char.isDigit
  let n := digitsValue ds
  if ds.isEmpty || 3 < ds.length || (ds.head? == some '0' && 1 < ds.length) || 255 < n then none
  else some (UInt8.ofNat n, cs.drop ds.length)

/-- what follows a mark -/
def after? (mark : Char) (cs : List Char) : Option (List Char) :=
  match cs with
  | [] => none
  | c :: rest => if c = mark then some rest else none

def dotted? (cs : List Char) : Option ((UInt8 × UInt8 × UInt8 × UInt8) × List Char) := do
  let (a, cs) ← octet? cs
  let (b, cs) ← octet? (← after? '.' cs)
  let (c, cs) ← octet? (← after? '.' cs)
  let (d, cs) ← octet? (← after? '.' cs)
  some ((a, b, c, d), cs)

/-- a group of one to four hexadecimal digits, and what follows it -/
def group? (cs : List Char) : Option (UInt16 × List Char) :=
  let ds := cs.takeWhile fun c => (hexValue? c).isSome
  if ds.isEmpty || 4 < ds.length then none
  else some (UInt16.ofNat (ds.foldl (fun n d => n * 16 + (hexValue? d).getD 0) 0), cs.drop ds.length)

def joinOctets (a b : UInt8) : UInt16 :=
  UInt16.ofNat (a.toNat * 256 + b.toNat)

/-- up to `room` groups with colons between them, whether they end in dotted octets, and what follows; dotted octets
take the room of two groups -/
def groups (room : Nat) (first : Bool) (cs : List Char) : List UInt16 × Bool × List Char :=
  match room with
  | 0 => ([], false, cs)
  | room + 1 =>
    match (if first then some cs else after? ':' cs) with
    | none => ([], false, cs)
    | some start =>
      match (if room = 0 then none else dotted? start) with
      | some ((a, b, c, d), rest) => ([joinOctets a b, joinOctets c d], true, rest)
      | none =>
        match group? start with
        | none => ([], false, cs)
        | some (g, rest) =>
          let (gs, isDotted, rest) := groups room false rest
          (g :: gs, isDotted, rest)

/-- eight groups -/
def ofGroups? (gs : List UInt16) : Option Ip :=
  if h : gs.length = 8 then some (.v6 gs h) else none

def v6? (cs : List Char) : Option (Ip × List Char) := do
  let (head, isDotted, rest) := groups 8 true cs
  if head.length = 8 then return (← ofGroups? head, rest)
  if isDotted then none
  let rest ← after? ':' (← after? ':' rest)
  let (tail, _, rest) := groups (7 - head.length) true rest
  return (← ofGroups? (head ++ List.replicate (8 - head.length - tail.length) 0 ++ tail), rest)

def read? (text : String) : Option Ip :=
  match dotted? text.toList with
  | some ((a, b, c, d), rest) => if rest.isEmpty then some (.v4 a b c d) else none
  | none =>
    match v6? text.toList with
    | some (ip, rest) => if rest.isEmpty then some ip else none
    | none => none

def dottedText (a b c d : UInt8) : String :=
  ".".intercalate ([a, b, c, d].map fun o => toString o.toNat)

def groupText (g : UInt16) : String :=
  String.ofList (Nat.toDigits 16 g.toNat)

def groupsText (gs : List UInt16) : String :=
  ":".intercalate (gs.map groupText)

/-- how many zero groups a list starts with -/
def zeroRun (gs : List UInt16) : Nat :=
  (gs.takeWhile (· == 0)).length

/-- where the longest run of zero groups starts and how long it is; the first of equally long ones -/
def longestRun (gs : List UInt16) : Nat × Nat :=
  (List.range gs.length).foldl (fun best start =>
    let length := zeroRun (gs.drop start)
    if best.2 < length then (start, length) else best) (0, 0)

def v6Text (gs : List UInt16) : String :=
  match gs with
  | [0, 0, 0, 0, 0, 0xFFFF, g, h] =>
    "::ffff:" ++ dottedText (g >>> 8).toUInt8 g.toUInt8 (h >>> 8).toUInt8 h.toUInt8
  | _ =>
    let (start, length) := longestRun gs
    if 1 < length then groupsText (gs.take start) ++ "::" ++ groupsText (gs.drop (start + length))
    else groupsText gs

def text : Ip → String
  | .v4 a b c d => dottedText a b c d
  | .v6 gs _ => v6Text gs

end Ip

/-! ## Where the service listens -/

/-- the address that the service listens at, and its number there -/
structure Settings where
  host : Ip
  portNumber : UInt16
  deriving DecidableEq

namespace Settings

/-- every interface, number 8000 -/
def default : Settings :=
  ⟨Ip.unspecified, 8000⟩

/-- a number of at most 65535: digits, perhaps after a plus sign -/
def portNumber? (text : String) : Option UInt16 :=
  let cs := text.toList
  let ds := if cs.head? = some '+' then cs.drop 1 else cs
  let n := Text.digitsValue ds
  if ds.isEmpty || !ds.all Char.isDigit || 65535 < n then none else some (UInt16.ofNat n)

/-- the settings that the texts under two names give -/
def ofLookup (hostName portName : String) (lookup : String → Option String) : Settings :=
  ⟨((lookup hostName).bind Ip.read?).getD default.host, ((lookup portName).bind portNumber?).getD
    default.portNumber⟩

/-- host and number as one text; a version 6 host stands in brackets -/
def address (s : Settings) : String :=
  let host := match s.host with | .v4 _ _ _ _ => s.host.text | .v6 _ _ => "[" ++ s.host.text ++ "]"
  host ++ ":" ++ toString s.portNumber.toNat

end Settings

end MockBank
