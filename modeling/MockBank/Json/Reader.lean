/-
Documents read from bytes, one byte at a time.  The state keeps the open containers, so the path to the value being read
is at hand wherever reading stops; a step looks at one byte, and the whole reader is a fold.  Containers may be nested
127 deep.
-/
import MockBank.Json.Numeral
import MockBank.Json.Quoted

namespace MockBank

/-- an open container around the value being read: what it holds already, and for an object the name of that value -/
inductive Json.Frame where
  | element (before : List Json)
  | member (before : List (String × Json)) (name : String)

/-- what is being read; elements are kept with the last first -/
inductive Json.Mode where
  | value
  | firstElement
  | nextElement (before : List Json)
  | afterElement (items : List Json)
  | firstName
  | nextName (before : List (String × Json))
  | name (before : List (String × Json)) (q : Json.Quoted)
  | colon (before : List (String × Json)) (name : String)
  | afterMember (members : List (String × Json))
  | literal (expected : UInt8) (rest : List UInt8) (v : Json)
  | number (n : Json.Numeral)
  | string (q : Json.Quoted)
  | finished (v : Json)

/-- the open containers, the innermost first, and what is being read inside them -/
structure Json.State where
  frames : List Json.Frame
  mode : Json.Mode

namespace Json

/-- the blanks that may stand between tokens -/
def isGap (b : UInt8) : Bool :=
  b == 0x20 || b == 0x0A || b == 0x0D || b == 0x09

/-- the 128th open container is refused -/
def depthBound : Nat :=
  128

/-- the step that an open container takes -/
def Frame.segment : Frame → Segment
  | .element before => .index before.length
  | .member _ name => .key name

def pathOf (frames : List Frame) : List Segment :=
  frames.reverse.map Frame.segment

/-- whether the next member of an object has no name yet -/
def Mode.atName : Mode → Bool
  | .firstName | .nextName _ | .name _ _ | .afterMember _ => true
  | _ => false

def State.errorAt (s : State) (cause : Cause) (position : Position) : ReadError :=
  ⟨cause, pathOf s.frames, s.mode.atName, position⟩

/-- a value is complete and goes to the container around it -/
def close (frames : List Frame) (v : Json) : State :=
  match frames with
  | [] => ⟨[], .finished v⟩
  | .element before :: rest => ⟨rest, .afterElement (v :: before)⟩
  | .member before name :: rest => ⟨rest, .afterMember (put name v before)⟩

/-- the first byte of a value -/
def startValue (frames : List Frame) (here : Position) (b : UInt8) : Except ReadError State :=
  let told := fun cause => .error (State.errorAt ⟨frames, .value⟩ cause here)
  if b = 0x22 then .ok ⟨frames, .string Quoted.empty⟩
  else if b = 0x2D then .ok ⟨frames, .number Numeral.negated⟩
  else if b = 0x74 then .ok ⟨frames, .literal 0x72 [0x75, 0x65] (.bool true)⟩
  else if b = 0x66 then .ok ⟨frames, .literal 0x61 [0x6C, 0x73, 0x65] (.bool false)⟩
  else if b = 0x6E then .ok ⟨frames, .literal 0x75 [0x6C, 0x6C] .null⟩
  else if b = 0x5B ∨ b = 0x7B then
    if depthBound ≤ frames.length + 1 then told .nestedTooDeep
    else .ok ⟨frames, if b = 0x5B then .firstElement else .firstName⟩
  else
    match Numeral.digit? b with
    | some d => .ok ⟨frames, .number (Numeral.leading false d)⟩
    | none => told .expectedValue

/-- a byte after a complete value -/
def separate (s : State) (here : Position) (b : UInt8) : Except ReadError State :=
  if isGap b then .ok s
  else
    match s.mode with
    | .afterElement items =>
      if b = 0x2C then .ok ⟨s.frames, .nextElement items⟩
      else if b = 0x5D then .ok (close s.frames (.array items.reverse))
      else .error (s.errorAt .expectedListEnd here)
    | .afterMember members =>
      if b = 0x2C then .ok ⟨s.frames, .nextName members⟩
      else if b = 0x7D then .ok (close s.frames (.object members))
      else .error (s.errorAt .expectedObjectEnd here)
    | _ => .error (s.errorAt .trailingCharacters here)

/-- one byte, read at position `p` -/
def State.step (s : State) (p : Position) (b : UInt8) : Except ReadError State :=
  let here := p.after b
  match s.mode with
  | .value => if isGap b then .ok s else startValue s.frames here b
  | .firstElement =>
    if isGap b then .ok s
    else if b = 0x5D then .ok (close s.frames (.array []))
    else startValue (.element [] :: s.frames) here b
  | .nextElement before =>
    if isGap b then .ok s
    else if b = 0x5D then .error (s.errorAt .trailingComma here)
    else startValue (.element before :: s.frames) here b
  | .firstName =>
    if isGap b then .ok s
    else if b = 0x22 then .ok ⟨s.frames, .name [] Quoted.empty⟩
    else if b = 0x7D then .ok (close s.frames (.object []))
    else .error (s.errorAt .keyNotString here)
  | .nextName before =>
    if isGap b then .ok s
    else if b = 0x22 then .ok ⟨s.frames, .name before Quoted.empty⟩
    else if b = 0x7D then .error (s.errorAt .trailingComma here)
    else .error (s.errorAt .keyNotString here)
  | .name before q =>
    match q.next here b with
    | .more q => .ok ⟨s.frames, .name before q⟩
    | .finished name => .ok ⟨s.frames, .colon before name⟩
    | .failed cause position => .error (s.errorAt cause position)
  | .colon before name =>
    if isGap b then .ok s
    else if b = 0x3A then .ok ⟨.member before name :: s.frames, .value⟩
    else .error (s.errorAt .expectedColon here)
  | .literal expected rest v =>
    if b = expected then
      match rest with
      | [] => .ok (close s.frames v)
      | next :: rest => .ok ⟨s.frames, .literal next rest v⟩
    else .error (s.errorAt .expectedIdent here)
  | .number n =>
    match n.next b with
    | .more n => .ok ⟨s.frames, .number n⟩
    | .invalid => .error (s.errorAt .invalidNumber here)
    | .outOfRange => .error (s.errorAt .numberOutOfRange here)
    | .finished =>
      match n.number? with
      | none => .error (s.errorAt .numberOutOfRange p)
      | some num => separate (close s.frames (.number num)) here b
  | .string q =>
    match q.next here b with
    | .more q => .ok ⟨s.frames, .string q⟩
    | .finished text => .ok (close s.frames (.string text))
    | .failed cause position => .error (s.errorAt cause position)
  | .afterElement _ | .afterMember _ | .finished _ => separate s here b

/-- what is missing when the bytes end, unless a document is complete -/
def Mode.atEnd : Mode → Except Cause Json
  | .finished v => .ok v
  | .value | .nextElement _ | .nextName _ | .literal _ _ _ | .number _ => .error .endOfValue
  | .firstElement | .afterElement _ => .error .endOfList
  | .firstName | .colon _ _ | .afterMember _ => .error .endOfObject
  | .name _ _ | .string _ => .error .endOfString

/-- the end of the bytes, which completes a number -/
def State.finish (s : State) (p : Position) : Except ReadError Json :=
  let told := fun (s : State) => s.mode.atEnd.mapError fun cause => s.errorAt cause p
  match s.mode with
  | .number n =>
    if n.complete then
      match n.number? with
      | none => .error (s.errorAt .numberOutOfRange p)
      | some num => told (close s.frames (.number num))
    else told s
  | _ => told s

def readFrom (s : State) (p : Position) : List UInt8 → Except ReadError Json
  | [] => s.finish p
  | b :: rest =>
    match s.step p b with
    | .error e => .error e
    | .ok s => readFrom s (p.after b) rest

def read (bytes : List UInt8) : Except ReadError Json :=
  readFrom ⟨[], .value⟩ Position.first bytes

end Json

end MockBank
