/-
UTF-8 read one byte at a time.  `start` and `Pending.next` are the machine: a character is complete, owes more bytes,
or cannot be completed.  `decode?` refuses a text with an ill-formed sequence; `decodeLossy` puts U+FFFD in the place of
each longest piece that could have begun a character.
-/
namespace MockBank.Text

namespace Utf8

/-- a character whose first bytes are read: its bits so far, the bytes it owes, the bounds on the next of them -/
structure Pending where
  bits : Nat
  owed : Nat
  low : UInt8
  high : UInt8
  deriving DecidableEq

/-- what a byte leads to -/
inductive Step where
  | complete (c : Char)
  | owing (p : Pending)
  | illFormed
  deriving DecidableEq

/-- the first byte of a character -/
def start (b : UInt8) : Step :=
  if b < 0x80 then .complete (Char.ofNat b.toNat)
  else if 0xC2 ≤ b ∧ b ≤ 0xDF then .owing ⟨b.toNat - 0xC0, 1, 0x80, 0xBF⟩
  else if b = 0xE0 then .owing ⟨0, 2, 0xA0, 0xBF⟩
  else if b = 0xED then .owing ⟨0xD, 2, 0x80, 0x9F⟩
  else if 0xE1 ≤ b ∧ b ≤ 0xEF then .owing ⟨b.toNat - 0xE0, 2, 0x80, 0xBF⟩
  else if b = 0xF0 then .owing ⟨0, 3, 0x90, 0xBF⟩
  else if 0xF1 ≤ b ∧ b ≤ 0xF3 then .owing ⟨b.toNat - 0xF0, 3, 0x80, 0xBF⟩
  else if b = 0xF4 then .owing ⟨4, 3, 0x80, 0x8F⟩
  else .illFormed

/-- a further byte of a character; after the second byte any continuation byte will do -/
def Pending.next (p : Pending) (b : UInt8) : Step :=
  if p.low ≤ b ∧ b ≤ p.high then
    let bits := p.bits * 64 + (b.toNat - 0x80)
    if p.owed ≤ 1 then .complete (Char.ofNat bits) else .owing ⟨bits, p.owed - 1, 0x80, 0xBF⟩
  else .illFormed

/-- the characters of a well-formed sequence, after the pending one -/
def decodeFrom : Option Pending → List UInt8 → Option (List Char)
  | none, [] => some []
  | some _, [] => none
  | pending, b :: rest =>
    match (match pending with | none => start b | some p => p.next b) with
    | .complete c => (decodeFrom none rest).map (c :: ·)
    | .owing p => decodeFrom (some p) rest
    | .illFormed => none

def decode? (bytes : List UInt8) : Option String :=
  (decodeFrom none bytes).map String.ofList

/-- stands for what cannot be read -/
def replacement : Char := '\uFFFD'

/-- the characters of any sequence, after the pending one -/
def decodeLossyFrom : Option Pending → List UInt8 → List Char
  | none, [] => []
  | some _, [] => [replacement]
  | none, b :: rest =>
    match start b with
    | .complete c => c :: decodeLossyFrom none rest
    | .owing p => decodeLossyFrom (some p) rest
    | .illFormed => replacement :: decodeLossyFrom none rest
  | some p, b :: rest =>
    match p.next b with
    | .complete c => c :: decodeLossyFrom none rest
    | .owing p' => decodeLossyFrom (some p') rest
    | .illFormed =>
      match start b with
      | .complete c => replacement :: c :: decodeLossyFrom none rest
      | .owing p' => replacement :: decodeLossyFrom (some p') rest
      | .illFormed => replacement :: replacement :: decodeLossyFrom none rest

def decodeLossy (bytes : List UInt8) : String :=
  String.ofList (decodeLossyFrom none bytes)

theorem decodeFrom_ascii (bytes : List UInt8) (h : ∀ b ∈ bytes, b < 0x80) :
    decodeFrom none bytes = some (bytes.map fun b => Char.ofNat b.toNat) := by
  induction bytes with
  | nil => rfl
  | cons b rest ih =>
    have hb : b < 0x80 := h b (by simp)
    have hr := ih fun b hb => h b (by simp [hb])
    simp [decodeFrom, start, hb, hr]

end Utf8

theorem toList_loop (bytes : ByteArray) (i : Nat) (read : List UInt8) :
    ByteArray.toList.loop bytes i read = read.reverse ++ bytes.data.toList.drop i := by
  fun_induction ByteArray.toList.loop bytes i read with
  | case1 i read hi ih =>
    have hi : i < bytes.data.toList.length := hi
    have hget : bytes.get! i = bytes.data.toList[i] := by
      show bytes.data[i]! = _
      rw [getElem!_pos bytes.data i hi, Array.getElem_toList]
    rw [ih, hget, List.reverse_cons, List.append_assoc, List.drop_eq_getElem_cons hi]
    rfl
  | case2 i read hi =>
    have hi : bytes.data.toList.length ≤ i := Nat.le_of_not_lt hi
    rw [List.drop_of_length_le hi, List.append_nil]

/-- the bytes of a text one after another -/
theorem toList_toUTF8 (s : String) : s.toUTF8.toList = s.toList.flatMap String.utf8EncodeChar := by
  have hbytes : s.toUTF8 = (s.toList.flatMap String.utf8EncodeChar).toByteArray := s.utf8Encode_toList.symm
  rw [hbytes, ByteArray.toList, toList_loop, List.toList_data_toByteArray]
  rfl

/-- each ASCII character is one byte -/
theorem flatMap_utf8EncodeChar_of_ascii {cs : List Char} (h : ∀ c ∈ cs, c.toNat < 0x80) :
    cs.flatMap String.utf8EncodeChar = cs.map Char.toUInt8 := by
  induction cs with
  | nil => rfl
  | cons c rest ih =>
    have hsize : c.utf8Size = 1 := by
      rw [Char.utf8Size_eq_one_iff, UInt32.le_iff_toNat_le]
      exact Nat.le_of_lt_succ (h c List.mem_cons_self)
    rw [List.flatMap_cons, String.utf8EncodeChar_eq_singleton hsize, List.map_cons,
      ih fun d hd => h d (List.mem_cons_of_mem c hd)]
    rfl

/-- the byte of an ASCII character is its code -/
theorem toNat_toUInt8 {c : Char} (h : c.toNat < 0x80) : c.toUInt8.toNat = c.toNat := by
  rw [Char.toUInt8, UInt32.toNat_toUInt8]
  exact Nat.mod_eq_of_lt (Nat.lt_trans h (by decide))

/-- an ASCII text is read from its bytes -/
theorem decode?_toUTF8_of_ascii {s : String} (h : ∀ c ∈ s.toList, c.toNat < 0x80) :
    Utf8.decode? s.toUTF8.toList = some s := by
  have hbytes : ∀ b ∈ s.toList.map Char.toUInt8, b < 0x80 := by
    intro b hb
    obtain ⟨c, hc, rfl⟩ := List.mem_map.1 hb
    rw [UInt8.lt_iff_toNat_lt, toNat_toUInt8 (h c hc)]
    exact h c hc
  have hchars : (s.toList.map Char.toUInt8).map (fun b => Char.ofNat b.toNat) = s.toList := by
    rw [List.map_map]
    refine (List.map_congr_left fun c hc => ?_).trans (List.map_id _)
    show Char.ofNat c.toUInt8.toNat = c
    rw [toNat_toUInt8 (h c hc), Char.ofNat_toNat]
  rw [toList_toUTF8, flatMap_utf8EncodeChar_of_ascii h, Utf8.decode?, Utf8.decodeFrom_ascii _ hbytes, hchars,
    Option.map_some, String.ofList_toList]

end MockBank.Text
