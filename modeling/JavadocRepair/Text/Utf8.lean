import JavadocRepair.Text.Quoted

/-!
# UTF-8

Bytes are decoded strictly, one at a time. A lead byte fixes how many continuation bytes follow and
in which range the first of them lies, so overlong forms, surrogates and numbers above U+10FFFF
never decode. Between two bytes the decoder holds nothing but the character that it is inside of,
so bytes may be handed to it in blocks; `decode` reads a whole file and calls a character that the
end cuts off a fault.
-/

namespace JavadocRepair.Text.Utf8

/-- Why bytes are no UTF-8. -/
inductive Reason where
  | startByte
  | continuationByte
  | endOfData
  deriving Repr, DecidableEq

/-- The first place at which bytes stop being UTF-8: `length` bytes from `position` on, which are
    the beginning of the broken character, or the one byte that starts none. -/
structure Fault where
  position : Nat
  first : UInt8
  length : Nat
  reason : Reason
  deriving Repr, DecidableEq

/-- The wording of a reason. -/
def Reason.message : Reason → String
  | .startByte => "invalid start byte"
  | .continuationByte => "invalid continuation byte"
  | .endOfData => "unexpected end of data"

/-- The wording of a fault: a single byte is shown, several are named by their positions. -/
def Fault.message (fault : Fault) : String :=
  let reason := fault.reason.message
  if fault.length = 1 then
    let byte := String.ofList (hexDigits 2 fault.first.toNat)
    s!"'utf-8' codec can't decode byte 0x{byte} in position {fault.position}: {reason}"
  else
    let last := fault.position + fault.length - 1
    s!"'utf-8' codec can't decode bytes in position {fault.position}-{last}: {reason}"

/-- A character of which some bytes are read: its first byte, how many are read and how many are
    missing, the bits so far, and the range in which the next byte has to lie. -/
structure Unfinished where
  first : UInt8
  taken : Nat
  missing : Nat
  bits : Nat
  low : UInt8
  high : UInt8
  deriving Repr, DecidableEq

/-- The character that a lead byte opens. -/
def Unfinished.ofLead? (byte : UInt8) : Option Unfinished :=
  let n := byte.toNat
  if 0xc2 ≤ n ∧ n ≤ 0xdf then some ⟨byte, 1, 1, n % 32, 0x80, 0xbf⟩
  else if n = 0xe0 then some ⟨byte, 1, 2, 0, 0xa0, 0xbf⟩
  else if n = 0xed then some ⟨byte, 1, 2, 13, 0x80, 0x9f⟩
  else if 0xe1 ≤ n ∧ n ≤ 0xef then some ⟨byte, 1, 2, n % 16, 0x80, 0xbf⟩
  else if n = 0xf0 then some ⟨byte, 1, 3, 0, 0x90, 0xbf⟩
  else if 0xf1 ≤ n ∧ n ≤ 0xf3 then some ⟨byte, 1, 3, n % 8, 0x80, 0xbf⟩
  else if n = 0xf4 then some ⟨byte, 1, 3, 4, 0x80, 0x8f⟩
  else none

/-- The state between two bytes: the character that is being read, if there is one. -/
abbrev Decoder := Option Unfinished

/-- The number of bytes that belong to the character being read. -/
def Decoder.taken : Decoder → Nat
  | none => 0
  | some unfinished => unfinished.taken

/-- Reads one byte. A fault is placed relative to `position`, the place of that byte. -/
def Decoder.push (decoder : Decoder) (position : Nat) (byte : UInt8) :
    Except Fault (Option Char × Decoder) :=
  match decoder with
  | none =>
    if byte < 0x80 then .ok (some (Char.ofNat byte.toNat), none)
    else match Unfinished.ofLead? byte with
      | some opened => .ok (none, some opened)
      | none => .error ⟨position, byte, 1, .startByte⟩
  | some u =>
    if u.low ≤ byte && byte ≤ u.high then
      let bits := u.bits * 64 + byte.toNat % 64
      if u.missing ≤ 1 then .ok (some (Char.ofNat bits), none)
      else .ok (none, some ⟨u.first, u.taken + 1, u.missing - 1, bits, 0x80, 0xbf⟩)
    else .error ⟨position - u.taken, u.first, u.taken, .continuationByte⟩

/-- Reads bytes of which the first stands at `position`; the characters go in front of those
    already read, last one first. -/
def Decoder.pushAll (decoder : Decoder) (position : Nat) (done : List Char) :
    List UInt8 → Except Fault (List Char × Decoder)
  | [] => .ok (done.reverse, decoder)
  | byte :: rest =>
    match decoder.push position byte with
    | .error fault => .error fault
    | .ok (none, next) => pushAll next (position + 1) done rest
    | .ok (some c, next) => pushAll next (position + 1) (c :: done) rest

/-- Reads a block of bytes. Positions count from the first byte of the character that the block
    before left unfinished, or else from the first byte of the block. -/
def Decoder.block (decoder : Decoder) (bytes : List UInt8) :
    Except Fault (List Char × Decoder) :=
  decoder.pushAll decoder.taken [] bytes

/-- What is wrong when the bytes end at `position`: a character that is still unfinished. -/
def Decoder.endFault? (decoder : Decoder) (position : Nat) : Option Fault :=
  decoder.map fun u => ⟨position - u.taken, u.first, u.taken, .endOfData⟩

/-- Decodes all bytes of a file. -/
def decode (bytes : List UInt8) : Except Fault (List Char) :=
  match Decoder.block none bytes with
  | .error fault => .error fault
  | .ok (chars, decoder) =>
    match decoder.endFault? bytes.length with
    | some fault => .error fault
    | none => .ok chars

/-- The bytes of a text. -/
def encode (chars : List Char) : List UInt8 :=
  chars.flatMap String.utf8EncodeChar

end JavadocRepair.Text.Utf8
