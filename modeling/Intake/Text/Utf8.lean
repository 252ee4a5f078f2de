import Intake.Bytes

/-!
# UTF-8

Decoding is a machine that takes one byte at a time.  A byte that cannot go on
with the character begun before it ends that character as broken and is then
looked at afresh, so each maximal broken sequence counts once.
-/

namespace Intake.Utf8

def encodeChar (c : Char) : Bytes := String.utf8EncodeChar c

def encode (text : String) : Bytes := text.toList.flatMap encodeChar

/-- A character whose first bytes have been read: how many are missing, the
bounds of the next one, and the bits so far. -/
structure Begun where
  missing : Nat
  low : UInt8
  high : UInt8
  bits : Nat
  deriving Repr, DecidableEq

/-- What a byte leads to. -/
inductive Progress where
  | complete (c : Char)
  | begun (state : Begun)
  | broken
  deriving Repr, DecidableEq

/-- What a byte means where no character has begun. -/
def lead (b : UInt8) : Progress :=
  let n := b.toNat
  if n < 0x80 then .complete (Char.ofNat n)
  else if n < 0xC2 then .broken
  else if n < 0xE0 then .begun ⟨1, 0x80, 0xBF, n - 0xC0⟩
  else if n = 0xE0 then .begun ⟨2, 0xA0, 0xBF, 0⟩
  else if n = 0xED then .begun ⟨2, 0x80, 0x9F, 0xD⟩
  else if n < 0xF0 then .begun ⟨2, 0x80, 0xBF, n - 0xE0⟩
  else if n = 0xF0 then .begun ⟨3, 0x90, 0xBF, 0⟩
  else if n < 0xF4 then .begun ⟨3, 0x80, 0xBF, n - 0xF0⟩
  else if n = 0xF4 then .begun ⟨3, 0x80, 0x8F, 4⟩
  else .broken

/-- What a byte means for a character that has begun. -/
def Begun.extend (state : Begun) (b : UInt8) : Progress :=
  if state.low ≤ b && b ≤ state.high then
    let bits := state.bits * 64 + (b.toNat - 0x80)
    if state.missing ≤ 1 then .complete (Char.ofNat bits)
    else .begun ⟨state.missing - 1, 0x80, 0xBF, bits⟩
  else .broken

/-- A decoder between two bytes: the characters so far, newest first, with
`none` for each broken sequence, and the character that has begun. -/
structure Decoder where
  decoded : List (Option Char)
  begun : Option Begun

namespace Decoder

/-- Takes a byte where no character has begun. -/
def startWith (decoded : List (Option Char)) (b : UInt8) : Decoder :=
  match lead b with
  | .complete c => ⟨some c :: decoded, none⟩
  | .begun state => ⟨decoded, some state⟩
  | .broken => ⟨none :: decoded, none⟩

def feed (decoder : Decoder) (b : UInt8) : Decoder :=
  match decoder.begun with
  | none => startWith decoder.decoded b
  | some state =>
      match state.extend b with
      | .complete c => ⟨some c :: decoder.decoded, none⟩
      | .begun state => ⟨decoder.decoded, some state⟩
      | .broken => startWith (none :: decoder.decoded) b

/-- Ends the input: a character that has begun is broken. -/
def finish (decoder : Decoder) : List (Option Char) :=
  match decoder.begun with
  | none => decoder.decoded.reverse
  | some _ => (none :: decoder.decoded).reverse

end Decoder

/-- The characters of a byte string, `none` for each broken sequence. -/
def scan (content : Bytes) : List (Option Char) :=
  (content.foldl Decoder.feed ⟨[], none⟩).finish

/-- The text with these bytes, if they are one. -/
def decode? (content : Bytes) : Option String :=
  (scan content).mapM id |>.map String.ofList

/-- The characters of a byte string, with the replacement character for each
broken sequence. -/
def decodeLossy (content : Bytes) : List Char :=
  (scan content).map fun c => c.getD (Char.ofNat 0xFFFD)

/-- The character at the head of a byte string and how many bytes it takes. -/
def first? (content : Bytes) : Option (Char × Nat) :=
  match content with
  | [] => none
  | b₀ :: rest =>
      match lead b₀ with
      | .complete c => some (c, 1)
      | .broken => none
      | .begun state =>
          let rec more (state : Begun) (taken : Nat) : Bytes → Option (Char × Nat)
            | [] => none
            | b :: rest =>
                match state.extend b with
                | .complete c => some (c, taken + 1)
                | .begun state => more state (taken + 1) rest
                | .broken => none
          more state 1 rest

/-- Where bytes stop being text: the index of the first broken sequence, and how
many bytes it has unless the bytes end within it. -/
structure Fault where
  index : Nat
  length : Option Nat
  deriving Repr, DecidableEq, Inhabited

def Fault.text (fault : Fault) : String :=
  match fault.length with
  | none => "incomplete utf-8 byte sequence from index " ++ toString fault.index
  | some length =>
      "invalid utf-8 sequence of " ++ toString length ++ " bytes from index " ++
        toString fault.index

/-- The first fault from an index on, given the character that has begun and how
many bytes of it have been read. -/
def faultFrom (index : Nat) (begun : Option (Begun × Nat)) : Bytes → Option Fault
  | [] => begun.map fun entry => ⟨index - entry.2, none⟩
  | b :: rest =>
      match begun with
      | none =>
          match lead b with
          | .complete _ => faultFrom (index + 1) none rest
          | .begun state => faultFrom (index + 1) (some (state, 1)) rest
          | .broken => some ⟨index, some 1⟩
      | some (state, read) =>
          match state.extend b with
          | .complete _ => faultFrom (index + 1) none rest
          | .begun state => faultFrom (index + 1) (some (state, read + 1)) rest
          | .broken => some ⟨index - read, some read⟩

/-- The first fault of bytes that are no text. -/
def fault? (content : Bytes) : Option Fault := faultFrom 0 none content

end Intake.Utf8
