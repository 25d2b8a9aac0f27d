import PipeQuery.Number.Shown

/-!
# Reading UTF-8

Bytes are read one at a time (`next`), and refused at the first one that cannot
stand there; a surrogate is refused one byte later.  Files are read block by
block, so a text can be read up to the block that breaks off (`read`).
-/

namespace PipeQuery.Text.Utf8

/-! ## Characters -/

/-- The number of bytes of the character that starts with a byte. -/
def lengthFrom? (lead : UInt8) : Option Nat :=
  if lead < 0x80 then some 1
  else if lead < 0xc2 then none
  else if lead < 0xe0 then some 2
  else if lead < 0xf0 then some 3
  else if lead < 0xf5 then some 4
  else none

/-- A byte can come second: no character is longer than it has to be, or beyond
the last code point. -/
def canBeSecond (lead b : UInt8) : Bool :=
  if lead == 0xe0 then 0xa0 ≤ b && b < 0xc0
  else if lead == 0xf0 then 0x90 ≤ b && b < 0xc0
  else if lead == 0xf4 then 0x80 ≤ b && b < 0x90
  else 0x80 ≤ b && b < 0xc0

/-- Two bytes of a surrogate, which is no character. -/
def isSurrogate : List UInt8 → Bool
  | [lead, second] => lead == 0xed && 0xa0 ≤ second
  | _ => false

/-- The bits that the lead of so many bytes contributes. -/
def leadBits (length : Nat) (lead : UInt8) : Nat :=
  match length with
  | 1 => lead.toNat
  | 2 => lead.toNat % 32
  | 3 => lead.toNat % 16
  | _ => lead.toNat % 8

/-- The character of some bytes. -/
def charOf (lead : UInt8) (rest : List UInt8) : Char :=
  Char.ofNat (rest.foldl (fun bits b => 64 * bits + b.toNat % 64) (leadBits (rest.length + 1) lead))

/-! ## Faults -/

/-- Why bytes are not UTF-8. -/
inductive Reason where
  /-- No character starts with the byte. -/
  | start
  /-- The character does not go on with the byte behind. -/
  | continuation
  /-- The bytes end within a character. -/
  | ending
  deriving DecidableEq

/-- The bytes that cannot be read, and where they are in what was read at
once. -/
structure Fault where
  reason : Reason
  bytes : List UInt8
  position : Nat
  deriving DecidableEq

/-- What is said of the bytes. -/
def Reason.text : Reason → String
  | start => "invalid start byte"
  | continuation => "invalid continuation byte"
  | ending => "unexpected end of data"

/-- What is said of a fault. -/
def Fault.message (fault : Fault) : String :=
  let place :=
    match fault.bytes with
    | [b] => "byte 0x" ++ String.ofList (Nat.toDigits 16 b.toNat) ++ " in position "
        ++ shownInt fault.position
    | bytes => "bytes in position " ++ shownInt fault.position ++ "-"
        ++ shownInt (fault.position + bytes.length - 1)
  "'utf-8' codec can't decode " ++ place ++ ": " ++ fault.reason.text

/-! ## Bytes -/

/-- What a byte does behind the bytes of an unfinished character. -/
inductive Step where
  | char (c : Char)
  | unfinished (bytes : List UInt8)
  | broken (reason : Reason) (bytes : List UInt8)

/-- Takes a byte behind the bytes of an unfinished character. -/
def next (b : UInt8) : List UInt8 → Step
  | [] =>
    match lengthFrom? b with
    | none => .broken .start [b]
    | some 1 => .char (charOf b [])
    | some _ => .unfinished [b]
  | lead :: rest =>
    let fits := if rest.isEmpty then canBeSecond lead b else 0x80 ≤ b && b < 0xc0
    if isSurrogate (lead :: rest) then .broken .continuation [lead]
    else if !fits then .broken .continuation (lead :: rest)
    else if lengthFrom? lead == some (rest.length + 2) then .char (charOf lead (rest ++ [b]))
    else .unfinished (lead :: rest ++ [b])

/-- Reads the bytes from `position` on behind those of an unfinished
character. -/
def readBytes (position : Nat) (unfinished : List UInt8) :
    List UInt8 → Except Fault (List Char × List UInt8)
  | [] => .ok ([], unfinished)
  | b :: rest =>
    match next b unfinished with
    | .char c => (readBytes (position + 1) [] rest).map fun r => (c :: r.1, r.2)
    | .unfinished bytes => readBytes (position + 1) bytes rest
    | .broken reason bytes => .error ⟨reason, bytes, position - unfinished.length⟩

/-! ## Blocks -/

/-- The number of bytes that are read at once. -/
def blockSize : Nat := 8192

/-- Some bytes in blocks, the last of which may be shorter. -/
def blocks (bytes : List UInt8) : List (List UInt8) :=
  (List.range ((bytes.length + blockSize - 1) / blockSize)).map fun k =>
    (bytes.drop (k * blockSize)).take blockSize

/-- A text as far as it can be read, and why it breaks off. -/
structure Readable where
  chars : List Char
  fault? : Option Fault

/-- The fault of bytes that end with those of an unfinished character. -/
def endingFault? (unfinished : List UInt8) : Option Fault :=
  if unfinished.isEmpty then none
  else if isSurrogate unfinished then some ⟨.continuation, unfinished.take 1, 0⟩
  else some ⟨.ending, unfinished, 0⟩

/-- Reads blocks behind the bytes of an unfinished character; a block that
breaks off gives nothing. -/
def readBlocks (unfinished : List UInt8) : List (List UInt8) → Readable
  | [] => ⟨[], endingFault? unfinished⟩
  | block :: rest =>
    match readBytes unfinished.length unfinished block with
    | .error fault => ⟨[], some fault⟩
    | .ok (chars, unfinished) =>
      let behind := readBlocks unfinished rest
      ⟨chars ++ behind.chars, behind.fault?⟩

/-- Reads bytes block by block. -/
def read (bytes : List UInt8) : Readable := readBlocks [] (blocks bytes)

end PipeQuery.Text.Utf8
