/-!
# Bytes and text

File contents are bytes. Text is written as UTF-8; bytes that are not UTF-8 can still be shown,
with U+FFFD in place of each longest broken piece.
-/

namespace Codemod

abbrev Bytes := List UInt8

namespace Bytes

/-- The UTF-8 form of a text. -/
def ofText (s : String) : Bytes :=
  s.toUTF8.data.toList

/-- The text that `b` is the UTF-8 form of. -/
def toText? (b : Bytes) : Option String :=
  String.fromUTF8? ⟨b.toArray⟩

/-- A range of bytes. -/
def between (lo hi : UInt8) (b : UInt8) : Bool :=
  lo ≤ b && b ≤ hi

/-- What may follow a first byte: the range of the second byte and how many bytes come after the
second. `none` for a byte that begins no longer sequence. -/
def follow? (b : UInt8) : Option (UInt8 × UInt8 × Nat) :=
  if between 0xc2 0xdf b then some (0x80, 0xbf, 0)
  else if b == 0xe0 then some (0xa0, 0xbf, 1)
  else if b == 0xed then some (0x80, 0x9f, 1)
  else if between 0xe1 0xef b then some (0x80, 0xbf, 1)
  else if b == 0xf0 then some (0x90, 0xbf, 2)
  else if between 0xf1 0xf3 b then some (0x80, 0xbf, 2)
  else if b == 0xf4 then some (0x80, 0x8f, 2)
  else none

/-- Up to `n` continuation bytes from the front. -/
def continuation : Nat → Bytes → Bytes
  | 0, _ => []
  | _, [] => []
  | n + 1, b :: rest => if between 0x80 0xbf b then b :: continuation n rest else []

/-- The number of bytes in the first piece of `b :: rest` and, if it is a whole character, that
character. -/
def firstPiece (b : UInt8) (rest : Bytes) : Nat × Option Char :=
  if b < 0x80 then (1, some (Char.ofNat b.toNat))
  else
    match follow? b, rest with
    | some (lo, hi, more), s :: rest' =>
      if between lo hi s then
        let tail := continuation more rest'
        let used := 2 + tail.length
        if tail.length = more then
          let lead :=
            if more = 0 then b.toNat - 0xc0 else if more = 1 then b.toNat - 0xe0
            else b.toNat - 0xf0
          (used, some (Char.ofNat ((s :: tail).foldl (fun n t => n * 64 + (t.toNat - 0x80)) lead)))
        else (used, none)
      else (1, none)
    | _, _ => (1, none)

/-- Decoding that shows a broken piece as U+FFFD; the first `skip` bytes are done with. -/
def lossyFrom : (skip : Nat) → Bytes → List Char
  | _, [] => []
  | skip + 1, _ :: rest => lossyFrom skip rest
  | 0, b :: rest =>
    let (used, c) := firstPiece b rest
    c.getD '\uFFFD' :: lossyFrom (used - 1) rest

/-- The text of `b`, with U+FFFD for what is not UTF-8. -/
def toLossyText (b : Bytes) : String :=
  String.ofList (lossyFrom 0 b)

end Bytes

end Codemod
