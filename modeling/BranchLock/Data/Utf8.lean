import BranchLock.Data.Bytes

/-!
# Texts as bytes

The program handles every text it is given as a byte string: lengths are counted in bytes,
parsers read a byte at a time, and an escape in a quoted argument can put any byte into a text,
so a text need not be well-formed UTF-8. This module relates such byte strings to characters.

* `Utf8.encode` writes a text as UTF-8; texts from outside enter the program this way.
* `Utf8.pieces` reads a byte string back as UTF-8, one piece at a time: a character where the
  bytes encode one in shortest form, or else a *stray* byte, which is consumed alone. A lead
  byte must be followed by the continuation bytes its form needs, within the ranges that exclude
  overlong forms, the surrogates and code points above U+10FFFF.
* `Utf8.display` shows a byte string as text, each stray byte becoming U+FFFD.
* `Bytes.chars` views each byte as the character with the same code. Parsers of ASCII syntax
  run on this view: it keeps every ASCII byte in place and turns every other byte into a
  character that no ASCII grammar accepts, so they see exactly the bytes.
-/

namespace BranchLock

namespace Utf8

/-- The UTF-8 encoding of a character: one to four bytes by the size of its code point. -/
def encodeChar (c : Char) : Bytes :=
  let n := c.toNat
  if n < 0x80 then [UInt8.ofNat n]
  else if n < 0x800 then [UInt8.ofNat (0xc0 + n / 64), UInt8.ofNat (0x80 + n % 64)]
  else if n < 0x10000 then
    [UInt8.ofNat (0xe0 + n / 4096), UInt8.ofNat (0x80 + n / 64 % 64), UInt8.ofNat (0x80 + n % 64)]
  else
    [UInt8.ofNat (0xf0 + n / 262144), UInt8.ofNat (0x80 + n / 4096 % 64),
     UInt8.ofNat (0x80 + n / 64 % 64), UInt8.ofNat (0x80 + n % 64)]

/-- The UTF-8 encoding of a text. -/
def encode (s : String) : Bytes := s.toList.flatMap encodeChar

/-- One piece of a byte string read as UTF-8. -/
inductive Piece where
  /-- A character, encoded in shortest form. -/
  | char (c : Char)
  /-- A byte that does not begin a well-formed encoding. -/
  | stray (b : UInt8)
  deriving DecidableEq, Repr

/-- Whether a byte lies in a range. -/
def within (b : UInt8) (lo hi : Nat) : Bool := Nat.ble lo b.toNat && Nat.ble b.toNat hi

/-- The low six bits of a continuation byte. -/
def low (b : UInt8) : Nat := b.toNat % 64

/-- Reads the piece that starts with byte `b`, followed by `rest`, and returns the bytes after
it. A lead byte of a two-, three- or four-byte form takes its continuation bytes only when
each lies in its range; otherwise `b` is a stray byte and the rest is left as it is. -/
def readPiece (b : UInt8) (rest : Bytes) : Piece × Bytes :=
  let n := b.toNat
  if n < 0x80 then (.char (Char.ofNat n), rest)
  else if n < 0xc2 then (.stray b, rest)
  else if n < 0xe0 then
    match rest with
    | c :: r =>
      if within c 0x80 0xbf then (.char (Char.ofNat ((n - 0xc0) * 64 + low c)), r)
      else (.stray b, rest)
    | [] => (.stray b, rest)
  else if n < 0xf0 then
    let lo := if n = 0xe0 then 0xa0 else 0x80
    let hi := if n = 0xed then 0x9f else 0xbf
    match rest with
    | c1 :: c2 :: r =>
      if within c1 lo hi && within c2 0x80 0xbf then
        (.char (Char.ofNat ((n - 0xe0) * 4096 + low c1 * 64 + low c2)), r)
      else (.stray b, rest)
    | _ => (.stray b, rest)
  else if n < 0xf5 then
    let lo := if n = 0xf0 then 0x90 else 0x80
    let hi := if n = 0xf4 then 0x8f else 0xbf
    match rest with
    | c1 :: c2 :: c3 :: r =>
      if within c1 lo hi && within c2 0x80 0xbf && within c3 0x80 0xbf then
        (.char (Char.ofNat ((n - 0xf0) * 262144 + low c1 * 4096 + low c2 * 64 + low c3)), r)
      else (.stray b, rest)
    | _ => (.stray b, rest)
  else (.stray b, rest)

/-- Reads pieces while fuel lasts; every piece takes at least one byte, so the length of the
byte string is fuel enough. -/
def piecesWithin : Nat → Bytes → List Piece
  | 0, _ => []
  | _ + 1, [] => []
  | fuel + 1, b :: rest =>
    let (p, r) := readPiece b rest
    p :: piecesWithin fuel r

/-- A byte string read as UTF-8, piece by piece. -/
def pieces (bs : Bytes) : List Piece := piecesWithin bs.length bs

/-- The replacement character U+FFFD that stands for a stray byte. -/
def replacement : Char := Char.ofNat 0xfffd

/-- A byte string shown as text: its characters, with U+FFFD for each stray byte. -/
def display (bs : Bytes) : String :=
  String.ofList ((pieces bs).map fun
    | .char c => c
    | .stray _ => replacement)

end Utf8

namespace Bytes

/-- Each byte as the character with the same code. -/
def chars (bs : Bytes) : List Char := bs.map fun b => Char.ofNat b.toNat

/-- The byte string of an ASCII text given as characters. -/
def ofAscii (cs : List Char) : Bytes := cs.map fun c => UInt8.ofNat c.toNat

/-- Splits at every occurrence of a byte: `n` occurrences give `n + 1` parts, empty ones
included. -/
def splitAt (sep : UInt8) : Bytes → List Bytes
  | [] => [[]]
  | b :: rest =>
    if b = sep then [] :: splitAt sep rest
    else
      match splitAt sep rest with
      | part :: parts => (b :: part) :: parts
      | [] => [[b]]

/-- The parts before and after the first occurrence of a byte, if it occurs. -/
def cutAt (sep : UInt8) : Bytes → Option (Bytes × Bytes)
  | [] => none
  | b :: rest =>
    if b = sep then some ([], rest)
    else (cutAt sep rest).map fun (before, after) => (b :: before, after)

end Bytes

end BranchLock
