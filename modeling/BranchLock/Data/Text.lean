import BranchLock.Data.Hex
import BranchLock.Data.Utf8

/-!
# Quoted texts

Error messages show user input in double quotes, escaped so that the quoted text reads back as
the input. A quote or backslash is escaped with a backslash and a printable character is kept as
it is. Every other character is escaped: the usual control characters by their letters (`\n`,
`\t`, ...), the other ASCII controls as `\xHH`, and the rest as `\uHHHH` or, above U+FFFF,
`\UHHHHHHHH`. A byte string that is not well-formed UTF-8 is quoted piece by piece, each stray
byte as `\xHH`.

Reading a quoted text back undoes exactly these escapes and the octal form besides, giving a
byte string: `\xHH` and the octal escapes stand for one byte each, and `\u` and `\U` for the
UTF-8 encoding of a character. A raw newline, an unescaped quote inside, an unknown escape or
anything after the closing quote makes the text unreadable.
-/

namespace BranchLock

/-- The number `n` as exactly `k` lower-case hexadecimal digits. -/
def hexDigits (k n : Nat) : String :=
  String.ofList ((List.range k).reverse.map fun i => Hex.digit (n / Nat.pow 16 i % 16))

/-- The escape of one character inside a quoted text. -/
def quoteChar (c : Char) : String :=
  let n := c.toNat
  if c = '"' then "\\\""
  else if c = '\\' then "\\\\"
  else if isPrintable n then c.toString
  else if n = 7 then "\\a"
  else if n = 8 then "\\b"
  else if n = 12 then "\\f"
  else if n = 10 then "\\n"
  else if n = 13 then "\\r"
  else if n = 9 then "\\t"
  else if n = 11 then "\\v"
  else if n < 0x20 || n = 0x7f then "\\x" ++ hexDigits 2 n
  else if n < 0x10000 then "\\u" ++ hexDigits 4 n
  else "\\U" ++ hexDigits 8 n

/-- A text in double quotes, escaped. -/
def quoteText (s : String) : String := "\"" ++ String.join (s.toList.map quoteChar) ++ "\""

/-- A byte string in double quotes, escaped; a stray byte shows as `\xHH`. -/
def quoteBytes (bs : Bytes) : String :=
  "\"" ++ String.join ((Utf8.pieces bs).map fun
    | .char c => quoteChar c
    | .stray b => "\\x" ++ hexDigits 2 b.toNat) ++ "\""

/-- The value of a hexadecimal digit. -/
def hexDigit? (c : Char) : Option Nat :=
  if '0' ≤ c ∧ c ≤ '9' then some (c.toNat - '0'.toNat)
  else if 'a' ≤ c ∧ c ≤ 'f' then some (c.toNat - 'a'.toNat + 10)
  else if 'A' ≤ c ∧ c ≤ 'F' then some (c.toNat - 'A'.toNat + 10)
  else none

/-- The number written by `n` hexadecimal digits at the front of a text, and the rest. -/
def readHexDigits : Nat → Nat → List Char → Option (Nat × List Char)
  | 0, v, cs => some (v, cs)
  | n + 1, v, c :: cs => (hexDigit? c).bind fun d => readHexDigits n (16 * v + d) cs
  | _ + 1, _, [] => none

/-- Whether a number is a character code: below `0x110000` and no surrogate. -/
def isCharCode (v : Nat) : Bool := v < 0x110000 && !(0xd800 ≤ v && v < 0xe000)

/-- Reads one escape sequence, the backslash already read: the bytes it stands for and the rest
of the text. -/
def readEscape : List Char → Option (Bytes × List Char)
  | c :: rest =>
    match c with
    | 'a' => some ([7], rest)
    | 'b' => some ([8], rest)
    | 'f' => some ([12], rest)
    | 'n' => some ([10], rest)
    | 'r' => some ([13], rest)
    | 't' => some ([9], rest)
    | 'v' => some ([11], rest)
    | '\\' => some ([92], rest)
    | '"' => some ([34], rest)
    | 'x' => (readHexDigits 2 0 rest).map fun (v, r) => ([UInt8.ofNat v], r)
    | 'u' => (readHexDigits 4 0 rest).bind fun (v, r) =>
      if isCharCode v then some (Utf8.encodeChar (Char.ofNat v), r) else none
    | 'U' => (readHexDigits 8 0 rest).bind fun (v, r) =>
      if isCharCode v then some (Utf8.encodeChar (Char.ofNat v), r) else none
    | d =>
      if '0' ≤ d ∧ d ≤ '7' then
        match rest with
        | e :: f :: r =>
          if '0' ≤ e ∧ e ≤ '7' ∧ '0' ≤ f ∧ f ≤ '7' then
            let v := 64 * (d.toNat - 48) + 8 * (e.toNat - 48) + (f.toNat - 48)
            if v ≤ 255 then some ([UInt8.ofNat v], r) else none
          else none
        | _ => none
      else none
  | [] => none

/-- Reads the body of a quoted text up to its closing quote, which must end the text, collecting
the bytes read in reverse; every step reads at least one character, so the length of the text
bounds the steps. -/
def readQuoted : Nat → Bytes → List Char → Option Bytes
  | _, acc, '"' :: [] => some acc.reverse
  | _, _, '"' :: _ :: _ => none
  | _, _, '\n' :: _ => none
  | fuel + 1, acc, '\\' :: rest =>
    (readEscape rest).bind fun (bs, rest) => readQuoted fuel (bs.reverse ++ acc) rest
  | fuel + 1, acc, c :: rest => readQuoted fuel ((Utf8.encodeChar c).reverse ++ acc) rest
  | _, _, _ => none

/-- The byte string a double-quoted text stands for, if it is one. -/
def unquote? (s : String) : Option Bytes :=
  match s.toList with
  | '"' :: body => readQuoted body.length [] body
  | _ => none

end BranchLock
