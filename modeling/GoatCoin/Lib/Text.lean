/-
# `GoatCoin.Lib.Text` — texts as lists of characters

A text is the list of its characters, and what programs do to texts is done to lists:

    split       `splitOn` (one character), `splitCrlf`, `splitOnce`, `rsplitOnce`
    trim        white space as Unicode has it
    read        `parseDecimal`, `parseHex`: an optional `+`, then digits, below a bound
    decode      `fromUtf8Lossy`: every maximal part that is not UTF-8 is one `U+FFFD`
-/
import Mathlib.Data.List.Infix
import Mathlib.Algebra.GroupWithZero.Nat

abbrev Text := List Char

namespace Text

/-! ## Classes of characters -/

def isAscii (c : Char) : Bool := c.toNat < 128

def isAsciiControl (c : Char) : Bool := c.toNat < 32 || c.toNat = 127

def isAsciiDigit (c : Char) : Bool := '0' ≤ c && c ≤ '9'

def isAsciiLower (c : Char) : Bool := 'a' ≤ c && c ≤ 'z'

def isAsciiAlpha (c : Char) : Bool := isAsciiLower c || ('A' ≤ c && c ≤ 'Z')

def isAsciiHexDigit (c : Char) : Bool :=
  isAsciiDigit c || ('a' ≤ c && c ≤ 'f') || ('A' ≤ c && c ≤ 'F')

/-- The property `White_Space`. -/
def isWhitespace (c : Char) : Bool :=
  (0x9 ≤ c.toNat && c.toNat ≤ 0xd) || c.toNat = 0x20 || c.toNat = 0x85 || c.toNat
    = 0xa0 || c.toNat = 0x1680
    || (0x2000 ≤ c.toNat && c.toNat ≤ 0x200a) || c.toNat = 0x2028 || c.toNat
    = 0x2029 || c.toNat = 0x202f || c.toNat = 0x205f || c.toNat = 0x3000

def toAsciiLowercase (s : Text) : Text := s.map Char.toLower

def allAscii (s : Text) : Bool := s.all isAscii

/-- What the text takes in UTF-8. -/
def byteLength (s : Text) : Nat := (s.map Char.utf8Size).sum

/-! ## Parts of a text -/

def hasPart (s part : Text) : Bool := decide (part <:+: s)

def startsWith (s start : Text) : Bool := decide (start <+: s)

def endsWith (s tail : Text) : Bool := decide (tail <:+ s)

def trimStart (s : Text) : Text := s.dropWhile isWhitespace

def trimEnd (s : Text) : Text := (s.reverse.dropWhile isWhitespace).reverse

def trim (s : Text) : Text := trimEnd (trimStart s)

/-- Without the copies of a character at its end. -/
def trimEndMatches (c : Char) (s : Text) : Text := (s.reverse.dropWhile (· == c)).reverse

/-- What stands before and after the first such character. -/
def splitOnce (c : Char) : Text → Option (Text × Text)
  | [] => none
  | d :: s => if d = c then some ([], s) else (splitOnce c s).map fun (before, after) =>
      (d :: before, after)

/-- What stands before and after the last such character. -/
def rsplitOnce (c : Char) (s : Text) : Option (Text × Text) :=
  (splitOnce c s.reverse).map fun (after, before) => (before.reverse, after.reverse)

/-- The lines of a text that ends them with `\r\n`. -/
def splitCrlf : Text → List Text
  | [] => [[]]
  | [c] => [[c]]
  | c :: d :: s =>
      if c = '\r' ∧ d = '\n' then [] :: splitCrlf s
      else match splitCrlf (d :: s) with
        | [] => [[c]]
        | line :: lines => (c :: line) :: lines

def crlf : Text := ['\r', '\n']

theorem splitCrlf_line {line : Text} (h : '\r' ∉ line) (rest : Text) :
    splitCrlf (line ++ crlf ++ rest) = line :: splitCrlf rest := by
  induction line with
  | nil =>
      show splitCrlf ('\r' :: '\n' :: rest) = _
      rw [splitCrlf, if_pos ⟨rfl, rfl⟩]
  | cons c line ih =>
      have hc : c ≠ '\r' := fun heq => h (heq ▸ List.mem_cons_self)
      have htail := ih fun hin => h (List.mem_cons_of_mem _ hin)
      obtain ⟨d, s, hds⟩ : ∃ d s, line ++ crlf ++ rest = d :: s := by
        cases line with
        | nil => exact ⟨_, _, rfl⟩
        | cons d line => exact ⟨_, _, rfl⟩
      rw [List.cons_append, List.cons_append, hds, splitCrlf, if_neg fun hboth => hc hboth.1,
        ← hds, htail]

/-! ## Numbers -/

def digitValue (c : Char) : Option Nat :=
  if isAsciiDigit c then some (c.toNat - 48)
  else if 'a' ≤ c && c ≤ 'f' then some (c.toNat - 87)
  else if 'A' ≤ c && c ≤ 'F' then some (c.toNat - 55)
  else none

def digitsValue (radix : Nat) (s : Text) : Option Nat :=
  s.foldl (fun acc c => acc.bind fun n =>
    (digitValue c).bind fun v => if v < radix then some (n * radix + v) else none) (some 0)

/-- `from_str_radix` for an unsigned type of `2 ^ width` values. -/
def parseRadix (radix width : Nat) (s : Text) : Option Nat :=
  let digits := match s with
    | '+' :: rest => rest
    | _ => s
  if digits = [] then none
  else (digitsValue radix digits).bind fun n => if n < 2 ^ width then some n else none

def parseDecimal (width : Nat) (s : Text) : Option Nat := parseRadix 10 width s

def parseHex (width : Nat) (s : Text) : Option Nat := parseRadix 16 width s

/-! ## UTF-8 -/

/-- A character that has begun: how many bytes are missing, between what the next one must be, and
its bits so far. -/
structure Pending where
  missing : Nat
  low : Nat
  high : Nat
  bits : Nat

/-- The first byte of a character. -/
def beginUtf8 (b : Nat) : List Char × Option Pending :=
  if b < 0x80 then ([Char.ofNat b], none)
  else if 0xc2 ≤ b ∧ b ≤ 0xdf then ([], some ⟨1, 0x80, 0xbf, b - 0xc0⟩)
  else if 0xe0 ≤ b ∧ b ≤ 0xef then
    ([], some ⟨2, if b = 0xe0 then 0xa0 else 0x80, if b = 0xed then 0x9f else 0xbf, b - 0xe0⟩)
  else if 0xf0 ≤ b ∧ b ≤ 0xf4 then
    ([], some ⟨3, if b = 0xf0 then 0x90 else 0x80, if b = 0xf4 then 0x8f else 0xbf, b - 0xf0⟩)
  else ([Char.ofNat 0xfffd], none)

def lossyFrom : Option Pending → List UInt8 → Text
  | none, [] => []
  | some _, [] => [Char.ofNat 0xfffd]
  | none, b :: bytes => (beginUtf8 b.toNat).1 ++ lossyFrom (beginUtf8 b.toNat).2 bytes
  | some p, b :: bytes =>
      if p.low ≤ b.toNat ∧ b.toNat ≤ p.high then
        if p.missing = 1 then Char.ofNat (p.bits * 64 + (b.toNat - 0x80)) :: lossyFrom none bytes
        else lossyFrom (some ⟨p.missing - 1, 0x80, 0xbf, p.bits * 64 + (b.toNat - 0x80)⟩) bytes
      else Char.ofNat 0xfffd :: ((beginUtf8 b.toNat).1 ++ lossyFrom (beginUtf8 b.toNat).2 bytes)

/-- `String::from_utf8_lossy`. -/
def fromUtf8Lossy (bytes : List UInt8) : Text := lossyFrom none bytes

end Text
