/-
# Text encodings

How the bytes of a file are read as text.
-/
import ViewEngine.Store.CodePage
import ViewEngine.Store.EncodingName
import ViewEngine.Text.Escape

namespace ViewEngine

/-- The order of the bytes of a number. -/
inductive ByteOrder where
  | littleEnd | bigEnd
deriving DecidableEq, Repr

/-- A text encoding. -/
inductive Encoding where
  | utf7 | utf8
  /-- The one of Unicode in bytes, with a mark in front that may be missing. -/
  | utf8Marked
  /-- Sixteen bits a unit; without a fixed order a mark in front tells it. -/
  | utf16 (order : Option ByteOrder)
  /-- Thirty-two bits a character; without a fixed order a mark in front tells it. -/
  | utf32 (order : Option ByteOrder)
  /-- One byte a character: the characters of all bytes that have one. -/
  | page (characters : List (Option Char))
  /-- Escapes in a text of one byte a character: all kinds, or only those of code points. -/
  | escapes (all : Bool)
  /-- Names of hosts in ASCII. -/
  | hostNames
  /-- The ASCII form of one label of the name of a host. -/
  | hostLabel
  /-- The encoding in which nothing can be read. -/
  | forbidden
deriving DecidableEq, Repr

namespace Encoding

/-- Why bytes are no text. -/
inductive Fault where
  /-- The bytes do not follow the rules of the encoding. -/
  | malformed
  /-- A complaint of the encoding's own. -/
  | complaint (message : Text)
deriving DecidableEq, Repr

/-! ### Pages -/

/-- The characters that a word of a page stands for. -/
def pageWord (w : Text) : List (Option Char) :=
  let number (t : Text) : Nat := t.foldl (fun n c => n * 16 + (Text.hexDigit? c).getD 0) 0
  match w with
  | '?' :: n => List.replicate (if n.isEmpty then 1 else number n) none
  | _ =>
    match w.span (· ≠ '-') with
    | (a, _ :: b) => (List.range (number b + 1 - number a)).map fun k =>
        some (Char.ofNat (number a + k))
    | (a, []) => [some (Char.ofNat (number a))]

/-- The characters of ASCII. -/
def asciiHalf : List (Option Char) := (List.range 128).map fun n => some (Char.ofNat n)

/-- The page of a name. -/
def page? (n : Text) : Option (List (Option Char)) :=
  match upperPages.find? fun p => p.1.toList = n with
  | some p => some (asciiHalf ++ (entryWords p.2).flatMap pageWord)
  | none => (wholePages.find? fun p => p.1.toList = n).map fun p =>
      (entryWords p.2).flatMap pageWord

/-- The page on which each byte is the character of the same number. -/
def identityPage : List (Option Char) := (List.range 256).map fun n => some (Char.ofNat n)

/-- The encoding of a proper name. -/
def ofProperName? (n : Text) : Option Encoding :=
  match String.ofList n with
  | "utf_7" => some utf7
  | "utf_8" => some utf8
  | "utf_8_sig" => some utf8Marked
  | "utf_16" => some (utf16 none)
  | "utf_16_le" => some (utf16 (some .littleEnd))
  | "utf_16_be" => some (utf16 (some .bigEnd))
  | "utf_32" => some (utf32 none)
  | "utf_32_le" => some (utf32 (some .littleEnd))
  | "utf_32_be" => some (utf32 (some .bigEnd))
  | "charmap" => some (page identityPage)
  | "unicode_escape" => some (escapes true)
  | "raw_unicode_escape" => some (escapes false)
  | "idna" => some hostNames
  | "punycode" => some hostLabel
  | "undefined" => some forbidden
  | _ => (page? n).map page

/-- What a name of an encoding leads to. -/
inductive Meaning where
  /-- An encoding. -/
  | encoding (e : Encoding)
  /-- A code, but none of texts. -/
  | notText
  /-- Nothing. -/
  | unknown
  /-- The name holds a character that no name can hold. -/
  | impossible
deriving DecidableEq, Repr

/-- What a name of an encoding means. -/
def named (n : Text) : Meaning :=
  if n.contains '\x00' then .impossible
  else if n = "locale".toList then .encoding utf8
  else
    let plain := plainName n
    match (properName? textEntries plain).bind ofProperName? with
    | some e => .encoding e
    | none => if (properName? otherEntries plain).isSome then .notText else .unknown

/-! ### Units of several bytes -/

/-- Numbers of so many bytes; `none` if bytes are left over. -/
def units (size : Nat) (order : ByteOrder) (bytes : List Nat) : Option (List Nat) :=
  if bytes.length % (size + 1) = 0 then some (go bytes.length bytes) else none
where
  /-- The number that bytes make. -/
  number (bs : List Nat) : Nat :=
    match order with
    | .bigEnd => bs.foldl (fun n b => n * 256 + b) 0
    | .littleEnd => bs.reverse.foldl (fun n b => n * 256 + b) 0
  /-- Takes the numbers one after the other. -/
  go : Nat → List Nat → List Nat
    | 0, _ => []
    | n + 1, bs => if bs.isEmpty then [] else number (bs.take (size + 1)) :: go n (bs.drop (size + 1))

/-- The character of a code point; the halves of pairs are none. -/
def character? (n : Nat) : Option Char :=
  if n < 0xd800 ∨ (0xe000 ≤ n ∧ n < 0x110000) then some (Char.ofNat n) else none

/-- Numbers of sixteen bits as characters; two halves of a pair make one character. -/
def ofPairs : List Nat → Option Text
  | [] => some []
  | u :: rest =>
    match character? u with
    | some c => (ofPairs rest).map (c :: ·)
    | none =>
      match rest with
      | v :: rest =>
        if u < 0xdc00 ∧ 0xdc00 ≤ v ∧ v < 0xe000 then
          (ofPairs rest).map (Char.ofNat (0x10000 + (u - 0xd800) * 0x400 + (v - 0xdc00)) :: ·)
        else none
      | [] => none

/-- The bytes as units of sixteen bits. -/
def decodeUtf16 (order : ByteOrder) (bytes : List Nat) : Except Fault Text :=
  match (units 1 order bytes).bind ofPairs with
  | some t => .ok t
  | none => .error .malformed

/-- The bytes as units of thirty-two bits. -/
def decodeUtf32 (order : ByteOrder) (bytes : List Nat) : Except Fault Text :=
  match (units 3 order bytes).bind fun us => us.mapM character? with
  | some t => .ok t
  | none => .error .malformed

/-- Reads a text that a mark has to precede; without one the bytes are only looked at. -/
def decodeMarked (name : Text) (marks : List (List Nat × ByteOrder))
    (decode : ByteOrder → List Nat → Except Fault Text) (bytes : List Nat) : Except Fault Text :=
  match marks.find? fun m => m.1.isPrefixOf bytes with
  | some m => decode m.2 (bytes.drop m.1.length)
  | none => do
    let t ← decode .littleEnd bytes
    if bytes.isEmpty then .ok t
    else .error (.complaint (name ++ " stream does not start with BOM"))

/-! ### Seven bits -/

/-- The value of a digit of base sixty-four. -/
def sextet? (n : Nat) : Option Nat :=
  if 65 ≤ n ∧ n ≤ 90 then some (n - 65)
  else if 97 ≤ n ∧ n ≤ 122 then some (n - 71)
  else if 48 ≤ n ∧ n ≤ 57 then some (n + 4)
  else if n = 43 then some 62
  else if n = 47 then some 63
  else none

/-- The state inside a run of digits of base sixty-four. -/
structure Shift where
  /-- The bits that make no unit yet. -/
  buffer : Nat := 0
  /-- How many there are. -/
  bits : Nat := 0
  /-- The first half of a pair that waits for the second. -/
  half : Option Nat := none

/-- The shift after one more digit, and the character that is complete with it. -/
def Shift.add (s : Shift) (digit : Nat) : Option (Shift × Text) :=
  let buffer := s.buffer * 64 + digit
  let bits := s.bits + 6
  if bits < 16 then some ({ s with buffer, bits }, [])
  else
    let unit := buffer / Nat.pow 2 (bits - 16)
    let rest : Shift := { buffer := buffer % Nat.pow 2 (bits - 16), bits := bits - 16 }
    match s.half with
    | some h =>
      if 0xdc00 ≤ unit ∧ unit < 0xe000 then
        some (rest, [Char.ofNat (0x10000 + (h - 0xd800) * 0x400 + (unit - 0xdc00))])
      else none
    | none =>
      if 0xd800 ≤ unit ∧ unit < 0xdc00 then some ({ rest with half := some unit }, [])
      else (character? unit).map fun c => (rest, [c])

/-- May a run of digits end here?  What is left over has to be less than a digit, and zero. -/
def Shift.mayEnd (s : Shift) : Bool := s.half.isNone && s.bits < 6 && s.buffer = 0

/-- The text of seven-bit characters, with the state inside a run of digits. -/
def decodeUtf7From : Option Shift → List Nat → Option Text
  | none, [] => some []
  | some s, [] => if s.mayEnd then some [] else none
  | none, b :: bs =>
    if 128 ≤ b then none
    else if b ≠ 43 then (decodeUtf7From none bs).map (Char.ofNat b :: ·)
    else match bs with
      | 45 :: rest => (decodeUtf7From none rest).map ('+' :: ·)
      | d :: rest =>
        if (sextet? d).isSome then decodeUtf7From (some {}) (d :: rest) else none
      | [] => some []
  | some s, b :: bs =>
    match sextet? b with
    | some d => (s.add d).bind fun r => (decodeUtf7From (some r.1) bs).map (r.2 ++ ·)
    | none =>
      if !s.mayEnd || 128 ≤ b then none
      else if b = 45 then decodeUtf7From none bs
      else (decodeUtf7From none bs).map (Char.ofNat b :: ·)

/-! ### Escapes -/

/-- Replaces the escapes of code points, and leaves all other backslashes with what follows them;
the first `skip` characters belong to an earlier escape. -/
def codePointEscapes : Nat → Text → Option Text
  | _, [] => some []
  | skip + 1, _ :: cs => codePointEscapes skip cs
  | 0, c :: cs =>
    if c = '\\' then
      match cs with
      | d :: ds =>
        let width := if d = 'u' then 4 else if d = 'U' then 8 else 0
        if width = 0 then (codePointEscapes 1 (d :: ds)).map fun t => c :: d :: t
        else match (Text.hexNumber? width 0 ds).bind character? with
          | some e => (codePointEscapes (width + 1) (d :: ds)).map (e :: ·)
          | none => none
      | [] => some [c]
    else (codePointEscapes 0 cs).map (c :: ·)

/-! ### Labels of host names -/

/-- The value of a digit of base thirty-six; letters come first. -/
def labelDigit? (c : Char) : Option Nat :=
  if 'A' ≤ c ∧ c ≤ 'Z' then some (c.toNat - 65)
  else if '0' ≤ c ∧ c ≤ '9' then some (c.toNat - 22)
  else none

/-- A number at the front of the digits, and what follows it.  Places have weights that depend on
the bias; a digit below the threshold of its place is the last one. -/
def labelNumber (bias : Nat) : Nat → Nat → Nat → Text → Except Fault (Nat × Text)
  | _, _, _, [] => .error (.complaint "incomplete punicode string")
  | place, weight, value, c :: cs =>
    match labelDigit? c with
    | none => .error (.complaint ("Invalid extended code point '" ++ c :: ['\'']))
    | some d =>
      let threshold := min 26 (max 1 (36 * (place + 1) - bias))
      let value := value + d * weight
      if d < threshold then .ok (value, cs)
      else labelNumber bias (place + 1) (weight * (36 - threshold)) value cs

/-- Divides by thirty-five until the number is small; with the number of divisions. -/
def labelDivisions : Nat → Nat → Nat → Nat × Nat
  | 0, n, k => (n, k)
  | room + 1, n, k => if 455 < n then labelDivisions room (n / 35) (k + 1) else (n, k)

/-- The bias after a number, when the label has grown to some length. -/
def labelBias (delta length : Nat) (first : Bool) : Nat :=
  let start := if first then delta / 700 else delta / 2
  let d := start + start / length
  let r := labelDivisions d d 0
  r.2 * 36 + 36 * r.1 / (r.1 + 38)

/-- Inserts characters into a label as its digits tell: each number says how far the next place and
the next character lie behind the last ones. -/
def insertLetters : Nat → Nat → Nat → Nat → Bool → Text → Text → Except Fault Text
  | 0, _, _, _, _, label, _ => .ok label
  | room + 1, bias, place, code, first, label, digits =>
    if digits.isEmpty then .ok label
    else do
      let (delta, rest) ← labelNumber bias 0 1 0 digits
      let sum := place + delta
      let code := code + sum / (label.length + 1)
      if 0x10ffff < code then
        .error (.complaint ("Invalid character U+" ++ Nat.toDigits 16 code))
      else
        let place := sum % (label.length + 1)
        let label := label.take place ++ Char.ofNat code :: label.drop place
        insertLetters room (labelBias delta label.length first) (place + 1) code false label rest

/-- The label behind its ASCII form: the ASCII characters, a hyphen, and digits that tell where the
others belong. -/
def decodeLabel (t : Text) : Except Fault Text :=
  let digits := (t.reverse.takeWhile (· ≠ '-')).reverse
  let label := t.take (t.length - digits.length - 1)
  insertLetters digits.length 72 0 128 true label (digits.map Char.toUpper)

/-! ### Reading -/

/-- The bytes as ASCII. -/
def decodeAscii (bytes : List Nat) : Except Fault Text :=
  if bytes.all (· < 128) then .ok (bytes.map Char.ofNat) else .error .malformed

/-- The bytes as Unicode in units of eight bits. -/
def decodeUtf8 (bytes : ByteArray) : Except Fault Text :=
  match String.fromUTF8? bytes with
  | some s => .ok s.toList
  | none => .error .malformed

/-- The mark in front of a text in units of eight bits. -/
def utf8Mark : List Nat := [0xef, 0xbb, 0xbf]

/-- A text, or else a fault without a message. -/
def orMalformed : Option Text → Except Fault Text
  | some t => .ok t
  | none => .error .malformed

/-- The text that the bytes mean. -/
def decode (e : Encoding) (content : ByteArray) : Except Fault Text :=
  let bytes := content.toList.map UInt8.toNat
  match e with
  | utf7 => orMalformed (decodeUtf7From none bytes)
  | utf8 => decodeUtf8 content
  | utf8Marked =>
    if bytes.isPrefixOf utf8Mark then .ok []
    else if utf8Mark.isPrefixOf bytes then decodeUtf8 (content.extract 3 content.size)
    else decodeUtf8 content
  | utf16 (some order) => decodeUtf16 order bytes
  | utf16 none =>
    decodeMarked "UTF-16" [([0xff, 0xfe], .littleEnd), ([0xfe, 0xff], .bigEnd)] decodeUtf16 bytes
  | utf32 (some order) => decodeUtf32 order bytes
  | utf32 none =>
    decodeMarked "UTF-32" [([0xff, 0xfe, 0, 0], .littleEnd), ([0, 0, 0xfe, 0xff], .bigEnd)]
      decodeUtf32 bytes
  | page cs =>
    let table := cs.toArray
    orMalformed (bytes.mapM fun b => (table[b]?).bind id)
  | escapes all =>
    let t := bytes.map Char.ofNat
    orMalformed (if all then Text.unescapeFrom none 0 t else codePointEscapes 0 t)
  | hostNames => decodeAscii bytes
  | hostLabel => do decodeLabel (← decodeAscii bytes)
  | forbidden => .error (.complaint "undefined encoding")

end Encoding
end ViewEngine
