/-
# Filling in

A text with places marked by percent signs takes values in their stead.  Behind the sign stand the
key of the value in a dictionary, flags, a width, a precision and a letter that says how the value
is shown; all but the letter may be missing.
-/
import ViewEngine.Decimal.Notation
import ViewEngine.Script.Sequence

namespace ViewEngine.Script

namespace Fill

/-- Where the values come from. -/
structure Supply where
  /-- The values that remain. -/
  values : List Value
  /-- The dictionary or the like in which keys are looked up. -/
  mapping : Option Value := none

/-- How a value is shown. -/
structure Place where
  /-- To the left? -/
  left : Bool := false
  /-- With a sign in any case? -/
  sign : Bool := false
  /-- With a blank in place of a plus? -/
  blank : Bool := false
  /-- In the long form? -/
  long : Bool := false
  /-- Filled up with zeros? -/
  zeros : Bool := false
  /-- The least width. -/
  width : Option Nat := none
  /-- The precision. -/
  precision : Option Nat := none
  /-- The letter. -/
  letter : Char := 's'

/-- What is being read: the supply, and the characters that remain. -/
abbrev Reading := StateT (Supply × Text) Run

/-- The next value. -/
def nextValue : Reading Value := do
  let (s, cs) ← get
  match s.values with
  | v :: rest =>
    set ({ s with values := rest }, cs)
    return v
  | [] => Run.fail .type "not enough arguments for format string"

/-- The next character. -/
def nextChar : Reading Char := do
  let (s, cs) ← get
  match cs with
  | c :: rest =>
    set (s, rest)
    return c
  | [] => Run.fail .value "incomplete format"

/-! ### The parts of a place -/

/-- The text up to the parenthesis that closes `depth` open ones, and what follows it. -/
def splitKey : Nat → Text → Option (Text × Text)
  | _, [] => none
  | depth, c :: cs =>
    if c = ')' then
      if depth ≤ 1 then some ([], cs) else (splitKey (depth - 1) cs).map fun p => (c :: p.1, p.2)
    else (splitKey (if c = '(' then depth + 1 else depth) cs).map fun p => (c :: p.1, p.2)

/-- Reads a key, if one stands here; the value of the key is the only one that remains. -/
def readKey : Reading Unit := do
  let (s, cs) ← get
  match cs with
  | '(' :: rest =>
    match s.mapping with
    | none => Run.fail .type "format requires a mapping"
    | some m =>
      match splitKey 1 rest with
      | none => Run.fail .value "incomplete format key"
      | some (key, rest) =>
        let v ← lookAt m (← Run.newText key)
        set ({ s with values := [v] }, rest)
  | _ => return ()

/-- The place with a flag set, if the character is a flag. -/
def Place.flag? (p : Place) (c : Char) : Option Place :=
  match c with
  | '-' => some { p with left := true }
  | '+' => some { p with sign := true }
  | ' ' => some { p with blank := true }
  | '#' => some { p with long := true }
  | '0' => some { p with zeros := true }
  | _ => none

/-- Reads flags, and the character behind them. -/
def readFlags (p : Place) : Nat → Reading (Place × Char)
  | 0 => Run.fail .value "incomplete format"
  | n + 1 => do
    let c ← nextChar
    match p.flag? c with
    | some p => readFlags p n
    | none => return (p, c)

/-- Reads the digits of a number below a limit that go on from a character, and the character behind
them. -/
def readNumber (limit : Nat) (complaint : Text) (value : Nat) : Nat → Reading (Nat × Char)
  | 0 => Run.fail .value "incomplete format"
  | n + 1 => do
    let c ← nextChar
    if c.isDigit then
      let value := value * 10 + (c.toNat - 48)
      if limit ≤ value then Run.fail .value complaint
      else readNumber limit complaint value n
    else return (value, c)

/-- A whole number from the supply that takes the place of a width or precision. -/
def suppliedNumber : Reading Int := do
  match (← nextValue).whole? with
  | some n => return n
  | none => Run.fail .type "* wants int"

/-- Reads a width that begins with a character, if one does, and the character behind it. -/
def readWidth (p : Place) (c : Char) (room : Nat) : Reading (Place × Char) := do
  if c = '*' then
    let n ← suppliedNumber
    if n < -placeLimit ∨ placeLimit ≤ n then
      sizeOverflow
    else return ({ p with left := p.left || n < 0, width := some n.natAbs }, ← nextChar)
  else if c.isDigit then
    let (n, c) ← readNumber (Nat.pow 2 63) "width too big" (c.toNat - 48) room
    return ({ p with width := some n }, c)
  else return (p, c)

/-- Reads a precision that begins with a character, if one does, and the character behind it. -/
def readPrecision (p : Place) (c : Char) (room : Nat) : Reading (Place × Char) := do
  if c = '.' then
    let c ← nextChar
    if c = '*' then
      let n ← suppliedNumber
      if n < -Int.pow 2 31 ∨ Int.pow 2 31 ≤ n then
        Run.fail .overflow "Python int too large to convert to C int"
      else return ({ p with precision := some n.toNat }, ← nextChar)
    else if c.isDigit then
      let (n, c) ← readNumber (Nat.pow 2 31) "precision too big" (c.toNat - 48) room
      return ({ p with precision := some n }, c)
    else return ({ p with precision := some 0 }, c)
  else return (p, c)

/-- Reads a place behind its percent sign. -/
def readPlace : Reading Place := do
  readKey
  let room := (← get).2.length + 1
  let (p, c) ← readFlags {} room
  let (p, c) ← readWidth p c room
  let (p, c) ← readPrecision p c room
  let c ← if c = 'h' || c = 'l' || c = 'L' then nextChar else pure c
  return { p with letter := c }

/-! ### Showing -/

/-- What is said of a value that is no number. -/
def notNumber {α : Type} (letter : Char) (wanted : Text) (v : Value) : Run α := do
  Run.fail .type ('%' :: letter :: " format: " ++ wanted ++ " is required, not " ++ (← v.typeName))

/-- The whole number that a value is shown as. -/
def wholeValue (letter : Char) (v : Value) : Run Int :=
  let exact := letter = 'o' || letter = 'x' || letter = 'X'
  match v.number? with
  | some (.int n) => return n
  | some (.float x) =>
    if exact then notNumber letter "an integer" v
    else match Decimal.read x with
      | .finite b => return b.truncate
      | .infinite _ => Run.fail .overflow "cannot convert float infinity to integer"
      | .undefined => Run.fail .value "cannot convert float NaN to integer"
  | none => notNumber letter (if exact then "an integer" else "a real number") v

/-- The mark of a base in front of digits. -/
def baseMark (p : Place) : Text :=
  if p.long && (p.letter = 'o' || p.letter = 'x' || p.letter = 'X') then ['0', p.letter] else []

/-- A whole number: its sign and its digits, at least as many as the precision says. -/
def wholeText (p : Place) (n : Int) : Run (Text × Text) := do
  let digits ← match p.letter with
    | 'o' => pure (Nat.toDigits 8 n.natAbs)
    | 'x' => pure (Nat.toDigits 16 n.natAbs)
    | 'X' => pure ((Nat.toDigits 16 n.natAbs).map Char.toUpper)
    | _ => Number.intText n.natAbs
  return (if n < 0 then ['-'] else [], Decimal.padZeros (p.precision.getD 0) digits)

/-- A number in a notation: its sign and its digits. -/
def floatText (p : Place) (v : Value) : Run (Text × Text) := do
  match v.number? with
  | none => Run.fail .type ("must be real number, not " ++ (← v.typeName))
  | some n =>
    let x ← n.toFloat
    let kind : Decimal.Notation :=
      if p.letter.toLower = 'f' then .fixed
      else if p.letter.toLower = 'e' then .scientific else .general
    let t := kind.text p.long (p.precision.getD 6) x
    let t := if p.letter.isUpper then t.map Char.toUpper else t
    return match t with
      | '-' :: ds => (['-'], ds)
      | ds => ([], ds)

/-- The character that a value stands for. -/
def charText (v : Value) : Run Text :=
  match v with
  | .text _ [c] => return [c]
  | _ =>
    match v.whole? with
    | some n =>
      if 0 ≤ n ∧ n < 0x110000 then return [Char.ofNat n.toNat]
      else Run.fail .overflow "%c arg not in range(0x110000)"
    | none => Run.fail .type "%c requires int or char"

/-- The room of a text that is shown in full. -/
def Place.room (p : Place) : Fit := { left := p.left, width := p.width.getD 0 }

/-- The room of a text. -/
def Place.fit (p : Place) : Fit := { p.room with precision := p.precision }

/-- A number in the width of a place, with its sign and the mark of its base; zeros go between these
and the digits. -/
def Place.padNumber (p : Place) (sign mark digits : Text) : Text :=
  let sign := if sign.isEmpty then if p.sign then ['+'] else if p.blank then [' '] else [] else sign
  let front := sign ++ mark
  if p.zeros && !p.left then
    front ++ Decimal.padZeros (p.width.getD 0 - front.length) digits
  else p.room.apply (front ++ digits)

/-- The value in a place. -/
def Place.show (p : Place) (index : Nat) (v : Value) : Run Text := do
  match p.letter with
  | 's' => return p.fit.apply (← v.plain)
  | 'r' => return p.fit.apply (← v.quoted)
  | 'a' => return p.fit.apply (Text.asciiOnly (← v.quoted))
  | 'c' => return p.room.apply (← charText v)
  | 'd' | 'i' | 'u' | 'o' | 'x' | 'X' =>
    let (sign, digits) ← wholeText p (← wholeValue p.letter v)
    return p.padNumber sign (baseMark p) digits
  | 'e' | 'E' | 'f' | 'F' | 'g' | 'G' =>
    let (sign, digits) ← floatText p v
    return p.padNumber sign [] digits
  | c =>
    Run.fail .value ("unsupported format character '" ++
      [if 31 ≤ c.toNat ∧ c.toNat ≤ 126 then c else '?'] ++ "' (0x" ++ Nat.toDigits 16 c.toNat ++
      ") at index " ++ Text.ofNat index)

/-! ### The whole text -/

/-- Fills the places of a text whose length was `length`. -/
def fillAll (length : Nat) : Nat → Reading Text
  | 0 => return []
  | n + 1 => do
    match (← get).2 with
    | [] => return []
    | '%' :: '%' :: rest =>
      modify fun s => (s.1, rest)
      return '%' :: (← fillAll length n)
    | '%' :: rest =>
      modify fun s => (s.1, rest)
      let p ← readPlace
      let v ← nextValue
      let t ← p.show (length - (← get).2.length - 1) v
      return t ++ (← fillAll length n)
    | c :: rest =>
      modify fun s => (s.1, rest)
      return c :: (← fillAll length n)

/-- The values to fill in. -/
def supplyOf (w : Value) : Supply :=
  match w with
  | .tuple _ vs => { values := vs }
  | .list _ | .dict _ | .range .. => { values := [w], mapping := some w }
  | _ => { values := [w] }

/-- A text with values filled in. -/
def fill (t : Text) (w : Value) : Run Text := do
  let (filled, s, _) ← (fillAll t.length (t.length + 1)).run (supplyOf w, t)
  if s.mapping.isNone && !s.values.isEmpty then
    Run.fail .type "not all arguments converted during string formatting"
  else return filled

end Fill

/-- Does the text consist of a single place for a text? -/
def isSinglePlace (t : Text) : Bool :=
  match t with
  | '%' :: cs => cs.getLast? = some 's' && cs.dropLast.all fun c => c.isDigit || c = '-' || c = '.'
  | _ => false

/-- A text with values filled in, as a value.  A text without places stays itself, and so does a
text that fills a single place. -/
def fillText (text : Value) (t : Text) (w : Value) : Run Value := do
  let filled ← Fill.fill t w
  let single := match w with
    | .tuple _ [v] => v
    | v => v
  let fresh := if t.contains '%' then Run.pieceOf filled else return text
  match single with
  | .text _ s => if isSinglePlace t && filled = s then return single else fresh
  | .bool _ => if isSinglePlace t then single.asText else fresh
  | _ => fresh

end ViewEngine.Script
