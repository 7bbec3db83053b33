import SpanWeave.Text.Digits

/-!
# How far literals reach

The number of characters that a string or a number takes at the beginning of a text. A formatted
string may hold expressions between braces, which may hold strings of their own; the scanner keeps
what is open on a stack and never goes back.
-/

set_option autoImplicit false

namespace SpanWeave.Source

/-- The letters that may stand before the opening quote of a string. -/
def isStringFlag (c : Char) : Bool := "fFtTrRbBuU".toList.contains c

/-- The characters that open and close strings. -/
def isQuote (c : Char) : Bool := c == '"' || c == '\'' || c == Char.ofNat 0x60

/-- How the inside of a string is read. -/
structure Quoting where
  quote : Char
  /-- Whether three quotes close it. -/
  triple : Bool
  /-- Whether braces open expressions. -/
  formatted : Bool
  /-- Whether a backslash is an ordinary character. -/
  raw : Bool
deriving DecidableEq, Repr

/-- The quoting that flags and an opening quote choose. -/
def Quoting.ofFlags (flags : List Char) (quote : Char) (triple : Bool) : Quoting :=
  { quote
    triple
    formatted := flags.any fun c => "fFtT".toList.contains c
    raw := flags.any fun c => c == 'r' || c == 'R' }

/-- What is open at a place inside a string. -/
inductive Inside where
  /-- The text of a string. -/
  | body (q : Quoting)
  /-- A character given by name, up to its closing brace. -/
  | charName
  /-- An expression, with the brackets open in it and the letters just before, latest first. -/
  | hole (depth : Nat) (letters : List Char)
  /-- A remark in an expression, up to the end of the line. -/
  | remark
  /-- The format of an expression's value. -/
  | spec
deriving DecidableEq, Repr

/-- Whether the text goes on with twice the given character. -/
def goesOnTwice (c : Char) : List Char → Bool
  | a :: b :: _ => a == c && b == c
  | _ => false

/-- One step inside what is open: what is open afterwards and how many more characters belong to the
step, or nothing where a string breaks off. -/
def Inside.step (stack : List Inside) (c : Char) (next : List Char) : Option (List Inside × Nat) :=
  match stack with
  | [] => none
  | .body q :: outer =>
    if c = '\\' then
      if q.raw then
        match next with
        | d :: _ => if q.formatted && d == '\x7b' then some (stack, 0) else some (stack, 1)
        | [] => none
      else
        match next with
        | 'N' :: '\x7b' :: _ =>
          if q.formatted then some (.charName :: stack, 2) else some (stack, 1)
        | d :: _ => if q.formatted && d == '\x7b' then some (stack, 0) else some (stack, 1)
        | [] => none
    else if c = q.quote then
      if q.triple then
        if goesOnTwice c next then some (outer, 2) else some (stack, 0)
      else some (outer, 0)
    else if c = '\n' && !q.triple then none
    else if q.formatted && c == '\x7b' then
      if next.head? = some '\x7b' then some (stack, 1) else some (.hole 0 [] :: stack, 0)
    else some (stack, 0)
  | .charName :: outer => if c = '\x7d' then some (outer, 0) else some (stack, 0)
  | .hole depth letters :: outer =>
    if isQuote c then
      let flags := if letters.all isStringFlag then letters else []
      let triple := goesOnTwice c next
      some (.body (.ofFlags flags c triple) :: .hole depth [] :: outer, if triple then 2 else 0)
    else if c = '#' then some (.remark :: .hole depth [] :: outer, 0)
    else if c = '(' || c = '[' || c = '\x7b' then some (.hole (depth + 1) [] :: outer, 0)
    else if depth = 0 && c == '\x7d' then some (outer, 0)
    else if c = ')' || c = ']' || c = '\x7d' then some (.hole (depth - 1) [] :: outer, 0)
    else if depth = 0 && c == ':' then some (.spec :: outer, 0)
    else if c.isAlphanum || c = '_' then some (.hole depth (c :: letters) :: outer, 0)
    else some (.hole depth [] :: outer, 0)
  | .remark :: outer => if c = '\n' then some (outer, 0) else some (stack, 0)
  | .spec :: outer =>
    if c = '\x7b' then some (.hole 0 [] :: stack, 0)
    else if c = '\x7d' then some (outer, 0)
    else some (stack, 0)

/-- How many characters it takes until nothing is open any more. -/
def closeLength? : List Inside → Nat → List Char → Option Nat
  | _, _, [] => none
  | stack, skipped + 1, _ :: cs =>
    if stack.isEmpty && skipped = 0 then some 1 else (closeLength? stack skipped cs).map (· + 1)
  | stack, 0, c :: cs =>
    match Inside.step stack c cs with
    | none => none
    | some ([], 0) => some 1
    | some (stack, more) => (closeLength? stack more cs).map (· + 1)

/-- The length of the string at the beginning of a text, flags included, if one begins there. -/
def stringLength? (cs : List Char) : Option Nat :=
  let flags := cs.takeWhile isStringFlag
  match cs.drop flags.length with
  | q :: rest =>
    if isQuote q then
      let triple := goesOnTwice q rest
      let opening := if triple then 3 else 1
      (closeLength? [.body (.ofFlags flags q triple)] 0 (cs.drop (flags.length + opening))).map
        (· + flags.length + opening)
    else none
  | [] => none

/-- How many characters at the beginning are digits or underscores. -/
def digitsLength (isDigit : Char → Bool) (cs : List Char) : Nat :=
  (cs.takeWhile fun c => isDigit c || c == '_').length

/-- The length of an exponent at the beginning of a text; it needs a digit. -/
def exponentLength : List Char → Nat
  | e :: cs =>
    if e = 'e' || e = 'E' then
      match cs with
      | '+' :: d :: _ => if d.isDigit then 2 + digitsLength Char.isDigit cs.tail else 0
      | '-' :: d :: _ => if d.isDigit then 2 + digitsLength Char.isDigit cs.tail else 0
      | d :: _ => if d.isDigit then 1 + digitsLength Char.isDigit cs else 0
      | [] => 0
    else 0
  | [] => 0

/-- The digits of hexadecimal notation. -/
def isHexDigit (c : Char) : Bool := (Text.baseDigit? 16 c).isSome && c.toNat < 128

/-- Whether one of the letters stands first. -/
def headIn (letters : String) : List Char → Bool
  | c :: _ => letters.toList.contains c
  | [] => false

/-- The length of the number at the beginning of a text; zero if none begins there. -/
def numberLength (cs : List Char) : Nat :=
  match cs with
  | '0' :: x :: d :: _ =>
    if (x = 'x' || x = 'X') && (isHexDigit d || d == '_') then
      let n := 2 + digitsLength isHexDigit (cs.drop 2)
      n + if headIn "lL" (cs.drop n) then 1 else 0
    else if headIn "oObB" [x] && (d.isDigit || d == '_') then
      let n := 2 + digitsLength Char.isDigit (cs.drop 2)
      n + if headIn "lL" (cs.drop n) then 1 else 0
    else decimal
  | _ => decimal
where
  /-- Whole digits, a fraction, an exponent and a suffix, as far as they are written. -/
  decimal : Nat :=
    let whole := if headIn "_" cs then 0 else digitsLength Char.isDigit cs
    let fraction :=
      match cs.drop whole with
      | '.' :: rest =>
        let n := if headIn "_" rest then 0 else digitsLength Char.isDigit rest
        if whole = 0 && n = 0 then 0 else n + 1
      | _ => 0
    let mantissa := whole + fraction
    if mantissa = 0 then 0
    else
      let n := mantissa + exponentLength (cs.drop mantissa)
      n + if headIn "jJlL" (cs.drop n) then 1 else 0

end SpanWeave.Source
