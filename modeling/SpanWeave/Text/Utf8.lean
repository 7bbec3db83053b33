/-!
# Bytes and characters

Text is stored as UTF-8. Reading can be strict, where the first damaged place is reported with its
position and cause, or lenient, where every byte that belongs to no character stays in the text as a
stray byte.
-/

set_option autoImplicit false

namespace SpanWeave.Text

/-- What is wrong with a sequence of bytes that spells no character. -/
inductive Damage where
  /-- No character begins with this byte. -/
  | start
  /-- A byte that should go on with the character does not. -/
  | continuation
  /-- The text ends inside a character. -/
  | truncated
deriving DecidableEq, Repr

/-- The reason in words. -/
def Damage.reason : Damage → String
  | .start => "invalid start byte"
  | .continuation => "invalid continuation byte"
  | .truncated => "unexpected end of data"

/-- The outcome of reading one character. -/
inductive Head where
  /-- A character, and how many bytes after the first belong to it. -/
  | char (c : Char) (more : Nat)
  /-- Damage, and how many bytes after the first belong to it. -/
  | damaged (d : Damage) (more : Nat)
deriving Repr

/-- The bytes that go on with a character. -/
def isContinuation (b : UInt8) : Bool := 0x80 ≤ b && b < 0xC0

/-- The second byte may not spell a longer form than needed, a surrogate or a value past the end. -/
def isSecond (first second : UInt8) : Bool :=
  isContinuation second &&
    !(first == 0xE0 && second < 0xA0) && !(first == 0xED && second ≥ 0xA0) &&
    !(first == 0xF0 && second < 0x90) && !(first == 0xF4 && second ≥ 0x90)

/-- The low six bits of a continuation byte. -/
def payload (b : UInt8) : Nat := b.toNat % 64

/-- Reads the character that begins with byte `b`. -/
def readHead (b : UInt8) (bs : List UInt8) : Head :=
  if b < 0x80 then .char (Char.ofNat b.toNat) 0
  else if b < 0xC2 then .damaged .start 0
  else if b < 0xE0 then
    match bs with
    | [] => .damaged .truncated 0
    | b₁ :: _ =>
      if isContinuation b₁ then .char (Char.ofNat (b.toNat % 32 * 64 + payload b₁)) 1
      else .damaged .continuation 0
  else if b < 0xF0 then
    match bs with
    | [] => .damaged .truncated 0
    | b₁ :: bs =>
      if isSecond b b₁ then
        match bs with
        | [] => .damaged .truncated 1
        | b₂ :: _ =>
          if isContinuation b₂ then
            .char (Char.ofNat ((b.toNat % 16 * 64 + payload b₁) * 64 + payload b₂)) 2
          else .damaged .continuation 1
      else .damaged .continuation 0
  else if b < 0xF5 then
    match bs with
    | [] => .damaged .truncated 0
    | b₁ :: bs =>
      if isSecond b b₁ then
        match bs with
        | [] => .damaged .truncated 1
        | b₂ :: bs =>
          if isContinuation b₂ then
            match bs with
            | [] => .damaged .truncated 2
            | b₃ :: _ =>
              if isContinuation b₃ then
                .char (Char.ofNat
                  (((b.toNat % 8 * 64 + payload b₁) * 64 + payload b₂) * 64 + payload b₃)) 3
              else .damaged .continuation 2
          else .damaged .continuation 1
      else .damaged .continuation 0
  else .damaged .start 0

/-- A unit of stored text: a character, or a byte that belongs to none. -/
inductive Glyph where
  | char (c : Char)
  | stray (b : UInt8)
deriving DecidableEq, Repr

/-- How many bytes a unit takes. -/
def Glyph.width : Glyph → Nat
  | .char c => c.utf8Size
  | .stray _ => 1

/-- The character of a unit. -/
def Glyph.char? : Glyph → Option Char
  | .char c => some c
  | .stray _ => none

/-- The characters of stored text; stray bytes are left out. -/
def shown (gs : List Glyph) : List Char := gs.filterMap Glyph.char?

/-- Stored text, unit by unit. -/
def glyphs : List UInt8 → List Glyph
  | [] => []
  | b :: bs =>
    match readHead b bs with
    | .char c more => .char c :: glyphs (bs.drop more)
    | .damaged _ _ => .stray b :: glyphs bs
termination_by bs => bs.length
decreasing_by all_goals (simp only [List.length_drop, List.length_cons]; omega)

/-- The first damaged place of a text. -/
structure Undecodable where
  /-- The first byte of the place. -/
  byte : UInt8
  /-- Its position, counted in bytes from the beginning. -/
  position : Nat
  /-- How many bytes the place covers. -/
  length : Nat
  damage : Damage
deriving DecidableEq, Repr

/-- The report of a damaged place. -/
def Undecodable.message (u : Undecodable) : String :=
  let place :=
    if u.length = 1 then
      let digits := String.ofList ((Nat.toDigits 16 (u.byte.toNat + 256)).drop 1)
      s!"byte 0x{digits} in position {u.position}"
    else s!"bytes in position {u.position}-{u.position + u.length - 1}"
  "'utf-8' codec can't decode " ++ place ++ ": " ++ u.damage.reason

/-- Strict reading: all characters, or the first damaged place. -/
def decodeFrom (position : Nat) : List UInt8 → Except Undecodable (List Char)
  | [] => .ok []
  | b :: bs =>
    match readHead b bs with
    | .char c more => do
      let cs ← decodeFrom (position + 1 + more) (bs.drop more)
      return c :: cs
    | .damaged d more => .error ⟨b, position, 1 + more, d⟩
termination_by bs => bs.length
decreasing_by simp only [List.length_drop, List.length_cons]; omega

/-- The text that bytes spell. -/
def decode (bs : List UInt8) : Except Undecodable String :=
  (decodeFrom 0 bs).map String.ofList

/-- The bytes that spell a text. -/
def encode (s : String) : List UInt8 := s.toList.flatMap String.utf8EncodeChar

end SpanWeave.Text
