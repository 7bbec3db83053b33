import SpanWeave.Yaml.Cursor

/-!
# Tokens of a document

The tokens of a document, in order. Blocks are told by their columns: where the column grows a block
begins, and where it shrinks blocks end. A key of one line is known as a key only when its colon is
read, so the tokens that announce it are put in at the place where it began.
-/

set_option autoImplicit false

namespace SpanWeave.Yaml

/-- Why a document cannot be read. -/
inductive Fault where
  /-- The document is not well formed, or asks for values that are not offered. -/
  | malformed
  /-- A value has the form of its kind but does not exist. -/
  | impossible (message : String)
  /-- A number is larger than what can be worked with. -/
  | tooLarge (message : String)
  /-- A tag asks for a kind that the value is not of. -/
  | unknownWord (message : String)
  /-- A tag asks for a number of an empty text. -/
  | emptyNumber
  /-- A tag asks for a date of a text that is none. -/
  | noDate
deriving DecidableEq, Repr

/-- The handle and the suffix of a tag; a tag without a handle is written in full. -/
structure TagMark where
  handle : Option String
  suffix : String
deriving DecidableEq, Repr

/-- A token of a document. -/
inductive Token where
  | versionDirective (major : Nat)
  | tagDirective (handle tagPrefix : String)
  | otherDirective
  | documentStart
  | documentEnd
  | blockSequenceStart
  | blockMappingStart
  | blockEnd
  | flowSequenceStart
  | flowSequenceEnd
  | flowMappingStart
  | flowMappingEnd
  | flowEntry
  | blockEntry
  | key
  | value
  | alias (name : String)
  | anchor (name : String)
  | tag (mark : TagMark)
  | scalar (text : String) (plain : Bool)
deriving DecidableEq, Repr

/-- A place where a key may have begun. -/
structure PossibleKey where
  /-- How many flow collections are open. -/
  level : Nat
  /-- How many tokens come before the key. -/
  before : Nat
  /-- Whether nothing but a key can begin here. -/
  required : Bool
  index : Nat
  line : Nat
  column : Nat

/-- How far the tokens of a document have been read. -/
structure Reader where
  cursor : Cursor
  tokens : Array Token := #[]
  /-- How many flow collections are open. -/
  level : Nat := 0
  /-- The column of the innermost block, and of the ones around it. -/
  indent : Int := -1
  indents : List Int := []
  /-- Whether a key of one line may begin here. -/
  allowKey : Bool := true
  keys : List PossibleKey := []

namespace Reader

/-- One more token. -/
def push (r : Reader) (t : Token) : Reader := { r with tokens := r.tokens.push t }

/-- A token put in behind the given number of tokens. -/
def insert (r : Reader) (before : Nat) (t : Token) : Reader :=
  { r with tokens := r.tokens.extract 0 before ++ #[t] ++ r.tokens.extract before r.tokens.size }

/-- The reader at another place. -/
def goto (r : Reader) (c : Cursor) : Reader := { r with cursor := c }

/-- The possible key of the current level. -/
def key? (r : Reader) : Option PossibleKey := r.keys.find? fun k => k.level == r.level

/-- The reader without the possible key of the current level. -/
def dropKey (r : Reader) : Reader := { r with keys := r.keys.filter fun k => k.level != r.level }

/-- Gives up the possible key of the current level, unless it is required. -/
def removeKey (r : Reader) : Except Fault Reader :=
  match r.key? with
  | some k => if k.required then .error .malformed else .ok r.dropKey
  | none => .ok r

/-- Whether a possible key has come to nothing: keys stay on one line and within 1024 characters. -/
def isStale (r : Reader) (k : PossibleKey) : Bool :=
  k.line != r.cursor.line || r.cursor.index - k.index > 1024

/-- Gives up the possible keys that have come to nothing. -/
def removeStale (r : Reader) : Except Fault Reader :=
  if r.keys.any fun k => r.isStale k && k.required then .error .malformed
  else .ok { r with keys := r.keys.filter fun k => !r.isStale k }

/-- Notes that a key may begin here. -/
def saveKey (r : Reader) : Except Fault Reader :=
  if r.allowKey then do
    let required := r.level == 0 && r.indent == (r.cursor.column : Int)
    let r ← r.removeKey
    let k : PossibleKey :=
      ⟨r.level, r.tokens.size, required, r.cursor.index, r.cursor.line, r.cursor.column⟩
    return { r with keys := k :: r.keys }
  else .ok r

/-- Ends blocks until none is further in than a column. -/
def unwind (column : Int) : List Int → Reader → Reader
  | [], r => r
  | outer :: more, r =>
    if r.level == 0 && r.indent > column then
      unwind column more { r.push .blockEnd with indent := outer, indents := more }
    else r

/-- Ends the blocks that are further in than a column. -/
def unwindTo (r : Reader) (column : Int) : Reader := unwind column r.indents r

/-- Whether a block would begin at a column. -/
def opensBlock (r : Reader) (column : Nat) : Bool := r.indent < (column : Int)

/-- Begins a block at a column. -/
def openBlock (r : Reader) (column : Nat) : Reader :=
  { r with indents := r.indent :: r.indents, indent := column }

/-- Skips spaces, remarks and line ends up to the next token. -/
def toNextToken : Nat → Reader → Reader
  | 0, r => r
  | rounds + 1, r =>
    let c := r.cursor.dropWhile (· == ' ')
    let c := if c.head = '#' then c.dropWhile fun d => !isBreakOrEnd d else c
    match c.lineBreak with
    | ([], _) => r.goto c
    | (_, d) => toNextToken rounds { r with cursor := d, allowKey := r.allowKey || r.level == 0 }

/-- One token for one character, without a key around it. -/
def single (r : Reader) (t : Token) (allowKey : Bool) : Reader :=
  { r.push t with cursor := r.cursor.step, allowKey }

/-! ## Directives, anchors and tags -/

/-- A number in a directive. -/
def versionNumber (c : Cursor) : Except Fault (Nat × Cursor) :=
  match c.takeWhile Char.isDigit with
  | ([], _) => .error .malformed
  | (ds, d) => .ok (ds.foldl (fun n x => n * 10 + (x.toNat - 48)) 0, d)

/-- The characters of tags. -/
def isTagChar (c : Char) : Bool :=
  c.isAlphanum || "-;/?:@&=+$,_.!~*'()[]%".toList.contains c

/-- A hexadecimal digit. -/
def isHex (c : Char) : Bool := c.isDigit || ('a' ≤ c && c ≤ 'f') || ('A' ≤ c && c ≤ 'F')

/-- Whether every percent sign is followed by two hexadecimal digits. -/
def percentsAreSound : List Char → Bool
  | [] => true
  | '%' :: cs =>
    match cs with
    | a :: b :: _ => isHex a && isHex b && percentsAreSound cs
    | _ => false
  | _ :: cs => percentsAreSound cs

/-- The handle of a tag. -/
def tagHandle (c : Cursor) : Except Fault (String × Cursor) :=
  if c.head != '!' then .error .malformed
  else if c.peek 1 == ' ' then .ok ("!", c.step)
  else
    let (word, d) := c.step.takeWhile isWordChar
    if d.head = '!' then .ok (String.ofList ('!' :: word ++ ['!']), d.step)
    else if word.isEmpty then .ok ("!", d)
    else .error .malformed

/-- The body of a tag. -/
def tagBody (c : Cursor) : Except Fault (String × Cursor) :=
  match c.takeWhile isTagChar with
  | ([], _) => .error .malformed
  | (cs, d) => if percentsAreSound cs then .ok (String.ofList cs, d) else .error .malformed

/-- The end of a line with nothing but spaces and a remark before it. -/
def restOfLine (c : Cursor) : Except Fault Cursor :=
  let d := c.dropWhile (· == ' ')
  let d := if d.head = '#' then d.dropWhile fun x => !isBreakOrEnd x else d
  if isBreakOrEnd d.head then .ok d.lineBreak.2 else .error .malformed

/-- A directive. -/
def directive (c : Cursor) : Except Fault (Token × Cursor) := do
  let (name, d) := c.step.takeWhile isWordChar
  if name.isEmpty || !isSpaceOrEnd d.head then throw .malformed
  match String.ofList name with
  | "YAML" =>
    let (major, e) ← versionNumber (d.dropWhile (· == ' '))
    if e.head != '.' then throw .malformed
    let (_, f) ← versionNumber e.step
    if !isSpaceOrEnd f.head then throw .malformed
    return (.versionDirective major, ← restOfLine f)
  | "TAG" =>
    let (handle, e) ← tagHandle (d.dropWhile (· == ' '))
    if e.head != ' ' then throw .malformed
    let (tagPrefix, f) ← tagBody (e.dropWhile (· == ' '))
    if !isSpaceOrEnd f.head then throw .malformed
    return (.tagDirective handle tagPrefix, ← restOfLine f)
  | _ => return (.otherDirective, ← restOfLine (d.dropWhile fun x => !isBreakOrEnd x))

/-- The name of an anchor or an alias, behind its indicator. -/
def anchorName (c : Cursor) : Except Fault (String × Cursor) :=
  match c.step.takeWhile isWordChar with
  | ([], _) => .error .malformed
  | (name, d) =>
    if isGap d.head || "?:,]\x7d%@".toList.contains d.head || d.head.toNat == 0x60 then
      .ok (String.ofList name, d)
    else .error .malformed

/-- A tag. -/
def tag (c : Cursor) : Except Fault (TagMark × Cursor) := do
  let (mark, d) ←
    if c.peek 1 == '<' then do
      let (suffix, d) ← tagBody (c.skip 2)
      if d.head = '>' then pure (⟨none, suffix⟩, d.step) else throw .malformed
    else if isGap (c.peek 1) then pure ((⟨none, "!"⟩ : TagMark), c.step)
    else if (c.step.rest.takeWhile fun x => !isSpaceOrEnd x).contains '!' then do
      let (handle, d) ← tagHandle c
      let (suffix, e) ← tagBody d
      pure (⟨some handle, suffix⟩, e)
    else do
      let (suffix, d) ← tagBody c.step
      pure (⟨some "!", suffix⟩, d)
  if isSpaceOrEnd d.head then return (mark, d) else throw .malformed

/-! ## Scalars -/

/-- Line ends and indentation in a scalar, up to a column. -/
def blockBreaks (indent : Nat) : Nat → Cursor → List Char × Cursor
  | 0, c => ([], c)
  | rounds + 1, c =>
    let spaces := (c.rest.takeWhile (· == ' ')).length
    let c := c.skip (min spaces (indent - c.column))
    match c.lineBreak with
    | ([], _) => ([], c)
    | (b, d) =>
      let (more, e) := blockBreaks indent rounds d
      (b ++ more, e)

/-- Line ends and spaces before the first line of a scalar, and the largest column among them. -/
def leadingBreaks : Nat → Nat → Cursor → List Char × Nat × Cursor
  | 0, widest, c => ([], widest, c)
  | rounds + 1, widest, c =>
    if c.head = ' ' then leadingBreaks rounds (max widest c.step.column) c.step
    else
      match c.lineBreak with
      | ([], _) => ([], widest, c)
      | (b, d) =>
        let (more, w, e) := leadingBreaks rounds widest d
        (b ++ more, w, e)

/-- How the line ends at the end of a block scalar are kept. -/
inductive Chomping where
  | strip
  | clip
  | keep
deriving DecidableEq, Repr

/-- The sign of a chomping indicator. -/
def chomping? (c : Char) : Option Chomping :=
  if c = '+' then some .keep else if c = '-' then some .strip else none

/-- The digit of an indentation indicator; zero is none. -/
def increment? (c : Char) : Except Fault (Option Nat) :=
  if c.isDigit then if c = '0' then .error .malformed else .ok (some (c.toNat - 48)) else .ok none

/-- The indicators of a block scalar, in either order. -/
def blockIndicators (c : Cursor) : Except Fault (Chomping × Option Nat × Cursor) := do
  let (chomping, increment, d) ←
    match chomping? c.head with
    | some chomping => do
      let d := c.step
      match ← increment? d.head with
      | some n => pure (chomping, some n, d.step)
      | none => pure (chomping, none, d)
    | none => do
      match ← increment? c.head with
      | some n =>
        let d := c.step
        match chomping? d.head with
        | some chomping => pure (chomping, some n, d.step)
        | none => pure (.clip, some n, d)
      | none => pure (.clip, none, c)
  if isSpaceOrEnd d.head then return (chomping, increment, d) else throw .malformed

/-- The lines of a block scalar, with the line end and the breaks that follow the last one. -/
def blockLines (folded : Bool) (indent : Nat) :
    Nat → List Char → Cursor → List Char × List Char × List Char × Cursor
  | 0, breaks, c => ([], [], breaks, c)
  | rounds + 1, breaks, c =>
    if c.column = indent && c.head != endChar then
      let startsText := c.head != ' ' && c.head != '\t'
      let (line, d) := c.takeWhile fun x => !isBreakOrEnd x
      let (lineEnd, e) := d.lineBreak
      let (following, f) := blockBreaks indent (e.rest.length + 1) e
      if f.column = indent && f.head != endChar then
        let glue :=
          if folded && lineEnd == ['\n'] && startsText && f.head != ' ' && f.head != '\t' then
            if following.isEmpty then [' '] else []
          else lineEnd
        let (text, lastEnd, lastBreaks, g) := blockLines folded indent rounds following f
        (breaks ++ line ++ glue ++ text, lastEnd, lastBreaks, g)
      else (breaks ++ line, lineEnd, following, f)
    else ([], [], breaks, c)

/-- A block scalar, behind its indicator, in a block of the given column. -/
def blockScalar (folded : Bool) (blockIndent : Int) (c : Cursor) :
    Except Fault (String × Cursor) := do
  let (chomping, increment, d) ← blockIndicators c.step
  let e ← restOfLine d
  let least := max 1 (blockIndent + 1).toNat
  let (indent, breaks, f) :=
    match increment with
    | some n =>
      let indent := least + n - 1
      let (breaks, f) := blockBreaks indent (e.rest.length + 1) e
      (indent, breaks, f)
    | none =>
      let (breaks, widest, f) := leadingBreaks (e.rest.length + 1) 0 e
      (max least widest, breaks, f)
  let (text, lastEnd, lastBreaks, g) := blockLines folded indent (f.rest.length + 1) breaks f
  let finish := if chomping = .strip then [] else lastEnd
  let trailing := if chomping = .keep then lastBreaks else []
  return (String.ofList (text ++ finish ++ trailing), g)

/-- The character that a letter stands for behind a backslash. -/
def escapedLetter? (c : Char) : Option Char :=
  match c with
  | '0' => some (Char.ofNat 0)
  | 'a' => some (Char.ofNat 7)
  | 'b' => some (Char.ofNat 8)
  | 't' | '\t' => some '\t'
  | 'n' => some '\n'
  | 'v' => some (Char.ofNat 11)
  | 'f' => some (Char.ofNat 12)
  | 'r' => some '\r'
  | 'e' => some (Char.ofNat 27)
  | ' ' => some ' '
  | '"' => some '"'
  | '\\' => some '\\'
  | '/' => some '/'
  | 'N' => some (Char.ofNat 0x85)
  | '_' => some (Char.ofNat 0xA0)
  | 'L' => some (Char.ofNat 0x2028)
  | 'P' => some (Char.ofNat 0x2029)
  | _ => none

/-- How many digits follow a letter that gives a character by number. -/
def escapeWidth? (c : Char) : Option Nat :=
  match c with
  | 'x' => some 2
  | 'u' => some 4
  | 'U' => some 8
  | _ => none

/-- The character of a number. -/
def charOfCode (n : Nat) : Except Fault Char :=
  if n > 0x7FFFFFFF then .error (.tooLarge "Python int too large to convert to C int")
  else if n > 0x10FFFF then .error (.impossible "chr() arg not in range(0x110000)")
  else .ok (if 0xD800 ≤ n && n ≤ 0xDFFF then Char.ofNat 0xFFFD else Char.ofNat n)

/-- Line ends and blanks between the lines of a quoted scalar. -/
def quotedBreaks : Nat → Cursor → Except Fault (List Char × Cursor)
  | 0, c => .ok ([], c)
  | rounds + 1, c =>
    if c.atDocumentMarker then .error .malformed
    else
      let c := c.dropWhile fun d => d == ' ' || d == '\t'
      match c.lineBreak with
      | ([], _) => .ok ([], c)
      | (b, d) => do
        let (more, e) ← quotedBreaks rounds d
        return (b ++ more, e)

/-- The text of a quoted scalar behind its opening quote; `rounds` bounds its pieces. -/
def quotedText (double : Bool) : Nat → Cursor → Except Fault (List Char × Cursor)
  | 0, _ => .error .malformed
  | rounds + 1, c =>
    let d := c.head
    let join (piece : List Char) (c : Cursor) : Except Fault (List Char × Cursor) := do
      let (more, e) ← quotedText double rounds c
      return (piece ++ more, e)
    if d = endChar then .error .malformed
    else if double && d == '"' then .ok ([], c.step)
    else if !double && d == '\'' then
      if c.peek 1 == '\'' then join ['\''] (c.skip 2) else .ok ([], c.step)
    else if double && d == '\\' then
      let e := c.step
      if isBreak e.head then do
        let (breaks, f) ← quotedBreaks (e.rest.length + 1) e.lineBreak.2
        join breaks f
      else
        match escapedLetter? e.head with
        | some x => join [x] e.step
        | none =>
          match escapeWidth? e.head with
          | some width =>
            let digits := e.step.rest.take width
            if digits.length = width && digits.all isHex then do
              let x ← charOfCode (Text.ofDigits 16 (digits.filterMap (Text.baseDigit? 16)))
              join [x] (e.step.skip width)
            else .error .malformed
          | none => .error .malformed
    else if d = ' ' || d = '\t' || isBreak d then
      let (blanks, e) := c.takeWhile fun x => x == ' ' || x == '\t'
      match e.lineBreak with
      | ([], _) => if e.head = endChar then .error .malformed else join blanks e
      | (lineEnd, f) => do
        let (breaks, g) ← quotedBreaks (f.rest.length + 1) f
        let glue := if lineEnd != ['\n'] then lineEnd else if breaks.isEmpty then [' '] else []
        join (glue ++ breaks) g
    else join [d] c.step

/-- How many characters of a plain scalar stand at the beginning of a text. -/
def plainLength (inFlow : Bool) : List Char → Nat
  | [] => 0
  | c :: cs =>
    let next := cs.headD endChar
    let stops :=
      isGap c || (c == ':' && (isGap next || (inFlow && ",[]\x7b\x7d".toList.contains next))) ||
        (inFlow && ",?[]\x7b\x7d".toList.contains c)
    if stops then 0 else 1 + plainLength inFlow cs

/-- Line ends and spaces inside a plain scalar; nothing if a mark between documents follows. -/
def plainBreaks : Nat → Cursor → Option (List Char × Cursor)
  | 0, c => some ([], c)
  | rounds + 1, c =>
    if c.head = ' ' then plainBreaks rounds c.step
    else
      match c.lineBreak with
      | ([], _) => some ([], c)
      | (b, d) =>
        if d.atDocumentMarker then none
        else (plainBreaks rounds d).map fun p => (b ++ p.1, p.2)

/-- What stands between two pieces of a plain scalar: the characters it counts for, where it ends,
and whether a line ended in it. No characters mean that the scalar ends. -/
def plainGap (c : Cursor) : List Char × Cursor × Bool :=
  let (spaces, d) := c.takeWhile (· == ' ')
  match d.lineBreak with
  | ([], _) => (spaces, d, false)
  | (lineEnd, e) =>
    if e.atDocumentMarker then ([], e, true)
    else
      match plainBreaks (e.rest.length + 1) e with
      | none => ([], e, true)
      | some (breaks, f) =>
        let glue := if lineEnd != ['\n'] then lineEnd else if breaks.isEmpty then [' '] else []
        (glue ++ breaks, f, true)

/-- The text of a plain scalar, where it ends, and whether a line ended behind its last piece. -/
def plainText (inFlow : Bool) (indent : Int) : Nat → Cursor → List Char × Cursor × Bool
  | 0, c => ([], c, false)
  | rounds + 1, c =>
    let n := if c.head = '#' then 0 else plainLength inFlow c.rest
    if n = 0 then ([], c, false)
    else
      let piece := c.rest.take n
      let (gap, d, broke) := plainGap (c.skip n)
      if gap.isEmpty || d.head = '#' || (!inFlow && (d.column : Int) < indent) then
        (piece, d, broke)
      else
        match plainText inFlow indent rounds d with
        | ([], e, _) => (piece, e, broke)
        | (more, e, brokeLater) => (piece ++ gap ++ more, e, brokeLater)

/-! ## The next token -/

/-- Ends all blocks and gives up the possible key, as marks between documents do. -/
def closeAll (r : Reader) : Except Fault Reader := do
  let r ← (r.unwindTo (-1)).removeKey
  return { r with allowKey := false }

/-- A mark between documents. -/
def documentMark (r : Reader) (t : Token) : Except Fault Reader := do
  let r ← r.closeAll
  return { r.push t with cursor := r.cursor.skip 3 }

/-- The beginning of a flow collection. -/
def openFlow (r : Reader) (t : Token) : Except Fault Reader := do
  let r ← r.saveKey
  return { r.single t true with level := r.level + 1 }

/-- The end of a flow collection. -/
def closeFlow (r : Reader) (t : Token) : Except Fault Reader := do
  let r ← r.removeKey
  if r.level = 0 then throw .malformed
  return { r.single t false with level := r.level - 1 }

/-- The indicator of an entry of a block sequence. -/
def blockEntry (r : Reader) : Except Fault Reader := do
  let r ←
    if r.level != 0 then pure r
    else if !r.allowKey then throw .malformed
    else if r.opensBlock r.cursor.column then
      pure ((r.openBlock r.cursor.column).push .blockSequenceStart)
    else pure r
  let r ← r.removeKey
  return r.single .blockEntry true

/-- The indicator of a key that need not be of one line. -/
def explicitKey (r : Reader) : Except Fault Reader := do
  let r ←
    if r.level != 0 then pure r
    else if !r.allowKey then throw .malformed
    else if r.opensBlock r.cursor.column then
      pure ((r.openBlock r.cursor.column).push .blockMappingStart)
    else pure r
  let r ← r.removeKey
  return r.single .key (r.level == 0)

/-- The indicator of a value: it makes a key of what was a possible one. -/
def valueMark (r : Reader) : Except Fault Reader :=
  match r.key? with
  | some k =>
    let r := r.dropKey.insert k.before .key
    let r :=
      if r.level == 0 && r.opensBlock k.column then
        (r.openBlock k.column).insert k.before .blockMappingStart
      else r
    .ok (r.single .value false)
  | none => do
    if r.level == 0 && !r.allowKey then throw .malformed
    let r :=
      if r.level == 0 && r.opensBlock r.cursor.column then
        (r.openBlock r.cursor.column).push .blockMappingStart
      else r
    let r ← r.removeKey
    return r.single .value (r.level == 0)

/-- A token that may begin a key of one line and allows none behind it. -/
def keyed (r : Reader) (read : Cursor → Except Fault (Token × Cursor)) : Except Fault Reader := do
  let r ← r.saveKey
  let (t, d) ← read r.cursor
  return { r.push t with cursor := d, allowKey := false }

/-- A plain scalar. -/
def plain (r : Reader) : Except Fault Reader := do
  let r ← r.saveKey
  let (text, d, broke) :=
    plainText (r.level != 0) (r.indent + 1) (r.cursor.rest.length + 1) r.cursor
  return { r.push (.scalar (String.ofList text) true) with cursor := d, allowKey := broke }

/-- Whether a plain scalar begins at the cursor. -/
def atPlain (r : Reader) : Bool :=
  let c := r.cursor.head
  let indicator :=
    isGap c || "-?:,[]\x7b\x7d#&*!|>'\"%@".toList.contains c || c.toNat == 0x60
  !indicator ||
    (!isGap (r.cursor.peek 1) && (c == '-' || (r.level == 0 && (c == '?' || c == ':'))))

/-- Reads the next token, or nothing at the end of the text. -/
def next (r : Reader) : Except Fault (Option Reader) := do
  let r ← (toNextToken (r.cursor.rest.length + 1) r).removeStale
  let r := r.unwindTo r.cursor.column
  let c := r.cursor
  let d := c.head
  let afterGap := isGap (c.peek 1)
  if d = endChar then
    let _ ← r.closeAll
    return none
  else if d = '%' && c.column == 0 then
    let r ← r.closeAll
    let (t, e) ← directive c
    return some { r.push t with cursor := e }
  else if c.column == 0 && c.atMarker '-' then return some (← r.documentMark .documentStart)
  else if c.column == 0 && c.atMarker '.' then return some (← r.documentMark .documentEnd)
  else if d = '[' then return some (← r.openFlow .flowSequenceStart)
  else if d = '\x7b' then return some (← r.openFlow .flowMappingStart)
  else if d = ']' then return some (← r.closeFlow .flowSequenceEnd)
  else if d = '\x7d' then return some (← r.closeFlow .flowMappingEnd)
  else if d = ',' then return some ((← r.removeKey).single .flowEntry true)
  else if d = '-' && afterGap then return some (← r.blockEntry)
  else if d = '?' && (r.level != 0 || afterGap) then return some (← r.explicitKey)
  else if d = ':' && (r.level != 0 || afterGap) then return some (← r.valueMark)
  else if d = '*' then
    return some (← r.keyed fun c => (anchorName c).map fun p => (.alias p.1, p.2))
  else if d = '&' then
    return some (← r.keyed fun c => (anchorName c).map fun p => (.anchor p.1, p.2))
  else if d = '!' then return some (← r.keyed fun c => (tag c).map fun p => (.tag p.1, p.2))
  else if (d = '|' || d = '>') && r.level == 0 then
    let r ← r.removeKey
    let (text, e) ← blockScalar (d == '>') r.indent c
    return some { r.push (.scalar text false) with cursor := e, allowKey := true }
  else if d = '\'' || d = '"' then
    return some
      (← r.keyed fun c =>
        (quotedText (d == '"') (c.rest.length + 1) c.step).map fun p =>
          (.scalar (String.ofList p.1) false, p.2))
  else if r.atPlain then return some (← r.plain)
  else throw .malformed

/-- Reads all tokens; every token takes at least one character. -/
def readAll : Nat → Reader → Except Fault (List Token)
  | 0, _ => .error .malformed
  | rounds + 1, r => do
    match ← r.next with
    | some r => readAll rounds r
    | none => return ((toNextToken (r.cursor.rest.length + 1) r).unwindTo (-1)).tokens.toList

end Reader

/-- The tokens of a document. -/
def tokens (text : List Char) : Except Fault (List Token) :=
  if text.all isAllowed then
    let cursor : Cursor := { rest := text }
    let cursor := if cursor.head.toNat = 0xFEFF then cursor.step else cursor
    Reader.readAll (text.length + 2) { cursor }
  else .error .malformed

end SpanWeave.Yaml
