import SpanWeave.CommandLine.Syntax

/-!
# Reading a command line

The words of a command line are told apart first: what looks like a switch, what is an operand, and
the mark behind which everything is an operand. Then they are taken in order. A request for help
ends the reading at once, and words that nothing takes are reported at the end.
-/

set_option autoImplicit false

namespace SpanWeave

/-- A value written together with its switch. -/
structure AttachedValue where
  /-- Whether an equals sign stands before the value. -/
  equals : Bool
  value : List Char
deriving DecidableEq, Repr

/-- A word that looks like a switch: the switch it names, if it names one, by what name and with
what value. -/
structure SwitchWord where
  written : String
  named : Option (Switch × String × Option AttachedValue)
deriving DecidableEq, Repr

/-- A word of a command line. -/
inductive Word where
  | switch (w : SwitchWord)
  /-- The mark behind which everything is an operand. -/
  | separator
  | operand (text : String)
deriving DecidableEq, Repr

/-- A word as it is written. -/
def Word.text : Word → String
  | switch w => w.written
  | separator => "--"
  | operand text => text

/-- Why a command line is not carried out: help is wanted, or something is wrong. -/
inductive Refusal where
  | help (s : CommandSyntax)
  | misuse (s : CommandSyntax) (m : Misuse)
deriving DecidableEq, Repr

/-- Whether a word spells a negative number. -/
def isNegativeNumber (cs : List Char) : Bool :=
  let isDigit (c : Char) : Bool := (Text.digitValue? c).isSome
  match cs with
  | '-' :: body =>
    let fraction := (body.dropWhile isDigit).drop 1
    (!body.isEmpty && body.all isDigit) ||
      ((body.dropWhile isDigit).head? == some '.' && !fraction.isEmpty && fraction.all isDigit)
  | _ => false

/-- A text before and behind its first equals sign, if it has one. -/
def atEquals? (cs : List Char) : Option (String × List Char) :=
  if cs.contains '=' then
    some (String.ofList (cs.takeWhile (· != '=')), (cs.dropWhile (· != '=')).drop 1)
  else none

namespace CommandSyntax

/-- The switches that a shortened name may stand for, or the switch of one letter whose value
follows at once. -/
def guesses (s : CommandSyntax) (cs : List Char) :
    List (Switch × String × Option AttachedValue) :=
  match cs with
  | '-' :: '-' :: _ =>
    let (lead, attached) : String × Option AttachedValue :=
      match atEquals? cs with
      | some (name, value) => (name, some ⟨true, value⟩)
      | none => (String.ofList cs, none)
    (s.names.filter fun p => lead.toList.isPrefixOf p.1.toList).map fun p => (p.2, p.1, attached)
  | _ =>
    s.names.filterMap fun p =>
      if p.1.toList == cs.take 2 then some (p.2, p.1, some ⟨false, cs.drop 2⟩)
      else if cs.isPrefixOf p.1.toList then some (p.2, p.1, none)
      else none

/-- The switch that a word names in full, with a value behind an equals sign if there is one. -/
def named? (s : CommandSyntax) (cs : List Char) : Option (Switch × String × Option AttachedValue) :=
  match s.names.lookup (String.ofList cs) with
  | some switch => some (switch, String.ofList cs, none)
  | none => do
    let (name, value) ← atEquals? cs
    let switch ← s.names.lookup name
    return (switch, name, some ⟨true, value⟩)

/-- What a word is, before any separator. -/
def classify (s : CommandSyntax) (written : String) : Except Misuse Word :=
  let cs := written.toList
  if cs.head? != some '-' || cs.length = 1 then .ok (.operand written)
  else
    match s.named? cs with
    | some named => .ok (.switch ⟨written, some named⟩)
    | none =>
      match s.guesses cs with
      | [named] => .ok (.switch ⟨written, some named⟩)
      | [] =>
        if isNegativeNumber cs || cs.contains ' ' then .ok (.operand written)
        else .ok (.switch ⟨written, none⟩)
      | several => .error (.ambiguous written (several.map fun g => g.2.1))

/-- The words of a command line. -/
def words (s : CommandSyntax) : List String → Except Misuse (List Word)
  | [] => .ok []
  | written :: rest =>
    if written = "--" then .ok (.separator :: rest.map .operand)
    else do
      let word ← s.classify written
      let words ← words s rest
      return word :: words

end CommandSyntax

/-- What a word with switches asks for. -/
structure SwitchUses where
  /-- The switches, with their values. -/
  uses : List (Switch × Option String) := []
  /-- The switch whose value is the next word. -/
  waiting : Option Switch := none
  /-- What of the word no switch takes. -/
  extra : Option String := none
deriving DecidableEq, Repr

namespace CommandSyntax

/-- The switches in one word. Behind a switch of one letter that takes no value, further letters are
switches of one letter themselves. -/
def usesOf (s : CommandSyntax) (switch : Switch) (name : String) :
    Option (Bool × List Char) → Except Misuse SwitchUses
  | none =>
    .ok (if switch.takesValue then { waiting := some switch } else { uses := [(switch, none)] })
  | some (equals, value) =>
    if switch.takesValue then .ok { uses := [(switch, some (String.ofList value))] }
    else
      let unwanted : Except Misuse SwitchUses :=
        .error (.unwantedValue switch (String.ofList value))
      match value with
      | [] => unwanted
      | c :: more =>
        if (name.toList.drop 1).head? == some '-' || equals || c == '-' then unwanted
        else
          let next := String.ofList ['-', c]
          match s.names.lookup next with
          | none => .ok { uses := [(switch, none)], extra := some (String.ofList ('-' :: value)) }
          | some follower =>
            let rest :=
              match more with
              | [] => s.usesOf follower next none
              | d :: tail =>
                if d = '=' then s.usesOf follower next (some (true, tail))
                else s.usesOf follower next (some (false, d :: tail))
            rest.map fun u => { u with uses := (switch, none) :: u.uses }
termination_by attached => (attached.map fun a => a.2.length + 1).getD 0
decreasing_by all_goals (simp only [Option.map, Option.getD, List.length_cons]; omega)

end CommandSyntax

/-- What operands are expected. -/
inductive OperandForm where
  /-- At most one operand. -/
  | optional
  /-- A command and all that follows it. -/
  | command
deriving DecidableEq, Repr

/-- How many of the next words are the operands; nothing if the operands do not begin here. -/
def OperandForm.count? (form : OperandForm) (ws : List Word) : Option Nat :=
  let isSeparator (w : Word) : Bool := w == .separator
  let lead := (ws.takeWhile isSeparator).length
  match form, ws.drop lead with
  | .command, .operand _ :: _ => some ws.length
  | .command, _ => none
  | .optional, .operand _ :: rest => some (lead + 1 + (rest.takeWhile isSeparator).length)
  | .optional, _ => some lead

/-- What was read of a command line. -/
structure LineReading where
  uses : List (Switch × Option String) := []
  operands : Option (List String) := none
  /-- The words that nothing takes. -/
  extras : List String := []
deriving DecidableEq, Repr

namespace LineReading

/-- Whether a switch is used. -/
def has (r : LineReading) (s : Switch) : Bool := r.uses.any fun u => u.1 == s

/-- The last value of a switch. -/
def value? (r : LineReading) (s : Switch) : Option String :=
  (r.uses.reverse.find? fun u => u.1 == s).bind (·.2)

end LineReading

namespace CommandSyntax

/-- Reads words in order. -/
def read (s : CommandSyntax) (form : OperandForm) :
    List Word → LineReading → Except Refusal LineReading
  | [], r => .ok r
  | .switch w :: ws, r =>
    match w.named with
    | none => s.read form ws { r with extras := r.extras ++ [w.written] }
    | some (switch, name, attached) =>
      match s.usesOf switch name (attached.map fun a => (a.equals, a.value)) with
      | .error m => .error (.misuse s m)
      | .ok found =>
        let extras := r.extras ++ found.extra.toList
        match found.waiting with
        | none =>
          if found.uses.any fun u => u.1 == .help then .error (.help s)
          else s.read form ws { r with uses := r.uses ++ found.uses, extras }
        | some waiting =>
          match ws.head? with
          | some (.operand value) =>
            let uses := found.uses ++ [(waiting, some value)]
            if uses.any fun u => u.1 == .help then .error (.help s)
            else s.read form ws.tail { r with uses := r.uses ++ uses, extras }
          | _ => .error (.misuse s (.missingValue waiting))
  | w :: ws, r =>
    let count := if r.operands.isSome then 0 else (form.count? (w :: ws)).getD 0
    if 0 < count then
      s.read form ((w :: ws).drop count)
        { r with operands := some (((w :: ws).take count).map Word.text) }
    else s.read form ws { r with extras := r.extras ++ [w.text] }
termination_by ws => ws.length
decreasing_by all_goals (simp only [List.length_cons, List.length_drop, List.length_tail]; omega)

/-- Reads the words that are written. -/
def readLine (s : CommandSyntax) (form : OperandForm) (written : List String) :
    Except Refusal LineReading := do
  let words ← (s.words written).mapError (.misuse s)
  s.read form words {}

end CommandSyntax

/-- What a command is to do. -/
inductive CommandTask where
  | generate (path : String) (output : Option String) (dryRun : Bool)
  | check (path : String)
deriving DecidableEq, Repr

/-- A command with what holds for all commands. -/
structure Command where
  verbose : Bool
  logFile : Option String
  task : CommandTask
deriving DecidableEq, Repr

namespace Command

/-- The single operand, without a separator. -/
def pathOf (r : LineReading) : String :=
  (((r.operands.getD []).erase "--").head?).getD "."

/-- The syntax of a command. -/
def formOf? : String → Option CommandSyntax
  | "generate" => some CommandSyntax.generate
  | "check" => some CommandSyntax.check
  | _ => none

/-- The task of a command whose words were read. -/
def taskOf (name : String) (r : LineReading) : CommandTask :=
  if name = "generate" then .generate (pathOf r) (r.value? .output) (r.has .dryRun)
  else .check (pathOf r)

/-- The command of a command line. -/
def ofWords (written : List String) : Except Refusal Command := do
  let outer ← CommandSyntax.main.readLine .command written
  match outer.operands with
  | none | some [] => .error (.misuse .main .missingCommand)
  | some (name :: rest) =>
    match formOf? name with
    | none => .error (.misuse .main (.unknownCommand name))
    | some s =>
      let inner ← s.readLine .optional rest
      let extras := outer.extras ++ inner.extras
      if !extras.isEmpty then .error (.misuse .main (.unrecognized extras))
      else
        return {
          verbose := outer.has .verbose || inner.has .verbose
          logFile := outer.value? .logFile
          task := taskOf name inner }

end Command

end SpanWeave
