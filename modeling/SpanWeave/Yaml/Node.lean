import SpanWeave.Yaml.Token

/-!
# Nodes of a document

The tree that the tokens of a document spell: scalars, sequences and mappings, each with the name
and the tag that it is given, and references to named nodes. Where an entry ends at once, an empty
scalar stands for what is left out.
-/

set_option autoImplicit false

namespace SpanWeave.Yaml

/-- What is written before a node: its name and its full tag. -/
structure Marks where
  name : Option String := none
  tag : Option String := none
deriving DecidableEq, Repr

/-- A node of a document. -/
inductive Node where
  | alias (name : String)
  | scalar (marks : Marks) (text : String) (plain : Bool)
  | sequence (marks : Marks) (items : List Node)
  | mapping (marks : Marks) (entries : List (Node × Node))
deriving Repr

namespace Node

/-- The node that stands for nothing. -/
def absent : Node := .scalar {} "" true

/-- A place where a node can stand. -/
structure Position where
  /-- The tokens before which the node is left out. -/
  endings : List Token
  /-- Whether a block collection may stand here. -/
  block : Bool
  /-- Whether a block sequence may stand here without further indentation. -/
  flush : Bool := false

namespace Position

/-- The whole of a document. -/
def whole : Position := ⟨[], true, false⟩

/-- An item of a block sequence. -/
def blockItem : Position := ⟨[.blockEntry, .blockEnd], true, false⟩

/-- An item of a block sequence that is not indented. -/
def flushItem : Position := ⟨[.blockEntry, .key, .value, .blockEnd], true, false⟩

/-- A key or a value of a block mapping. -/
def blockPart : Position := ⟨[.key, .value, .blockEnd], true, true⟩

/-- An item of a flow sequence, or a key of a flow mapping without an indicator. -/
def flowItem : Position := ⟨[], false, false⟩

/-- A key in a flow collection that ends with the given token. -/
def flowKey (closing : Token) : Position := ⟨[.value, .flowEntry, closing], false, false⟩

/-- A value in a flow collection that ends with the given token. -/
def flowValue (closing : Token) : Position := ⟨[.flowEntry, closing], false, false⟩

end Position

/-- The full text of a tag under the handles that stand for prefixes. -/
def fullTag (handles : List (String × String)) (mark : TagMark) : Except Fault String :=
  match mark.handle with
  | none => .ok mark.suffix
  | some handle =>
    match handles.lookup handle with
    | some tagPrefix => .ok (tagPrefix ++ mark.suffix)
    | none => .error .malformed

/-- The marks before a node, in either order. -/
def readMarks (handles : List (String × String)) :
    List Token → Except Fault (Marks × List Token)
  | .anchor name :: .tag mark :: ts => do return (⟨some name, some (← fullTag handles mark)⟩, ts)
  | .tag mark :: .anchor name :: ts => do return (⟨some name, some (← fullTag handles mark)⟩, ts)
  | .anchor name :: ts => .ok (⟨some name, none⟩, ts)
  | .tag mark :: ts => do return (⟨none, some (← fullTag handles mark)⟩, ts)
  | ts => .ok ({}, ts)

section Reading

variable (handles : List (String × String))

mutual

/-- The node at a position, and the tokens behind it. -/
def read (position : Position) : Nat → List Token → Except Fault (Node × List Token)
  | 0, _ => .error .malformed
  | _ + 1, [] => .error .malformed
  | rounds + 1, t :: ts =>
    if position.endings.contains t then .ok (absent, t :: ts)
    else
      match t with
      | .alias name => .ok (.alias name, ts)
      | _ => do
        let (marks, rest) ← readMarks handles (t :: ts)
        match rest with
        | .scalar text plain :: rest => return (.scalar marks text plain, rest)
        | .flowSequenceStart :: rest =>
          let (items, rest) ← readFlowItems true rounds rest
          return (.sequence marks items, rest)
        | .flowMappingStart :: rest =>
          let (entries, rest) ← readFlowEntries true rounds rest
          return (.mapping marks entries, rest)
        | .blockSequenceStart :: inner =>
          if position.block then
            let (items, rest) ← readBlockItems rounds inner
            return (.sequence marks items, rest)
          else bare marks rest
        | .blockMappingStart :: inner =>
          if position.block then
            let (entries, rest) ← readBlockEntries rounds inner
            return (.mapping marks entries, rest)
          else bare marks rest
        | .blockEntry :: _ =>
          if position.flush then
            let (items, rest) ← readFlushItems rounds rest
            return (.sequence marks items, rest)
          else bare marks rest
        | _ => bare marks rest

/-- A node of nothing but marks. -/
def bare (marks : Marks) (rest : List Token) : Except Fault (Node × List Token) :=
  if marks.name.isSome || marks.tag.isSome then .ok (.scalar marks "" true, rest)
  else .error .malformed

/-- The items of a block sequence. -/
def readBlockItems : Nat → List Token → Except Fault (List Node × List Token)
  | rounds + 1, .blockEntry :: ts => do
    let (item, ts) ← read .blockItem rounds ts
    let (items, ts) ← readBlockItems rounds ts
    return (item :: items, ts)
  | _ + 1, .blockEnd :: ts => .ok ([], ts)
  | _, _ => .error .malformed

/-- The items of a block sequence that is not indented. -/
def readFlushItems : Nat → List Token → Except Fault (List Node × List Token)
  | rounds + 1, .blockEntry :: ts => do
    let (item, ts) ← read .flushItem rounds ts
    let (items, ts) ← readFlushItems rounds ts
    return (item :: items, ts)
  | _ + 1, ts => .ok ([], ts)
  | 0, _ => .error .malformed

/-- The entries of a block mapping. -/
def readBlockEntries : Nat → List Token → Except Fault (List (Node × Node) × List Token)
  | rounds + 1, .key :: ts => do
    let (key, ts) ← read .blockPart rounds ts
    let (value, ts) ← readValue .blockPart rounds ts
    let (entries, ts) ← readBlockEntries rounds ts
    return ((key, value) :: entries, ts)
  | _ + 1, .blockEnd :: ts => .ok ([], ts)
  | _, _ => .error .malformed

/-- The value behind its indicator; without the indicator it is left out. -/
def readValue (position : Position) : Nat → List Token → Except Fault (Node × List Token)
  | rounds + 1, .value :: ts => read position rounds ts
  | _ + 1, ts => .ok (absent, ts)
  | 0, _ => .error .malformed

/-- The items of a flow sequence behind the first one, or all of them. -/
def readFlowItems (first : Bool) : Nat → List Token → Except Fault (List Node × List Token)
  | 0, _ => .error .malformed
  | _ + 1, .flowSequenceEnd :: ts => .ok ([], ts)
  | rounds + 1, ts => do
    let ts ← afterComma first ts
    match ts with
    | .flowSequenceEnd :: ts => return ([], ts)
    | .key :: ts =>
      let (key, ts) ← read (.flowKey .flowSequenceEnd) rounds ts
      let (value, ts) ← readValue (.flowValue .flowSequenceEnd) rounds ts
      let (items, ts) ← readFlowItems false rounds ts
      return (.mapping {} [(key, value)] :: items, ts)
    | ts =>
      let (item, ts) ← read .flowItem rounds ts
      let (items, ts) ← readFlowItems false rounds ts
      return (item :: items, ts)

/-- The entries of a flow mapping behind the first one, or all of them. -/
def readFlowEntries (first : Bool) :
    Nat → List Token → Except Fault (List (Node × Node) × List Token)
  | 0, _ => .error .malformed
  | _ + 1, .flowMappingEnd :: ts => .ok ([], ts)
  | rounds + 1, ts => do
    let ts ← afterComma first ts
    match ts with
    | .flowMappingEnd :: ts => return ([], ts)
    | .key :: ts =>
      let (key, ts) ← read (.flowKey .flowMappingEnd) rounds ts
      let (value, ts) ← readValue (.flowValue .flowMappingEnd) rounds ts
      let (entries, ts) ← readFlowEntries false rounds ts
      return ((key, value) :: entries, ts)
    | ts =>
      let (key, ts) ← read .flowItem rounds ts
      let (entries, ts) ← readFlowEntries false rounds ts
      return ((key, absent) :: entries, ts)

/-- The tokens behind the comma that separates entries; before the first entry there is none. -/
def afterComma (first : Bool) : List Token → Except Fault (List Token)
  | .flowEntry :: ts => if first then .ok (.flowEntry :: ts) else .ok ts
  | ts => if first then .ok ts else .error .malformed

end

end Reading

/-- The handles that stand for prefixes without a directive. -/
def commonHandles : List (String × String) := [("!", "!"), ("!!", "tag:yaml.org,2002:")]

/-- The directives before a document, as handles with their prefixes, and the tokens behind them. -/
def readDirectives (versioned : Bool) (handles : List (String × String)) :
    List Token → Except Fault (List (String × String) × List Token)
  | .versionDirective major :: ts =>
    if versioned || major != 1 then .error .malformed else readDirectives true handles ts
  | .tagDirective handle tagPrefix :: ts =>
    if (handles.lookup handle).isSome then .error .malformed
    else readDirectives versioned (handles ++ [(handle, tagPrefix)]) ts
  | .otherDirective :: ts => readDirectives versioned handles ts
  | ts => .ok (handles, ts)

/-- Whether a token is a directive or begins a document with a mark. -/
def isPreamble : Token → Bool
  | .versionDirective _ | .tagDirective _ _ | .otherDirective | .documentStart => true
  | _ => false

/-- Whether a document is over before its root begins. -/
def startsNoNode : List Token → Bool
  | [] => true
  | t :: _ => isPreamble t || t == .documentEnd

/-- Nothing but marks of ends follows the only document. -/
def noMore (ts : List Token) : Except Fault Unit :=
  if ts.all (· == .documentEnd) then .ok () else .error .malformed

/-- The root of the only document that the tokens spell; no tokens spell none. -/
def ofTokens? (ts : List Token) : Except Fault (Option Node) := do
  let rounds := 4 * ts.length + 4
  match ts with
  | [] => return none
  | t :: _ =>
    if isPreamble t then
      let (handles, ts) ← readDirectives false [] ts
      match ts with
      | .documentStart :: ts =>
        let (node, ts) ←
          if startsNoNode ts then pure (absent, ts)
          else read (handles ++ commonHandles) .whole rounds ts
        noMore ts
        return some node
      | _ => throw .malformed
    else
      let (node, ts) ← read commonHandles .whole rounds ts
      noMore ts
      return some node

end Node

end SpanWeave.Yaml
