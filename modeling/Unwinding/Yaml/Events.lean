import Unwinding.Yaml.Scanner

/-!
# Parsing YAML tokens into events

The parser reads the scanner's tokens and gives events: the starts and ends of the stream,
of documents, of sequences and of mappings, scalars and aliases. It is a state machine with
a stack of states to come back to, one state per place in the grammar: a document, a node,
an entry of a block or flow sequence, a key or value of a block or flow mapping. A missing
node, such as a key without a value, is an empty plain scalar `~`.

Anchors are numbered from one as they appear, and an alias must name an anchor of its
document. Tags are resolved against the `%TAG` directives of the document, `!!` standing for
`tag:yaml.org,2002:` unless a directive says otherwise.
-/

namespace Unwinding

namespace Yaml

/-- A resolved tag: the prefix its handle stands for, and the suffix. -/
structure Tag where
  handle : String
  suffix : String
  deriving DecidableEq, Inhabited, Repr

/-- The events of a YAML stream. Nodes carry their anchor's number, zero for none. -/
inductive Event where
  | streamStart
  | streamEnd
  | documentStart
  | documentEnd
  | alias (id : Nat)
  | scalar (text : String) (style : ScalarStyle) (anchor : Nat) (tag : Option Tag)
  | sequenceStart (anchor : Nat) (tag : Option Tag)
  | sequenceEnd
  | mappingStart (anchor : Nat) (tag : Option Tag)
  | mappingEnd
  deriving DecidableEq, Inhabited, Repr

/-- The places in the grammar the parser can be at. -/
inductive ParseState where
  | streamStart
  | implicitDocumentStart
  | documentStart
  | documentContent
  | documentEnd
  | blockNode
  | blockSequenceFirstEntry
  | blockSequenceEntry
  | indentlessSequenceEntry
  | blockMappingFirstKey
  | blockMappingKey
  | blockMappingValue
  | flowSequenceFirstEntry
  | flowSequenceEntry
  | flowSequenceEntryMappingKey
  | flowSequenceEntryMappingValue
  | flowSequenceEntryMappingEnd
  | flowMappingFirstKey
  | flowMappingKey
  | flowMappingValue
  | flowMappingEmptyValue
  | finished
  deriving DecidableEq, Inhabited, Repr

/-- The parser: the scanner, the token looked at and not yet taken, the state and the stack
of states to return to, the anchors of the document and the next anchor number, and the tag
directives. -/
structure EventReader where
  scanner : Scanner
  token : Option Token := none
  state : ParseState := .streamStart
  states : List ParseState := []
  anchors : List (String × Nat) := []
  anchorId : Nat := 1
  tags : List (String × String) := []
  deriving Inhabited

/-- Parsing steps. -/
abbrev ParseM := StateT EventReader (Except ScanError)

/-- Fails at a mark. -/
def parseFail {α : Type} (mark : Mark) (info : String) : ParseM α := throw { mark, info }

/-- The next token, scanned if needed and not taken. -/
def peekToken : ParseM Token := do
  let p ← get
  match p.token with
  | some t => pure t
  | none =>
    match nextToken.run p.scanner with
    | .error e => throw e
    | .ok (some t, sc) =>
      set { p with scanner := sc, token := some t }
      pure t
    | .ok (none, sc) =>
      set { p with scanner := sc }
      parseFail sc.mark "unexpected eof"

/-- Takes the token looked at. -/
def skipToken : ParseM Unit := modify fun p => { p with token := none }

/-- Sets the state. -/
def goTo (s : ParseState) : ParseM Unit := modify fun p => { p with state := s }

/-- Saves a state to come back to. -/
def pushState (s : ParseState) : ParseM Unit := modify fun p => { p with states := s :: p.states }

/-- Comes back to the last saved state. -/
def popState : ParseM Unit := modify fun p =>
  match p.states with
  | s :: rest => { p with state := s, states := rest }
  | [] => p

/-- The empty node, read as null. -/
def emptyScalar : Event := .scalar "~" .plain 0 none

/-- Numbers a new anchor. -/
def registerAnchor (name : String) : ParseM Nat := do
  let p ← get
  set { p with anchors := (name, p.anchorId) :: p.anchors.filter (·.1 != name), anchorId := p.anchorId + 1 }
  pure p.anchorId

/-- Resolves a tag's handle through the tag directives. -/
def resolveTag (mark : Mark) (handle suffix : String) : ParseM Tag := do
  let tags := (← get).tags
  if handle == "!!" then
    pure { handle := (tags.lookup "!!").getD "tag:yaml.org,2002:", suffix }
  else if handle.isEmpty && suffix == "!" then
    pure { handle := (tags.lookup "").getD "", suffix }
  else
    match tags.lookup handle with
    | some pfx => pure { handle := pfx, suffix }
    | none =>
      if handle.length ≥ 2 && handle.startsWith "!" && handle.endsWith "!" then
        parseFail mark "the handle wasn't declared"
      else pure { handle, suffix }

/-- Reads the directives before a document. Each directive replaces the tag handles known
so far: a version directive leaves none, and a tag directive leaves only its own, so of
several tag directives only the last one counts. A second version directive is an error. -/
def processDirectives : Nat → Bool → ParseM Unit
  | 0, _ => pure ()
  | n + 1, versionSeen => do
    let t ← peekToken
    match t.kind with
    | .versionDirective _ _ =>
      if versionSeen then parseFail t.mark "duplicate version directive"
      modify fun p => { p with tags := [] }
      skipToken
      processDirectives n true
    | .tagDirective handle pfx =>
      modify fun p => { p with tags := [(handle, pfx)] }
      skipToken
      processDirectives n versionSeen
    | _ => pure ()

/-- The number of steps a loop over the tokens left can take. -/
def tokenFuel : ParseM Nat := return 4 * (← get).scanner.rest.length + 16

/-- An explicit document start, after its directives. -/
def explicitDocumentStart : ParseM (Event × Mark) := do
  processDirectives (← tokenFuel) false
  let t ← peekToken
  if t.kind == .documentStart then
    pushState .documentEnd
    goTo .documentContent
    skipToken
    pure (.documentStart, t.mark)
  else parseFail t.mark "did not find expected <document start>"

/-- The start of a document or the end of the stream; documents after the first need `---`
unless the one before ended with `...`. -/
def documentStart (implicit : Bool) : ParseM (Event × Mark) := do
  let rec skipEnds : Nat → ParseM Unit
    | 0 => pure ()
    | n + 1 => do
      if (← peekToken).kind == .documentEnd then
        skipToken
        skipEnds n
  skipEnds (← tokenFuel)
  let t ← peekToken
  match t.kind with
  | .streamEnd =>
    goTo .finished
    skipToken
    pure (.streamEnd, t.mark)
  | .versionDirective _ _ | .tagDirective _ _ | .documentStart => explicitDocumentStart
  | _ =>
    if implicit then
      processDirectives (← tokenFuel) false
      pushState .documentEnd
      goTo .blockNode
      pure (.documentStart, t.mark)
    else explicitDocumentStart

/-- The end of a document, explicit with `...` or not. -/
def documentEnd : ParseM (Event × Mark) := do
  let t ← peekToken
  let explicit := t.kind == .documentEnd
  if explicit then skipToken
  modify fun p => { p with tags := [] }
  if explicit then goTo .implicitDocumentStart
  else
    let t2 ← peekToken
    match t2.kind with
    | .versionDirective _ _ | .tagDirective _ _ =>
      parseFail t2.mark "missing explicit document end marker before directive"
    | _ => goTo .documentStart
  pure (.documentEnd, t.mark)

/-- A node: an alias, or a scalar or collection with an optional anchor and tag. In block
context a block collection may start here, and with `indentless` a sequence whose entries
are not indented. -/
def parseNode (block indentless : Bool) : ParseM (Event × Mark) := do
  let t ← peekToken
  match t.kind with
  | .alias name =>
    popState
    skipToken
    match (← get).anchors.lookup name with
    | none => parseFail t.mark "while parsing node, found unknown anchor"
    | some id => pure (.alias id, t.mark)
  | _ =>
    let (anchor, tag) ← match t.kind with
      | .anchor name => do
        skipToken
        let id ← registerAnchor name
        let t2 ← peekToken
        match t2.kind with
        | .tag h s =>
          skipToken
          let tag ← resolveTag t.mark h s
          pure (id, some tag)
        | _ => pure (id, none)
      | .tag h s => do
        skipToken
        let tag ← resolveTag t.mark h s
        let t2 ← peekToken
        match t2.kind with
        | .anchor name =>
          skipToken
          let id ← registerAnchor name
          pure (id, some tag)
        | _ => pure (0, some tag)
      | _ => pure (0, none)
    let t ← peekToken
    let emptyOrFail : ParseM (Event × Mark) :=
      if tag.isSome || anchor > 0 then do
        popState
        pure (.scalar "" .plain anchor tag, t.mark)
      else parseFail t.mark "while parsing a node, did not find expected node content"
    match t.kind with
    | .blockEntry =>
      if indentless then
        goTo .indentlessSequenceEntry
        pure (.sequenceStart anchor tag, t.mark)
      else emptyOrFail
    | .scalar style text =>
      popState
      skipToken
      pure (.scalar text style anchor tag, t.mark)
    | .flowSequenceStart =>
      goTo .flowSequenceFirstEntry
      pure (.sequenceStart anchor tag, t.mark)
    | .flowMappingStart =>
      goTo .flowMappingFirstKey
      pure (.mappingStart anchor tag, t.mark)
    | .blockSequenceStart =>
      if block then
        goTo .blockSequenceFirstEntry
        pure (.sequenceStart anchor tag, t.mark)
      else emptyOrFail
    | .blockMappingStart =>
      if block then
        goTo .blockMappingFirstKey
        pure (.mappingStart anchor tag, t.mark)
      else emptyOrFail
    | _ => emptyOrFail

/-- The content of an explicit document, empty if it ends at once. -/
def documentContent : ParseM (Event × Mark) := do
  let t ← peekToken
  match t.kind with
  | .versionDirective _ _ | .tagDirective _ _ | .documentStart | .documentEnd | .streamEnd =>
    popState
    pure (emptyScalar, t.mark)
  | _ => parseNode true false

/-- A key of a block mapping, or its end. -/
def blockMappingKey (first : Bool) : ParseM (Event × Mark) := do
  if first then
    let _ ← peekToken
    skipToken
  let t ← peekToken
  match t.kind with
  | .key =>
    skipToken
    let t2 ← peekToken
    match t2.kind with
    | .key | .value | .blockEnd =>
      goTo .blockMappingValue
      pure (emptyScalar, t2.mark)
    | _ =>
      pushState .blockMappingValue
      parseNode true true
  | .value =>
    goTo .blockMappingValue
    pure (emptyScalar, t.mark)
  | .blockEnd =>
    popState
    skipToken
    pure (.mappingEnd, t.mark)
  | _ => parseFail t.mark "while parsing a block mapping, did not find expected key"

/-- A value of a block mapping, empty if missing. -/
def blockMappingValue : ParseM (Event × Mark) := do
  let t ← peekToken
  match t.kind with
  | .value =>
    skipToken
    let t2 ← peekToken
    match t2.kind with
    | .key | .value | .blockEnd =>
      goTo .blockMappingKey
      pure (emptyScalar, t2.mark)
    | _ =>
      pushState .blockMappingKey
      parseNode true true
  | _ =>
    goTo .blockMappingKey
    pure (emptyScalar, t.mark)

/-- An entry of a block sequence, or its end. -/
def blockSequenceEntry (first : Bool) : ParseM (Event × Mark) := do
  if first then
    let _ ← peekToken
    skipToken
  let t ← peekToken
  match t.kind with
  | .blockEnd =>
    popState
    skipToken
    pure (.sequenceEnd, t.mark)
  | .blockEntry =>
    skipToken
    let t2 ← peekToken
    match t2.kind with
    | .blockEntry | .blockEnd =>
      goTo .blockSequenceEntry
      pure (emptyScalar, t2.mark)
    | _ =>
      pushState .blockSequenceEntry
      parseNode true false
  | _ => parseFail t.mark "while parsing a block collection, did not find expected '-' indicator"

/-- An entry of a sequence whose entries are not indented, or its end. -/
def indentlessSequenceEntry : ParseM (Event × Mark) := do
  let t ← peekToken
  if t.kind != .blockEntry then
    popState
    pure (.sequenceEnd, t.mark)
  else
    skipToken
    let t2 ← peekToken
    match t2.kind with
    | .blockEntry | .key | .value | .blockEnd =>
      goTo .indentlessSequenceEntry
      pure (emptyScalar, t2.mark)
    | _ =>
      pushState .indentlessSequenceEntry
      parseNode true false

/-- An entry of a flow sequence, or its end; entries after the first follow a comma. A key
in a flow sequence starts a mapping of one pair. -/
def flowSequenceEntry (first : Bool) : ParseM (Event × Mark) := do
  if first then
    let _ ← peekToken
    skipToken
  let t ← peekToken
  match t.kind with
  | .flowSequenceEnd =>
    popState
    skipToken
    pure (.sequenceEnd, t.mark)
  | _ =>
    if !first then
      if t.kind == .flowEntry then skipToken
      else parseFail t.mark "while parsing a flow sequence, expected ',' or ']'"
    let t ← peekToken
    match t.kind with
    | .flowSequenceEnd =>
      popState
      skipToken
      pure (.sequenceEnd, t.mark)
    | .key =>
      goTo .flowSequenceEntryMappingKey
      skipToken
      pure (.mappingStart 0 none, t.mark)
    | _ =>
      pushState .flowSequenceEntry
      parseNode false false

/-- The key of a one-pair mapping in a flow sequence. -/
def flowSequenceEntryMappingKey : ParseM (Event × Mark) := do
  let t ← peekToken
  match t.kind with
  | .value | .flowEntry | .flowSequenceEnd =>
    skipToken
    goTo .flowSequenceEntryMappingValue
    pure (emptyScalar, t.mark)
  | _ =>
    pushState .flowSequenceEntryMappingValue
    parseNode false false

/-- The value of a one-pair mapping in a flow sequence. -/
def flowSequenceEntryMappingValue : ParseM (Event × Mark) := do
  let t ← peekToken
  match t.kind with
  | .value =>
    skipToken
    goTo .flowSequenceEntryMappingValue
    let t2 ← peekToken
    match t2.kind with
    | .flowEntry | .flowSequenceEnd =>
      goTo .flowSequenceEntryMappingEnd
      pure (emptyScalar, t2.mark)
    | _ =>
      pushState .flowSequenceEntryMappingEnd
      parseNode false false
  | _ =>
    goTo .flowSequenceEntryMappingEnd
    pure (emptyScalar, t.mark)

/-- A key of a flow mapping, or its end; keys after the first follow a comma. -/
def flowMappingKey (first : Bool) : ParseM (Event × Mark) := do
  if first then
    let _ ← peekToken
    skipToken
  let t ← peekToken
  let finish : ParseM (Event × Mark) := do
    popState
    skipToken
    pure (.mappingEnd, t.mark)
  if t.kind == .flowMappingEnd then finish
  else
    if !first then
      if t.kind == .flowEntry then skipToken
      else parseFail t.mark "while parsing a flow mapping, did not find expected ',' or '\x7d'"
    let t2 ← peekToken
    match t2.kind with
    | .key =>
      skipToken
      let t3 ← peekToken
      match t3.kind with
      | .value | .flowEntry | .flowMappingEnd =>
        goTo .flowMappingValue
        pure (emptyScalar, t3.mark)
      | _ =>
        pushState .flowMappingValue
        parseNode false false
    | .value =>
      goTo .flowMappingValue
      pure (emptyScalar, t2.mark)
    | .flowMappingEnd => finish
    | _ =>
      pushState .flowMappingEmptyValue
      parseNode false false

/-- A value of a flow mapping, empty if missing or when the key stood alone. -/
def flowMappingValue (empty : Bool) : ParseM (Event × Mark) := do
  let t ← peekToken
  if empty then
    goTo .flowMappingKey
    pure (emptyScalar, t.mark)
  else
    match t.kind with
    | .value =>
      skipToken
      let t2 ← peekToken
      match t2.kind with
      | .flowEntry | .flowMappingEnd =>
        goTo .flowMappingKey
        pure (emptyScalar, t.mark)
      | _ =>
        pushState .flowMappingKey
        parseNode false false
    | _ =>
      goTo .flowMappingKey
      pure (emptyScalar, t.mark)

/-- The next event. -/
def nextEvent : ParseM (Event × Mark) := do
  let p ← get
  match p.state with
  | .streamStart =>
    let t ← peekToken
    if t.kind == .streamStart then
      goTo .implicitDocumentStart
      skipToken
      pure (.streamStart, t.mark)
    else parseFail t.mark "did not find expected <stream-start>"
  | .implicitDocumentStart => documentStart true
  | .documentStart => documentStart false
  | .documentContent => documentContent
  | .documentEnd => documentEnd
  | .blockNode => parseNode true false
  | .blockMappingFirstKey => blockMappingKey true
  | .blockMappingKey => blockMappingKey false
  | .blockMappingValue => blockMappingValue
  | .blockSequenceFirstEntry => blockSequenceEntry true
  | .blockSequenceEntry => blockSequenceEntry false
  | .flowSequenceFirstEntry => flowSequenceEntry true
  | .flowSequenceEntry => flowSequenceEntry false
  | .flowMappingFirstKey => flowMappingKey true
  | .flowMappingKey => flowMappingKey false
  | .flowMappingValue => flowMappingValue false
  | .indentlessSequenceEntry => indentlessSequenceEntry
  | .flowSequenceEntryMappingKey => flowSequenceEntryMappingKey
  | .flowSequenceEntryMappingValue => flowSequenceEntryMappingValue
  | .flowSequenceEntryMappingEnd =>
    goTo .flowSequenceEntry
    pure (.mappingEnd, p.scanner.mark)
  | .flowMappingEmptyValue => flowMappingValue true
  | .finished => pure (.streamEnd, p.scanner.mark)

/-- The events of a stream up to its end, with `fuel` steps at most; the anchors are
forgotten at each document's start. -/
def eventsFrom : Nat → List (Event × Mark) → ParseM (List (Event × Mark))
  | 0, acc => pure acc.reverse
  | n + 1, acc => do
    let (ev, mark) ← nextEvent
    if ev == .documentStart then modify fun p => { p with anchors := [] }
    if ev == .streamEnd then pure ((ev, mark) :: acc).reverse
    else eventsFrom n ((ev, mark) :: acc)

/-- The events of a YAML text, or the first failure. -/
def events (text : String) : Except ScanError (List (Event × Mark)) :=
  let cs := text.toList
  (eventsFrom (16 * cs.length + 64) []).run' { scanner := { rest := cs } }

end Yaml

end Unwinding
