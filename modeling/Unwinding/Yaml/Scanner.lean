/-!
# Scanning YAML into tokens

The scanner turns YAML text into tokens: stream and document markers, the starts and ends
of block and flow collections, entry, key and value indicators, anchors, aliases, tags and
scalars. Block structure is read from indentation: a deeper column opens a block collection
and a shallower one closes it with a block end.

A scalar followed by `:` is a key, which is only known once the `:` is seen: the scanner
remembers where such a simple key may start, one per flow level, and inserts the key token
(and the start of a block mapping, when the key opens one) there when the `:` comes. A
simple key lives on one line; in block context a key at the current indentation must be one,
and failing to find its `:` is an error.

Every token and error carries a mark: the character index from zero, the line from one and
the column from zero.
-/

namespace Unwinding

namespace Yaml

/-- A place in the text: characters from the start, the line from one, the column from
zero. -/
structure Mark where
  index : Nat := 0
  line : Nat := 1
  col : Nat := 0
  deriving DecidableEq, Inhabited, Repr

/-- A failure to read YAML: where, and what was wrong. -/
structure ScanError where
  mark : Mark
  info : String
  deriving DecidableEq, Inhabited, Repr

/-- The text of a failure, with its place; columns are shown from one. -/
def ScanError.text (e : ScanError) : String :=
  e.info ++ " at byte " ++ toString e.mark.index ++ " line " ++ toString e.mark.line ++
    " column " ++ toString (e.mark.col + 1)

/-- How a scalar was written. -/
inductive ScalarStyle where
  | plain
  | singleQuoted
  | doubleQuoted
  | literal
  | folded
  deriving DecidableEq, Inhabited, Repr

/-- The kinds of tokens. -/
inductive TokenKind where
  | streamStart
  | streamEnd
  | versionDirective (major minor : Nat)
  | tagDirective (handle pfx : String)
  | documentStart
  | documentEnd
  | blockSequenceStart
  | blockMappingStart
  | blockEnd
  | flowSequenceStart
  | flowSequenceEnd
  | flowMappingStart
  | flowMappingEnd
  | blockEntry
  | flowEntry
  | key
  | value
  | alias (name : String)
  | anchor (name : String)
  | tag (handle suffix : String)
  | scalar (style : ScalarStyle) (text : String)
  deriving DecidableEq, Inhabited, Repr

/-- A token and where it starts. -/
structure Token where
  mark : Mark
  kind : TokenKind
  deriving DecidableEq, Inhabited, Repr

/-- A place where a simple key may start: whether it still may, whether it must, and the
number of the token it would be. -/
structure SimpleKey where
  possible : Bool := false
  required : Bool := false
  tokenNumber : Nat := 0
  mark : Mark := { line := 0 }
  deriving DecidableEq, Inhabited, Repr

/-- An indentation level left when a deeper one is entered; a level that opened no block
collection needs no block end when it is left. -/
structure Indent where
  column : Int
  needsBlockEnd : Bool
  deriving DecidableEq, Inhabited, Repr

/-- The scanner: the text left, the mark of its first character, the tokens scanned and not
yet taken, and the state of indentation, flow nesting and simple keys. Stacks keep their top
first. -/
structure Scanner where
  rest : List Char
  mark : Mark := {}
  tokens : List Token := []
  streamStartProduced : Bool := false
  streamEndProduced : Bool := false
  adjacentValueAllowedAt : Nat := 0
  simpleKeyAllowed : Bool := false
  simpleKeys : List SimpleKey := []
  indent : Int := -1
  indents : List Indent := []
  flowLevel : Nat := 0
  tokensParsed : Nat := 0
  tokenAvailable : Bool := false
  leadingWhitespace : Bool := true
  deriving Inhabited

/-- Scanning steps. -/
abbrev ScanM := StateT Scanner (Except ScanError)

/-- Fails at a mark. -/
def failAt {α : Type} (mark : Mark) (info : String) : ScanM α := throw { mark, info }

/-- The end of the text, also stood for by a NUL character. -/
def isZ (c : Char) : Bool := c == '\x00'

/-- A line break. -/
def isBreak (c : Char) : Bool := c == '\n' || c == '\r'

/-- A line break or the end. -/
def isBreakZ (c : Char) : Bool := isBreak c || isZ c

/-- A space or a tab. -/
def isBlank (c : Char) : Bool := c == ' ' || c == '\t'

/-- A blank, a line break or the end. -/
def isBlankZ (c : Char) : Bool := isBlank c || isBreakZ c

/-- A flow indicator. -/
def isFlow (c : Char) : Bool := c == ',' || c == '[' || c == ']' || c == '\x7b' || c == '\x7d'

/-- A character of names in directives and tag handles: ASCII letters and digits, `_`, `-`. -/
def isAlpha (c : Char) : Bool :=
  ('0' ≤ c && c ≤ '9') || ('a' ≤ c && c ≤ 'z') || ('A' ≤ c && c ≤ 'Z') || c == '_' || c == '-'

/-- A hexadecimal digit. -/
def isHex (c : Char) : Bool :=
  ('0' ≤ c && c ≤ '9') || ('a' ≤ c && c ≤ 'f') || ('A' ≤ c && c ≤ 'F')

/-- The value of a hexadecimal digit. -/
def hexValue (c : Char) : Nat :=
  if '0' ≤ c && c ≤ '9' then c.toNat - '0'.toNat
  else if 'a' ≤ c && c ≤ 'f' then c.toNat - 'a'.toNat + 10
  else c.toNat - 'A'.toNat + 10

/-- A character of URIs in tags. -/
def isUriChar (c : Char) : Bool :=
  isAlpha c || "#;/?:@&=+$,_.!~*'()[]%".toList.contains c

/-- A character of a tag's suffix. -/
def isTagChar (c : Char) : Bool := isUriChar c && !isFlow c && c != '!'

/-- A character of an anchor's name. -/
def isAnchorChar (c : Char) : Bool := !isBlankZ c && !isFlow c && c != '\uFEFF'

namespace Scanner

/-- The `i`-th character ahead, NUL past the end. -/
def peekAt (s : Scanner) (i : Nat) : Char := (s.rest.drop i).headD '\x00'

/-- The current character, NUL at the end. -/
def ch (s : Scanner) : Char := s.peekAt 0

/-- Whether the next characters are `---` or `...` at the start of a line, followed by a
blank or the end. -/
def atDocumentIndicator (s : Scanner) : Bool :=
  s.mark.col == 0 &&
    ((s.peekAt 0 == '-' && s.peekAt 1 == '-' && s.peekAt 2 == '-') ||
      (s.peekAt 0 == '.' && s.peekAt 1 == '.' && s.peekAt 2 == '.')) &&
    isBlankZ (s.peekAt 3)

/-- Moves past a blank. -/
def skipBlank (s : Scanner) : Scanner :=
  { s with rest := s.rest.tail, mark := { s.mark with index := s.mark.index + 1, col := s.mark.col + 1 } }

/-- Moves past a character that is not blank. -/
def skipNonBlank (s : Scanner) : Scanner := { s.skipBlank with leadingWhitespace := false }

/-- Moves past `n` characters that are not blank. -/
def skipNonBlanks : Nat → Scanner → Scanner
  | 0, s => s
  | n + 1, s => skipNonBlanks n s.skipNonBlank

/-- Moves past a line feed or carriage return, to the next line. -/
def skipNewline (s : Scanner) : Scanner :=
  { s with rest := s.rest.tail, mark := { index := s.mark.index + 1, line := s.mark.line + 1, col := 0 },
           leadingWhitespace := true }

/-- Moves past a line break: a carriage return and line feed together, or either alone. -/
def skipLineBreak (s : Scanner) : Scanner :=
  if s.ch == '\r' && s.peekAt 1 == '\n' then s.skipBlank.skipNewline
  else if isBreak s.ch then s.skipNewline
  else s

/-- The number of steps a loop over the text left can take. -/
def fuel (s : Scanner) : Nat := s.rest.length + 2

/-- Whether the scanner is inside a block collection. -/
def withinBlock (s : Scanner) : Bool := !s.indents.isEmpty

end Scanner

/-- The current character. -/
def current : ScanM Char := return (← get).ch

/-- The `i`-th character ahead. -/
def ahead (i : Nat) : ScanM Char := return (← get).peekAt i

/-- The current mark. -/
def here : ScanM Mark := return (← get).mark

/-- Reads a line break, giving the line feed it stands for. -/
def readBreak : ScanM String := do
  modify Scanner.skipLineBreak
  pure "\n"

/-- Allows a simple key to start here. -/
def allowSimpleKey : ScanM Unit := modify fun s => { s with simpleKeyAllowed := true }

/-- Forbids a simple key to start here. -/
def disallowSimpleKey : ScanM Unit := modify fun s => { s with simpleKeyAllowed := false }

/-- Adds a token at the end of the queue. -/
def pushToken (mark : Mark) (kind : TokenKind) : ScanM Unit :=
  modify fun s => { s with tokens := s.tokens ++ [{ mark, kind }] }

/-- Inserts a token at a place in the queue. -/
def insertToken (pos : Nat) (t : Token) : ScanM Unit :=
  modify fun s => { s with tokens := s.tokens.take pos ++ t :: s.tokens.drop pos }

/-- Moves past characters while `p` holds of the scanner, each with `step`, at most `fuel`
times. -/
def skipWhile (p : Scanner → Bool) (step : Scanner → Scanner) : Nat → ScanM Unit
  | 0 => pure ()
  | n + 1 => do
    if p (← get) then
      modify step
      skipWhile p step n

/-- Moves past a comment to the end of its line. -/
def skipComment : ScanM Unit := do
  skipWhile (fun s => !isBreakZ s.ch) Scanner.skipNonBlank (← get).fuel

/-- Moves past blanks and a comment to the end of the line; tabs only with `tabs`. A comment
must follow a blank. Says whether a tab and whether a space was met. -/
def skipToLineEnd (tabs : Bool) : ScanM (Bool × Bool) := do
  let rec go : Nat → Bool → Bool → ScanM (Bool × Bool)
    | 0, t, w => pure (t, w)
    | n + 1, t, w => do
      let c ← current
      if c == ' ' then
        modify Scanner.skipBlank
        go n t true
      else if c == '\t' && tabs then
        modify Scanner.skipBlank
        go n true w
      else if c == '#' then
        if !t && !w then failAt (← here) "comments must be separated from other tokens by whitespace"
        else
          skipComment
          pure (t, w)
      else pure (t, w)
  go (← get).fuel false false

/-- Marks as impossible the simple keys that can no longer be keys: in block context, those
on an earlier line or too far back. A required one is an error. -/
def staleSimpleKeys : ScanM Unit := do
  let s ← get
  let stale (sk : SimpleKey) : Bool :=
    sk.possible && s.flowLevel == 0 &&
      (sk.mark.line < s.mark.line || sk.mark.index + 1024 < s.mark.index)
  if s.simpleKeys.reverse.any fun sk => stale sk && sk.required then
    failAt s.mark "simple key expect ':'"
  else
    set { s with simpleKeys := s.simpleKeys.map fun sk => if stale sk then { sk with possible := false } else sk }

/-- Remembers that a simple key may start here. -/
def saveSimpleKey : ScanM Unit := modify fun s =>
  if s.simpleKeyAllowed then
    let required := s.flowLevel == 0 && s.indent == (s.mark.col : Int) &&
      (s.indents.head?.map (·.needsBlockEnd)).getD false
    let sk : SimpleKey :=
      { possible := true, required, tokenNumber := s.tokensParsed + s.tokens.length, mark := s.mark }
    { s with simpleKeys := sk :: s.simpleKeys.tail }
  else s

/-- Forgets the simple key of the current level; a required one is an error. -/
def removeSimpleKey : ScanM Unit := do
  let s ← get
  match s.simpleKeys with
  | sk :: rest =>
    if sk.possible && sk.required then failAt s.mark "simple key expected"
    else set { s with simpleKeys := { sk with possible := false } :: rest }
  | [] => pure ()

/-- Leaves the indentation levels deeper than `col`, closing their block collections. In
flow context indentation does not count. -/
def unrollIndent (col : Int) : ScanM Unit := do
  let rec go : Nat → ScanM Unit
    | 0 => pure ()
    | n + 1 => do
      let s ← get
      if s.indent > col then
        match s.indents with
        | i :: rest =>
          set { s with indent := i.column, indents := rest }
          if i.needsBlockEnd then pushToken s.mark .blockEnd
          go n
        | [] => pure ()
  if (← get).flowLevel == 0 then go ((← get).indents.length + 1)

/-- Leaves the indentation levels that opened no block collection. -/
def unrollNonBlockIndents : ScanM Unit := do
  let rec go : Nat → ScanM Unit
    | 0 => pure ()
    | n + 1 => do
      let s ← get
      match s.indents with
      | i :: rest =>
        if !i.needsBlockEnd then
          set { s with indent := i.column, indents := rest }
          go n
      | [] => pure ()
  go ((← get).indents.length + 1)

/-- Enters indentation `col` in block context when it is deeper, opening a block collection
with the token `kind` at `mark`, inserted as token `number` or at the end. A level that
opened nothing is first given up. -/
def rollIndent (col : Nat) (number : Option Nat) (kind : TokenKind) (mark : Mark) : ScanM Unit := do
  let s ← get
  if s.flowLevel == 0 then
    let s :=
      if s.indent ≤ col then
        match s.indents with
        | i :: rest => if !i.needsBlockEnd then { s with indent := i.column, indents := rest } else s
        | [] => s
      else s
    set s
    if s.indent < col then
      set { s with indents := { column := s.indent, needsBlockEnd := true } :: s.indents, indent := col }
      match number with
      | some n => insertToken (n - s.tokensParsed) { mark, kind }
      | none => pushToken mark kind

/-- Requires content on the following lines to be indented one column deeper, without
opening a block collection. -/
def rollOneColumnIndent : ScanM Unit := modify fun s =>
  if s.flowLevel == 0 && (s.indents.head?.map (·.needsBlockEnd)).getD false then
    { s with indents := { column := s.indent, needsBlockEnd := false } :: s.indents, indent := s.indent + 1 }
  else s

/-- Moves past blanks, line breaks and comments to the next token. A tab in the indentation
of a block, before content on its line, is an error. -/
def skipToNextToken : ScanM Unit := do
  let rec go : Nat → ScanM Unit
    | 0 => pure ()
    | n + 1 => do
      let s ← get
      let c := s.ch
      if c == '\t' && s.withinBlock && s.leadingWhitespace && (s.mark.col : Int) < s.indent then
        let _ ← skipToLineEnd true
        if !isBreakZ (← current) then
          failAt (← here) "tabs disallowed within this context (block indentation)"
        go n
      else if c == '\t' || c == ' ' then
        modify Scanner.skipBlank
        go n
      else if isBreak c then
        modify Scanner.skipLineBreak
        if (← get).flowLevel == 0 then allowSimpleKey
        go n
      else if c == '#' then
        skipComment
        go n
  go (← get).fuel

/-- The start of the stream. -/
def fetchStreamStart : ScanM Unit := do
  let s ← get
  set { s with indent := -1, streamStartProduced := true, simpleKeyAllowed := true,
               simpleKeys := ({} : SimpleKey) :: s.simpleKeys }
  pushToken s.mark .streamStart

/-- The end of the stream: its mark is moved to the start of a new line, open block
collections are closed, and a required simple key is an error. -/
def fetchStreamEnd : ScanM Unit := do
  let s ← get
  let s := if s.mark.col != 0 then { s with mark := { s.mark with col := 0, line := s.mark.line + 1 } } else s
  if s.simpleKeys.reverse.any fun sk => sk.required && sk.possible then
    set s
    failAt s.mark "simple key expected"
  set { s with simpleKeys := s.simpleKeys.map fun (sk : SimpleKey) => { sk with possible := false } }
  unrollIndent (-1)
  removeSimpleKey
  disallowSimpleKey
  pushToken (← here) .streamEnd

/-- `---` or `...`. -/
def fetchDocumentIndicator (kind : TokenKind) : ScanM Unit := do
  unrollIndent (-1)
  removeSimpleKey
  disallowSimpleKey
  let mark ← here
  modify (Scanner.skipNonBlanks 3)
  pushToken mark kind

/-- A digit of a version number. -/
def digitValue? (c : Char) : Option Nat := if '0' ≤ c && c ≤ '9' then some (c.toNat - '0'.toNat) else none

/-- The number of a version directive. -/
def versionNumber (mark : Mark) : ScanM Nat := do
  let rec go : Nat → Nat → Nat → ScanM Nat
    | 0, v, _ => pure v
    | n + 1, v, len => do
      match digitValue? (← current) with
      | some d =>
        if len + 1 > 9 then failAt mark "while scanning a YAML directive, found extremely long version number"
        else
          modify Scanner.skipNonBlank
          go n (v * 10 + d) (len + 1)
      | none =>
        if len == 0 then failAt mark "while scanning a YAML directive, did not find expected version number"
        else pure v
  go (← get).fuel 0 0

/-- Moves past blanks. -/
def skipBlanks : ScanM Unit := do skipWhile (fun s => isBlank s.ch) Scanner.skipBlank (← get).fuel

/-- A tag handle: `!`, `!!` or `!name!`; in a directive it must end with `!`. -/
def tagHandle (directive : Bool) (mark : Mark) : ScanM String := do
  if (← current) != '!' then failAt mark "while scanning a tag, did not find expected '!'"
  else
    modify Scanner.skipNonBlank
    let rec go : Nat → String → ScanM String
      | 0, acc => pure acc
      | n + 1, acc => do
        let c ← current
        if isAlpha c then
          modify Scanner.skipNonBlank
          go n (acc.push c)
        else pure acc
    let name ← go (← get).fuel "!"
    if (← current) == '!' then
      modify Scanner.skipNonBlank
      pure (name.push '!')
    else if directive && name != "!" then
      failAt mark "while parsing a tag directive, did not find expected '!'"
    else pure name

/-- The width of a sequence of escaped bytes, given by its leading byte. -/
def escapeWidth (octet : Nat) : Option Nat :=
  if octet &&& 0x80 == 0 then some 1
  else if octet &&& 0xE0 == 0xC0 then some 2
  else if octet &&& 0xF0 == 0xE0 then some 3
  else if octet &&& 0xF8 == 0xF0 then some 4
  else none

/-- A run of `%xx` escapes in a tag, as many as the leading byte announces. The bytes are
joined into one code point by placing each after the ones before it, eight bits apiece. -/
def uriEscape (mark : Mark) : ScanM Char := do
  let rec go : Nat → Nat → Nat → ScanM Nat
    | 0, _, code => pure code
    | n + 1, width, code => do
      let a ← ahead 1
      let b ← ahead 2
      if (← current) != '%' || !isHex a || !isHex b then
        failAt mark "while parsing a tag, did not find URI escaped octet"
      let octet := hexValue a * 16 + hexValue b
      let (width, code) ← if width == 0 then
          match escapeWidth octet with
          | some w => pure (w, octet)
          | none => failAt mark "while parsing a tag, found an incorrect leading UTF-8 octet"
        else if octet &&& 0xC0 != 0x80 then
          failAt mark "while parsing a tag, found an incorrect trailing UTF-8 octet"
        else pure (width, code * 256 + octet)
      modify (Scanner.skipNonBlanks 3)
      if width == 1 then pure code else go n (width - 1) code
  let code ← go 4 0 0
  if code.isValidChar then pure (Char.ofNat code)
  else failAt mark "while parsing a tag, found an invalid UTF-8 codepoint"

/-- The characters of a tag's suffix after `head` (whose `!` is dropped). -/
def tagSuffix (head : String) (mark : Mark) : ScanM String := do
  let rec go : Nat → String → Nat → ScanM (String × Nat)
    | 0, acc, len => pure (acc, len)
    | n + 1, acc, len => do
      let c ← current
      if isTagChar c then
        if c == '%' then
          let e ← uriEscape mark
          go n (acc.push e) (len + 1)
        else
          modify Scanner.skipNonBlank
          go n (acc.push c) (len + 1)
      else pure (acc, len)
  let start := if head.length > 1 then (head.drop 1).toString else ""
  let (suffix, len) ← go (← get).fuel start head.length
  if len == 0 then failAt mark "while parsing a tag, did not find expected tag URI"
  else pure suffix

/-- The prefix of a tag directive: a `!` or a character of a tag, then characters of a URI. -/
def tagPrefix (mark : Mark) : ScanM String := do
  let rec go : Nat → String → ScanM String
    | 0, acc => pure acc
    | n + 1, acc => do
      let c ← current
      if c == '%' then
        let e ← uriEscape mark
        go n (acc.push e)
      else if isUriChar c then
        modify Scanner.skipNonBlank
        go n (acc.push c)
      else pure acc
  let c ← current
  let first ← if c == '!' then do
      modify Scanner.skipNonBlank
      pure "!"
    else if !isTagChar c then failAt mark "invalid global tag character"
    else if c == '%' then do
      let e ← uriEscape mark
      pure (String.singleton e)
    else do
      modify Scanner.skipNonBlank
      pure (String.singleton c)
  go (← get).fuel first

/-- A directive line: `%YAML`, `%TAG`, or another, which is skipped. -/
def fetchDirective : ScanM Unit := do
  unrollIndent (-1)
  removeSimpleKey
  disallowSimpleKey
  let start ← here
  modify Scanner.skipNonBlank
  let rec name : Nat → String → ScanM String
    | 0, acc => pure acc
    | n + 1, acc => do
      let c ← current
      if isAlpha c then
        modify Scanner.skipNonBlank
        name n (acc.push c)
      else pure acc
  let nameStart ← here
  let directive ← name (← get).fuel ""
  if directive.isEmpty then failAt nameStart "while scanning a directive, could not find expected directive name"
  if !isBlankZ (← current) then
    failAt nameStart "while scanning a directive, found unexpected non-alphabetical character"
  let kind ← if directive == "YAML" then do
      skipBlanks
      let major ← versionNumber start
      if (← current) != '.' then
        failAt start "while scanning a YAML directive, did not find expected digit or '.' character"
      modify Scanner.skipNonBlank
      let minor ← versionNumber start
      pure (TokenKind.versionDirective major minor)
    else if directive == "TAG" then do
      skipBlanks
      let handle ← tagHandle true start
      skipBlanks
      let pfx ← tagPrefix start
      if !isBlankZ (← current) then
        failAt start "while scanning TAG, did not find expected whitespace or line break"
      pure (TokenKind.tagDirective handle pfx)
    else do
      skipWhile (fun s => !isBreakZ s.ch) Scanner.skipNonBlank (← get).fuel
      pure (TokenKind.tagDirective "" "")
  let _ ← skipToLineEnd true
  if isBreakZ (← current) then
    modify Scanner.skipLineBreak
    pushToken start kind
  else failAt start "while scanning a directive, did not find expected comment or line break"

/-- `[` or `\x7b`. -/
def fetchFlowCollectionStart (kind : TokenKind) : ScanM Unit := do
  saveSimpleKey
  let start ← here
  rollOneColumnIndent
  let s ← get
  if s.flowLevel ≥ 255 then failAt s.mark "recursion limit exceeded"
  set { s with simpleKeys := ({} : SimpleKey) :: s.simpleKeys, flowLevel := s.flowLevel + 1 }
  allowSimpleKey
  modify Scanner.skipNonBlank
  let _ ← skipToLineEnd true
  pushToken start kind

/-- `]` or `\x7d`. -/
def fetchFlowCollectionEnd (kind : TokenKind) : ScanM Unit := do
  removeSimpleKey
  modify fun s =>
    if s.flowLevel > 0 then { s with flowLevel := s.flowLevel - 1, simpleKeys := s.simpleKeys.tail } else s
  disallowSimpleKey
  let mark ← here
  modify Scanner.skipNonBlank
  let _ ← skipToLineEnd true
  let s ← get
  if s.flowLevel > 0 then set { s with adjacentValueAllowedAt := s.mark.index }
  pushToken mark kind

/-- `,`. -/
def fetchFlowEntry : ScanM Unit := do
  removeSimpleKey
  allowSimpleKey
  let mark ← here
  modify Scanner.skipNonBlank
  let _ ← skipToLineEnd true
  pushToken mark .flowEntry

/-- `-` starting a block sequence entry. -/
def fetchBlockEntry : ScanM Unit := do
  let s ← get
  if s.flowLevel > 0 then failAt s.mark "\"-\" is only valid inside a block"
  if !s.simpleKeyAllowed then failAt s.mark "block sequence entries are not allowed in this context"
  match s.tokens.getLast? with
  | some { mark := m, kind := .anchor _ } | some { mark := m, kind := .tag _ _ } =>
    if s.mark.col == 0 && m.col == 0 && s.indent > -1 then failAt m "invalid indentation for anchor"
  | _ => pure ()
  let mark := s.mark
  modify Scanner.skipNonBlank
  rollIndent mark.col none .blockSequenceStart mark
  let (tabs, _) ← skipToLineEnd true
  if tabs && (← current) == '-' && isBlankZ (← ahead 1) then
    failAt (← here) "'-' must be followed by a valid YAML whitespace"
  let _ ← skipToLineEnd false
  let c ← current
  if isBreak c || isFlow c then rollOneColumnIndent
  removeSimpleKey
  allowSimpleKey
  pushToken mark .blockEntry

/-- Moves past the whitespace after `?`, which must be there. -/
def skipYamlWhitespace : ScanM Unit := do
  let rec go : Nat → Bool → ScanM Bool
    | 0, need => pure need
    | n + 1, need => do
      let c ← current
      if c == ' ' then
        modify Scanner.skipBlank
        go n false
      else if isBreak c then
        modify Scanner.skipLineBreak
        if (← get).flowLevel == 0 then allowSimpleKey
        go n false
      else if c == '#' then
        skipComment
        go n need
      else pure need
  if ← go (← get).fuel true then failAt (← here) "expected whitespace"

/-- `?` starting a complex key. -/
def fetchKey : ScanM Unit := do
  let s ← get
  let start := s.mark
  if s.flowLevel == 0 then
    if !s.simpleKeyAllowed then failAt s.mark "mapping keys are not allowed in this context"
    rollIndent start.col none .blockMappingStart start
  removeSimpleKey
  if (← get).flowLevel == 0 then allowSimpleKey else disallowSimpleKey
  modify Scanner.skipNonBlank
  skipYamlWhitespace
  if (← current) == '\t' then failAt (← here) "tabs disallowed in this context"
  pushToken start .key

/-- `:` ending a key: the key token goes where the simple key started, opening a block
mapping when needed; without a simple key the key was complex or empty. -/
def fetchValue : ScanM Unit := do
  let s ← get
  let sk := s.simpleKeys.headD {}
  let start := s.mark
  modify Scanner.skipNonBlank
  if sk.possible then
    insertToken (sk.tokenNumber - s.tokensParsed) { mark := sk.mark, kind := .key }
    rollIndent sk.mark.col (some sk.tokenNumber) .blockMappingStart start
    rollOneColumnIndent
    modify fun s => { s with simpleKeys := match s.simpleKeys with
      | k :: rest => { k with possible := false } :: rest
      | [] => [] }
    disallowSimpleKey
  else
    if s.flowLevel == 0 then
      if !s.simpleKeyAllowed then failAt start "mapping values are not allowed in this context"
      rollIndent start.col none .blockMappingStart start
    rollOneColumnIndent
    if (← get).flowLevel == 0 then allowSimpleKey else disallowSimpleKey
  pushToken start .value

/-- An anchor `&name` or an alias `*name`. -/
def fetchAnchor (isAlias : Bool) : ScanM Unit := do
  saveSimpleKey
  disallowSimpleKey
  let start ← here
  modify Scanner.skipNonBlank
  let rec go : Nat → String → ScanM String
    | 0, acc => pure acc
    | n + 1, acc => do
      let c ← current
      if isAnchorChar c then
        modify Scanner.skipNonBlank
        go n (acc.push c)
      else pure acc
  let name ← go (← get).fuel ""
  if name.isEmpty then
    failAt start "while scanning an anchor or alias, did not find expected alphabetic or numeric character"
  pushToken start (if isAlias then .alias name else .anchor name)

/-- A tag: verbatim `!<uri>`, `!handle!suffix`, `!suffix`, or `!` alone. -/
def fetchTag : ScanM Unit := do
  saveSimpleKey
  disallowSimpleKey
  let start ← here
  let (handle, suffix) ← if (← ahead 1) == '<' then do
      modify (Scanner.skipNonBlanks 2)
      let rec go : Nat → String → ScanM String
        | 0, acc => pure acc
        | n + 1, acc => do
          let c ← current
          if isUriChar c && c != '>' then
            if c == '%' then
              let e ← uriEscape start
              go n (acc.push e)
            else
              modify Scanner.skipNonBlank
              go n (acc.push c)
          else pure acc
      let uri ← go (← get).fuel ""
      if (← current) != '>' then failAt start "while scanning a verbatim tag, did not find the expected '>'"
      modify Scanner.skipNonBlank
      if uri.isEmpty then failAt start "while parsing a tag, did not find expected tag URI"
      pure ("", uri)
    else do
      let h ← tagHandle false start
      if h.length ≥ 2 && h.startsWith "!" && h.endsWith "!" then
        let suffix ← tagSuffix "" start
        pure (h, suffix)
      else
        let suffix ← tagSuffix h start
        if suffix.isEmpty then pure ("", "!") else pure ("!", suffix)
  let c ← current
  if isBlankZ c || ((← get).flowLevel > 0 && isFlow c) then pushToken start (.tag handle suffix)
  else failAt start "while scanning a tag, did not find expected whitespace or line break"

/-- Moves past the indentation of a block scalar's line, up to `indent` spaces, and past
empty lines, collecting their breaks. -/
def blockScalarIndent (indent : Nat) : Nat → String → ScanM String
  | 0, breaks => pure breaks
  | n + 1, breaks => do
    skipWhile (fun s => s.mark.col < indent && s.ch == ' ') Scanner.skipBlank (← get).fuel
    if isBreak (← current) then
      let b ← readBreak
      blockScalarIndent indent n (breaks ++ b)
    else pure breaks

/-- Moves past the leading empty lines of a block scalar, finding its indentation: the
deepest of them and of the first content line, and at least one more than the enclosing
block. -/
def blockScalarFirstIndent : Nat → Nat → String → ScanM (Nat × String)
  | 0, deepest, breaks => pure (deepest, breaks)
  | n + 1, deepest, breaks => do
    skipWhile (fun s => s.ch == ' ') Scanner.skipBlank (← get).fuel
    let s ← get
    let deepest := max deepest s.mark.col
    if isBreak s.ch then
      let b ← readBreak
      blockScalarFirstIndent n deepest (breaks ++ b)
    else pure (deepest, breaks)

/-- How the final line breaks of a block scalar are kept. -/
inductive Chomping where
  | strip
  | clip
  | keep
  deriving DecidableEq, Inhabited, Repr

/-- The lines of a block scalar at indentation `indent`, folded or not. -/
def blockScalarLines (literal : Bool) (indent : Nat) :
    Nat → String → String → String → Bool → ScanM (String × String × String)
  | 0, text, leading, trailing, _ => pure (text, leading, trailing)
  | n + 1, text, leading, trailing, leadingBlank => do
    let s ← get
    if s.mark.col != indent || isZ s.ch then pure (text, leading, trailing)
    else if indent == 0 && s.atDocumentIndicator then pure (text, leading, trailing)
    else
      let trailingBlank := isBlank s.ch
      let text :=
        if !literal && !leading.isEmpty && !leadingBlank && !trailingBlank then
          text ++ trailing ++ (if trailing.isEmpty then " " else "")
        else text ++ leading ++ trailing
      let lineBlank := isBlank s.ch
      let content := s.rest.takeWhile fun c => !isBreakZ c
      set (content.foldl (fun s _ => s.skipNonBlank) s)
      let text := text ++ String.ofList content
      if isZ (← current) then pure (text, "", "")
      else
        let leading ← readBreak
        let trailing ← blockScalarIndent indent (← get).fuel ""
        blockScalarLines literal indent n text leading trailing lineBlank

/-- A literal (`|`) or folded (`>`) block scalar, with its header: a chomping indicator and
an indentation indicator in either order. -/
def fetchBlockScalar (literal : Bool) : ScanM Unit := do
  saveSimpleKey
  allowSimpleKey
  let start ← here
  modify Scanner.skipNonBlank
  unrollNonBlockIndents
  let c ← current
  let readChomp : Char → Option Chomping := fun c =>
    if c == '+' then some .keep else if c == '-' then some .strip else none
  let (chomping, increment) ← match readChomp c with
    | some ch => do
      modify Scanner.skipNonBlank
      match digitValue? (← current) with
      | some 0 => failAt start "while scanning a block scalar, found an indentation indicator equal to 0"
      | some d =>
        modify Scanner.skipNonBlank
        pure (ch, d)
      | none => pure (ch, 0)
    | none =>
      match digitValue? c with
      | some 0 => failAt start "while scanning a block scalar, found an indentation indicator equal to 0"
      | some d => do
        modify Scanner.skipNonBlank
        match readChomp (← current) with
        | some ch =>
          modify Scanner.skipNonBlank
          pure (ch, d)
        | none => pure (.clip, d)
      | none => pure (.clip, 0)
  let _ ← skipToLineEnd true
  if !isBreakZ (← current) then
    failAt start "while scanning a block scalar, did not find expected comment or line break"
  let chompingBreak ← if isBreak (← current) then readBreak else pure ""
  if (← current) == '\t' then failAt start "a block scalar content cannot start with a tab"
  let s ← get
  let (indent, trailing) ← if increment > 0 then do
      let indent := if s.indent ≥ 0 then (s.indent + increment).toNat else increment
      let trailing ← blockScalarIndent indent (← get).fuel ""
      pure (indent, trailing)
    else do
      let (deepest, trailing) ← blockScalarFirstIndent (← get).fuel 0 ""
      let indent := max deepest (s.indent + 1).toNat
      let indent := if s.indent > 0 then max indent 1 else indent
      pure (indent, trailing)
  let style := if literal then ScalarStyle.literal else ScalarStyle.folded
  let s ← get
  if isZ s.ch then
    let contents :=
      match chomping with
      | .strip => ""
      | _ =>
        if s.mark.line == start.line then ""
        else match chomping with
          | .clip => chompingBreak
          | _ => if trailing.isEmpty then chompingBreak else trailing
    pushToken start (.scalar style contents)
  else
    if s.mark.col < indent && (s.mark.col : Int) > s.indent then
      failAt s.mark "wrongly indented line in block scalar"
    let contentStart := s.mark
    let (text, leading, trailing) ← blockScalarLines literal indent (← get).fuel "" "" trailing false
    let s ← get
    let text :=
      if chomping != .strip then
        text ++ leading ++ (if isZ s.ch && s.mark.col ≥ max indent 1 then "\n" else "")
      else text
    let text := if chomping == .keep then text ++ trailing else text
    pushToken contentStart (.scalar style text)

/-- The character a backslash escape in a double-quoted scalar stands for, or the number
of hexadecimal digits that follow it. -/
def escapeOf : Char → Option (Sum Char Nat)
  | '0' => some (.inl '\x00')
  | 'a' => some (.inl '\x07')
  | 'b' => some (.inl '\x08')
  | 't' => some (.inl '\t')
  | '\t' => some (.inl '\t')
  | 'n' => some (.inl '\n')
  | 'v' => some (.inl '\x0B')
  | 'f' => some (.inl '\x0C')
  | 'r' => some (.inl '\r')
  | 'e' => some (.inl '\x1B')
  | ' ' => some (.inl ' ')
  | '"' => some (.inl '"')
  | '/' => some (.inl '/')
  | '\\' => some (.inl '\\')
  | 'N' => some (.inl '\u0085')
  | '_' => some (.inl '\u00A0')
  | 'L' => some (.inl '\u2028')
  | 'P' => some (.inl '\u2029')
  | 'x' => some (.inr 2)
  | 'u' => some (.inr 4)
  | 'U' => some (.inr 8)
  | _ => none

/-- Reads the characters of a quoted scalar up to a blank, a line break or the closing
quote; says whether an escaped line break ended them. -/
def quotedRun (single : Bool) (start : Mark) : Nat → String → ScanM (String × Bool)
  | 0, acc => pure (acc, false)
  | n + 1, acc => do
    let s ← get
    let c := s.ch
    let next := s.peekAt 1
    if isBlankZ c then pure (acc, false)
    else if single && c == '\'' && next == '\'' then
      modify (Scanner.skipNonBlanks 2)
      quotedRun single start n (acc.push '\'')
    else if single && c == '\'' then pure (acc, false)
    else if !single && c == '"' then pure (acc, false)
    else if !single && c == '\\' && isBreak next then
      modify Scanner.skipNonBlank
      modify Scanner.skipLineBreak
      pure (acc, true)
    else if !single && c == '\\' then
      match escapeOf next with
      | none => failAt start "while parsing a quoted scalar, found unknown escape character"
      | some (.inl e) =>
        modify (Scanner.skipNonBlanks 2)
        quotedRun single start n (acc.push e)
      | some (.inr width) =>
        modify (Scanner.skipNonBlanks 2)
        let ds := (← get).rest.take width
        if ds.length < width || !ds.all isHex then
          failAt start "while parsing a quoted scalar, did not find expected hexadecimal number"
        else
          let code := ds.foldl (fun v d => v * 16 + hexValue d) 0
          if code < 0xD800 || (0xE000 ≤ code && code < 0x110000) then
            modify (Scanner.skipNonBlanks width)
            quotedRun single start n (acc.push (Char.ofNat code))
          else failAt start "while parsing a quoted scalar, found invalid Unicode character escape code"
    else
      modify Scanner.skipNonBlank
      quotedRun single start n (acc.push c)

/-- Reads the blanks and line breaks inside a quoted scalar: the blanks, the first break and
the breaks after it. -/
def quotedBlanks (start : Mark) : Nat → Bool → String → String → String → ScanM (Bool × String × String × String)
  | 0, lb, ws, leading, trailing => pure (lb, ws, leading, trailing)
  | n + 1, lb, ws, leading, trailing => do
    let s ← get
    let c := s.ch
    if isBlank c then
      if lb then
        if c == '\t' && (s.mark.col : Int) < s.indent then failAt s.mark "tab cannot be used as indentation"
        modify Scanner.skipBlank
        quotedBlanks start n lb ws leading trailing
      else
        modify Scanner.skipBlank
        quotedBlanks start n lb (ws.push c) leading trailing
    else if isBreak c then
      if lb then
        let b ← readBreak
        quotedBlanks start n lb ws leading (trailing ++ b)
      else
        let b ← readBreak
        quotedBlanks start n true "" (leading ++ b) trailing
    else pure (lb, ws, leading, trailing)

/-- The body of a quoted scalar after its opening quote, up to the closing one. -/
def quotedBody (single : Bool) (start : Mark) : Nat → String → ScanM String
  | 0, acc => pure acc
  | n + 1, acc => do
    let s ← get
    if s.atDocumentIndicator then
      failAt start "while scanning a quoted scalar, found unexpected document indicator"
    if isZ s.ch then failAt start "while scanning a quoted scalar, found unexpected end of stream"
    if (s.mark.col : Int) < s.indent then failAt start "invalid indentation in quoted scalar"
    let (acc, escapedBreak) ← quotedRun single start (← get).fuel acc
    let c ← current
    if (single && c == '\'') || (!single && c == '"') then pure acc
    else
      let (lb, ws, leading, trailing) ← quotedBlanks start (← get).fuel escapedBreak "" "" ""
      let acc :=
        if lb then
          if leading.isEmpty then acc ++ trailing
          else acc ++ (if trailing.isEmpty then " " else trailing)
        else acc ++ ws
      quotedBody single start n acc

/-- A single- or double-quoted scalar; nothing but blanks, a comment, a line break, a flow
indicator in flow context, or a `:` may follow it. -/
def fetchFlowScalar (single : Bool) : ScanM Unit := do
  saveSimpleKey
  disallowSimpleKey
  let start ← here
  modify Scanner.skipNonBlank
  let text ← quotedBody single start (← get).fuel ""
  modify Scanner.skipNonBlank
  let _ ← skipToLineEnd true
  let s ← get
  let c := s.ch
  let fine :=
    (s.flowLevel > 0 && (c == ',' || c == '\x7d' || c == ']')) || isBreakZ c ||
      (c == ':' && s.flowLevel == 0 && start.line == s.mark.line) || (c == ':' && s.flowLevel > 0)
  if !fine then failAt s.mark "invalid trailing content after double-quoted scalar"
  skipToNextToken
  modify fun s => { s with adjacentValueAllowedAt := s.mark.index }
  pushToken start (.scalar (if single then .singleQuoted else .doubleQuoted) text)

/-- Whether the current character can go on a plain scalar. -/
def canContinuePlain (s : Scanner) : Bool :=
  let c := s.ch
  let next := s.peekAt 1
  if c == ':' && (isBlankZ next || (s.flowLevel > 0 && isFlow next)) then false
  else if s.flowLevel > 0 && isFlow c then false
  else true

/-- The state of a plain scalar being read: its text, the blanks after it, the first line
break after it and the breaks after that. -/
structure PlainRun where
  text : String := ""
  spaces : String := ""
  leadingBreak : String := ""
  trailingBreaks : String := ""

/-- Reads the blanks and line breaks after a part of a plain scalar. -/
def plainBlanks (indent : Int) (start : Mark) : Nat → PlainRun → ScanM PlainRun
  | 0, r => pure r
  | n + 1, r => do
    let s ← get
    let c := s.ch
    if isBlank c then
      if !s.leadingWhitespace then
        modify Scanner.skipBlank
        plainBlanks indent start n { r with spaces := r.spaces.push c }
      else if (s.mark.col : Int) < indent && c == '\t' then
        let _ ← skipToLineEnd true
        if !isBreakZ (← current) then failAt start "while scanning a plain scalar, found a tab"
        plainBlanks indent start n r
      else
        modify Scanner.skipBlank
        plainBlanks indent start n r
    else if isBreak c then
      if s.leadingWhitespace then
        let b ← readBreak
        plainBlanks indent start n { r with trailingBreaks := r.trailingBreaks ++ b }
      else
        let b ← readBreak
        plainBlanks indent start n { r with spaces := "", leadingBreak := r.leadingBreak ++ b }
    else pure r

/-- Reads a plain scalar from where the previous part ended. -/
def plainParts (indent : Int) (start : Mark) : Nat → PlainRun → ScanM PlainRun
  | 0, r => pure r
  | n + 1, r => do
    let s ← get
    if s.atDocumentIndicator || s.ch == '#' then pure r
    else if s.flowLevel > 0 && s.ch == '-' && isFlow (s.peekAt 1) then
      failAt s.mark "plain scalar cannot start with '-' followed by ,[]\x7b\x7d"
    else
      let r ← if !isBlankZ s.ch && canContinuePlain s then do
          let r :=
            if s.leadingWhitespace then
              if r.leadingBreak.isEmpty then
                { r with text := r.text ++ r.leadingBreak ++ r.trailingBreaks, trailingBreaks := "", leadingBreak := "" }
              else
                { r with text := r.text ++ (if r.trailingBreaks.isEmpty then " " else r.trailingBreaks),
                         trailingBreaks := "", leadingBreak := "" }
            else { r with text := r.text ++ r.spaces, spaces := "" }
          modify fun s => { s with leadingWhitespace := false }
          let rec word : Nat → String → ScanM String
            | 0, acc => pure acc
            | m + 1, acc => do
              let s ← get
              if isBlankZ s.ch || !canContinuePlain s then pure acc
              else
                modify Scanner.skipNonBlank
                word m (acc.push s.ch)
          let c ← current
          modify Scanner.skipNonBlank
          let text ← word (← get).fuel (r.text.push c)
          pure { r with text }
        else pure r
      let c ← current
      if !(isBlank c || isBreak c) then pure r
      else
        let r ← plainBlanks indent start (← get).fuel r
        let s ← get
        if s.flowLevel == 0 && (s.mark.col : Int) < indent then pure r
        else plainParts indent start n r

/-- A plain scalar. It may run over several lines, folded into one; it ends before `: `, a
comment, a shallower line, a document marker, or in flow context a flow indicator. -/
def fetchPlainScalar : ScanM Unit := do
  saveSimpleKey
  disallowSimpleKey
  unrollNonBlockIndents
  let s ← get
  let indent := s.indent + 1
  let start := s.mark
  if s.flowLevel > 0 && (start.col : Int) < indent then
    failAt start "invalid indentation in flow construct"
  let r ← plainParts indent start (← get).fuel {}
  if (← get).leadingWhitespace then allowSimpleKey
  pushToken start (.scalar .plain r.text)

/-- Scans the next token or tokens. -/
def fetchNextToken : ScanM Unit := do
  if !(← get).streamStartProduced then fetchStreamStart
  else
    skipToNextToken
    staleSimpleKeys
    let mark ← here
    unrollIndent mark.col
    let s ← get
    let c := s.ch
    let next := s.peekAt 1
    if isZ c then fetchStreamEnd
    else if s.mark.col == 0 && c == '%' then fetchDirective
    else if s.mark.col == 0 && c == '-' && next == '-' && s.peekAt 2 == '-' && isBlankZ (s.peekAt 3) then
      fetchDocumentIndicator .documentStart
    else if s.mark.col == 0 && c == '.' && next == '.' && s.peekAt 2 == '.' && isBlankZ (s.peekAt 3) then
      fetchDocumentIndicator .documentEnd
      let _ ← skipToLineEnd true
      if !isBreakZ (← current) then failAt (← here) "invalid content after document end marker"
    else if (s.mark.col : Int) < s.indent then failAt s.mark "invalid indentation"
    else if c == '[' then fetchFlowCollectionStart .flowSequenceStart
    else if c == '\x7b' then fetchFlowCollectionStart .flowMappingStart
    else if c == ']' then fetchFlowCollectionEnd .flowSequenceEnd
    else if c == '\x7d' then fetchFlowCollectionEnd .flowMappingEnd
    else if c == ',' then fetchFlowEntry
    else if c == '-' && isBlankZ next then fetchBlockEntry
    else if c == '?' && isBlankZ next then fetchKey
    else if c == ':' && (isBlankZ next ||
        (s.flowLevel > 0 && (isFlow next || s.mark.index == s.adjacentValueAllowedAt))) then
      fetchValue
    else if c == '*' then fetchAnchor true
    else if c == '&' then fetchAnchor false
    else if c == '!' then fetchTag
    else if c == '|' && s.flowLevel == 0 then fetchBlockScalar true
    else if c == '>' && s.flowLevel == 0 then fetchBlockScalar false
    else if c == '\'' then fetchFlowScalar true
    else if c == '"' then fetchFlowScalar false
    else if c == '%' || c == '@' || c == '`' then
      failAt s.mark ("unexpected character: `" ++ c.toString ++ "'")
    else fetchPlainScalar

/-- Scans until the next token to be taken is known not to be the start of a key. -/
def fetchMoreTokens : Nat → ScanM Unit
  | 0 => pure ()
  | n + 1 => do
    let s ← get
    let needMore ←
      if s.tokens.isEmpty then pure true
      else do
        staleSimpleKeys
        let s ← get
        pure (s.simpleKeys.any fun sk => sk.possible && sk.tokenNumber == s.tokensParsed)
    if needMore then
      fetchNextToken
      fetchMoreTokens n
    else modify fun s => { s with tokenAvailable := true }

/-- Takes the next token, or nothing once the stream has ended. -/
def nextToken : ScanM (Option Token) := do
  let s ← get
  if s.streamEndProduced then pure none
  else
    if !s.tokenAvailable then fetchMoreTokens (4 * s.rest.length + 16)
    let s ← get
    match s.tokens with
    | [] => pure none
    | t :: rest =>
      set { s with tokens := rest, tokenAvailable := false, tokensParsed := s.tokensParsed + 1,
                   streamEndProduced := t.kind == TokenKind.streamEnd }
      pure (some t)

end Yaml

end Unwinding
