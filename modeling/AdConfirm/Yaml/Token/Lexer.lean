import AdConfirm.Yaml.Scalar.Block
import AdConfirm.Yaml.Scalar.Plain
import AdConfirm.Yaml.Scalar.Quoted
import AdConfirm.Yaml.Tag
import AdConfirm.Yaml.Token

/-!
Tokens of a text. Two things are known only later than they begin: a key is one when the colon behind it comes, so the place
where it began is remembered and its token is put there; and a block ends when a line is indented less.
-/

namespace AdConfirm.Yaml

/-- a place where a key may have begun, with the number of tokens before it; it is required if nothing else can stand there -/
structure KeyStart where
  tokens : Nat
  index : Nat
  line : Nat
  column : Nat
  isRequired : Bool

/-- a text read in part: the tokens so far, the columns of the open blocks (innermost first), and where a key may have begun,
at the innermost level of brackets and at those around it -/
structure Lexer where
  cursor : Cursor
  tokens : Array Token
  columns : List Nat
  keyStart : Option KeyStart
  outerKeyStarts : List (Option KeyStart)
  keyAllowed : Bool

namespace Lexer

def start (s : List Char) : Lexer := ⟨.start s, #[], [], none, [], true⟩

def inFlow (l : Lexer) : Bool := !l.outerKeyStarts.isEmpty

/-- the least column that is inside the innermost block -/
def margin (l : Lexer) : Nat :=
  match l.columns with
  | [] => 0
  | column :: _ => column + 1

def push (l : Lexer) (t : Token) : Lexer := { l with tokens := l.tokens.push t }

def indicator (l : Lexer) (t : Token) (length : Nat) : Lexer := { l.push t with cursor := l.cursor.skip length }

/-- a key goes stale at the end of its line and beyond this many bytes -/
def greatestKeyLength : Nat := 1024

/-- whether the colon can no longer come -/
def isStale (l : Lexer) (k : KeyStart) : Bool :=
  k.line < l.cursor.line || k.index + greatestKeyLength < l.cursor.index

/-- gives up a place where a key may have begun; none if it was required -/
def giveUp? : Option KeyStart → Option (Option KeyStart)
  | some k => if k.isRequired then none else some none
  | none => some none

/-- gives up the stale ones -/
def giveUpStale? (l : Lexer) : Option Lexer := do
  let renew (k : Option KeyStart) : Option (Option KeyStart) := if k.any l.isStale then giveUp? k else some k
  let outer ← l.outerKeyStarts.mapM renew
  let inner ← renew l.keyStart
  return { l with keyStart := inner, outerKeyStarts := outer }

/-- gives up the one at this level -/
def dropKeyStart? (l : Lexer) : Option Lexer := (giveUp? l.keyStart).map fun k => { l with keyStart := k }

/-- remembers that a key may begin here -/
def noteKeyStart? (l : Lexer) : Option Lexer :=
  if l.keyAllowed then
    l.dropKeyStart?.map fun l => { l with
      keyStart := some ⟨l.tokens.size, l.cursor.index, l.cursor.line, l.cursor.column,
        !l.inFlow && l.columns.head? = some l.cursor.column⟩ }
  else some l

/-- closes the blocks that the column is left of, or all -/
def closeBlocks (l : Lexer) (column : Option Nat) : Lexer :=
  if l.inFlow then l
  else
    let isClosed (c : Nat) : Bool := column.all (· < c)
    { l with
      tokens := l.tokens ++ (l.columns.takeWhile isClosed).toArray.map fun _ => Token.blockEnd
      columns := l.columns.dropWhile isClosed }

/-- opens a block at the column, unless the innermost one is there already; `index` is the place of its token -/
def openBlock (l : Lexer) (column : Nat) (index : Nat) (t : Token) : Lexer :=
  if !l.inFlow && l.margin ≤ column then
    { l with columns := column :: l.columns, tokens := l.tokens.insertIdxIfInBounds index t }
  else l

/-- opens a block at the cursor; a new one may begin only where a key may -/
def openBlockHere? (l : Lexer) (t : Token) : Option Lexer :=
  if l.inFlow then some l
  else if l.keyAllowed then some (l.openBlock l.cursor.column l.tokens.size t)
  else none

/-- moves over blanks, comments and line breaks, and over a byte order mark that begins a line; a tab counts as blank where
no key may begin, and inside brackets -/
def skipGaps (l : Lexer) : Lexer :=
  let c := l.cursor.skipByteOrderMark.skipWhile fun ch => ch = ' ' || (ch = '\t' && (l.inFlow || !l.keyAllowed))
  let c := if c.sees '#' then c.skipWhile (!isBreak ·) else c
  if c.here?.any isBreak then
    let next := c.skipBreak
    if _h : next.rest.length < l.cursor.rest.length then
      skipGaps { l with cursor := next, keyAllowed := l.keyAllowed || !l.inFlow }
    else { l with cursor := c }
  else { l with cursor := c }
  termination_by l.cursor.rest.length

/-- a part of a version: up to nine digits -/
def versionPart? (c : Cursor) : Option (Nat × Cursor) :=
  let (ds, behind) := c.takeWhile Text.isDigit
  if ds.isEmpty || 9 < ds.length then none else some (Text.digitsValue ds, behind)

/-- a directive: of the version, or of a handle for tags -/
def directive? (c : Cursor) : Option (Token × Cursor) := do
  let (name, c) := (c.skip 1).takeWhile isNameChar
  if !c.endsWord 0 then none
  else
    let c := c.skipWhile isSpace
    let (t, c) ←
      if name = "YAML".toList then do
        let (major, c) ← versionPart? c
        if c.sees '.' then
          let (minor, c) ← versionPart? (c.skip 1)
          some (Token.version major minor, c)
        else none
      else if name = "TAG".toList then do
        let (h, c) ← handle? c
        if (isClosedHandle h || h = ['!']) && c.here?.any isSpace then
          let (start, c) ← tagText? true (c.skipWhile isSpace)
          if c.endsWord 0 then some (Token.handle (.ofList h) (.ofList start), c) else none
        else none
      else none
    return (t, ← c.endLine?)

/-- a token that ends all blocks: a directive, or a mark between documents -/
def atMargin? (l : Lexer) (read : Cursor → Option (Token × Cursor)) : Option Lexer := do
  let l ← (l.closeBlocks none).dropKeyStart?
  let (t, c) ← read l.cursor
  return { l.push t with cursor := c, keyAllowed := false }

def openFlow? (l : Lexer) (t : Token) : Option Lexer :=
  l.noteKeyStart?.map fun l => { l.indicator t 1 with
    keyStart := none, outerKeyStarts := l.keyStart :: l.outerKeyStarts, keyAllowed := true }

def closeFlow? (l : Lexer) (t : Token) : Option Lexer :=
  l.dropKeyStart?.map fun l =>
    let l := { l.indicator t 1 with keyAllowed := false }
    match l.outerKeyStarts with
    | [] => l
    | k :: outer => { l with keyStart := k, outerKeyStarts := outer }

/-- a comma inside brackets -/
def flowEntry? (l : Lexer) : Option Lexer :=
  l.dropKeyStart?.map fun l => { l.indicator .flowEntry 1 with keyAllowed := true }

/-- a hyphen in front of an item -/
def blockEntry? (l : Lexer) : Option Lexer := do
  let l ← l.openBlockHere? .sequenceStart
  let l ← l.dropKeyStart?
  return { l.indicator .blockEntry 1 with keyAllowed := true }

/-- a question mark in front of a key -/
def key? (l : Lexer) : Option Lexer := do
  let l ← l.openBlockHere? .mappingStart
  let l ← l.dropKeyStart?
  return { l.indicator .key 1 with keyAllowed := !l.inFlow }

/-- a colon: it makes what is remembered a key -/
def value? (l : Lexer) : Option Lexer :=
  match l.keyStart with
  | some k =>
    let l := { l with tokens := l.tokens.insertIdxIfInBounds k.tokens .key }
    let l := l.openBlock k.column k.tokens .mappingStart
    some { l.indicator .value 1 with keyStart := none, keyAllowed := false }
  | none =>
    (l.openBlockHere? .mappingStart).map fun l => { l.indicator .value 1 with keyAllowed := !l.inFlow }

/-- a token that a key may begin with -/
def node? (l : Lexer) (read : Cursor → Option (Token × Cursor)) : Option Lexer := do
  let l ← l.noteKeyStart?
  let (t, c) ← read l.cursor
  return { l.push t with cursor := c, keyAllowed := false }

def name? (make : String → Token) (c : Cursor) : Option (Token × Cursor) :=
  let (name, c) := (c.skip 1).takeWhile isNameChar
  if !name.isEmpty && (c.endsWord 0 || c.here?.any fun ch => "?:,]\x7d%@".toList.contains ch || ch = '\x60')
  then some (make (.ofList name), c) else none

/-- a tag, which ends like a word -/
def tagToken? (inFlow : Bool) (c : Cursor) : Option (Token × Cursor) :=
  (tag? c).bind fun ((h, suffix), c) =>
    if c.endsWord 0 || (inFlow && c.sees ',') then some (.tag (.ofList h) (.ofList suffix), c) else none

def quoted? (isSingle : Bool) (c : Cursor) : Option (Token × Cursor) :=
  (Quoted.read? isSingle (c.skip 1)).map fun r => (.scalar (.ofList r.1) false, r.2)

def block? (l : Lexer) (isLiteral : Bool) : Option Lexer := do
  let l ← l.dropKeyStart?
  let (text, c) ← Block.read? isLiteral l.margin (l.cursor.skip 1)
  return { l.push (.scalar (.ofList text) false) with cursor := c, keyAllowed := true }

/-- a plain scalar; a key may follow it on a new line -/
def plain? (l : Lexer) : Option Lexer := do
  let l ← l.noteKeyStart?
  let s ← PlainScalar.read? l.inFlow l.margin l.cursor
  return { l.push (.scalar (.ofList s.text) true) with cursor := s.behind, keyAllowed := s.onNewLine }

/-- characters that no plain scalar begins with, some of them only where a word ends behind them -/
def isIndicator (c : Char) : Bool := "-?:,[]\x7b\x7d#&*!|>'\"%@".toList.contains c || c = '\x60'

/-- whether a plain scalar begins at the cursor -/
def beginsPlain (l : Lexer) (ch : Char) : Bool :=
  (!isGap ch && !isIndicator ch) || (ch = '-' && !(l.cursor.ahead? 1).any isSpace)
    || (!l.inFlow && (ch = '?' || ch = ':') && !l.cursor.endsWord 1)

/-- reads the token at the cursor, which begins with the given character -/
def token? (l : Lexer) (ch : Char) : Option Lexer :=
  let c := l.cursor
  let standsAlone := c.endsWord 1
  if c.column = 0 && ch = '%' then l.atMargin? directive?
  else if c.atMark '-' then l.atMargin? fun c => some (.documentStart, c.skip 3)
  else if c.atMark '.' then l.atMargin? fun c => some (.documentEnd, c.skip 3)
  else if ch = '[' then l.openFlow? .flowSequenceStart
  else if ch = '{' then l.openFlow? .flowMappingStart
  else if ch = ']' then l.closeFlow? .flowSequenceEnd
  else if ch = '}' then l.closeFlow? .flowMappingEnd
  else if ch = ',' then l.flowEntry?
  else if ch = '-' && standsAlone then l.blockEntry?
  else if ch = '?' && (l.inFlow || standsAlone) then l.key?
  else if ch = ':' && (l.inFlow || standsAlone) then l.value?
  else if ch = '*' then l.node? (name? .alias)
  else if ch = '&' then l.node? (name? .anchor)
  else if ch = '!' then l.node? (tagToken? l.inFlow)
  else if ch = '|' && !l.inFlow then l.block? true
  else if ch = '>' && !l.inFlow then l.block? false
  else if ch = '\'' then l.node? (quoted? true)
  else if ch = '"' then l.node? (quoted? false)
  else if l.beginsPlain ch then l.plain?
  else none

/-- reads on to the end of the text -/
def finish? (l : Lexer) : Option (List Token) :=
  match l.skipGaps.giveUpStale? with
  | none => none
  | some l' =>
    match l'.cursor.here? with
    | none => (l'.closeBlocks none).dropKeyStart?.map (·.tokens.toList)
    | some ch =>
      match (l'.closeBlocks (some l'.cursor.column)).token? ch with
      | none => none
      | some next => if _h : next.cursor.rest.length < l.cursor.rest.length then finish? next else none
  termination_by l.cursor.rest.length

end Lexer

/-- the tokens of a text; none if it is not made of tokens, or holds a character that no document may -/
def Token.ofText? (s : List Char) : Option (List Token) :=
  if s.all isAllowed then (Lexer.start s).finish? else none

end AdConfirm.Yaml
