import AdConfirm.Yaml.Node
import AdConfirm.Yaml.Token

/-!
The grammar of nodes over tokens. A rule returns what it read with the tokens that are left; where it may find nothing, the
blank scalar stands for it. The rules for collections are given the rule for the nodes inside, so that only nesting recurs.
-/

namespace AdConfirm.Yaml

/-- handles of tags and what they stand for, those declared in the document first -/
abbrev Handles := List (String × String)

def Handles.standard : Handles := [("!", "!"), ("!!", "tag:yaml.org,2002:")]

/-- reads something off the front of the tokens -/
abbrev Rule (α : Type) := List Token → Option (α × List Token)

namespace Rule

variable {α : Type}

/-- applies a rule until the tokens to stop at; each time it has to take a token at least -/
def upTo (stop : List Token → Option (List Token)) (item : Rule α) (toks : List Token) : Option (List α × List Token) :=
  match stop toks with
  | some rest => some ([], rest)
  | none =>
    match item toks with
    | none => none
    | some (a, rest) =>
      if _h : rest.length < toks.length then (upTo stop item rest).map fun r => (a :: r.1, r.2) else none
  termination_by toks.length

/-- stops behind the given token -/
def behind (close : Token) : List Token → Option (List Token)
  | t :: rest => if t = close then some rest else none
  | [] => none

end Rule

/-- tells by the next token whether a node is blank -/
abbrev BlankTest := Token → Bool

/-- keys and values of a block mapping are blank before these -/
def endsField : BlankTest := fun t => t = .key || t = .value || t = .blockEnd

/-- items of a block sequence are blank before these; more of them end one that is not indented against its mapping -/
def endsItem (isIndented : Bool) : BlankTest := fun t =>
  t = .blockEntry || t = .blockEnd || (!isIndented && (t = .key || t = .value))

/-- values inside a bracket are blank before these -/
def endsFlowValue (close : Token) : BlankTest := fun t => t = .flowEntry || t = close

/-- keys inside a bracket are blank before these -/
def endsFlowKey (close : Token) : BlankTest := fun t => t = .value || endsFlowValue close t

namespace Node

def orBlank (isBlank : BlankTest) (node : Rule (Node String)) : Rule (Node String) := fun toks =>
  if toks.head?.any isBlank then some (.blank .none, toks) else node toks

/-- a value behind its colon, or the blank one -/
def value? (isBlank : BlankTest) (node : Rule (Node String)) : Rule (Node String)
  | .value :: rest => orBlank isBlank node rest
  | toks => some (.blank .none, toks)

def item? (isIndented : Bool) (node : Rule (Node String)) : Rule (Node String)
  | .blockEntry :: rest => orBlank (endsItem isIndented) node rest
  | _ => none

def field? (node : Rule (Node String)) : Rule (Node String × Node String)
  | .key :: rest => do
    let (k, rest) ← orBlank endsField node rest
    let (v, rest) ← value? endsField node rest
    return ((k, v), rest)
  | _ => none

/-- an entry inside a bracket, which a comma or the bracket must follow -/
def flowEntry? {α : Type} (close : Token) (entry : Rule α) : Rule α := fun toks => do
  let (a, rest) ← entry toks
  match rest with
  | .flowEntry :: rest => return (a, rest)
  | t :: _ => if t = close then return (a, rest) else none
  | [] => none

/-- an entry between square brackets; one that begins like a key is a mapping with one field. The token at which its key
is blank is passed over. -/
def flowItem? (node : Rule (Node String)) : Rule (Node String)
  | .key :: rest => do
    let (k, rest) ← if rest.head?.any (endsFlowKey .flowSequenceEnd) then some (.blank .none, rest.drop 1) else node rest
    let (v, rest) ← value? (endsFlowValue .flowSequenceEnd) node rest
    return (.mapping .none [(k, v)], rest)
  | toks => node toks

/-- an entry between braces; one that does not begin like a key has a blank value -/
def flowField? (node : Rule (Node String)) : Rule (Node String × Node String)
  | .key :: rest => do
    let (k, rest) ← orBlank (endsFlowKey .flowMappingEnd) node rest
    let (v, rest) ← value? (endsFlowValue .flowMappingEnd) node rest
    return ((k, v), rest)
  | toks => (node toks).map fun r => ((r.1, .blank .none), r.2)

/-- a collection, or none if no collection begins here; sequences that are not indented stand in a block mapping alone -/
def collection? (inBlock inMapping : Bool) (node : Bool → Bool → Rule (Node String)) (p : Properties) :
    List Token → Option (Rule (Node String))
  | .blockEntry :: _ =>
    let stop (toks : List Token) : Option (List Token) := if toks.head? = some .blockEntry then none else some toks
    if inMapping then some fun toks =>
      (Rule.upTo stop (item? false (node true false)) toks).map fun r => (.sequence p r.1, r.2)
    else none
  | .sequenceStart :: _ =>
    if inBlock then some fun toks =>
      (Rule.upTo (Rule.behind .blockEnd) (item? true (node true false)) toks.tail).map fun r => (.sequence p r.1, r.2)
    else none
  | .mappingStart :: _ =>
    if inBlock then some fun toks =>
      (Rule.upTo (Rule.behind .blockEnd) (field? (node true true)) toks.tail).map fun r => (.mapping p r.1, r.2)
    else none
  | .flowSequenceStart :: _ => some fun toks =>
      let entry := flowEntry? .flowSequenceEnd (flowItem? (node false false))
      (Rule.upTo (Rule.behind .flowSequenceEnd) entry toks.tail).map fun r => (.sequence p r.1, r.2)
  | .flowMappingStart :: _ => some fun toks =>
      let entry := flowEntry? .flowMappingEnd (flowField? (node false false))
      (Rule.upTo (Rule.behind .flowMappingEnd) entry toks.tail).map fun r => (.mapping p r.1, r.2)
  | _ => none

/-- an anchor and a tag, in either order, with the tag as handle and suffix -/
def before : List Token → (Option String × Option (String × String)) × List Token
  | .anchor a :: .tag h s :: rest => ((some a, some (h, s)), rest)
  | .tag h s :: .anchor a :: rest => ((some a, some (h, s)), rest)
  | .anchor a :: rest => ((some a, none), rest)
  | .tag h s :: rest => ((none, some (h, s)), rest)
  | rest => ((none, none), rest)

/-- spells a tag out; none if its handle is not declared -/
def spellTag? (handles : Handles) : String × String → Option String
  | ("", suffix) => some suffix
  | (h, suffix) => (handles.lookup h).map (· ++ suffix)

/-- reads a node that nests no deeper than the bound -/
def read? (handles : Handles) : Nat → (inBlock inMapping : Bool) → Rule (Node String)
  | 0, _, _ => fun _ => none
  | depth + 1, inBlock, inMapping => fun toks =>
    match toks with
    | .alias name :: rest => some (.alias name, rest)
    | _ => do
      let ((anchor, written), rest) := before toks
      let tag ← match written with
        | none => some none
        | some t => (spellTag? handles t).map some
      let p : Properties := ⟨anchor, tag⟩
      match rest with
      | .scalar text isPlain :: rest => return (.scalar p text isPlain, rest)
      | _ =>
        match collection? inBlock inMapping (read? handles depth) p rest with
        | some rule => rule rest
        | none => if p.isEmpty then none else return (.blank p, rest)

end Node

end AdConfirm.Yaml
