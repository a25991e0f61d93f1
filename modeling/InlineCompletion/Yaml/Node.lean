import InlineCompletion.Yaml.Token

/-!
The document of a YAML text as a tree of nodes. A text holds no document, or one; several are
refused. Anchors are numbered by how many names were known before them; an alias stands for the last
node with the number that its name had where the alias stands.
-/
namespace InlineCompletion.Yaml

/-- A node of a document. -/
inductive Node where
  | scalar (anchor : Option Nat) (tag : Option (List UInt8)) (isPlain : Bool) (text : List Char)
  | sequence (anchor : Option Nat) (tag : Option (List UInt8)) (items : List Node)
  | mapping (anchor : Option Nat) (tag : Option (List UInt8)) (entries : List (Node × Node))
  | alias (number : Nat)
deriving Inhabited

/-- A node that is not written: an empty plain scalar. -/
def Node.blank : Node :=
  .scalar none none true []

/-- Tag handles with their meanings. -/
abbrev Handles := List (List Char × List UInt8)

/-- The handles that need no directive. -/
def standardHandles : Handles :=
  [(['!'], asciiOctets ['!']), (['!', '!'], asciiOctets "tag:yaml.org,2002:".toList)]

/-- The meaning of a tag, if its handle has one. -/
def Handles.expand (handles : Handles) (tag : Tag) : Option (List UInt8) :=
  if tag.handle.isEmpty then some tag.suffix
  else (handles.find? fun handle => handle.1 == tag.handle).map fun handle => handle.2 ++ tag.suffix

/-- What is still to be read, and the numbers of the anchors so far. -/
structure Rest where
  tokens : List Token
  names : List (List Char × Nat)

/-- What is still to be read behind the first token. -/
def Rest.next (r : Rest) : Rest :=
  { r with tokens := r.tokens.drop 1 }

/-- An anchor is numbered by how many names are known; a name that was known before loses its
earlier number. -/
def Rest.anchor (name : List Char) (r : Rest) : Nat × Rest :=
  let number := r.names.length
  (number, { r with names := (name, number) :: r.names.filter fun known => known.1 != name })

/-- Whether the next token is one of a few. -/
def Rest.at (tokens : List Token) (r : Rest) : Bool :=
  match r.tokens with
  | [] => false
  | token :: _ => tokens.contains token

/-- An anchor and a tag in front of a node, in either order. -/
structure Properties where
  anchor : Option Nat
  tag : Option (List UInt8)

/-- Whether there is neither an anchor nor a tag. -/
def Properties.isEmpty (p : Properties) : Bool :=
  p.anchor.isNone && p.tag.isNone

/-- An anchor, if one comes next. -/
def readAnchor (r : Rest) : Option Nat × Rest :=
  match r.tokens with
  | .anchor name :: _ =>
    let (number, r) := r.next.anchor name
    (some number, r)
  | _ => (none, r)

/-- A tag, if one comes next. -/
def readNodeTag (handles : Handles) (r : Rest) : Option (Option (List UInt8) × Rest) :=
  match r.tokens with
  | .tag tag :: _ => (handles.expand tag).map fun meaning => (some meaning, r.next)
  | _ => some (none, r)

/-- The properties in front of a node. -/
def readProperties (handles : Handles) (r : Rest) : Option (Properties × Rest) :=
  match r.tokens with
  | .tag _ :: _ => do
    let (tag, r) ← readNodeTag handles r
    let (anchor, r) := readAnchor r
    return (⟨anchor, tag⟩, r)
  | _ => do
    let (anchor, r) := readAnchor r
    let (tag, r) ← readNodeTag handles r
    return (⟨anchor, tag⟩, r)

/-- The tag of a scalar. A lone exclamation mark is no tag. -/
def scalarTag (tag : Option (List UInt8)) : Option (List UInt8) :=
  if tag = some (asciiOctets ['!']) then none else tag

/-- The tokens behind which a key or value of a block mapping is blank. -/
def blockStops : List Token := [.key, .value, .blockEnd]

mutual

/-- A node. Block collections are allowed outside of flow collections only, and a sequence without
indentation of its own only as the value or key of a block mapping. -/
def readNode (handles : Handles) (block indentless : Bool) : Nat → Rest → Option (Node × Rest)
  | 0, _ => none
  | fuel + 1, r =>
    match r.tokens with
    | .alias name :: _ =>
      (r.names.find? fun known => known.1 == name).map fun known => (.alias known.2, r.next)
    | _ => do
      let (props, r) ← readProperties handles r
      match r.tokens with
      | .blockEntry :: _ =>
        if indentless then do
          let (items, r) ← readIndentless handles fuel r
          return (.sequence props.anchor props.tag items, r)
        else if props.isEmpty then none
        else return (.scalar props.anchor props.tag true [], r)
      | .scalar isPlain text :: _ =>
        return (.scalar props.anchor (scalarTag props.tag) isPlain text, r.next)
      | .flowSequenceStart :: _ => do
        let (items, r) ← readFlowItems handles true fuel r.next
        return (.sequence props.anchor props.tag items, r)
      | .flowMappingStart :: _ => do
        let (entries, r) ← readFlowEntries handles true fuel r.next
        return (.mapping props.anchor props.tag entries, r)
      | .blockSequenceStart :: _ =>
        if block then do
          let (items, r) ← readBlockItems handles fuel r.next
          return (.sequence props.anchor props.tag items, r)
        else if props.isEmpty then none
        else return (.scalar props.anchor props.tag true [], r)
      | .blockMappingStart :: _ =>
        if block then do
          let (entries, r) ← readBlockEntries handles fuel r.next
          return (.mapping props.anchor props.tag entries, r)
        else if props.isEmpty then none
        else return (.scalar props.anchor props.tag true [], r)
      | _ =>
        if props.isEmpty then none
        else return (.scalar props.anchor props.tag true [], r)

/-- A node, or a blank one if one of the stops comes next. -/
def readNodeUnless (handles : Handles) (block indentless : Bool) (stops : List Token) :
    Nat → Rest → Option (Node × Rest)
  | 0, _ => none
  | fuel + 1, r =>
    if r.at stops then some (.blank, r) else readNode handles block indentless fuel r

/-- The items of a block sequence up to its end. -/
def readBlockItems (handles : Handles) : Nat → Rest → Option (List Node × Rest)
  | 0, _ => none
  | fuel + 1, r =>
    match r.tokens with
    | .blockEnd :: _ => some ([], r.next)
    | .blockEntry :: _ => do
      let (item, r) ← readNodeUnless handles true false [.blockEntry, .blockEnd] fuel r.next
      let (items, r) ← readBlockItems handles fuel r
      return (item :: items, r)
    | _ => none

/-- The items of a sequence that has no indentation of its own. -/
def readIndentless (handles : Handles) : Nat → Rest → Option (List Node × Rest)
  | 0, _ => none
  | fuel + 1, r =>
    match r.tokens with
    | .blockEntry :: _ => do
      let (item, r) ← readNodeUnless handles true false (.blockEntry :: blockStops) fuel r.next
      let (items, r) ← readIndentless handles fuel r
      return (item :: items, r)
    | _ => some ([], r)

/-- The entries of a block mapping up to its end. -/
def readBlockEntries (handles : Handles) : Nat → Rest → Option (List (Node × Node) × Rest)
  | 0, _ => none
  | fuel + 1, r =>
    match r.tokens with
    | .blockEnd :: _ => some ([], r.next)
    | .key :: _ => do
      let (key, r) ← readNodeUnless handles true true blockStops fuel r.next
      let (value, r) ←
        if r.at [.value] then readNodeUnless handles true true blockStops fuel r.next
        else some (.blank, r)
      let (entries, r) ← readBlockEntries handles fuel r
      return ((key, value) :: entries, r)
    | _ => none

/-- The items of a flow sequence up to its end, with a comma before each but the first. An item may
be a single entry of a mapping. -/
def readFlowItems (handles : Handles) (first : Bool) : Nat → Rest → Option (List Node × Rest)
  | 0, _ => none
  | fuel + 1, r =>
    if r.at [.flowSequenceEnd] then some ([], r.next)
    else if !first && !r.at [.flowEntry] then none
    else do
      let r := if first then r else r.next
      if r.at [.flowSequenceEnd] then return ([], r.next)
      let (item, r) ←
        if r.at [.key] then readFlowPair handles fuel r.next
        else readNode handles false false fuel r
      let (items, r) ← readFlowItems handles false fuel r
      return (item :: items, r)

/-- The single entry of a mapping inside a flow sequence, behind the mark of its key. Where the key
is blank the token behind the mark is passed over. -/
def readFlowPair (handles : Handles) : Nat → Rest → Option (Node × Rest)
  | 0, _ => none
  | fuel + 1, r => do
    let (key, r) ←
      if r.at [.value, .flowEntry, .flowSequenceEnd] then some (Node.blank, r.next)
      else readNode handles false false fuel r
    let (value, r) ←
      if r.at [.value] then
        readNodeUnless handles false false [.flowEntry, .flowSequenceEnd] fuel r.next
      else some (.blank, r)
    return (.mapping none none [(key, value)], r)

/-- The entries of a flow mapping up to its end, with a comma before each but the first. A node
without the mark of a key is a key without a value. -/
def readFlowEntries (handles : Handles) (first : Bool) :
    Nat → Rest → Option (List (Node × Node) × Rest)
  | 0, _ => none
  | fuel + 1, r =>
    if r.at [.flowMappingEnd] then some ([], r.next)
    else if !first && !r.at [.flowEntry] then none
    else do
      let r := if first then r else r.next
      if r.at [.flowMappingEnd] then return ([], r.next)
      let (entry, r) ←
        if r.at [.key] then do
          let (key, r) ←
            readNodeUnless handles false false [.value, .flowEntry, .flowMappingEnd] fuel r.next
          let (value, r) ←
            if r.at [.value] then
              readNodeUnless handles false false [.flowEntry, .flowMappingEnd] fuel r.next
            else some (.blank, r)
          some ((key, value), r)
        else do
          let (key, r) ← readNode handles false false fuel r
          some ((key, .blank), r)
      let (entries, r) ← readFlowEntries handles false fuel r
      return (entry :: entries, r)

end

/-- The directives of a document: whether its version is given, and its tag handles. -/
def readDirectives : Bool → Handles → List Token → Option (Handles × List Token)
  | versioned, handles, .version major minor :: rest =>
    if versioned || major != 1 || !(minor == 1 || minor == 2) then none
    else readDirectives true handles rest
  | versioned, handles, .tagHandle handle meaning :: rest =>
    if handles.any fun known => known.1 == handle then none
    else readDirectives versioned (handles ++ [(handle, meaning)]) rest
  | _, handles, rest => some (handles, rest)

/-- Whether the document's root comes next, and not the end of the document. -/
def rootFollows : List Token → Bool
  | [] => false
  | .version _ _ :: _ => false
  | .tagHandle _ _ :: _ => false
  | .documentStart :: _ => false
  | .documentEnd :: _ => false
  | _ => true

/-- Whether nothing but ends of documents follows. -/
def isOver (tokens : List Token) : Bool :=
  tokens.all fun token => token == .documentEnd

/-- What a text holds. -/
inductive Document where
  /-- Nothing but comments. -/
  | empty
  | root (node : Node)

/-- A document from its root on. Each step of the reading takes a token or hands on to one of few
others, which bounds their number. -/
def readRoot (handles : Handles) (tokens : List Token) : Option Document := do
  let (node, r) ← readNode handles true false (4 * tokens.length + 4) ⟨tokens, []⟩
  if isOver r.tokens then some (.root node) else none

/-- The document of a list of tokens. Without directives and start mark the first document starts at
once. -/
def Document.ofTokens? (tokens : List Token) : Option Document :=
  match tokens with
  | [] => some .empty
  | .version _ _ :: _ | .tagHandle _ _ :: _ | .documentStart :: _ => do
    let (handles, tokens) ← readDirectives false [] tokens
    match tokens with
    | .documentStart :: rest =>
      if rootFollows rest then readRoot (handles ++ standardHandles) rest
      else if isOver rest then some (.root .blank)
      else none
    | _ => none
  | _ => readRoot standardHandles tokens

/-- The document of a text. -/
def Document.parse? (text : String) : Option Document := do
  Document.ofTokens? (← tokens? text.toList)

mutual

/-- The anchored nodes of a tree with their numbers, in the order of the text. -/
def Node.anchored : Node → List (Nat × Node)
  | .scalar anchor tag isPlain text =>
    (anchor.map fun number => (number, .scalar anchor tag isPlain text)).toList
  | .sequence anchor tag items =>
    (anchor.map fun number => (number, .sequence anchor tag items)).toList ++ itemAnchors items
  | .mapping anchor tag entries =>
    (anchor.map fun number => (number, .mapping anchor tag entries)).toList ++ entryAnchors entries
  | .alias _ => []

/-- The anchored nodes among items. -/
def itemAnchors : List Node → List (Nat × Node)
  | [] => []
  | item :: rest => item.anchored ++ itemAnchors rest

/-- The anchored nodes among entries. -/
def entryAnchors : List (Node × Node) → List (Nat × Node)
  | [] => []
  | (key, value) :: rest => key.anchored ++ value.anchored ++ entryAnchors rest

end

/-- The node itself, or for an alias the last anchored node with its number. -/
def Node.target (anchored : List (Nat × Node)) : Node → Option Node
  | .alias number => (anchored.reverse.find? fun known => known.1 == number).map Prod.snd
  | node => some node

end InlineCompletion.Yaml
