import Hostlink.Yaml.Scanner
/-!
The tree of nodes that a YAML text spells, as far as the text goes. A mapping keeps its entries in
their order, whether or not keys are repeated; where the text stops being YAML, the tree ends with a
node that says so. Readers go through the tree in the order of the text, so that the first fault
they meet is the first one of the text.

`Document.ofText` makes the tree of a text: `tokens` cuts the text into tokens and `Builder.step`
puts one token after the other into the tree.
-/

namespace Hostlink.Yaml

/-- What may stand in front of a node. -/
structure Props where
  /-- The number of its anchor. -/
  anchor : Option Nat := none
  tag : Option Bytes := none
deriving Repr, DecidableEq, Inhabited

/-- A node of a YAML text. -/
inductive Node where
  | scalar (props : Props) (style : Style) (text : String)
  | sequence (props : Props) (items : List Node)
  | mapping (props : Props) (entries : List (Node × Node))
  /-- The node with this anchor. -/
  | alias (anchor : Nat)
  /-- The text stops being YAML here. -/
  | cut
deriving Inhabited

/-- A node that is not written out. -/
def Node.empty (props : Props) : Node :=
  .scalar props .plain ""

/-- A text that holds at most one document. -/
structure Document where
  /-- The root, unless the text holds no document. -/
  root : Option Node
  /-- Whether nothing follows the document. -/
  alone : Bool
deriving Inhabited

/-- An open collection that waits for a node; what came before in it, the last first. -/
inductive Frame where
  /-- An item behind a dash, in a collection that may share its column with the mapping around. -/
  | item (props : Props) (items : List Node) (indentless : Bool)
  | key (props : Props) (entries : List (Node × Node))
  | value (props : Props) (entries : List (Node × Node)) (key : Node)
  | flowItem (props : Props) (items : List Node)
  /-- The key of a pair that is an item of a flow sequence. -/
  | pairKey (props : Props) (items : List Node)
  | pairValue (props : Props) (items : List Node) (key : Node)
  /-- A key in braces; only one behind a question mark, or one with a colon, can have a value. -/
  | flowKey (props : Props) (entries : List (Node × Node)) (marked : Bool)
  | flowValue (props : Props) (entries : List (Node × Node)) (key : Node)
deriving Inhabited

namespace Frame

/-- Whether a token says that the node that is waited for is empty. -/
def leavesEmpty : Frame → Token → Bool
  | item _ _ false, token => [.blockEntry, .blockEnd].contains token
  | item _ _ true, token => [.blockEntry, .key, .value, .blockEnd].contains token
  | key _ _, token => [.key, .value, .blockEnd].contains token
  | value _ _ _, token => [.key, .value, .blockEnd].contains token
  | flowItem _ _, _ => false
  | pairKey _ _, token => [.value, .flowEntry, .flowSequenceEnd].contains token
  | pairValue _ _ _, token => [.flowEntry, .flowSequenceEnd].contains token
  | flowKey _ _ marked, token =>
    marked && [.value, .flowEntry, .flowMappingEnd].contains token
  | flowValue _ _ _, token => [.flowEntry, .flowMappingEnd].contains token

/-- Whether a block collection may start in the place that waits. -/
def isBlock : Frame → Bool
  | item _ _ _ => true
  | key _ _ => true
  | value _ _ _ => true
  | _ => false

/-- Whether a dash may start a sequence in the place that waits. -/
def takesDash : Frame → Bool
  | key _ _ => true
  | value _ _ _ => true
  | _ => false

/-- The collection with one more node in the place that waits, after which it breaks off. -/
def enclose (node : Node) : Frame → Node
  | item props items _ => .sequence props (node :: items).reverse
  | key props entries => .mapping props ((node, .cut) :: entries).reverse
  | value props entries before => .mapping props ((before, node) :: entries).reverse
  | flowItem props items => .sequence props (node :: items).reverse
  | pairKey props items => .sequence props (.mapping {} [(node, .cut)] :: items).reverse
  | pairValue props items before => .sequence props (.mapping {} [(before, node)] :: items).reverse
  | flowKey props entries _ => .mapping props ((node, .cut) :: entries).reverse
  | flowValue props entries before => .mapping props ((before, node) :: entries).reverse

end Frame

/-- A tree under construction, by what may come next. -/
inductive Stage where
  /-- In front of the document and of its directives. -/
  | start
  /-- Behind a directive. -/
  | directives
  /-- Behind the mark that starts a document. -/
  | content
  /-- A node, with what stands in front of it. -/
  | node (props : Props) (outer : List Frame)
  /-- The next item behind a dash, or the end of the sequence. -/
  | nextItem (props : Props) (items : List Node) (indentless : Bool) (outer : List Frame)
  /-- The next key, or the end of the mapping. -/
  | nextKey (props : Props) (entries : List (Node × Node)) (outer : List Frame)
  /-- The value of a key, if it has one. -/
  | nextValue (props : Props) (entries : List (Node × Node)) (key : Node) (outer : List Frame)
  /-- Behind an opening bracket or a comma. -/
  | flowItem (props : Props) (items : List Node) (outer : List Frame)
  /-- Behind an item of a flow sequence. -/
  | flowItemEnd (props : Props) (items : List Node) (outer : List Frame)
  /-- Behind the key of a pair in a flow sequence. -/
  | pairValue (props : Props) (items : List Node) (key : Node) (outer : List Frame)
  /-- Behind an opening brace or a comma. -/
  | flowKey (props : Props) (entries : List (Node × Node)) (outer : List Frame)
  /-- Behind an entry of a flow mapping. -/
  | flowEntryEnd (props : Props) (entries : List (Node × Node)) (outer : List Frame)
  /-- Behind a key of a flow mapping. -/
  | flowValue (props : Props) (entries : List (Node × Node)) (key : Node) (marked : Bool)
      (outer : List Frame)
  /-- Behind the root. -/
  | behind (root : Node)
  | done (document : Document)
deriving Inhabited

namespace Stage

/-- Put a finished node where it is waited for. -/
def deliver (node : Node) : List Frame → Stage
  | [] => .behind node
  | .item props items indentless :: outer => .nextItem props (node :: items) indentless outer
  | .key props entries :: outer => .nextValue props entries node outer
  | .value props entries key :: outer => .nextKey props ((key, node) :: entries) outer
  | .flowItem props items :: outer => .flowItemEnd props (node :: items) outer
  | .pairKey props items :: outer => .pairValue props items node outer
  | .pairValue props items key :: outer =>
    .flowItemEnd props (.mapping {} [(key, node)] :: items) outer
  | .flowKey props entries marked :: outer => .flowValue props entries node marked outer
  | .flowValue props entries key :: outer => .flowEntryEnd props ((key, node) :: entries) outer

/-- The document of which only the open collections are there. -/
def cutOff (outer : List Frame) : Document :=
  ⟨some (outer.foldl Frame.enclose .cut), false⟩

/-- The document, if the text ends here or has a fault. -/
def finish : Stage → Document
  | start | directives | content => cutOff []
  | node _ outer => cutOff outer
  | nextItem props items indentless outer => cutOff (.item props items indentless :: outer)
  | nextKey props entries outer => cutOff (.key props entries :: outer)
  | nextValue props entries key outer => cutOff (.value props entries key :: outer)
  | flowItem props items outer => cutOff (.flowItem props items :: outer)
  | flowItemEnd props items outer => cutOff (.flowItem props items :: outer)
  | pairValue props items key outer => cutOff (.pairValue props items key :: outer)
  | flowKey props entries outer => cutOff (.flowKey props entries false :: outer)
  | flowEntryEnd props entries outer => cutOff (.flowKey props entries false :: outer)
  | flowValue props entries key _ outer => cutOff (.flowValue props entries key :: outer)
  | behind root => ⟨some root, false⟩
  | done document => document

/-- Give up: what came so far is all that can be read. -/
def stop (stage : Stage) : Stage :=
  .done stage.finish

/-- A token where the next key of a mapping is wanted. -/
def takeKey (props : Props) (entries : List (Node × Node)) (outer : List Frame) : Token → Stage
  | .key => .node {} (.key props entries :: outer)
  | .blockEnd => deliver (.mapping props entries.reverse) outer
  | _ => (nextKey props entries outer).stop

/-- A token behind a key of a mapping. -/
def takeValue (props : Props) (entries : List (Node × Node)) (key : Node) (outer : List Frame) :
    Token → Stage
  | .value => .node {} (.value props entries key :: outer)
  | token => takeKey props ((key, .empty {}) :: entries) outer token

/-- A token behind an item of a flow sequence. -/
def takeItemEnd (props : Props) (items : List Node) (outer : List Frame) : Token → Stage
  | .flowEntry => .flowItem props items outer
  | .flowSequenceEnd => deliver (.sequence props items.reverse) outer
  | _ => (flowItemEnd props items outer).stop

/-- A token behind an entry of a flow mapping. -/
def takeEntryEnd (props : Props) (entries : List (Node × Node)) (outer : List Frame) :
    Token → Stage
  | .flowEntry => .flowKey props entries outer
  | .flowMappingEnd => deliver (.mapping props entries.reverse) outer
  | _ => (flowEntryEnd props entries outer).stop

/-- A token behind a node. -/
def resume : Stage → Token → Stage
  | behind root, .documentEnd => .behind root
  | behind root, .streamEnd => .done ⟨some root, true⟩
  | nextItem props items indentless outer, .blockEntry =>
    .node {} (.item props items indentless :: outer)
  | nextItem props items false outer, .blockEnd => deliver (.sequence props items.reverse) outer
  | nextItem props items true outer, token =>
    match deliver (.sequence props items.reverse) outer with
    | nextKey props entries outer => takeKey props entries outer token
    | nextValue props entries key outer => takeValue props entries key outer token
    | stage => stage.stop
  | nextKey props entries outer, token => takeKey props entries outer token
  | nextValue props entries key outer, token => takeValue props entries key outer token
  | flowItemEnd props items outer, token => takeItemEnd props items outer token
  | pairValue props items key outer, .value => .node {} (.pairValue props items key :: outer)
  | pairValue props items key outer, token =>
    takeItemEnd props (.mapping {} [(key, .empty {})] :: items) outer token
  | flowEntryEnd props entries outer, token => takeEntryEnd props entries outer token
  | flowValue props entries key true outer, .value =>
    .node {} (.flowValue props entries key :: outer)
  | flowValue props entries key _ outer, token =>
    takeEntryEnd props ((key, .empty {}) :: entries) outer token
  | stage, _ => stage.stop

end Stage

/-- A document under construction. -/
structure Builder where
  stage : Stage := .start
  /-- Whether the document told its version. -/
  versioned : Bool := false
  /-- What the handles stand for that the document gives a meaning to. -/
  prefixes : List (List Char × Bytes) := []
  /-- The numbers of the anchors, each name with its last one. -/
  anchors : List (String × Nat) := []
deriving Inhabited

namespace Builder

/-- The handles that have a meaning in every document. -/
def commonPrefixes : List (List Char × Bytes) :=
  [(['!'], utf8 ['!']), (['!', '!'], Bytes.ofString "tag:yaml.org,2002:")]

/-- The tag that a name stands for. -/
def resolve (b : Builder) (name : TagName) : Option Bytes :=
  if name.handle.isEmpty then some name.suffix
  else ((b.prefixes ++ commonPrefixes).lookup name.handle).map (· ++ name.suffix)

/-- Take in a directive; there may be one for the version, and one for each handle. -/
def addDirective (b : Builder) : Directive → Option Builder
  | .version major minor =>
    if b.versioned || major ≠ 1 || (minor ≠ 1 && minor ≠ 2) then none
    else some { b with versioned := true }
  | .tagPrefix handle meaning =>
    if (b.prefixes.lookup handle).isSome then none
    else some { b with prefixes := (handle, meaning) :: b.prefixes }

/-- Give an anchor the number of names that were used for anchors before. -/
def addAnchor (b : Builder) (name : String) : Nat × Builder :=
  let number := b.anchors.length
  (number, { b with anchors := (name, number) :: b.anchors.filter (·.1 != name) })

/-- A token that says that a wanted node is empty, or that the text has a fault. -/
def leaveOut (b : Builder) (props : Props) (outer : List Frame) (token : Token) : Builder :=
  if props ≠ {} || outer.head?.any (·.leavesEmpty token) then
    { b with stage := (Stage.deliver (.empty props) outer).resume token }
  else { b with stage := (Stage.node props outer).stop }

/-- A token where a node is wanted. -/
def stepNode (b : Builder) (props : Props) (outer : List Frame) (token : Token) : Builder :=
  let deliver (node : Node) : Builder := { b with stage := .deliver node outer }
  let leaveOut (_ : Unit) : Builder := b.leaveOut props outer token
  let isBlock := outer.head?.all (·.isBlock)
  match token with
  | .alias name =>
    if props ≠ {} then leaveOut ()
    else
      match b.anchors.lookup name with
      | some number => deliver (.alias number)
      | none => { b with stage := (Stage.node props outer).stop }
  | .anchor name =>
    if props.anchor.isSome then leaveOut ()
    else
      let (number, b) := b.addAnchor name
      { b with stage := .node { props with anchor := some number } outer }
  | .tag name =>
    if props.tag.isSome then leaveOut ()
    else
      match b.resolve name with
      | some tag => { b with stage := .node { props with tag := some tag } outer }
      | none => { b with stage := (Stage.node props outer).stop }
  | .scalar style text => deliver (.scalar props style text)
  | .flowSequenceStart => { b with stage := .flowItem props [] outer }
  | .flowMappingStart => { b with stage := .flowKey props [] outer }
  | .blockSequenceStart =>
    if isBlock then { b with stage := .nextItem props [] false outer } else leaveOut ()
  | .blockMappingStart =>
    if isBlock then { b with stage := .nextKey props [] outer } else leaveOut ()
  | .blockEntry =>
    if outer.head?.any (·.takesDash) then
      { b with stage := .node {} (.item props [] true :: outer) }
    else leaveOut ()
  | _ => leaveOut ()

/-- Whether a token says that an announced document is empty. -/
def leavesDocumentEmpty : Token → Bool
  | .directive _ | .documentStart | .documentEnd | .streamEnd => true
  | _ => false

/-- Take one token in. -/
def step (b : Builder) (token : Token) : Builder :=
  match b.stage, token with
  | .start, .streamEnd => { b with stage := .done ⟨none, true⟩ }
  | .start, .documentStart => { b with stage := .content }
  | .start, .directive directive | .directives, .directive directive =>
    match b.addDirective directive with
    | some b => { b with stage := .directives }
    | none => { b with stage := b.stage.stop }
  | .start, token => b.stepNode {} [] token
  | .directives, .documentStart => { b with stage := .content }
  | .content, token =>
    if leavesDocumentEmpty token then
      { b with stage := (Stage.behind (.empty {})).resume token }
    else b.stepNode {} [] token
  | .node props outer, token => b.stepNode props outer token
  | .flowItem props items outer, .flowSequenceEnd =>
    { b with stage := .deliver (.sequence props items.reverse) outer }
  | .flowItem props items outer, .key =>
    { b with stage := .node {} (.pairKey props items :: outer) }
  | .flowItem props items outer, token => b.stepNode {} (.flowItem props items :: outer) token
  | .flowKey props entries outer, .flowMappingEnd =>
    { b with stage := .deliver (.mapping props entries.reverse) outer }
  | .flowKey props entries outer, .key =>
    { b with stage := .node {} (.flowKey props entries true :: outer) }
  | .flowKey props entries outer, token =>
    b.stepNode {} (.flowKey props entries false :: outer) token
  | stage, token => { b with stage := stage.resume token }

end Builder

/-- The document that a text holds. -/
def Document.ofText (text : String) : Document :=
  ((tokens text).foldl Builder.step {}).stage.finish

mutual

/-- The nodes with an anchor, by its number, in the order of the text. -/
def Node.anchored : Node → List (Nat × Node)
  | .scalar props style text =>
    (props.anchor.map (·, .scalar props style text)).toList
  | .sequence props items =>
    (props.anchor.map (·, .sequence props items)).toList ++ Node.anchoredItems items
  | .mapping props entries =>
    (props.anchor.map (·, .mapping props entries)).toList ++ Node.anchoredEntries entries
  | _ => []

/-- The nodes with an anchor inside a sequence. -/
def Node.anchoredItems : List Node → List (Nat × Node)
  | [] => []
  | item :: rest => item.anchored ++ Node.anchoredItems rest

/-- The nodes with an anchor inside a mapping. -/
def Node.anchoredEntries : List (Node × Node) → List (Nat × Node)
  | [] => []
  | (key, value) :: rest => key.anchored ++ value.anchored ++ Node.anchoredEntries rest

end

/-- The node that an alias stands for: of two nodes with one number, the later one. -/
def Document.anchored? (document : Document) (anchor : Nat) : Option Node :=
  (document.root.elim [] Node.anchored).reverse.lookup anchor

end Hostlink.Yaml
