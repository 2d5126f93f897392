import AccruviaHarness.Mermaid.Rules

/-!
# Written flowcharts

The line forms that `_parse_mermaid` knows, as a syntax: headers, and chains of
nodes with links between them.
-/

namespace AccruviaHarness

namespace Mermaid

/-! ## The parts of a line -/

structure Gap where
  characters : List Char
  blank : ∀ character ∈ characters, isPyWhitespace character = true
  inLine : ∀ character ∈ characters, isLineBreak character = false

inductive Shape where
  | quoted
  | square
  | round
  | curly
  deriving DecidableEq, Repr

namespace Shape

def opening : Shape → List Char
  | quoted => ['[', '"']
  | square => ['[']
  | round => ['(']
  | curly => ['\x7b']

def closing : Shape → List Char
  | quoted => ['"', ']']
  | square => [']']
  | round => [')']
  | curly => ['\x7d']

def Fits : Shape → List Char → Prop
  | quoted, label => '"' ∉ label
  | square, label => ']' ∉ label ∧ label.head? ≠ some '"'
  | round, label => ')' ∉ label
  | curly, label => '\x7d' ∉ label

end Shape

structure NodeLabel where
  gap : Gap
  shape : Shape
  label : List Char
  fits : shape.Fits label
  inLine : ∀ character ∈ label, isLineBreak character = false

structure NodeUse where
  id : String
  identifier : isIdentifier id.toList = true
  label : Option NodeLabel

/-- The arrows `-->`, `==>`, `-.->` and `~~~>` with their variants. -/
inductive ArrowForm where
  | solid (further : Nat)
  | thick (further : Nat)
  | dotted (head : Bool)
  | wavy (head : Bool)
  deriving DecidableEq, Repr

def ArrowForm.characters : ArrowForm → List Char
  | solid further => '-' :: '-' :: (List.replicate further '-' ++ ['>'])
  | thick further => '=' :: '=' :: (List.replicate further '=' ++ ['>'])
  | dotted head => '-' :: '.' :: '-' :: if head then ['>'] else []
  | wavy head => '~' :: '~' :: '~' :: if head then ['>'] else []

/-- `|label|`, with the blanks after it. -/
structure LinkLabel where
  label : List Char
  noBar : '|' ∉ label
  inLine : ∀ character ∈ label, isLineBreak character = false
  gap : Gap

structure LinkForm where
  before : Gap
  arrow : ArrowForm
  after : Gap
  label : Option LinkLabel

abbrev Links := List (LinkForm × NodeUse)

/-! ## Their texts -/

def NodeLabel.text (label : NodeLabel) : List Char :=
  label.gap.characters ++ (label.shape.opening ++ (label.label ++ label.shape.closing))

variable (node : NodeUse)

def NodeUse.labelText : List Char :=
  match node.label with
  | none => []
  | some label => label.text

variable (link : LinkForm)

def LinkForm.labelText : List Char :=
  match link.label with
  | none => []
  | some label => '|' :: (label.label ++ '|' :: label.gap.characters)

def LinkForm.text : List Char :=
  link.before.characters ++ (link.arrow.characters ++ (link.after.characters ++ link.labelText))

def restText : NodeUse → Links → List Char
  | node, [] => node.labelText
  | node, (link, next) :: links =>
    node.labelText ++ (link.text ++ (next.id.toList ++ restText next links))

variable (links : Links)

def chainText : List Char := node.id.toList ++ restText node links

def linksText : Links → List Char
  | [] => []
  | (link, next) :: links => link.text ++ chainText next links

theorem restText_eq : restText node links = node.labelText ++ linksText links := by
  cases links with
  | nil => exact (List.append_nil _).symm
  | cons _ _ => rfl

/-! ## What is written -/

def NodeUse.declaration : Option (String × String) :=
  node.label.map fun label => (node.id, String.ofList (strip label.label))

def chainDeclarations : List (String × String) :=
  (node :: links.map Prod.snd).filterMap NodeUse.declaration

def chainEdges : NodeUse → Links → List Edge
  | _, [] => []
  | node, (_, next) :: links => (node.id, next.id) :: chainEdges next links

abbrev LabelPlace := List Char × List Char

def nodePlaces (after : List Char) : List LabelPlace :=
  match node.label with
  | none => []
  | some label => [(label.label, label.shape.closing ++ after)]

def linkPlaces (link : LinkForm) (after : List Char) : List LabelPlace :=
  match link.label with
  | none => []
  | some label => [(label.label, '|' :: (label.gap.characters ++ after))]

def labelPlaces : NodeUse → Links → List LabelPlace
  | node, [] => nodePlaces node []
  | node, (link, next) :: links =>
    nodePlaces node (linksText ((link, next) :: links)) ++
      (linkPlaces link (chainText next links) ++ labelPlaces next links)

def BeginsInLabel (places : List LabelPlace) (text : List Char) : Prop :=
  ∃ place ∈ places, ∃ start, start ≠ [] ∧ start <:+ place.1 ∧
    text = start ++ place.2

/-! ## Lines -/

inductive HeaderWord where
  | flowchart
  | graph
  deriving DecidableEq, Repr

inductive Direction where
  | topDown
  | topBottom
  | bottomTop
  | leftRight
  | rightLeft
  deriving DecidableEq, Repr

def HeaderWord.text : HeaderWord → String
  | flowchart => "flowchart"
  | graph => "graph"

def Direction.text : Direction → String
  | topDown => "TD"
  | topBottom => "TB"
  | bottomTop => "BT"
  | leftRight => "LR"
  | rightLeft => "RL"

inductive LineForm where
  | header (word : HeaderWord) (direction : Direction)
  | chain (node : NodeUse) (links : Links)

namespace LineForm

def text : LineForm → List Char
  | header word direction => word.text.toList ++ ' ' :: direction.text.toList
  | chain node links => chainText node links

def declarations : LineForm → List (String × String)
  | header _ _ => []
  | chain node links => chainDeclarations node links

def edges : LineForm → List Edge
  | header _ _ => []
  | chain node links => chainEdges node links

def places : LineForm → List LabelPlace
  | header _ _ => []
  | chain node links => labelPlaces node links

end LineForm

structure FlowLine where
  indent : Gap
  form : LineForm

def FlowLine.text (line : FlowLine) : List Char := line.indent.characters ++ line.form.text

structure FlowText where
  before : List Char
  lines : List FlowLine
  after : List Char
  blankBefore : ∀ character ∈ before, isPyWhitespace character = true
  blankAfter : ∀ character ∈ after, isPyWhitespace character = true

namespace FlowText

variable (flow : FlowText)

def text : String :=
  String.ofList (flow.before ++ (['\n'].intercalate (flow.lines.map FlowLine.text) ++ flow.after))

def declarations : List (String × String) := flow.lines.flatMap fun line => line.form.declarations

def edges : List Edge := flow.lines.flatMap fun line => line.form.edges

end FlowText

end Mermaid

end AccruviaHarness
