import Harvest.Markup.Insertion

/-!
Contract: documents, and the ways through them.

The nodes of a document are numbered in document order, and every node but the
outermost has a parent with a smaller number. The node with number zero stands for
the document itself. `ofText` builds the document of any text; no text is refused.
-/

namespace Harvest.Markup

/-- A node, with the number of the node it lies in. -/
structure Node where
  content : Content
  parent : Option Nat

/-- A document: nodes in document order, each behind its parent. -/
structure Document where
  nodes : Array Node
  parent_lt : ∀ (place : Nat) (bound : place < nodes.size) (parent : Nat),
    nodes[place].parent = some parent → parent < place

namespace Document

def empty : Document :=
  ⟨#[], by intro place bound; simp at bound⟩

instance : Inhabited Document :=
  ⟨empty⟩

def size (document : Document) : Nat :=
  document.nodes.size

def push (document : Document) (content : Content) (parent : Option Nat) : Document where
  nodes := document.nodes.push ⟨content, parent.filter (· < document.size)⟩
  parent_lt := by
    intro place bound parent' lies
    rw [Array.getElem_push] at lies
    split at lies
    case isTrue inside => exact document.parent_lt place inside parent' lies
    case isFalse outside =>
      have last : place = document.nodes.size := by
        simp [Array.size_push] at bound
        omega
      simp [Option.filter_eq_some_iff] at lies
      simp [last, size] at lies ⊢
      omega

def content? (document : Document) (node : Nat) : Option Content :=
  (document.nodes[node]?).map (·.content)

def element? (document : Document) (node : Nat) : Option Element :=
  match document.content? node with
  | some (.element element) => some element
  | _ => none

def parent? (document : Document) (node : Nat) : Option Nat :=
  (document.nodes[node]?).bind (·.parent)

theorem parent?_lt {document : Document} {node parent : Nat}
    (lies : document.parent? node = some parent) : parent < node := by
  simp only [parent?, Option.bind_eq_some_iff] at lies
  obtain ⟨found, here, lies⟩ := lies
  obtain ⟨bound, rfl⟩ := Array.getElem?_eq_some_iff.mp here
  exact document.parent_lt node bound parent lies

/-- The nodes that a node lies in, the nearest first. -/
def ancestors (document : Document) (node : Nat) : List Nat :=
  match lies : document.parent? node with
  | none => []
  | some parent =>
    have : parent < node := parent?_lt lies
    parent :: ancestors document parent
termination_by node

def places (document : Document) : List Nat :=
  List.range document.size

def isElement (document : Document) (node : Nat) : Bool :=
  (document.element? node).isSome

def elements (document : Document) : List Nat :=
  document.places.filter document.isElement

/-- The nodes directly inside a node, in document order. -/
def children (document : Document) (node : Nat) : List Nat :=
  document.places.filter fun place => document.parent? place == some node

def childElements (document : Document) (node : Nat) : List Nat :=
  (document.children node).filter document.isElement

def isInside (document : Document) (inner outer : Nat) : Bool :=
  (document.ancestors inner).contains outer

def descendants (document : Document) (node : Nat) : List Nat :=
  document.places.filter fun place => document.isInside place node

def name? (document : Document) (node : Nat) : Option String :=
  (document.element? node).map (·.name)

/-- The value of an attribute of the element that a node is. -/
def attribute? (document : Document) (node : Nat) (name : String) : Option String :=
  (document.element? node).bind fun element => element.attributes.lookup name

def text? (document : Document) (node : Nat) : Option String :=
  match document.content? node with
  | some (.text text) => some text
  | _ => none

def textInside (document : Document) (node : Nat) : String :=
  String.join ((document.descendants node).filterMap document.text?)

/-- The number of nodes in a node, itself included. -/
def extent (document : Document) (node : Nat) : Nat :=
  (document.descendants node).length + 1

/-- Adds the nodes of a builder, in document order. The work lists nodes of the builder with the number of
the node they go into; the fuel is a bound on the number of nodes. -/
def addAll (cells : Array Cell) : (fuel : Nat) → (work : List (Nat × Option Nat)) → Document → Document
  | 0, _, document => document
  | _, [], document => document
  | fuel + 1, (node, parent) :: work, document =>
    match cells[node]? with
    | none => addAll cells fuel work document
    | some cell =>
      let inside := cell.children.toList.map fun child => (child, some document.size)
      addAll cells fuel (inside ++ work) (document.push cell.content parent)

def ofBuilder (builder : Builder) : Document :=
  addAll builder.cells (builder.cells.size + 1) [(0, none)] empty

/-- The characters of a text as markup reads them: no mark of the octet order in front, and each line break
one line feed. -/
def characters (text : String) : List Char :=
  match text.toList with
  | first :: rest => normalLines (if first.toNat = 0xFEFF then rest else first :: rest)
  | [] => []

def ofText (text : String) : Document :=
  let characters := characters text
  let (_, builder) := (Build.applyAll (characters.length + 1) characters).run
    { cells := #[⟨.document, none, #[]⟩] }
  ofBuilder builder

/-- The document of a text that stands inside a body. -/
def ofFragment (text : String) : Document :=
  let characters := characters text
  let build : Build Unit := do
    let _ ← Build.openImplied "html"
    Build.resetMode
    Build.applyAll (characters.length + 1) characters
  let (_, builder) := build.run { cells := #[⟨.document, none, #[]⟩], isFragment := true }
  ofBuilder builder

def decodedText (text : String) : String :=
  (ofFragment text).textInside 0

end Document

end Harvest.Markup
