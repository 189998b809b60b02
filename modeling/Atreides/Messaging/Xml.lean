import Atreides.Foundation.Dict
import Atreides.Kernel

/-!
# XML trees

The trees that messages are built as and read back as. Turning a tree into bytes and bytes
into a tree is the work of a library, whose two functions are gathered in `XmlLibrary`.

## Main definitions

* `XmlElement` — an element with its tag, attributes, text and children
* `XmlElement.iter` — an element and all below it, in document order
* `XmlElement.localname` — a tag without its namespace
-/

namespace Atreides

/-- An element of an XML tree. -/
inductive XmlElement
  | element (tag : String) (attributes : List (String × String)) (text : Option String)
    (children : List XmlElement)

namespace XmlElement

def tag : XmlElement → String
  | .element tag _ _ _ => tag

def attributes : XmlElement → List (String × String)
  | .element _ attributes _ _ => attributes

def text : XmlElement → Option String
  | .element _ _ text _ => text

def children : XmlElement → List XmlElement
  | .element _ _ _ children => children

/-- An element that holds only a text. -/
def leaf (tag text : String) : XmlElement := .element tag [] (some text) []

/-- An element that holds only other elements. -/
def group (tag : String) (children : List XmlElement) : XmlElement :=
  .element tag [] none children

mutual

/-- The element and all below it, in document order. -/
def iter : XmlElement → List XmlElement
  | .element tag attributes text children =>
    .element tag attributes text children :: iterAll children

/-- The elements of a list of trees, in document order. -/
def iterAll : List XmlElement → List XmlElement
  | [] => []
  | child :: rest => iter child ++ iterAll rest

end

/-! ## Names -/

def openBrace : Char := Char.ofNat 123

def closeBrace : Char := Char.ofNat 125

/-- The tag of a name in a namespace. -/
def qualified (namespaceUri name : String) : String :=
  String.ofList [openBrace] ++ namespaceUri ++ String.ofList [closeBrace] ++ name

/-- The part of a tag after its namespace. -/
def localname (tag : String) : String :=
  String.ofList (tag.toList.reverse.takeWhile (· ≠ closeBrace)).reverse

end XmlElement

/-- The XML library's two functions. Bytes that are not a document have no tree. -/
structure XmlLibrary where
  fromstring : Bytes → Option XmlElement
  tostring : XmlElement → Bytes

end Atreides
