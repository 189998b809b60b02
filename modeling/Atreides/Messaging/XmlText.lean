import Atreides.Messaging.Xml

/-!
# XML as text

A tree is written as the text of a document: names as they are, texts and attributes with what
would end them escaped. A document is read back as a tree: its line ends are made line feeds
first, references are replaced, and a character that no document holds makes it unreadable. The
reader reads the documents the writer writes, without comments, declarations of types or
instructions; what it reads, it reads as a reader of all documents does.

## Main definitions

* `writeElement`, `writeDocument` — the text of a tree
* `readElement` — the tree of a text, with its names as they are written
* `resolve` — the tree with every name in its namespace
* `readDocument` — the tree of a document
-/

namespace Atreides

namespace XmlText

/-! ## Characters -/

def carriageReturn : Char := Char.ofNat 13

def lineFeed : Char := Char.ofNat 10

def tabulator : Char := Char.ofNat 9

def quotationMark : Char := Char.ofNat 34

/-- A character that a document may hold. -/
def isXmlChar (c : Char) : Bool :=
  c = tabulator || c = lineFeed || c = carriageReturn ||
    (32 ≤ c.toNat && c.toNat ≠ 0xFFFE && c.toNat ≠ 0xFFFF)

/-- Make every line end a line feed. A line feed right after a carriage return is part of one. -/
def lineEnds (afterReturn : Bool) : List Char → List Char
  | [] => []
  | c :: rest =>
    if c = carriageReturn then lineFeed :: lineEnds true rest
    else if afterReturn && c = lineFeed then lineEnds false rest
    else c :: lineEnds false rest

/-! ## Writing -/

/-- A character of a text. -/
def escapeText (c : Char) : List Char :=
  if c = '&' then "&amp;".toList
  else if c = '<' then "&lt;".toList
  else if c = '>' then "&gt;".toList
  else [c]

/-- A character of an attribute. -/
def escapeAttribute (c : Char) : List Char :=
  if c = '&' then "&amp;".toList
  else if c = '<' then "&lt;".toList
  else if c = '>' then "&gt;".toList
  else if c = quotationMark then "&quot;".toList
  else if c = carriageReturn then "&#13;".toList
  else if c = lineFeed then "&#10;".toList
  else if c = tabulator then "&#09;".toList
  else [c]

def writeText (text : List Char) : List Char := text.flatMap escapeText

/-- An attribute, after a space. -/
def writeAttribute (named : String × String) : List Char :=
  ' ' :: (named.1.toList ++ '=' :: quotationMark ::
    (named.2.toList.flatMap escapeAttribute ++ [quotationMark]))

/-- A name as it is written where names of a namespace need no prefix. -/
def writtenName (namespaceUri tag : String) : List Char :=
  let start := XmlElement.openBrace :: namespaceUri.toList ++ [XmlElement.closeBrace]
  if start.isPrefixOf tag.toList then tag.toList.drop start.length else tag.toList

mutual

/-- The text of an element: on its own where it holds nothing. -/
def writeElement (namespaceUri : String) : XmlElement → List Char
  | .element tag attributes text children =>
    '<' :: writtenName namespaceUri tag ++ attributes.flatMap writeAttribute ++
      if text.getD "" = "" ∧ children.isEmpty = true then " />".toList
      else '>' :: (writeText (text.getD "").toList ++ writeElements namespaceUri children ++
        '<' :: '/' :: (writtenName namespaceUri tag ++ ['>']))

def writeElements (namespaceUri : String) : List XmlElement → List Char
  | [] => []
  | child :: rest => writeElement namespaceUri child ++ writeElements namespaceUri rest

end

/-- What a document starts with. -/
def xmlDeclaration : List Char := "<?xml version='1.0' encoding='utf-8'?>\n".toList

/-- The tree with its namespace declared at the root. -/
def declared (namespaceUri : String) : XmlElement → XmlElement
  | .element tag attributes text children =>
    .element tag (("xmlns", namespaceUri) :: attributes) text children

/-- The document of a tree whose root is in a namespace, written without a prefix. -/
def writeDocument (namespaceUri : String) (root : XmlElement) : String :=
  String.ofList (xmlDeclaration ++ writeElement namespaceUri (declared namespaceUri root))

/-! ## Reading -/

/-- The character a reference names. -/
def reference (name : List Char) : Option Char :=
  if name = "amp".toList then some '&'
  else if name = "lt".toList then some '<'
  else if name = "gt".toList then some '>'
  else if name = "quot".toList then some quotationMark
  else if name = "#13".toList then some carriageReturn
  else if name = "#10".toList then some lineFeed
  else if name = "#09".toList then some tabulator
  else none

/-- Read up to a character, and replace the references on the way. The name of a reference that
has begun is kept from its end. -/
def readChars (stop : Char) : Option (List Char) → List Char → Option (List Char × List Char)
  | _, [] => none
  | none, c :: rest =>
    if c = stop then some ([], c :: rest)
    else if c = '&' then readChars stop (some []) rest
    else (readChars stop none rest).map fun p => (c :: p.1, p.2)
  | some name, c :: rest =>
    if c = ';' then
      (reference name.reverse).bind fun d =>
        (readChars stop none rest).map fun p => (d :: p.1, p.2)
    else readChars stop (some (c :: name)) rest

/-- A character of a name. -/
def isNameChar (c : Char) : Bool := c.isAlphanum || c = '.' || c = '-' || c = '_'

/-- A name is of letters and digits without accents, and of three marks. -/
theorem isNameChar_eq (c : Char) :
    isNameChar c =
      ((decide (c.val ≥ 65 ∧ c.val ≤ 90) || c.val ≥ 97 && c.val ≤ 122 ||
        c.val ≥ 48 && c.val ≤ 57) || c = '.' || c = '-' || c = '_') :=
  rfl

/-- A character that an attribute does not hold as it is. -/
def isBarred (c : Char) : Bool := c = '<' || c = lineFeed || c = tabulator

/-- Read an attribute's value after its name, and what follows the value. -/
def readValue : List Char → Option (String × List Char)
  | '=' :: quote :: rest =>
    if quote ≠ quotationMark ∨ (rest.takeWhile (· ≠ quotationMark)).any isBarred = true then none
    else (readChars quotationMark none rest).map fun p => (String.ofList p.1, p.2.tail)
  | _ => none

/-- Read attributes as far as they go. -/
def readAttributes : ℕ → List Char → Option (List (String × String) × List Char)
  | 0, _ => none
  | fuel + 1, chars =>
    if chars.head? = some ' ' ∧ (chars.tail.takeWhile isNameChar).isEmpty = false then
      (readValue (chars.tail.dropWhile isNameChar)).bind fun value =>
        (readAttributes fuel value.2).map fun p =>
          ((String.ofList (chars.tail.takeWhile isNameChar), value.1) :: p.1, p.2)
    else some ([], chars)

/-- What follows a text, where it begins with it. -/
def after (start chars : List Char) : Option (List Char) :=
  if start.isPrefixOf chars then some (chars.drop start.length) else none

/-- The element of what was read between its start and its end. -/
def closeElement (name : List Char) (attributes : List (String × String))
    (content : List Char × List XmlElement × List Char) : Option (XmlElement × List Char) :=
  (after ('<' :: '/' :: (name ++ ['>'])) content.2.2).map fun rest =>
    (.element (String.ofList name) attributes
      (if content.1 = [] then none else some (String.ofList content.1)) content.2.1, rest)

mutual

/-- Read an element, and what follows it. -/
def readElement : ℕ → List Char → Option (XmlElement × List Char)
  | 0, _ => none
  | fuel + 1, chars =>
    (after ['<'] chars).bind fun opened =>
      if (opened.takeWhile isNameChar).isEmpty then none
      else (readAttributes fuel (opened.dropWhile isNameChar)).bind fun read =>
        if ¬ (read.1.map Prod.fst).Nodup then none
        else if (after " />".toList read.2).isSome then
          some (.element (String.ofList (opened.takeWhile isNameChar)) read.1 none [],
            read.2.drop 3)
        else (after ['>'] read.2).bind fun rest =>
          (readContent fuel rest).bind (closeElement (opened.takeWhile isNameChar) read.1)

/-- Read a text, and the elements after it. A text after an element belongs to neither. -/
def readContent : ℕ → List Char → Option (List Char × List XmlElement × List Char)
  | 0, _ => none
  | fuel + 1, chars =>
    (readChars '<' none chars).bind fun text =>
      if (after ['<', '/'] text.2).isSome then some (text.1, [], text.2)
      else (readElement fuel text.2).bind fun child =>
        (readContent fuel child.2).map fun content =>
          (text.1, child.1 :: content.2.1, content.2.2)

end

/-! ## Namespaces -/

/-- A name in the namespace that holds where it is written. -/
def named (namespaceUri tag : String) : String :=
  if namespaceUri = "" then tag else XmlElement.qualified namespaceUri tag

/-- The namespace that holds in an element. -/
def namespaceOf (outer : String) (attributes : List (String × String)) : String :=
  ((attributes.find? fun p => p.1 = "xmlns").map Prod.snd).getD outer

mutual

/-- The tree with every name in its namespace. -/
def resolve (outer : String) : XmlElement → XmlElement
  | .element tag attributes text children =>
    .element (named (namespaceOf outer attributes) tag)
      (attributes.filter fun p => p.1 ≠ "xmlns") text
      (resolveAll (namespaceOf outer attributes) children)

def resolveAll (outer : String) : List XmlElement → List XmlElement
  | [] => []
  | child :: rest => resolve outer child :: resolveAll outer rest

end

/-- The tree of a document. -/
def readDocument (text : String) : Option XmlElement := do
  guard (text.toList.all isXmlChar = true)
  let chars ← after xmlDeclaration (lineEnds false text.toList)
  let (root, rest) ← readElement chars.length chars
  guard (rest = [])
  some (resolve "" root)

end XmlText

end Atreides
