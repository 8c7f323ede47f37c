/-!
# Elements

A vector drawing is a tree of elements.  An element has a tag, attributes in
order, a text, and children after the text.

An element is written with its attributes in double quotes.  In a text the three
characters that begin or end markup are written as references; in an attribute
so are double quotes, and the controls that a reader would turn into spaces.  An
element without text and children closes itself.
-/

namespace Lifeline.Svg

structure Element where
  tag : String
  attributes : List (String × String) := []
  text : String := ""
  children : List Element := []

namespace Element

def escapeText (char : Char) : List Char :=
  if char = '&' then ['&', 'a', 'm', 'p', ';']
  else if char = '<' then ['&', 'l', 't', ';']
  else if char = '>' then ['&', 'g', 't', ';']
  else [char]

def escapeValue (char : Char) : List Char :=
  if char = '"' then ['&', 'q', 'u', 'o', 't', ';']
  else if char = '\r' then ['&', '#', '1', '3', ';']
  else if char = '\n' then ['&', '#', '1', '0', ';']
  else if char = '\t' then ['&', '#', '0', '9', ';']
  else escapeText char

/-- An attribute as it stands in a tag, after a space. -/
def attributeChars (pair : String × String) : List Char :=
  [' '] ++ pair.1.toList ++ ['=', '"'] ++
    pair.2.toList.flatMap escapeValue ++ ['"']

def tagChars (tag : String) (attributes : List (String × String)) : List Char :=
  ['<'] ++ tag.toList ++ attributes.flatMap attributeChars

mutual

def chars : Element → List Char
  | ⟨tag, attributes, text, children⟩ =>
      if text.isEmpty && children.isEmpty then
        tagChars tag attributes ++ [' ', '/', '>']
      else
        tagChars tag attributes ++ ['>'] ++ text.toList.flatMap escapeText ++
          allChars children ++ ['<', '/'] ++ tag.toList ++ ['>']
termination_by structural element => element

def allChars : List Element → List Char
  | [] => []
  | element :: rest => element.chars ++ allChars rest
termination_by structural elements => elements

end

def render (element : Element) : String :=
  String.ofList element.chars

mutual

/-- The elements of a tree in document order, each without its children. -/
def inOrder : Element → List Element
  | ⟨tag, attributes, text, children⟩ =>
      ⟨tag, attributes, text, []⟩ :: allInOrder children
termination_by structural element => element

def allInOrder : List Element → List Element
  | [] => []
  | element :: rest => element.inOrder ++ allInOrder rest
termination_by structural elements => elements

end

end Element

end Lifeline.Svg
