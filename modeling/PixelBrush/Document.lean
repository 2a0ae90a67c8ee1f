import PixelBrush.Value

/-! # Documents

A document is a scalar, a list of documents, or a list of named fields.  It
is printed over several lines, with two spaces of indentation for each level,
or inline with brackets and braces.
-/

namespace PixelBrush

/-- A tree of named fields and lists over scalars. -/
inductive Document
  | scalar (payload : Payload)
  | list (items : List Document)
  | fields (entries : List (String × Document))
  deriving Inhabited

namespace Document

def indentation (level : Int) : String :=
  String.ofList (List.replicate (2 * level.toNat) ' ')

mutual

/-- The lines of a document at a level of indentation, unless a number in it
has too many digits. -/
def lines? (level : Int) : Document → Option (List String)
  | scalar payload => payload.plain?.map fun text => [indentation level ++ text]
  | list items => itemLines? level items
  | fields entries => fieldLines? level entries

/-- The lines of the items of a list: a dash, and the item below it. -/
def itemLines? (level : Int) : List Document → Option (List String)
  | [] => some []
  | item :: later => do
      let lines ← lines? (level + 1) item
      let others ← itemLines? level later
      return (indentation level ++ "-") :: "\n".intercalate lines :: others

/-- The lines of fields: a name with its scalar behind it or its document
below it. -/
def fieldLines? (level : Int) : List (String × Document) → Option (List String)
  | [] => some []
  | (name, scalar payload) :: later => do
      let text ← payload.plain?
      let others ← fieldLines? level later
      return (indentation level ++ name ++ ": " ++ text) :: others
  | (name, document) :: later => do
      let lines ← lines? (level + 1) document
      let others ← fieldLines? level later
      return (indentation level ++ name ++ ":") :: "\n".intercalate lines :: others

end

/-- A document printed over several lines.  An empty list, and fields of which
there are none, print as an empty line. -/
def print? (level : Int) (document : Document) : Option String :=
  (lines? level document).map "\n".intercalate

mutual

/-- A document in one line, unless a number in it has too many digits. -/
def inline? : Document → Option String
  | scalar payload => payload.quoted?
  | list items => do
      return "[" ++ ", ".intercalate (← inlineItems? items) ++ "]"
  | fields entries => do
      return "\x7b" ++ ", ".intercalate (← inlineFields? entries) ++ "\x7d"

def inlineItems? : List Document → Option (List String)
  | [] => some []
  | item :: later => do
      return (← inline? item) :: (← inlineItems? later)

def inlineFields? : List (String × Document) → Option (List String)
  | [] => some []
  | (name, document) :: later => do
      return (Text.quoted name ++ ": " ++ (← inline? document)) :: (← inlineFields? later)

end

end Document
end PixelBrush
