import DeskCalculator.Yaml.Failure

/-!
# Tokens of a document

The lexical units of a YAML document.  Where a block begins and ends follows from the columns; the
tokens say it in so many words.  A document that cannot be read to its end has a last token that
says why: what comes before it may be at fault for another reason, and that counts first.
-/

namespace DeskCalculator.Yaml

/-- A tag as it is written: the handle, unless it is verbatim, and what follows it. -/
structure TagText where
  handle? : Option (List Char)
  suffix : List Char
deriving Repr, DecidableEq

/-- What a line that begins with a percent sign says. -/
inductive Directive where
  | version (major : Nat)
  | tag (handle : List Char) (start : List Char)
  | other
deriving Repr, DecidableEq

/-- A lexical unit. -/
inductive Token where
  | directive (d : Directive)
  | documentStart
  | documentEnd
  | blockSequenceStart
  | blockMappingStart
  | blockEnd
  | flowSequenceStart
  | flowSequenceEnd
  | flowMappingStart
  | flowMappingEnd
  | flowEntry
  | blockEntry
  | key
  | value
  | alias (name : List Char)
  | anchor (name : List Char)
  | tag (t : TagText)
  | scalar (plain : Bool) (text : CodePoints)
  /-- The rest of the document, of which nothing can be said. -/
  | broken (e : Failure)
deriving Repr, DecidableEq

end DeskCalculator.Yaml
