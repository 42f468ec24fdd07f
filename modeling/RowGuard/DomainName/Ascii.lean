import RowGuard.DomainName.Direction
import RowGuard.DomainName.Joining
import RowGuard.DomainName.Mapping
import RowGuard.Text.Punycode
/-!
Domain names in ASCII. A name is spelled, its letters and marks are composed, and every label with
other characters than ASCII is written in ASCII behind a mark. A label that has the mark already
must be one that would have been written so.
-/
namespace RowGuard.DomainName

open Text

def marked? : List Char → Option (List Char)
  | 'x' :: 'n' :: '-' :: '-' :: rest => some rest
  | _ => none

def isProper (label : List Char) : Bool :=
  label.all Mapping.keeps && Composition.compose label == label

def longestWritten : Nat := 1000

def longestMarked : Nat := 2000

def readLabel (label : List Char) : Option (List Char) :=
  match marked? label with
  | none =>
    if label.all Punycode.isAscii || label.length ≤ longestWritten then some label else none
  | some rest => do
    let read ←
      if rest.all Punycode.isAscii && rest.length ≤ longestMarked then Punycode.decode rest
      else none
    if read.all Punycode.isAscii || (marked? read).isSome || !isProper read then none
    else some read

def isValid (label : List Char) : Bool :=
  !label.head?.any isMark && Joining.areSeen [] label

def labelText (label : List Char) : String :=
  if label.all Punycode.isAscii then String.ofList label
  else "xn--" ++ String.ofList (Punycode.encode label)

def toAscii? (name : List Char) : Option String := do
  let spelled ← Mapping.chars? name
  let labels ← (splitChars '.' (Composition.compose spelled)).mapM readLabel
  if labels.all isValid && Direction.areSteady labels then
    some (join "." (labels.map labelText))
  else none

end RowGuard.DomainName
