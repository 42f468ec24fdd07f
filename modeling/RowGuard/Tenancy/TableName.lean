import RowGuard.Text.Blank
import RowGuard.Text.Case
import RowGuard.Text.Split
/-!
Table names up to spelling. Quotes, a schema in front, surrounding white space and the case of
letters do not tell two tables apart.
-/
namespace RowGuard.TableName

def isQuote (c : Char) : Bool := c = '\x60' || c = '"' || c = '[' || c = ']'

def normalChars (cs : List Char) : List Char :=
  (Text.trimChars (Text.afterLast '.' (cs.filter fun c => !isQuote c))).map Char.toLower

/-- The one spelling that stands for all spellings of a table. -/
def normal (table : String) : String := String.ofList (normalChars table.toList)

end RowGuard.TableName
