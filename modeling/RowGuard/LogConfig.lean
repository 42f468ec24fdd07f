import RowGuard.Json.Decode
import RowGuard.Text.Blank
import RowGuard.Text.Case
/-!
How log lines are written.
-/
namespace RowGuard

structure LogConfig where
  /-- One JSON object a line, or plain text. -/
  json : Bool := true
  /-- Which events are logged where nothing else says so. -/
  directive : String := "info"
  deriving DecidableEq, Repr

namespace LogConfig

def standard : LogConfig := {}

/-- The configuration an environment describes; blank directives leave the default. -/
def ofEnvironment (lookup : String → Option String) : LogConfig :=
  { json := !((lookup "ROWGATE_LOG_FORMAT").any fun format =>
      Text.sameLetters (Text.trim format) "plain")
    directive :=
      match lookup "ROWGATE_LOG" with
      | some raw => if Text.isBlankText raw then standard.directive else Text.trim raw
      | none => standard.directive }

def toJson (config : LogConfig) : Json :=
  .obj [("json", .bool config.json), ("default_directive", .str config.directive)]

def fields : List (Json.Decoder.Field LogConfig) :=
  [.defaulted "json" Json.Decoder.boolean fun v c => { c with json := v },
    .defaulted "default_directive" Json.Decoder.text fun v c => { c with directive := v }]

def decode : Json.Decoder LogConfig := Json.Decoder.record fields standard

end LogConfig

end RowGuard
