import Winnow.Text.Case

/-!
Settings of reports, read from variables of the environment. Letters of either case count alike, and
a value that is not known counts as if the variable were not set.
-/

namespace Winnow

/-- The variables that bear on reports, as far as they are set. -/
structure ReportVariables where
  debug : Option String := none
  level : Option String := none
  format : Option String := none

inductive ReportLevel where
  | trace
  | debug
  | info
  | warn
  | error
deriving DecidableEq

namespace ReportLevel

def name : ReportLevel → String
  | trace => "trace"
  | debug => "debug"
  | info => "info"
  | warn => "warn"
  | error => "error"

def ofName? (name : String) : Option ReportLevel :=
  [trace, debug, info, warn, error].find? (·.name == name)

end ReportLevel

inductive ReportFormat where
  | json
  | pretty
  | compact
deriving DecidableEq

namespace ReportFormat

def name : ReportFormat → String
  | json => "json"
  | pretty => "pretty"
  | compact => "compact"

def ofName? (name : String) : Option ReportFormat :=
  [json, pretty, compact].find? (·.name == name)

end ReportFormat

namespace ReportVariables

def isEnabled (v : ReportVariables) : Bool :=
  v.debug.any fun value => Text.lowercase value ∈ ["true", "1", "yes"]

/-- The level that is asked for, or else one that depends on whether reports are made. -/
def reportLevel (v : ReportVariables) : ReportLevel :=
  (v.level.bind fun value => ReportLevel.ofName? (Text.lowercase value)).getD
    (if v.isEnabled then .debug else .warn)

def reportFormat (v : ReportVariables) : ReportFormat :=
  (v.format.bind fun value => ReportFormat.ofName? (Text.lowercase value)).getD .json

end ReportVariables

end Winnow
