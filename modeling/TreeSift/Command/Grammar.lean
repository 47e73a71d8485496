/-
  TreeSift.Command.Grammar — switches and places of command lines.

  A command line consists of switches, which have names and may take a value,
  and of places, which are filled in order by what is no switch. The program's
  own line ends with a command; what follows the command is a line with a
  grammar of its own.

    §1 Switches  `Switch`
    §2 Places    `Place`
    §3 Grammars  `Grammar`
-/

namespace TreeSift

/-! ## §1 Switches -/

/-- The switches of command lines. -/
inductive Switch where
  | help
  | version
  | config
  | debug
  | logFile
  | directories
  | haltOnBlank
  deriving DecidableEq, Repr

namespace Switch

/-- The names of a switch. -/
def names : Switch → List String
  | help => ["-h", "--help"]
  | version => ["-v", "--version"]
  | config => ["-c", "--config"]
  | debug => ["--debug"]
  | logFile => ["--log-file"]
  | directories => ["-d", "--directories"]
  | haltOnBlank => ["--halt-on-blank"]

/-- Whether a switch takes a value. -/
def takesValue : Switch → Bool
  | config => true
  | logFile => true
  | _ => false

end Switch

/-! ## §2 Places -/

/-- The places of command lines. -/
inductive Place where
  /-- A command with all that follows it. -/
  | command
  | root
  | pattern
  | ruleFiles
  deriving DecidableEq, Repr

/-- How many words a place takes. -/
inductive Extent where
  | one
  /-- One or more, up to the next switch. -/
  | many
  /-- One and all that follow it, switches too. -/
  | rest
  deriving DecidableEq, Repr

/-- The extent of a place. -/
def Place.extent : Place → Extent
  | command => .rest
  | root => .one
  | pattern => .one
  | ruleFiles => .many

/-! ## §3 Grammars -/

/-- The switches and the places of a line. Only the last place takes several words. -/
structure Grammar where
  switches : List Switch
  places : List Place

namespace Grammar

/-- The grammar of the program's own line. -/
def program : Grammar := ⟨[.help, .version, .config, .debug, .logFile], [.command]⟩

/-- The grammar of what follows a command for searching. -/
def search : Grammar := ⟨[.help, .directories], [.root, .pattern]⟩

/-- The grammar of what follows the command for rules. -/
def rules : Grammar := ⟨[.help, .haltOnBlank], [.root, .ruleFiles]⟩

/-- All names of switches, each with its switch. -/
def named (g : Grammar) : List (String × Switch) :=
  g.switches.flatMap fun s => s.names.map fun name => (name, s)

/-- The switch of a name. -/
def switch? (g : Grammar) (name : String) : Option Switch :=
  (g.named.find? fun n => n.1 = name).map Prod.snd

end Grammar

end TreeSift
