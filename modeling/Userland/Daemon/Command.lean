import Userland.Daemon.Config

namespace Userland

/-! # The daemon's command line

The daemon takes seven flags, each defaulting to the setting the
environment gave: `-port`, `-host`, `-root` and `-boot` take text, `-max-pid`
a number, and `-require-tty` and `-dev` are switches. A flag is written with
one dash or two, its value after `=` or, for a flag that is not a switch, as
the next argument; a switch alone is on. Parsing stops at the first argument
that is not a flag, or after `--`.

A flag that is not defined, a missing value or a value that does not read is
an error, reported with the usage text; `-h` and `-help` ask for the usage
text alone. A number reads as an integer literal of a machine word, a switch
as `1`, `t`, `true`, `0`, `f`, `false` and their capitalized forms.

The usage text lists the flags in the order of their names, each with the
kind of value it takes, what it does and its default when that is not the
zero value.
-/

namespace Daemon

/-- The kind of value a flag takes. -/
inductive FlagKind where
  | text
  | number
  | switch
  deriving DecidableEq, Repr, Inhabited

/-- A flag: its name, kind and what it does. -/
structure FlagSpec where
  name : String
  kind : FlagKind
  usage : String
  deriving Repr, Inhabited

/-- The daemon's flags, in the order of their names. -/
def flagSpecs : List FlagSpec :=
  [⟨"boot", .text, "Boot manifest (.yaml, .yml or .toml)"⟩,
   ⟨"dev", .switch, "Development mode (colored logs, debug level)"⟩,
   ⟨"host", .text, "Listen address"⟩,
   ⟨"max-pid", .number, "Process table size"⟩,
   ⟨"port", .text, "Server port"⟩,
   ⟨"require-tty", .switch, "Refuse processes without a terminal unless fully piped"⟩,
   ⟨"root", .text, "Program root directory"⟩]

/-- The value of a flag. -/
inductive FlagValue where
  | text (s : String)
  | number (n : Int)
  | switch (b : Bool)
  deriving DecidableEq, Repr, Inhabited

/-- The text of a flag's value, as its default is shown. -/
def FlagValue.shown : FlagValue → String
  | .text s => Text.quote s
  | .number n => toString n
  | .switch b => if b then "true" else "false"

/-- Whether a flag's value is its kind's zero value. -/
def FlagValue.isZero : FlagValue → Bool
  | .text s => s.isEmpty
  | .number n => n == 0
  | .switch b => !b

/-- The flags' values before parsing: the settings' values. -/
def flagDefaults (cfg : Config) : List (String × FlagValue) :=
  [("boot", .text cfg.bootManifest), ("dev", .switch cfg.logDev), ("host", .text cfg.host),
   ("max-pid", .number cfg.maxPid), ("port", .text cfg.port), ("require-tty", .switch cfg.requireTty),
   ("root", .text cfg.programRoot)]

/-- The usage text for a program name, with the defaults given. -/
def usageText (program : String) (defaults : List (String × FlagValue)) : String :=
  "Usage of " ++ program ++ ":\n" ++ String.join (flagSpecs.map fun f =>
    let kind := match f.kind with
      | .text => " string"
      | .number => " int"
      | .switch => ""
    let dflt := match defaults.lookup f.name with
      | some v => if v.isZero then "" else " (default " ++ v.shown ++ ")"
      | none => ""
    "  -" ++ f.name ++ kind ++ "\n    \t" ++ f.usage ++ dflt ++ "\n")

/-- Why a command line does not parse. -/
inductive CommandError where
  /-- The usage text was asked for. -/
  | help
  | badSyntax (arg : String)
  | undefined (name : String)
  | missingValue (name : String)
  | badSwitch (name value : String)
  | badNumber (name value : String) (outOfRange : Bool)
  deriving DecidableEq, Repr, Inhabited

/-- The error's text; asking for help has none. -/
def CommandError.message : CommandError → String
  | .help => ""
  | .badSyntax arg => "bad flag syntax: " ++ arg
  | .undefined name => "flag provided but not defined: -" ++ name
  | .missingValue name => "flag needs an argument: -" ++ name
  | .badSwitch name value => "invalid boolean value " ++ Text.quote value ++ " for -" ++ name ++ ": parse error"
  | .badNumber name value range =>
    "invalid value " ++ Text.quote value ++ " for flag -" ++ name ++ ": " ++
      (if range then "value out of range" else "parse error")

/-- The value a flag's text gives. -/
def readFlag (f : FlagSpec) (value : String) : Except CommandError FlagValue :=
  match f.kind with
  | .text => .ok (.text value)
  | .switch =>
    match parseFlag? value with
    | some b => .ok (.switch b)
    | none => .error (.badSwitch f.name value)
  | .number =>
    match Text.parseLiteral? value with
    | some n => .ok (.number n)
    | none => .error (.badNumber f.name value (Text.literalValue? value).isSome)

/-- Sets a flag's value among the values. -/
def setFlag (values : List (String × FlagValue)) (name : String) (v : FlagValue) : List (String × FlagValue) :=
  values.map fun (k, old) => if k == name then (k, v) else (k, old)

/-- Parses the arguments from the front: the flags' values, or the first error. -/
def parseFlags : List String → List (String × FlagValue) → Except CommandError (List (String × FlagValue))
  | [], values => .ok values
  | arg :: rest, values =>
    let cs := arg.toList
    if cs.length < 2 || cs.head? != some '-' then .ok values
    else if arg == "--" then .ok values
    else
      let body := if cs.take 2 == ['-', '-'] then cs.drop 2 else cs.drop 1
      if body.isEmpty || body.head? == some '-' || body.head? == some '=' then .error (.badSyntax arg)
      else
        let name := String.ofList (body.takeWhile (· != '='))
        let given : Option String :=
          if body.contains '=' then some (String.ofList (body.drop (name.length + 1))) else none
        match flagSpecs.find? (·.name == name) with
        | none => if name == "help" || name == "h" then .error .help else .error (.undefined name)
        | some f =>
          match f.kind, given with
          | .switch, none => parseFlags rest (setFlag values name (.switch true))
          | _, some v => do parseFlags rest (setFlag values name (← readFlag f v))
          | _, none =>
            match rest with
            | v :: more => do parseFlags more (setFlag values name (← readFlag f v))
            | [] => .error (.missingValue name)

/-- The settings after the flags: a text value, or the setting's own. -/
def textFlag (values : List (String × FlagValue)) (name : String) (d : String) : String :=
  match values.lookup name with
  | some (.text s) => s
  | _ => d

/-- A number flag's value, or the setting's own. -/
def numberFlag (values : List (String × FlagValue)) (name : String) (d : Int) : Int :=
  match values.lookup name with
  | some (.number n) => n
  | _ => d

/-- A switch's value, or the setting's own. -/
def switchFlag (values : List (String × FlagValue)) (name : String) (d : Bool) : Bool :=
  match values.lookup name with
  | some (.switch b) => b
  | _ => d

/-- The settings the command line gives: the flags over the environment's
settings; development mode also logs at debug level. -/
def Config.withFlags (cfg : Config) (values : List (String × FlagValue)) : Config :=
  let dev := switchFlag values "dev" cfg.logDev
  { cfg with
    port := textFlag values "port" cfg.port, host := textFlag values "host" cfg.host,
    programRoot := textFlag values "root" cfg.programRoot,
    bootManifest := textFlag values "boot" cfg.bootManifest,
    maxPid := numberFlag values "max-pid" cfg.maxPid,
    requireTty := switchFlag values "require-tty" cfg.requireTty,
    logDev := dev, logLevel := if dev then "debug" else cfg.logLevel }

end Daemon

end Userland
