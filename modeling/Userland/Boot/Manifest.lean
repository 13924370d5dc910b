import Userland.Config.Yaml
import Userland.Config.Toml
import Userland.Decimal.Shortest
import Userland.Text.Quoted
import Userland.Text.Utf8

namespace Userland

/-! # Boot manifests

A boot manifest lists the programs to launch when the supervisor starts. It
is written in YAML or TOML, and each entry gives a program's path, its
arguments and working directory, whether its input and output may be piped,
the earlier entry whose output feeds its input, and whether to start it and
wait for it.

Reading a manifest follows the typing of each format. From YAML, a text field
takes any scalar, a number or boolean as its text and null as the empty text;
a flag takes only a boolean or null. From TOML every field must have its own
type, and a value that does not fit is reported the way a common decoder
reports it, before any failure of the text after it. Keys that name no field
are ignored.

A manifest is valid when every entry has a path, names are unique, and an
entry's `stdin_from` names an earlier entry.
-/

namespace Boot

/-- One entry of a manifest. -/
structure Program where
  name : String
  path : String
  args : List String
  cwd : String
  pipeStdin : Bool
  pipeStdout : Bool
  stdinFrom : String
  start : Bool
  wait : Bool
  deriving Inhabited, Repr

/-- The programs of a manifest, in order. -/
structure Manifest where
  programs : List Program
  deriving Inhabited, Repr

/-- An entry with nothing set. -/
def Program.empty : Program :=
  ⟨"", "", [], "", false, false, "", false, false⟩

/-- Why a manifest could not be read. -/
inductive ManifestError where
  /-- The YAML text does not read as a manifest, and why. -/
  | yaml (detail : String)
  /-- The TOML text does not read as a manifest, and why. -/
  | toml (detail : String)
  /-- The format is unknown, or the manifest is not valid. -/
  | invalid (message : String)
  /-- The decoder stopped outright, and why: a TOML date or time was put
  where text, a flag, a list or an entry goes. -/
  | crash (detail : String)
  deriving Inhabited, Repr

/-- The text of a manifest's failure to read. -/
def ManifestError.message : ManifestError → String
  | .yaml d => "YAML parse error: " ++ d
  | .toml d => "TOML parse error: " ++ d
  | .invalid msg => msg
  | .crash d => "panic: " ++ d

/-- The first problem of a manifest, if any. -/
def Manifest.problem (m : Manifest) : Option String :=
  go m.programs 0 []
where
  go : List Program → Nat → List String → Option String
    | [], _, _ => none
    | p :: rest, i, seen =>
      if p.path = "" then some ("program " ++ toString i ++ ": path is required")
      else if p.stdinFrom ≠ "" && !seen.contains p.stdinFrom then
        some ("program " ++ toString i ++ " (" ++ p.path ++ "): stdin_from " ++ Text.quote p.stdinFrom ++
          " does not name an earlier program")
      else if p.name ≠ "" && seen.contains p.name then
        some ("program " ++ toString i ++ ": duplicate name " ++ Text.quote p.name)
      else go rest (i + 1) (if p.name ≠ "" then p.name :: seen else seen)

/-- Sets the field a key names in an entry, with a reader for each kind of
field; each reader is told the key it reads. -/
def Program.set {ε α : Type} (text : String → α → Except ε String) (flag : String → α → Except ε Bool)
    (list : String → α → Except ε (List String)) (p : Program) (key : String) (v : α) : Except ε Program :=
  match key with
  | "name" => do return { p with name := ← text key v }
  | "path" => do return { p with path := ← text key v }
  | "args" => do return { p with args := ← list key v }
  | "cwd" => do return { p with cwd := ← text key v }
  | "pipe_stdin" => do return { p with pipeStdin := ← flag key v }
  | "pipe_stdout" => do return { p with pipeStdout := ← flag key v }
  | "stdin_from" => do return { p with stdinFrom := ← text key v }
  | "start" => do return { p with start := ← flag key v }
  | "wait" => do return { p with wait := ← flag key v }
  | _ => return p

namespace FromYaml

open Yaml

/-! A document is read into a manifest the way a decoder of YAML into typed
records does it. A record takes a mapping: its keys (with those of merged
mappings, which may not repeat a key written beside them) select the fields,
which are read in the record's own order. A key that is not text leaves the
whole record empty. A collection under a tag is not taken for a record or a
list. -/

/-- A text field: any scalar, as the decoder prints its value; null is empty. -/
def text (fuel : Nat) (n : Node) : Except Unit String :=
  match n with
  | .seq _ | .map _ => .error ()
  | _ =>
    match n.datum fuel with
    | .ok .null => .ok ""
    | .ok (.bool b) => .ok (if b then "true" else "false")
    | .ok (.int i) => .ok (toString i)
    | .ok (.float x) => .ok (Decimal.generalText x)
    | .ok (.str s) => .ok s
    | .ok (.bytes bs) => .ok (Utf8.decodeLossy bs)
    | _ => .error ()

/-- A flag: a boolean, or null for false. -/
def flag (fuel : Nat) (n : Node) : Except Unit Bool :=
  match n.datum fuel with
  | .ok .null => .ok false
  | .ok (.bool b) => .ok b
  | _ => .error ()

/-- A list of texts: a sequence of scalars (null ones empty), or null for none. -/
def list (fuel : Nat) : Node → Except Unit (List String)
  | .seq items => items.mapM (text fuel)
  | .plain s =>
    match resolve s with
    | .null => .ok []
    | _ => .error ()
  | _ => .error ()

/-- The keys of a mapping as a record's fields see them: each text key with
its node, merged mappings' keys among them. A key written twice is an error,
and a key that is not text gives no keys at all. -/
def fieldNodes : Nat → List (Node × Node) → List (String × Node) → Except Unit (List (String × Node))
  | 0, _, _ => .error ()
  | _, [], acc => .ok acc
  | fuel + 1, (k, v) :: rest, acc =>
    if k.isMergeKey then
      match v with
      | .map es => do
        let merged ← fieldNodes fuel es []
        let acc ← merged.foldlM (fun acc (k', v') =>
          if acc.any (·.1 == k') then .error () else .ok (acc ++ [(k', v')])) acc
        fieldNodes fuel rest acc
      | _ => .error ()
    else
      match k.datum fuel with
      | .ok (.str key) => if acc.any (·.1 == key) then .error () else fieldNodes fuel rest (acc ++ [(key, v)])
      | .ok _ => .ok []
      | .error _ => .error ()

/-- The keys of an entry, in the order of its fields. -/
def programKeys : List String :=
  ["name", "path", "args", "cwd", "pipe_stdin", "pipe_stdout", "stdin_from", "start", "wait"]

/-- An entry: a mapping, or null for an entry with nothing set. -/
def program (fuel : Nat) : Node → Except Unit Program
  | .map entries => do
    let fields ← fieldNodes fuel entries []
    let step (acc : Program × Bool) (key : String) : Program × Bool :=
      match fields.lookup key with
      | none => acc
      | some v =>
        match acc.1.set (fun _ => text fuel) (fun _ => flag fuel) (fun _ => list fuel) key v with
        | .ok p => (p, acc.2)
        | .error () => (acc.1, true)
    match programKeys.foldl step (Program.empty, false) with
    | (p, false) => .ok p
    | (_, true) => .error ()
  | .plain s =>
    match resolve s with
    | .null => .ok Program.empty
    | _ => .error ()
  | _ => .error ()

/-- A manifest from a stream's first document, if it has one; a null document is no manifest. -/
def manifest (fuel : Nat) : Option Node → Except Unit Manifest
  | none => .ok ⟨[]⟩
  | some (.map entries) => do
    let fields ← fieldNodes fuel entries []
    match fields.lookup "programs" with
    | none => .ok ⟨[]⟩
    | some (.seq items) => return ⟨← items.mapM (program fuel)⟩
    | some (.plain s) =>
      match resolve s with
      | .null => .ok ⟨[]⟩
      | _ => .error ()
    | some _ => .error ()
  | some _ => .error ()

end FromYaml

namespace FromToml

open Toml

/-- A field of the manifest as a decoder names it when a value does not fit:
the record it belongs to, its name, and its type. -/
structure Field where
  owner : String
  name : String
  type : String

/-- The list of programs. -/
def programsField : Field := ⟨"boot.Manifest", "Programs", "[]boot.Program"⟩

/-- The field of an entry a key names. -/
def fieldOf (key : String) : Field :=
  let named (name type : String) : Field := ⟨"boot.Program", name, type⟩
  match key with
  | "name" => named "Name" "string"
  | "path" => named "Path" "string"
  | "args" => named "Args" "[]string"
  | "cwd" => named "Cwd" "string"
  | "pipe_stdin" => named "PipeStdin" "bool"
  | "pipe_stdout" => named "PipeStdout" "bool"
  | "stdin_from" => named "StdinFrom" "string"
  | "start" => named "Start" "bool"
  | "wait" => named "Wait" "bool"
  | _ => named key "string"

/-- Why a value does not go where the manifest puts it. -/
inductive Misfit where
  /-- The decoder reports it, in these words. -/
  | report (detail : String)
  /-- The decoder stops outright, in these words. -/
  | crash (detail : String)

/-- The failure of a value put where something of another kind goes: `kind`
is the kind of the place (`string`, `bool`, `slice` or `struct`), and `f` the
field being set, which the failures for integers and arrays name. A date or
time is checked first; one that reads cannot be stored anywhere in a
manifest, and the decoder stops. -/
def refuse (f : Field) (kind : String) : Value → Misfit
  | .str _ => .report ("toml: cannot store TOML string into a Go " ++ kind)
  | .int _ => .report ("toml: cannot decode TOML integer into struct field " ++ f.owner ++ "." ++ f.name ++
      " of type " ++ f.type)
  | .float _ => .report ("toml: float cannot be assigned to " ++ kind)
  | .bool b => .report ("toml: cannot assign boolean to a " ++ (if b then "true" else "false"))
  | .datetime m text =>
    match checkMoment m text with
    | .error e => .report ("toml: " ++ e)
    | .ok () =>
      .crash ("reflect.Set: value of type " ++ m.typeName ++ " is not assignable to type " ++
        (if kind = "struct" then "boot.Program" else f.type))
  | .malformed _ reason => .report ("toml: " ++ reason)
  | .array _ => .report ("toml: cannot decode TOML array into struct field " ++ f.owner ++ "." ++ f.name ++
      " of type " ++ f.type)
  | .table _ =>
    if kind = "slice" then .report "toml: cannot store a table in a slice"
    else .report ("toml: cannot store inline table in Go type " ++ kind)

/-- A text field: a string. -/
def text (f : Field) : Value → Except Misfit String
  | .str s => .ok s
  | v => .error (refuse f "string" v)

/-- A flag: a boolean. -/
def flag (f : Field) : Value → Except Misfit Bool
  | .bool b => .ok b
  | v => .error (refuse f "bool" v)

/-- A list of texts: an array of strings. -/
def list (f : Field) : Value → Except Misfit (List String)
  | .array items => items.mapM (text f)
  | v => .error (refuse f "slice" v)

/-- An entry: a table; keys that name no field are not read. -/
def program : Value → Except Misfit Program
  | .table entries =>
    entries.foldlM (fun p (k, v) => p.set (text ∘ fieldOf) (flag ∘ fieldOf) (list ∘ fieldOf) k v) Program.empty
  | v => .error (refuse programsField "struct" v)

/-- A manifest from a document's root table. -/
def manifest (root : List (String × Value)) : Except Misfit Manifest :=
  match root.lookup "programs" with
  | none => .ok ⟨[]⟩
  | some (.array items) => return ⟨← items.mapM program⟩
  | some v => .error (refuse programsField "slice" v)

end FromToml

/-- Reads a manifest in a format, `yaml` (or `yml`) or `toml` in any case, and checks it. -/
def Manifest.parse (data : String) (format : String) : Except ManifestError Manifest := do
  let m ← match format.toLower with
    | "yaml" | "yml" =>
      match Yaml.parse data with
      | .error e => .error (.yaml (Yaml.report data e))
      | .ok root =>
        match FromYaml.manifest (data.length + 2) root with
        | .ok m => pure m
        | .error () => .error (.yaml "cannot unmarshal the document into a manifest")
    | "toml" =>
      let doc := Toml.parse data
      match FromToml.manifest doc.root, doc.failure with
      | .error (.report e), _ => .error (.toml e)
      | .error (.crash d), _ => .error (.crash d)
      | .ok _, some e => .error (.toml ("toml: " ++ e))
      | .ok m, none => pure m
    | _ => .error (.invalid ("unsupported manifest format " ++ Text.quote format))
  match m.problem with
  | some msg => .error (.invalid msg)
  | none => return m

/-- The extension of a path's last element, without its dot; empty when it has none. -/
def extension (path : String) : String :=
  let base := (path.splitOn "/").getLast?.getD ""
  match (base.splitOn ".").reverse with
  | ext :: _ :: _ => ext
  | _ => ""

end Boot

end Userland
