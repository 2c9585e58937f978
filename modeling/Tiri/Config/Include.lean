import Tiri.Config.Section

/-!
# Decoding a config file and the files it includes

`ConfigPart::decode_children` and `Config::parse` of `niri-config/src/lib.rs`.  Every included file
is parsed with a context of its own; the config under construction, the list of the includes and
their errors are shared between them.

How many files are nested is not bounded here: `parseWithContext` takes the number of levels it may
go down, and has no result if they do not suffice.
-/

namespace Tiri.NiriConfig

/-! ## Paths -/

/-- A name in a path: text, or bytes that are not UTF-8. -/
inductive OsString
  | text (string : String)
  | bytes (raw : List (BitVec 8))
  deriving DecidableEq

def OsString.toStr : OsString → Option String
  | text string => some string
  | bytes _ => none

/-- What a path starts with. -/
inductive PathStart
  | relative
  | curDir
  | rootDir
  deriving DecidableEq

/-- A `Component` after the start: `.` and empty ones are left out. -/
inductive Component
  | parentDir
  | normal (name : OsString)
  deriving DecidableEq

/-- `PathBuf`, by the components that paths are compared by. -/
structure PathBuf where
  start : PathStart
  components : List Component
  deriving DecidableEq

namespace PathBuf

/-- `PathBuf::default()`. -/
def empty : PathBuf := ⟨.relative, []⟩

variable (self : PathBuf)

/-- `join`: an absolute path replaces the base. -/
def join (path : PathBuf) : PathBuf :=
  match path.start with
  | .rootDir => path
  | .relative | .curDir =>
    if self = empty then path else ⟨self.start, self.components ++ path.components⟩

def fileName : Option OsString :=
  match self.components.getLast? with
  | some (.normal name) => some name
  | some .parentDir | none => none

def parent : Option PathBuf :=
  match self.components, self.start with
  | [], .relative | [], .rootDir => none
  | [], .curDir => some empty
  | _ :: _, _ => some ⟨self.start, self.components.dropLast⟩

/-- `strip_prefix("~")`. -/
def stripTilde : Option PathBuf :=
  match self.start, self.components with
  | .relative, .normal (.text "~") :: rest => some ⟨.relative, rest⟩
  | _, _ => none

/-- The directory that the includes of a file are relative to. -/
def base : PathBuf :=
  self.parent.getD empty

end PathBuf

/-! ## Nodes of a config file -/

/-- What decoding a node or a value gives: the errors it emits on the way, and its result. -/
structure Decoded (α : Type) where
  emitted : List String
  result : Except String α

/-- A value decoded without errors. -/
def Decoded.clean {α : Type} (value : α) : Decoded α := ⟨[], .ok value⟩

/-- An `include` node. -/
structure Include where
  arguments : List (Decoded PathBuf)
  properties : List (String × Decoded Bool)
  children : List String

/-- A node of a config file. -/
inductive Node (schema : Schema)
  | sect (name : SectionName) (decoded : Decoded (name.Part schema))
  | include (node : Include)
  | other (name : String)

inductive NodeName
  | sect (name : SectionName)
  | include
  | other (name : String)
  deriving DecidableEq

/-- The nodes that may stand several times in a file. -/
def NodeName.multipart : NodeName → Bool
  | .sect (.pushed _) => true
  | .include => true
  | .sect _ => false
  | .other _ => false

/-- `fs::read_to_string`, and the nodes of the text unless it is not KDL. -/
inductive ReadResult (schema : Schema)
  | ok (parsed : Option (List (Node schema)))
  | err (notFound : Bool) (message : String)

/-- What parsing a config reads besides its text. -/
structure Env (schema : Schema) where
  /-- `std::env::home_dir()`. -/
  home : Option PathBuf
  readToString : PathBuf → ReadResult schema

/-! ## Errors -/

inductive DecodeError
  /-- What decoding a section or a value reports. -/
  | decode (message : String)
  /-- "duplicate node, single node expected" -/
  | duplicateNode (name : NodeName)
  /-- "unexpected node" -/
  | unexpectedNode (name : String)
  /-- "additional argument for include path is required" -/
  | missingArgument
  /-- "unexpected argument" -/
  | unexpectedArgument
  /-- "unexpected property" -/
  | unexpectedProperty (name : String)
  /-- "error retrieving home directory to expand" the path -/
  | noHomeDir (path : PathBuf)
  /-- "reached the recursion limit; includes cannot be 10 levels deep" -/
  | recursionLimit
  /-- "include path doesn't have a valid file name" -/
  | noFileName
  /-- "recursive include (file includes itself)" -/
  | recursiveInclude
  /-- "failed to parse included config" -/
  | failedToParse
  /-- "failed to read included config from" the path -/
  | failedToRead (path : PathBuf) (message : String)

/-- `knuffel::Error`. -/
inductive ParseError
  | notKdl
  | decode (errors : List DecodeError)

variable {schema : Schema}

/-- The errors that were emitted. -/
def Decoded.errors {α : Type} (self : Decoded α) : List DecodeError :=
  self.emitted.map .decode

/-- `node.node_name`. -/
def Node.name : Node schema → NodeName
  | .sect name _ => .sect name
  | .include _ => .include
  | .other name => .other name

/-! ## Decoding -/

def recursionLimit : ℕ := 10

/-- What the contexts of all files share. -/
structure Shared (schema : Schema) where
  building : Building schema
  includes : List PathBuf
  includeErrors : List ParseError

/-- What each file has in its context. -/
structure Ctx where
  basePath : PathBuf
  recursion : ℕ
  includeStack : List PathBuf

/-- The context of an included file. -/
def Ctx.nested (ctx : Ctx) (path : PathBuf) : Ctx where
  basePath := path.base
  recursion := ctx.recursion + 1
  includeStack := path :: ctx.includeStack

/-- How decoding a node ends: a `?` stops the whole file. -/
structure Outcome (schema : Schema) where
  shared : Shared schema
  errors : List DecodeError
  stop : Bool

/-- A section is merged, if it decodes. -/
def decodeSection (ctx : Ctx) (name : SectionName) (decoded : Decoded (name.Part schema))
    (shared : Shared schema) : Outcome schema :=
  match decoded.result with
  | .error message => ⟨shared, decoded.errors ++ [.decode message], true⟩
  | .ok part =>
    let sect := (Section.mk name part).adjusted (ctx.recursion == 0)
    ⟨{ shared with building := shared.building.merge sect }, decoded.errors, false⟩

/-- The loop over the properties of an `include`: its errors, and whether it is optional. -/
def decodeProperties : List (String × Decoded Bool) → Bool → List DecodeError × Option Bool
  | [], optional => ([], some optional)
  | (name, value) :: rest, optional =>
    if name = "optional" then
      match value.result with
      | .error message => (value.errors ++ [.decode message], none)
      | .ok optional =>
        let (errors, result) := decodeProperties rest optional
        (value.errors ++ errors, result)
    else
      let (errors, result) := decodeProperties rest optional
      (.unexpectedProperty name :: errors, result)

/-- The path of an `include` and whether it is optional, unless a `?` stops. -/
def Include.decode (node : Include) : List DecodeError × Option (PathBuf × Bool) :=
  match node.arguments with
  | [] => ([.missingArgument], none)
  | pathVal :: rest =>
    match pathVal.result with
    | .error message => (pathVal.errors ++ [.decode message], none)
    | .ok path =>
      let extra := if rest.isEmpty then [] else [.unexpectedArgument]
      match decodeProperties node.properties false with
      | (errors, none) => (pathVal.errors ++ extra ++ errors, none)
      | (errors, some optional) =>
        (pathVal.errors ++ extra ++ errors ++ node.children.map .unexpectedNode,
          some (path, optional))

variable (env : Env schema)

/-- The path is relative to the home directory after `~`, and to the base directory otherwise. -/
def Env.expand (base path : PathBuf) : Option PathBuf :=
  match path.stripTilde with
  | some rest => env.home.map fun home => home.join rest
  | none => some (base.join path)

/-- A parser of included files. -/
def Parser (schema : Schema) : Type :=
  Ctx → Option (List (Node schema)) → Shared schema → Option (Shared schema × Option ParseError)

/-- The part of the `include` branch after the path is expanded. -/
def includeFile (parse : Parser schema) (ctx : Ctx) (path : PathBuf) (optional : Bool)
    (shared : Shared schema) : Option (Shared schema × List DecodeError) :=
  if ctx.recursion + 1 = recursionLimit then some (shared, [.recursionLimit])
  else if path.fileName.bind OsString.toStr = none then some (shared, [.noFileName])
  else if path ∈ ctx.includeStack then some (shared, [.recursiveInclude])
  else
    -- Stored even if it fails to read or parse, so it gets watched.
    let shared := { shared with includes := shared.includes ++ [path] }
    match env.readToString path with
    | .ok parsed =>
      match parse (ctx.nested path) parsed shared with
      | none => none
      | some (shared, none) => some (shared, [])
      | some (shared, some err) =>
        some ({ shared with includeErrors := shared.includeErrors ++ [err] }, [.failedToParse])
    | .err notFound message =>
      some (shared, if optional && notFound then [] else [.failedToRead path message])

/-- The `include` branch. -/
def decodeInclude (parse : Parser schema) (ctx : Ctx) (node : Include) (shared : Shared schema) :
    Option (Outcome schema) :=
  match node.decode with
  | (errors, none) => some ⟨shared, errors, true⟩
  | (errors, some (given, optional)) =>
    match env.expand ctx.basePath given with
    | none => some ⟨shared, errors ++ [.noHomeDir given], false⟩
    | some path =>
      (includeFile env parse ctx path optional shared).map fun (shared, more) =>
        ⟨shared, errors ++ more, false⟩

/-- What a node that is no duplicate does. -/
def decodeNode (parse : Parser schema) (ctx : Ctx) (node : Node schema) (shared : Shared schema) :
    Option (Outcome schema) :=
  match node with
  | .sect name decoded => some (decodeSection ctx name decoded shared)
  | .include node => decodeInclude env parse ctx node shared
  | .other name => some ⟨shared, [.unexpectedNode name], false⟩

/-- `ConfigPart::decode_children`, with the errors it leaves in the context. -/
def decodeChildren (env : Env schema) (parse : Parser schema) (ctx : Ctx) :
    List (Node schema) → List NodeName → Shared schema →
      Option (Shared schema × List DecodeError)
  | [], _, shared => some (shared, [])
  | node :: nodes, seen, shared =>
    if !node.name.multipart && decide (node.name ∈ seen) then
      (decodeChildren env parse ctx nodes seen shared).map fun (shared, errors) =>
        (shared, .duplicateNode node.name :: errors)
    else
      let seen := if node.name.multipart then seen else node.name :: seen
      match decodeNode env parse ctx node shared with
      | none => none
      | some outcome =>
        if outcome.stop then some (outcome.shared, outcome.errors)
        else
          (decodeChildren env parse ctx nodes seen outcome.shared).map fun (shared, errors) =>
            (shared, outcome.errors ++ errors)

/-- `knuffel::parse_with_context`, which fails when an error was emitted.  The files are nested at
    most `fuel` deep. -/
def parseWithContext (env : Env schema) : ℕ → Parser schema
  | 0, _, _, _ => none
  | _ + 1, _, none, shared => some (shared, some .notKdl)
  | fuel + 1, ctx, some nodes, shared =>
    (decodeChildren env (parseWithContext env fuel) ctx nodes [] shared).map
      fun (shared, errors) => (shared, if errors.isEmpty then none else some (.decode errors))

structure ConfigIncludeError where
  main : ParseError
  includes : List ParseError

structure ConfigParseResult (schema : Schema) where
  config : Except ConfigIncludeError (Config schema)
  includes : List PathBuf

/-- `Config::parse`. -/
def Config.parse (fuel : ℕ) (path : PathBuf) (parsed : Option (List (Node schema))) :
    Option (ConfigParseResult schema) :=
  let ctx : Ctx := ⟨path.base, 0, [path]⟩
  (parseWithContext env fuel ctx parsed ⟨.start schema, [], []⟩).map fun (shared, err) =>
    { config :=
        match err with
        | none => .ok shared.building.config
        | some main => .error ⟨main, shared.includeErrors⟩
      includes := shared.includes }

end Tiri.NiriConfig
