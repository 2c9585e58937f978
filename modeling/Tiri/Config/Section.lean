import Tiri.Config.LayoutPart
import Tiri.Config.RecentWindows

/-!
# The config and its sections

`Config` of `niri-config/src/lib.rs`, and what each section of a config file does to it.  Sections
of the same kind are either merged by the rule of their field, or added to a list.
-/

namespace Tiri.NiriConfig

/-- The sections that `m_merge!` merges into a field. -/
inductive MergedField
  | input
  | cursor
  | clipboard
  | hotkeyOverlay
  | configNotification
  | animations
  | blur
  | gestures
  | overview
  | xwaylandSatellite
  | switchEvents
  | debug
  deriving DecidableEq

/-- The multipart sections: each one adds a value. -/
inductive PushedField
  | output
  | spawnAtStartup
  | spawnShAtStartup
  | windowRule
  | layerRule
  | workspace
  deriving DecidableEq

/-- The fields whose contents play no part in how files include each other: their types, and the
    rule that merges a part into a field. -/
structure Schema where
  Field : MergedField → Type
  Part : MergedField → Type
  default : ∀ field, Field field
  mergeWith : ∀ field, Field field → Part field → Field field
  Item : PushedField → Type

structure EnvironmentVariable where
  name : String
  value : Option String

/-- The names of the sections. -/
inductive SectionName
  | merged (field : MergedField)
  | pushed (field : PushedField)
  | binds
  | environment
  | preferNoCsd
  | screenshotPath
  | layout
  | recentWindows
  deriving DecidableEq

/-- What a section of the name decodes to. -/
def SectionName.Part (schema : Schema) : SectionName → Type
  | merged field => schema.Part field
  | pushed field => schema.Item field
  | binds => List Bind
  | environment => List EnvironmentVariable
  | preferNoCsd => Bool
  | screenshotPath => Option String
  | layout => LayoutPart
  | recentWindows => RecentWindowsPart

/-- A decoded section. -/
structure Section (schema : Schema) where
  name : SectionName
  part : name.Part schema

structure Config (schema : Schema) where
  merged : ∀ field, schema.Field field
  pushed : ∀ field, List (schema.Item field)
  layout : Layout
  preferNoCsd : Bool
  screenshotPath : Option String
  environment : List EnvironmentVariable
  binds : List Bind
  recentWindows : RecentWindows

variable {schema : Schema}

/-- `Config::default()`. -/
def Config.default (schema : Schema) : Config schema where
  merged := schema.default
  pushed _ := []
  layout := .default
  preferNoCsd := false
  screenshotPath := some "~/Pictures/Screenshots/Screenshot from %Y-%m-%d %H-%M-%S.png"
  environment := []
  binds := []
  recentWindows := .default

/-- The config under construction, and whether a section with MRU binds has been seen. -/
structure Building (schema : Schema) where
  config : Config schema
  sawMruBinds : Bool

/-- The config before the first section. -/
def Building.start (schema : Schema) : Building schema :=
  ⟨.default schema, false⟩

variable (building : Building schema)

/-- The first section with MRU binds clears the default ones. -/
def Building.mergeRecentWindows (part : RecentWindowsPart) : Building schema :=
  let first := !building.sawMruBinds && part.binds.isSome
  let recentWindows := building.config.recentWindows
  let cleared := if first then { recentWindows with binds := [] } else recentWindows
  { config := { building.config with recentWindows := cleared.mergeWith part }
    sawMruBinds := first || building.sawMruBinds }

/-- A section is merged into the config. -/
def Building.merge : Section schema → Building schema
  | ⟨.merged field, part⟩ =>
    let merged := building.config.merged
    { building with config.merged :=
        Function.update merged field (schema.mergeWith field (merged field) part) }
  | ⟨.pushed field, item⟩ =>
    let pushed := building.config.pushed
    { building with config.pushed :=
        Function.update pushed field ((pushed field).concat item) }
  | ⟨.binds, new⟩ => { building with config.binds := mergeBinds building.config.binds new }
  | ⟨.environment, new⟩ =>
    { building with config.environment := building.config.environment.append new }
  | ⟨.preferNoCsd, flag⟩ => { building with config.preferNoCsd := flag }
  | ⟨.screenshotPath, path⟩ => { building with config.screenshotPath := path }
  | ⟨.layout, part⟩ => { building with config.layout := building.config.layout.mergeWith part }
  | ⟨.recentWindows, part⟩ => building.mergeRecentWindows part

/-- Sections are merged in order. -/
def Building.mergeAll (sections : List (Section schema)) : Building schema :=
  sections.foldl merge building

@[simp] theorem Building.mergeAll_cons (head : Section schema) (tail : List (Section schema)) :
    building.mergeAll (head :: tail) = (building.merge head).mergeAll tail :=
  rfl

theorem Building.mergeAll_append (first second : List (Section schema)) :
    building.mergeAll (first ++ second) = (building.mergeAll first).mergeAll second :=
  List.foldl_append

/-- A section as it is merged: in the main file a border that says neither is turned on. -/
def Section.adjusted (main : Bool) : Section schema → Section schema
  | ⟨.layout, part⟩ => ⟨.layout, if main then LayoutPart.borderOn part else part⟩
  | sect => sect

end Tiri.NiriConfig
