import Tiri.Config.IncludeExpand
import Tiri.Config.Outputs

/-!
# The names of the configured workspaces

`WorkspaceName::raw_decode` of `niri-config/src/workspace.rs`: the names that a file has used so
far are kept in the context it is decoded with, and an included file has a context of its own.

Results:
* `Expands.files`: the names of a config are those written in the main file and, as often as they
  are included, in the included ones; those of one file are different;
* `workspaces_distinct_iff`: those of an accepted config are different exactly when no two of these
  files share one.
-/

namespace Tiri.NiriConfig

open Option List

/-! ## Workspaces in a file -/

/-- `niri_config::Workspace`. -/
structure Workspace where
  name : String
  openOnOutput : Option String
  layout : Option LayoutPart

/-- The workspaces of a config, with any other sections. -/
def Schema.withWorkspaces (schema : Schema) : Schema :=
  { schema with
    Item := fun
      | .workspace => Workspace
      | field => schema.Item field }

/-- `knuffel::ast::Value`: a string or another literal, with or without a type name. -/
structure Value where
  typed : Bool
  string : Option String

/-- A `workspace` node: its arguments, and what its properties and children decode to. -/
structure WorkspaceNode where
  arguments : List Value
  rest : Decoded (Option String × Option LayoutPart)

/-- A node of a config file, before the names of its workspaces are checked. -/
inductive RawNode (schema : Schema)
  | workspace (node : WorkspaceNode)
  | other (node : Node schema.withWorkspaces) (other : node.name ≠ .sect (.pushed .workspace))

/-- Two names are the same but for ASCII case. -/
def Alike (a b : String) : Prop := eqIgnoreAsciiCase a.toList b.toList = true

instance (a b : String) : Decidable (Alike a b) := by
  unfold Alike
  infer_instance

/-- `type_check`, and `raw_decode` with the `WorkspaceNameSet` of the context: what it decodes to,
    and the set afterwards. -/
def decodeName (nameSet : List String) (val : Value) : (List String × String) × List String :=
  let mistyped := if val.typed then ["no type name expected for this node"] else []
  match val.string with
  | some s =>
    if nameSet.any fun name => eqIgnoreAsciiCase name.toList s.toList then
      ((mistyped ++ ["duplicate named workspace: " ++ s], ""), nameSet)
    else
      ((mistyped, s), nameSet ++ [s])
  | none => ((mistyped ++ ["workspace names must be strings"], ""), nameSet)

/-- `Workspace::decode_node`. -/
def WorkspaceNode.decode (node : WorkspaceNode) (nameSet : List String) :
    Decoded Workspace × List String :=
  match node.arguments with
  | [] => (⟨[], .error "additional argument `name` is required"⟩, nameSet)
  | val :: extra =>
    let ((errors, name), nameSet) := decodeName nameSet val
    let errors := errors ++ if extra.isEmpty then [] else ["unexpected argument"]
    (⟨errors ++ node.rest.emitted,
      node.rest.result.map fun (openOnOutput, layout) => ⟨name, openOnOutput, layout⟩⟩, nameSet)

variable {schema : Schema}

/-- The nodes of a file, each decoded with the names before it. -/
def decodeNodes : List String → List (RawNode schema) → List (Node schema.withWorkspaces)
  | _, [] => []
  | nameSet, .workspace node :: nodes =>
    let (decoded, nameSet) := node.decode nameSet
    .sect (.pushed .workspace) decoded :: decodeNodes nameSet nodes
  | nameSet, .other node _ :: nodes => node :: decodeNodes nameSet nodes

/-- A file begins without names. -/
def decodeFile (nodes : List (RawNode schema)) : List (Node schema.withWorkspaces) :=
  decodeNodes [] nodes

/-- `fs::read_to_string`, and the nodes of the text unless it is not KDL. -/
inductive RawResult (schema : Schema)
  | ok (parsed : Option (List (RawNode schema)))
  | err (notFound : Bool) (message : String)

/-- The files, before the names of their workspaces are checked. -/
structure Files (schema : Schema) where
  home : Option PathBuf
  readToString : PathBuf → RawResult schema

/-- Every file is decoded with a context of its own. -/
def Files.env (files : Files schema) : Env schema.withWorkspaces where
  home := files.home
  readToString path :=
    match files.readToString path with
    | .ok parsed => .ok (parsed.map decodeFile)
    | .err notFound message => .err notFound message

/-- `Config::parse`, with what decodes the names. -/
def Files.parse (files : Files schema) (fuel : ℕ) (path : PathBuf)
    (parsed : Option (List (RawNode schema))) : Option (ConfigParseResult schema.withWorkspaces) :=
  Config.parse files.env fuel path (parsed.map decodeFile)

/-- `name` of an item of `config.workspaces`. -/
def itemName (item : schema.withWorkspaces.Item .workspace) : String :=
  Workspace.name item

/-- The names of `config.workspaces`. -/
def Config.workspaceNames (config : Config schema.withWorkspaces) : List String :=
  (config.pushed .workspace).map itemName

/-! ## The names that are written -/

/-- The name that a `workspace` node gives. -/
def WorkspaceNode.writtenName (node : WorkspaceNode) : Option String :=
  node.arguments.head?.bind Value.string

/-- The names in a file, and those in each of the files that it leads to, which are listed as
    often as they are included. -/
inductive Writes (files : Files schema) :
    PathBuf → List (RawNode schema) → List String → List (List String) → Prop
  | nil {base : PathBuf} : Writes files base [] [] []
  | workspace {base : PathBuf} {node : WorkspaceNode} {name : String} {nodes : List (RawNode schema)}
      {own : List String} {included : List (List String)} (hname : node.writtenName = some name)
      (hrest : Writes files base nodes own included) :
      Writes files base (.workspace node :: nodes) (name :: own) included
  | sect {base : PathBuf} {name : SectionName} {decoded : Decoded (name.Part schema.withWorkspaces)}
      {other : (Node.sect name decoded).name ≠ .sect (.pushed .workspace)}
      {nodes : List (RawNode schema)} {own : List String} {included : List (List String)}
      (hrest : Writes files base nodes own included) :
      Writes files base (.other (.sect name decoded) other :: nodes) own included
  | include {base path : PathBuf} {node : Include}
      {other : (Node.include node : Node schema.withWorkspaces).name ≠ .sect (.pushed .workspace)}
      {inner nodes : List (RawNode schema)} {own own' : List String}
      {included included' : List (List String)} (htarget : files.env.target base node = some path)
      (hread : files.readToString path = .ok (some inner))
      (hinner : Writes files path.base inner own' included')
      (hrest : Writes files base nodes own included) :
      Writes files base (.other (.include node) other :: nodes) own
        ((own' :: included') ++ included)
  | missing {base path : PathBuf} {node : Include}
      {other : (Node.include node : Node schema.withWorkspaces).name ≠ .sect (.pushed .workspace)}
      {nodes : List (RawNode schema)} {own : List String} {included : List (List String)}
      {notFound : Bool} {message : String} (htarget : files.env.target base node = some path)
      (hread : files.readToString path = .err notFound message)
      (hrest : Writes files base nodes own included) :
      Writes files base (.other (.include node) other :: nodes) own included

variable {base : PathBuf}

/-- There is one list for each file. -/
theorem Writes.unique {files : Files schema} {nodes : List (RawNode schema)}
    {own own' : List String} {included included' : List (List String)}
    (h : Writes files base nodes own included) (h' : Writes files base nodes own' included') :
    own = own' ∧ included = included' := by
  induction h generalizing own' included' with
  | nil =>
    cases h'
    exact ⟨rfl, rfl⟩
  | workspace hname _ ih =>
    cases h' with
    | workspace hname' hrest' =>
      obtain ⟨rfl, rfl⟩ := ih hrest'
      exact ⟨by rw [some.inj (hname.symm.trans hname')], rfl⟩
  | sect _ ih =>
    cases h' with
    | sect hrest' => exact ih hrest'
  | «include» htarget hread _ _ ihinner ih =>
    cases h' with
    | «include» htarget' hread' hinner' hrest' =>
      obtain rfl := some.inj (htarget.symm.trans htarget')
      rw [hread] at hread'
      obtain rfl := some.inj (RawResult.ok.inj hread')
      obtain ⟨rfl, rfl⟩ := ihinner hinner'
      obtain ⟨rfl, rfl⟩ := ih hrest'
      exact ⟨rfl, rfl⟩
    | missing htarget' hread' _ =>
      obtain rfl := some.inj (htarget.symm.trans htarget')
      rw [hread] at hread'
      cases hread'
  | missing htarget hread _ ih =>
    cases h' with
    | «include» htarget' hread' _ _ =>
      obtain rfl := some.inj (htarget.symm.trans htarget')
      rw [hread] at hread'
      cases hread'
    | missing _ _ hrest' => exact ih hrest'

/-! ## Names that are different -/

/-- Two names are different, whatever their ASCII case. -/
def Apart (a b : String) : Prop := ¬Alike a b

instance : DecidableRel Apart := fun a b => by
  unfold Apart
  infer_instance

variable {a b : String}

theorem Alike.symm (h : Alike a b) : Alike b a := by
  unfold Alike eqIgnoreAsciiCase at h ⊢
  simp only [decide_eq_true_eq] at h ⊢
  exact h.symm

theorem Apart.symm (h : Apart a b) : Apart b a := fun h' => h h'.symm

/-- Two files share no name. -/
def FilesApart (names names' : List String) : Prop := ∀ a ∈ names, ∀ b ∈ names', Apart a b

variable {nameSet : List String}

/-- A name that decodes without errors was not used yet, and is now. -/
theorem decodeName_clean {val : Value} (h : (decodeName nameSet val).1.1 = []) :
    ∃ s, val.string = some s ∧
      decodeName nameSet val = (([], s), nameSet ++ [s]) ∧ ∀ name ∈ nameSet, Apart name s := by
  unfold decodeName at h ⊢
  cases hstring : val.string with
  | none =>
    rw [hstring] at h
    simp at h
  | some s =>
    rw [hstring] at h
    dsimp only at h ⊢
    by_cases hused : (nameSet.any fun name => eqIgnoreAsciiCase name.toList s.toList) = true
    · rw [if_pos hused] at h
      simp at h
    · rw [if_neg hused] at h ⊢
      refine ⟨s, rfl, by dsimp only at h; rw [h], fun name hmem halike => hused ?_⟩
      exact any_eq_true.mpr ⟨name, hmem, halike⟩

/-- A workspace that decodes without errors has the name it gives, which was not used yet. -/
theorem WorkspaceNode.decode_clean {node : WorkspaceNode} {workspace : Workspace}
    (h : (node.decode nameSet).1 = .clean workspace) :
    node.writtenName = some workspace.name ∧
      (node.decode nameSet).2 = nameSet ++ [workspace.name] ∧
      ∀ name ∈ nameSet, Apart name workspace.name := by
  unfold decode writtenName at *
  cases hargs : node.arguments with
  | nil =>
    rw [hargs] at h
    cases h
  | cons val extra =>
    rw [hargs] at h
    dsimp only at h ⊢
    obtain ⟨hemitted, hresult⟩ := Decoded.eq_clean_iff.mp h
    simp only [append_eq_nil_iff] at hemitted
    obtain ⟨s, hs, hdecode, hapart⟩ := decodeName_clean hemitted.1.1
    cases hrest : node.rest.result with
    | error message =>
      rw [hrest] at hresult
      cases hresult
    | ok parts =>
      rw [hrest, hdecode] at hresult
      obtain rfl : s = workspace.name := congrArg Workspace.name (Except.ok.inj hresult)
      rw [hdecode]
      exact ⟨hs, rfl, hapart⟩

/-- The name of a workspace section. -/
def Section.workspaceName : Section schema.withWorkspaces → Option String
  | ⟨.pushed .workspace, part⟩ => some (itemName part)
  | _ => none

theorem Building.pushed_merge (building : Building schema) (field : PushedField)
    (item : schema.Item field) :
    (building.merge ⟨.pushed field, item⟩).config.pushed field =
      building.config.pushed field ++ [item] := by
  rw [← concat_eq_append]
  exact Function.update_self ..

/-- Each workspace section adds its name. -/
theorem Building.workspaceNames_mergeAll (building : Building schema.withWorkspaces)
    (sections : List (Section schema.withWorkspaces)) :
    (building.mergeAll sections).config.workspaceNames =
      building.config.workspaceNames ++ sections.filterMap Section.workspaceName := by
  induction sections generalizing building with
  | nil => exact (append_nil _).symm
  | cons head tail ih =>
    rw [mergeAll_cons, ih]
    obtain ⟨name, part⟩ := head
    cases name with
    | pushed field =>
      cases field with
      | workspace =>
        have hname : (Section.mk (.pushed .workspace) part : Section schema.withWorkspaces).workspaceName =
          some (itemName part) := rfl
        rw [filterMap_cons_some hname, Config.workspaceNames,
          Building.pushed_merge building .workspace part, map_append, append_assoc]
        rfl
      | output | spawnAtStartup | spawnShAtStartup | windowRule | layerRule =>
        rw [filterMap_cons_none rfl]
        simp [Building.merge, Config.workspaceNames]
    | merged | binds | environment | preferNoCsd | screenshotPath | layout | recentWindows => rfl

/-- Another section has no such name, adjusted or not. -/
theorem workspaceName_adjusted (main : Bool) {name : SectionName}
    (part : name.Part schema.withWorkspaces)
    (hother : (Node.sect name (.clean part)).name ≠ .sect (.pushed .workspace)) :
    ((Section.mk name part).adjusted main).workspaceName = none := by
  cases name with
  | pushed field =>
    cases field with
    | workspace => exact absurd rfl hother
    | output | spawnAtStartup | spawnShAtStartup | windowRule | layerRule => rfl
  | merged | binds | environment | preferNoCsd | screenshotPath | layout | recentWindows => rfl

/-! ## The names of a config -/

variable {path : PathBuf} {nodes : List (Node schema.withWorkspaces)}

theorem Files.read_ok {files : Files schema} (h : files.env.readToString path = .ok (some nodes)) :
    ∃ raw, files.readToString path = .ok (some raw) ∧ decodeFile raw = nodes := by
  unfold Files.env at h
  dsimp only at h
  split at h
  next parsed hread =>
    obtain ⟨raw, rfl, hraw⟩ := map_eq_some_iff.mp (ReadResult.ok.inj h)
    exact ⟨raw, hread, hraw⟩
  next => cases h

theorem Files.read_err {files : Files schema} {notFound : Bool} {message : String}
    (h : files.env.readToString path = .err notFound message) :
    files.readToString path = .err notFound message := by
  unfold Files.env at h
  dsimp only at h
  split at h
  next => cases h
  next hread =>
    obtain ⟨rfl, rfl⟩ := ReadResult.err.inj h
    exact hread

/-- **The names of an expansion** are those that are written, file by file; and those of one file
    are different. -/
theorem Expands.files {files : Files schema} {main : Bool}
    {sections : List (Section schema.withWorkspaces)}
    (h : Expands files.env main base nodes sections) :
    ∀ (nameSet : List String) (raw : List (RawNode schema)), decodeNodes nameSet raw = nodes →
      ∃ own included, Writes files base raw own included ∧
        (sections.filterMap Section.workspaceName).Perm (own ++ included.flatten) ∧
        own.Pairwise Apart ∧ (∀ name ∈ nameSet, ∀ other ∈ own, Apart name other) ∧
        ∀ names ∈ included, names.Pairwise Apart := by
  induction h with
  | nil =>
    intro nameSet raw hraw
    cases raw with
    | nil => exact ⟨[], [], .nil, .refl _, .nil, by simp, by simp⟩
    | cons node raw => cases node <;> cases hraw
  | @sect main base name part nodes sections hrest ih =>
    intro nameSet raw hraw
    cases raw with
    | nil => cases hraw
    | cons node raw =>
      cases node with
      | workspace node =>
        obtain ⟨rfl, hdecoded⟩ := Node.sect.inj (List.cons.inj hraw).1
        have hnodes : decodeNodes (node.decode nameSet).2 raw = nodes := (List.cons.inj hraw).2
        obtain ⟨hname, hset, hapart⟩ := WorkspaceNode.decode_clean (eq_of_heq hdecoded)
        rw [hset] at hnodes
        obtain ⟨own, included, hwrites, hperm, hown, hset', hincluded⟩ := ih _ raw hnodes
        refine ⟨_, included, .workspace hname hwrites, ?_, ?_, ?_, hincluded⟩
        · cases main <;> exact hperm.cons _
        · refine pairwise_cons.mpr ⟨fun other hother => ?_, hown⟩
          exact hset' _ (mem_append_right _ (mem_singleton_self _)) other hother
        · intro other hother name hmem
          rcases mem_cons.mp hmem with rfl | hmem
          · exact hapart other hother
          · exact hset' other (mem_append_left _ hother) name hmem
      | other node hother =>
        obtain ⟨rfl, hnodes⟩ := List.cons.inj hraw
        obtain ⟨own, included, hwrites, hperm, hown, hset, hincluded⟩ := ih nameSet raw hnodes
        refine ⟨own, included, .sect hwrites, ?_, hown, hset, hincluded⟩
        rwa [filterMap_cons_none (workspaceName_adjusted main part hother)]
  | @«include» main base path node inner nodes innerSections sections htarget hread hinner hrest
      ihinner ih =>
    intro nameSet raw hraw
    cases raw with
    | nil => cases hraw
    | cons rawNode raw =>
      cases rawNode with
      | workspace _ => cases hraw
      | other other hother =>
        obtain ⟨rfl, hnodes⟩ := List.cons.inj hraw
        obtain ⟨own, included, hwrites, hperm, hown, hset, hincluded⟩ := ih nameSet raw hnodes
        obtain ⟨rawInner, hrawRead, hdecode⟩ := Files.read_ok hread
        obtain ⟨own', included', hwrites', hperm', hown', -, hincluded'⟩ :=
          ihinner [] rawInner hdecode
        refine ⟨own, _, .include htarget hrawRead hwrites' hwrites, ?_, hown, hset, ?_⟩
        · rw [filterMap_append, flatten_append, flatten_cons]
          refine (hperm'.append hperm).trans ?_
          rw [← append_assoc, ← append_assoc]
          exact perm_append_comm.append_right _
        · intro names hnames
          rcases mem_append.mp hnames with hmem | hmem
          · rcases mem_cons.mp hmem with rfl | hmem
            · exact hown'
            · exact hincluded' names hmem
          · exact hincluded names hmem
  | @missing main base path node nodes sections notFound message htarget hread hrest ih =>
    intro nameSet raw hraw
    cases raw with
    | nil => cases hraw
    | cons rawNode raw =>
      cases rawNode with
      | workspace _ => cases hraw
      | other other hother =>
        obtain ⟨rfl, hnodes⟩ := List.cons.inj hraw
        obtain ⟨own, included, hwrites, hrest⟩ := ih nameSet raw hnodes
        exact ⟨own, included, .missing htarget (Files.read_err hread) hwrites, hrest⟩

variable {names : List String}

/-- The names of a list of files are different exactly when those of each file are, and no two
    files share one. -/
theorem pairwise_apart_iff {written : List (List String)} (hperm : names.Perm written.flatten)
    (hfiles : ∀ file ∈ written, file.Pairwise Apart) :
    names.Pairwise Apart ↔ written.Pairwise FilesApart := by
  rw [hperm.pairwise_iff fun h => h.symm, pairwise_flatten]
  exact ⟨fun h => h.2, fun h => ⟨hfiles, h⟩⟩

/-- An accepted config is the merge of the expansion of its main file. -/
theorem Files.parse_expansion {files : Files schema} {fuel : ℕ} (hfuel : recursionLimit ≤ fuel)
    {raw : Option (List (RawNode schema))} {result : ConfigParseResult schema.withWorkspaces}
    {config : Config schema.withWorkspaces} (hparse : files.parse fuel path raw = some result)
    (hconfig : result.config = .ok config) :
    ∃ nodes sections, raw = some nodes ∧
      Expands files.env true path.base (decodeFile nodes) sections ∧
      config = ((Building.start schema.withWorkspaces).mergeAll sections).config := by
  have hcorrect : Correct files.env (parseWithContext files.env fuel) ⟨path.base, 0, [path]⟩ :=
    parseWithContext_correct (Nat.succ_pos _) (hfuel.trans (Nat.le_add_left ..))
  obtain ⟨shared, err, hrun, hok, hmerged⟩ :=
    hcorrect (raw.map decodeFile) ⟨.start schema.withWorkspaces, [], []⟩
  unfold Files.parse Config.parse at hparse
  dsimp only at hparse
  rw [hrun, map_some, some.injEq] at hparse
  subst hparse
  cases err with
  | some err => cases hconfig
  | none =>
    obtain ⟨nodes, hnodes, -⟩ := hok.mp rfl
    obtain ⟨rawNodes, rfl, rfl⟩ := map_eq_some_iff.mp hnodes
    obtain ⟨sections, hexpands, hbuilding⟩ := hmerged rfl _ rfl
    refine ⟨rawNodes, sections, rfl, hexpands, ?_⟩
    rw [← hbuilding]
    exact (Except.ok.inj hconfig).symm

/-- **The workspaces of an accepted config** have different names exactly when no two files share
    one: the main file, and the files that it leads to, as often as they are included. -/
theorem workspaces_distinct_iff {files : Files schema} {fuel : ℕ} (hfuel : recursionLimit ≤ fuel)
    {path : PathBuf} {raw : Option (List (RawNode schema))}
    {result : ConfigParseResult schema.withWorkspaces} {config : Config schema.withWorkspaces}
    (hparse : files.parse fuel path raw = some result) (hconfig : result.config = .ok config) :
    ∃ nodes, raw = some nodes ∧ (∃ own included, Writes files path.base nodes own included) ∧
      ∀ own included, Writes files path.base nodes own included →
        (config.workspaceNames.Pairwise Apart ↔ (own :: included).Pairwise FilesApart) := by
  obtain ⟨nodes, sections, rfl, hexpands, rfl⟩ := Files.parse_expansion hfuel hparse hconfig
  obtain ⟨own, included, hwrites, hperm, hown, -, hincluded⟩ := hexpands.files [] nodes rfl
  refine ⟨nodes, rfl, ⟨own, included, hwrites⟩, fun own' included' hwrites' => ?_⟩
  obtain ⟨rfl, rfl⟩ := hwrites'.unique hwrites
  rw [Building.workspaceNames_mergeAll]
  refine pairwise_apart_iff hperm fun file hfile => ?_
  rcases mem_cons.mp hfile with rfl | hfile
  · exact hown
  · exact hincluded file hfile

/-- A workspace with nothing but a name. -/
def RawNode.named (schema : Schema) (name : String) : RawNode schema :=
  .workspace ⟨[⟨false, some name⟩], .clean (none, none)⟩

/-- A file of the directory of the config. -/
def inDir (name : String) : PathBuf := ⟨.rootDir, [.normal (.text name)]⟩

/-- An `include` of another file of the directory. -/
def RawNode.includeOf (schema : Schema) (name : String) : RawNode schema :=
  .other (Node.includeOf schema.withWorkspaces [.normal (.text name)]) nofun

/-- Every file that is included names one workspace. -/
def oneWorkspace (schema : Schema) (name : String) : Files schema :=
  ⟨none, fun _ => .ok (some [.named schema name])⟩

/-- A schema without contents. -/
def bareSchema : Schema where
  Field _ := Unit
  Part _ := Unit
  default _ := ()
  mergeWith _ _ _ := ()
  Item _ := Unit

/-- The config that naming a workspace and including a file gives. -/
def parseWith (included : String) : Option (ConfigParseResult bareSchema.withWorkspaces) :=
  (oneWorkspace bareSchema included).parse recursionLimit (inDir "config.kdl")
    (some [.named bareSchema "web", .includeOf bareSchema "chat.kdl"])

theorem parseWith_ok {included : String}
    (h : ((parseWith included).bind fun result =>
      result.config.toOption.map Config.workspaceNames) = some names) :
    ∃ result config, parseWith included = some result ∧ result.config = .ok config ∧
      config.workspaceNames = names := by
  obtain ⟨result, hresult, h⟩ := bind_eq_some_iff.mp h
  obtain ⟨config, hconfig, hnames⟩ := map_eq_some_iff.mp h
  refine ⟨result, config, hresult, ?_, hnames⟩
  cases hok : result.config with
  | error err =>
    rw [hok] at hconfig
    cases hconfig
  | ok config' =>
    rw [hok] at hconfig
    rw [some.inj hconfig]

/-- The included file names another workspace. -/
theorem workspaces_distinct_chat : ∃ result config, parseWith "chat" = some result ∧
    result.config = .ok config ∧ config.workspaceNames = ["web", "chat"] ∧
      ∃ nodes, ∀ own included, Writes (oneWorkspace bareSchema "chat") (inDir "config.kdl").base
        nodes own included → (config.workspaceNames.Pairwise Apart ↔
          (own :: included).Pairwise FilesApart) := by
  obtain ⟨result, config, hparse, hconfig, hnames⟩ :=
    parseWith_ok (show _ = some ["web", "chat"] from rfl)
  obtain ⟨nodes, -, -, hiff⟩ := workspaces_distinct_iff (le_refl _) hparse hconfig
  exact ⟨result, config, hparse, hconfig, hnames, nodes, hiff⟩

/-- **A workspace that is named twice**, in the main file and in an included one. -/
theorem workspaces_not_distinct : ∃ result config, parseWith "WEB" = some result ∧
    result.config = .ok config ∧ config.workspaceNames = ["web", "WEB"] ∧
      ¬config.workspaceNames.Pairwise Apart := by
  obtain ⟨result, config, hparse, hconfig, hnames⟩ :=
    parseWith_ok (show _ = some ["web", "WEB"] from rfl)
  refine ⟨result, config, hparse, hconfig, hnames, ?_⟩
  rw [hnames]
  decide +kernel

end Tiri.NiriConfig
