import Tiri.Config.Include

/-!
# An include stands for the sections of its file

Specification: `Expands`, the sequence of sections that replacing every `include` by the sections of
its file gives, and `Reaches`, the files that chains of includes lead to.

Main result:

* `parse_expands`: parsing ends, however the files include each other.  It succeeds exactly when
  every file that is reached is well-formed and no chain of includes is too long or comes back to a
  file, and the config is then the merge of the expansion.
-/

namespace Tiri.NiriConfig

open Option List

variable {schema : Schema}

/-! ## Specification -/

/-- The nodes of the file at a path, which are none if it cannot be read. -/
def Env.nodes (env : Env schema) (path : PathBuf) : List (Node schema) :=
  match env.readToString path with
  | .ok (some nodes) => nodes
  | .ok none => []
  | .err _ _ => []

/-- The path that an `include` refers to. -/
def Env.target (env : Env schema) (base : PathBuf) (node : Include) : Option PathBuf :=
  node.decode.2.bind fun (given, _) => env.expand base given

/-- A chain of includes leads from one file to another, each given by the directory its includes are
    relative to and its nodes. -/
inductive Reaches (env : Env schema) :
    PathBuf → List (Node schema) → List PathBuf → PathBuf → List (Node schema) → Prop
  | here {base : PathBuf} {nodes : List (Node schema)} : Reaches env base nodes [] base nodes
  | through {base base' path : PathBuf} {nodes nodes' : List (Node schema)} {node : Include}
      {chain : List PathBuf} (hmem : .include node ∈ nodes)
      (htarget : env.target base node = some path)
      (hchain : Reaches env path.base (env.nodes path) chain base' nodes') :
      Reaches env base nodes (path :: chain) base' nodes'

/-- The file can be read and is KDL, or it need not be there. -/
def Env.Readable (env : Env schema) (path : PathBuf) (optional : Bool) : Prop :=
  match env.readToString path with
  | .ok parsed => parsed.isSome
  | .err notFound _ => (optional && notFound) = true

/-- A section that decodes without errors, or an `include` of a file that can be read. -/
def Node.WellFormed (env : Env schema) (base : PathBuf) : Node schema → Prop
  | .sect _ decoded => ∃ part, decoded = .clean part
  | .include node => ∃ given optional path, node.decode = ([], some (given, optional)) ∧
      env.expand base given = some path ∧ path.fileName.bind OsString.toStr ≠ none ∧
      env.Readable path optional
  | .other _ => False

/-- The names that may stand once in a file. -/
def singleNames (nodes : List (Node schema)) : List NodeName :=
  (nodes.map Node.name).filter fun name => !name.multipart

/-- A file whose nodes are well-formed, and those of single-part sections no duplicates. -/
structure FileWellFormed (env : Env schema) (base : PathBuf) (nodes : List (Node schema)) : Prop where
  single : (singleNames nodes).Nodup
  nodes : ∀ node ∈ nodes, node.WellFormed env base

/-- Every `include` is replaced by the sections of its file.  Those of the main file are adjusted. -/
inductive Expands (env : Env schema) :
    Bool → PathBuf → List (Node schema) → List (Section schema) → Prop
  | nil {main : Bool} {base : PathBuf} : Expands env main base [] []
  | sect {main : Bool} {base : PathBuf} {name : SectionName} {part : name.Part schema}
      {nodes : List (Node schema)} {sections : List (Section schema)}
      (hrest : Expands env main base nodes sections) :
      Expands env main base (.sect name (.clean part) :: nodes)
        ((Section.mk name part).adjusted main :: sections)
  | include {main : Bool} {base path : PathBuf} {node : Include}
      {included nodes : List (Node schema)} {inner sections : List (Section schema)}
      (htarget : env.target base node = some path)
      (hread : env.readToString path = .ok (some included))
      (hinner : Expands env false path.base included inner)
      (hrest : Expands env main base nodes sections) :
      Expands env main base (.include node :: nodes) (inner ++ sections)
  | missing {main : Bool} {base path : PathBuf} {node : Include} {nodes : List (Node schema)}
      {sections : List (Section schema)} {notFound : Bool} {message : String}
      (htarget : env.target base node = some path)
      (hread : env.readToString path = .err notFound message)
      (hrest : Expands env main base nodes sections) :
      Expands env main base (.include node :: nodes) sections

variable {env : Env schema}

/-- There is one expansion. -/
theorem Expands.unique {main : Bool} {base : PathBuf} {nodes : List (Node schema)}
    {sections sections' : List (Section schema)} (h : Expands env main base nodes sections)
    (h' : Expands env main base nodes sections') : sections = sections' := by
  induction h generalizing sections' with
  | nil =>
    cases h'
    rfl
  | sect _ ih =>
    cases h' with
    | sect hrest' => rw [ih hrest']
  | «include» htarget hread _ _ ihinner ih =>
    cases h' with
    | «include» htarget' hread' hinner' hrest' =>
      obtain rfl := some.inj (htarget.symm.trans htarget')
      rw [hread] at hread'
      obtain rfl := some.inj (ReadResult.ok.inj hread')
      rw [ihinner hinner', ih hrest']
    | missing htarget' hread' _ =>
      obtain rfl := some.inj (htarget.symm.trans htarget')
      rw [hread] at hread'
      cases hread'
  | missing htarget hread _ ih =>
    cases h' with
    | «include» htarget' hread' _ _ =>
      obtain rfl := some.inj (htarget.symm.trans htarget')
      rw [hread] at hread'
      cases hread'
    | missing _ _ hrest' => exact ih hrest'

/-! ## What a context allows -/

/-- The files that the nodes lead to are well-formed, and the chains neither too long nor cyclic. -/
def Allowed (env : Env schema) (ctx : Ctx) (nodes : List (Node schema)) : Prop :=
  ∀ chain base' nodes', Reaches env ctx.basePath nodes chain base' nodes' →
    FileWellFormed env base' nodes' ∧ ctx.recursion + chain.length < recursionLimit ∧
      chain.Nodup ∧ ∀ path ∈ chain, path ∉ ctx.includeStack

/-- What a context allows of an `include` with the path. -/
def IncludeAllowed (env : Env schema) (ctx : Ctx) (path : PathBuf) (optional : Bool) : Prop :=
  ctx.recursion + 1 < recursionLimit ∧ path.fileName.bind OsString.toStr ≠ none ∧
    path ∉ ctx.includeStack ∧
    match env.readToString path with
    | .ok parsed => ∃ nodes, parsed = some nodes ∧ Allowed env (ctx.nested path) nodes
    | .err notFound _ => (optional && notFound) = true

/-- What a context allows of a node. -/
def NodeAllowed (env : Env schema) (ctx : Ctx) : Node schema → Prop
  | .sect _ decoded => ∃ part, decoded = .clean part
  | .include node => ∃ given optional path, node.decode = ([], some (given, optional)) ∧
      env.expand ctx.basePath given = some path ∧ IncludeAllowed env ctx path optional
  | .other _ => False

section Chains

variable {env : Env schema} {ctx : Ctx} {nodes : List (Node schema)}

variable {path : PathBuf}

theorem Env.nodes_of_ok (hread : env.readToString path = .ok (some nodes)) :
    env.nodes path = nodes := by
  unfold Env.nodes
  rw [hread]

theorem Env.nodes_of_err {notFound : Bool} {message : String}
    (hread : env.readToString path = .err notFound message) : env.nodes path = [] := by
  unfold Env.nodes
  rw [hread]

theorem Env.target_eq {base given : PathBuf} {node : Include} {errors : List DecodeError}
    {optional : Bool} (hdecode : node.decode = (errors, some (given, optional))) :
    env.target base node = env.expand base given := by
  unfold Env.target
  rw [hdecode]
  rfl

/-- No chain leads anywhere from a file without nodes. -/
theorem Reaches.of_nil {base base' : PathBuf} {chain : List PathBuf} {nodes' : List (Node schema)}
    (h : Reaches env base [] chain base' nodes') : chain = [] ∧ nodes' = [] := by
  cases h with
  | here => exact ⟨rfl, rfl⟩
  | through hmem _ _ => exact absurd hmem not_mem_nil

/-- One `include` further, the chain is one path longer. -/
theorem Allowed.nested {node : Include} {included : List (Node schema)} (h : Allowed env ctx nodes)
    (hmem : .include node ∈ nodes) (htarget : env.target ctx.basePath node = some path)
    (hread : env.readToString path = .ok (some included)) :
    Allowed env (ctx.nested path) included := by
  intro chain base' nodes' hreaches
  rw [← Env.nodes_of_ok hread] at hreaches
  obtain ⟨hwell, hlength, hnodup, hstack⟩ := h _ _ _ (.through hmem htarget hreaches)
  obtain ⟨hpath, hnodup⟩ := nodup_cons.mp hnodup
  have hlength' : ctx.recursion + 1 + chain.length < recursionLimit := by
    rw [length_cons] at hlength
    omega
  refine ⟨hwell, hlength', hnodup, fun other hother hin => ?_⟩
  rcases mem_cons.mp hin with rfl | hin
  · exact hpath hother
  · exact hstack other (mem_cons_of_mem _ hother) hin

theorem Allowed.node {node : Node schema} (h : Allowed env ctx nodes) (hmem : node ∈ nodes) :
    NodeAllowed env ctx node := by
  have hwell := (h _ _ _ .here).1.nodes node hmem
  cases node with
  | sect | other => exact hwell
  | «include» node =>
    obtain ⟨given, optional, path, hdecode, hexpand, hname, hreadable⟩ := hwell
    have htarget : env.target ctx.basePath node = some path := by rw [Env.target_eq hdecode, hexpand]
    obtain ⟨-, hlength, -, hstack⟩ := h _ _ _ (.through hmem htarget .here)
    refine ⟨given, optional, path, hdecode, hexpand, hlength, hname,
      hstack path (mem_singleton_self path), ?_⟩
    unfold Env.Readable at hreadable
    cases hread : env.readToString path with
    | ok parsed =>
      rw [hread] at hreadable
      obtain ⟨included, rfl⟩ := isSome_iff_exists.mp hreadable
      exact ⟨included, rfl, h.nested hmem htarget hread⟩
    | err notFound message =>
      rw [hread] at hreadable
      exact hreadable

/-- An allowed node is well-formed. -/
theorem NodeAllowed.wellFormed {node : Node schema} (h : NodeAllowed env ctx node) :
    node.WellFormed env ctx.basePath := by
  cases node with
  | sect name decoded => exact h
  | other name => exact h
  | «include» node =>
    obtain ⟨given, optional, path, hdecode, hexpand, -, hname, -, hread⟩ := h
    refine ⟨given, optional, path, hdecode, hexpand, hname, ?_⟩
    unfold Env.Readable
    split at hread
    · obtain ⟨included, rfl, -⟩ := hread
      exact rfl
    · exact hread

/-- A context allows the nodes if it allows each of them. -/
theorem Allowed.of_nodes (hlimit : ctx.recursion < recursionLimit)
    (hsingle : (singleNames nodes).Nodup) (hnodes : ∀ node ∈ nodes, NodeAllowed env ctx node) :
    Allowed env ctx nodes := by
  intro chain base' nodes' hreaches
  cases hreaches with
  | here =>
    exact ⟨⟨hsingle, fun node hnode => (hnodes node hnode).wellFormed⟩, hlimit, nodup_nil,
      fun _ hpath => absurd hpath not_mem_nil⟩
  | @through _ _ path _ _ node chain hmem htarget hchain =>
    obtain ⟨given, optional, path', hdecode, hexpand, hlength, -, hstack, hread⟩ := hnodes _ hmem
    rw [Env.target_eq hdecode, hexpand] at htarget
    obtain rfl := some.inj htarget
    cases hfile : env.readToString path' with
    | ok parsed =>
      rw [hfile] at hread
      obtain ⟨included, rfl, hallowed⟩ := hread
      rw [Env.nodes_of_ok hfile] at hchain
      obtain ⟨hwell, hlength', hnodup, hstack'⟩ := hallowed _ _ _ hchain
      have hfresh : path' ∉ chain := fun hin => hstack' _ hin (mem_cons_self ..)
      refine ⟨hwell, ?_, nodup_cons.mpr ⟨hfresh, hnodup⟩, fun other hother => ?_⟩
      · simp only [Ctx.nested] at hlength'
        rw [length_cons]
        omega
      · rcases mem_cons.mp hother with rfl | hother
        · exact hstack
        · exact fun hin => hstack' other hother (mem_cons_of_mem _ hin)
    | err notFound message =>
      rw [Env.nodes_of_err hfile] at hchain
      obtain ⟨rfl, rfl⟩ := hchain.of_nil
      refine ⟨⟨nodup_nil, fun _ hnode => absurd hnode not_mem_nil⟩, hlength,
        nodup_cons.mpr ⟨not_mem_nil, nodup_nil⟩, fun other hother => ?_⟩
      rwa [mem_singleton.mp hother]

theorem allowed_iff (hlimit : ctx.recursion < recursionLimit) :
    Allowed env ctx nodes ↔
      (singleNames nodes).Nodup ∧ ∀ node ∈ nodes, NodeAllowed env ctx node :=
  ⟨fun h => ⟨(h _ _ _ .here).1.single, fun _ hmem => h.node hmem⟩,
    fun ⟨hsingle, hnodes⟩ => .of_nodes hlimit hsingle hnodes⟩

end Chains

/-! ## Decoding -/

/-- The run ends.  It has the outcome `ok` exactly if it is allowed, and has then merged. -/
def Decides {E : Type} (run : Option (Shared schema × E)) (ok : E) (allowed : Prop)
    (merged : Shared schema → Prop) : Prop :=
  ∃ shared err, run = some (shared, err) ∧ (err = ok ↔ allowed) ∧ (err = ok → merged shared)

/-- The sections of the nodes' expansion have been merged. -/
def Merged (env : Env schema) (ctx : Ctx) (nodes : List (Node schema))
    (shared shared' : Shared schema) : Prop :=
  ∃ sections, Expands env (ctx.recursion == 0) ctx.basePath nodes sections ∧
    shared'.building = shared.building.mergeAll sections

/-- A parser that, in the context, accepts what is allowed and merges the expansion. -/
def Correct (env : Env schema) (parse : Parser schema) (ctx : Ctx) : Prop :=
  ∀ parsed shared, Decides (parse ctx parsed shared) none
    (∃ nodes, parsed = some nodes ∧ Allowed env ctx nodes)
    fun shared' => ∀ nodes, parsed = some nodes → Merged env ctx nodes shared shared'

/-- The node stands for the sections, before any other nodes. -/
def NodeExpands (env : Env schema) (ctx : Ctx) (node : Node schema)
    (inner : List (Section schema)) : Prop :=
  ∀ nodes sections, Expands env (ctx.recursion == 0) ctx.basePath nodes sections →
    Expands env (ctx.recursion == 0) ctx.basePath (node :: nodes) (inner ++ sections)

theorem Decoded.eq_clean_iff {α : Type} {decoded : Decoded α} {value : α} :
    decoded = .clean value ↔ decoded.emitted = [] ∧ decoded.result = .ok value := by
  obtain ⟨emitted, result⟩ := decoded
  simp only [Decoded.clean, Decoded.mk.injEq]

@[simp] theorem Decoded.errors_eq_nil {α : Type} {decoded : Decoded α} :
    decoded.errors = [] ↔ decoded.emitted = [] :=
  map_eq_nil_iff

variable {errors : List DecodeError}

/-- A property that stops the decoding leaves an error. -/
theorem decodeProperties_errors_ne {properties : List (String × Decoded Bool)} {optional : Bool}
    (h : decodeProperties properties optional = (errors, none)) : errors ≠ [] := by
  induction properties generalizing optional errors with
  | nil => simp [decodeProperties] at h
  | cons property rest ih =>
    unfold decodeProperties at h
    split at h
    · split at h
      · obtain ⟨rfl, -⟩ := Prod.mk.inj h
        simp
      · obtain ⟨herrors, hnone⟩ := Prod.mk.inj h
        have hne := ih (Prod.ext rfl hnone)
        rw [← herrors]
        exact append_ne_nil_of_right_ne_nil _ hne
    · obtain ⟨rfl, -⟩ := Prod.mk.inj h
      simp

/-- An `include` that stops the decoding leaves an error. -/
theorem Include.errors_ne_nil (node : Include) (h : node.decode = (errors, none)) :
    errors ≠ [] := by
  unfold Include.decode at h
  split at h
  · obtain ⟨rfl, -⟩ := Prod.mk.inj h
    simp
  · split at h
    · obtain ⟨rfl, -⟩ := Prod.mk.inj h
      simp
    · dsimp only at h
      split at h
      · rename_i hproperties
        obtain ⟨rfl, -⟩ := Prod.mk.inj h
        exact append_ne_nil_of_right_ne_nil _ (decodeProperties_errors_ne hproperties)
      · cases (Prod.mk.inj h).2

section Decoding

variable {env : Env schema} {parse : Parser schema} {ctx : Ctx}

/-- A section has no errors if it decodes cleanly, and is then merged. -/
theorem decodeSection_spec (name : SectionName) (decoded : Decoded (name.Part schema))
    (shared : Shared schema) :
    ((decodeSection ctx name decoded shared).errors = [] ↔ ∃ part, decoded = .clean part) ∧
      ∀ part, decoded = .clean part →
        (decodeSection ctx name decoded shared).stop = false ∧
          (decodeSection ctx name decoded shared).shared.building =
            shared.building.merge ((Section.mk name part).adjusted (ctx.recursion == 0)) := by
  simp only [Decoded.eq_clean_iff]
  unfold decodeSection
  cases hresult : decoded.result with
  | error message => simp
  | ok part =>
    refine ⟨by simp, fun part' h => ⟨rfl, ?_⟩⟩
    rw [Except.ok.inj h.2]

/-- An included file is merged where it is allowed. -/
theorem includeFile_decides {node : Include} {path : PathBuf} (optional : Bool)
    (shared : Shared schema) (hlimit : ctx.recursion < recursionLimit)
    (hparse : ctx.recursion + 1 < recursionLimit → Correct env parse (ctx.nested path))
    (htarget : env.target ctx.basePath node = some path) :
    Decides (includeFile env parse ctx path optional shared) []
      (IncludeAllowed env ctx path optional) fun shared' => ∃ inner,
        NodeExpands env ctx (.include node) inner ∧
          shared'.building = shared.building.mergeAll inner := by
  unfold includeFile IncludeAllowed
  split_ifs with hdepth hname hstack
  · exact ⟨_, _, rfl, by simp [hdepth], by simp⟩
  · exact ⟨_, _, rfl, by simp [hname], by simp⟩
  · exact ⟨_, _, rfl, by simp [hstack], by simp⟩
  have hnext : ctx.recursion + 1 < recursionLimit := by omega
  cases hread : env.readToString path with
  | err notFound message =>
    refine ⟨_, _, rfl, ?_, fun _ => ⟨[], fun nodes sections hrest => ?_, rfl⟩⟩
    · by_cases hoptional : (optional && notFound) = true <;> simp [hoptional, hnext, hname, hstack]
    · exact .missing htarget hread hrest
  | ok parsed =>
    obtain ⟨shared', err, hrun, hok, hmerged⟩ :=
      hparse hnext parsed { shared with includes := shared.includes ++ [path] }
    cases err with
    | some err =>
      refine ⟨_, _, by dsimp only; rw [hrun], ?_, by simp⟩
      simp only [reduceCtorEq, false_iff] at hok
      simp only [cons_ne_nil, false_iff, not_and]
      exact fun _ _ _ => hok
    | none =>
      obtain ⟨included, rfl, hallowed⟩ := hok.mp rfl
      obtain ⟨inner, hexpands, hbuilding⟩ := hmerged rfl included rfl
      refine ⟨_, _, by dsimp only; rw [hrun], ?_, fun _ => ⟨inner, ?_, hbuilding⟩⟩
      · exact iff_of_true rfl ⟨hnext, hname, hstack, included, rfl, hallowed⟩
      · exact fun nodes sections hrest => .include htarget hread hexpands hrest

/-- A node has no errors where it is allowed, and its expansion is then merged. -/
theorem decodeNode_spec (node : Node schema) (shared : Shared schema)
    (hlimit : ctx.recursion < recursionLimit)
    (hparse : ctx.recursion + 1 < recursionLimit → ∀ path, Correct env parse (ctx.nested path)) :
    ∃ outcome, decodeNode env parse ctx node shared = some outcome ∧
      (outcome.errors = [] ↔ NodeAllowed env ctx node) ∧
      (outcome.errors = [] → outcome.stop = false ∧ ∃ inner, NodeExpands env ctx node inner ∧
        outcome.shared.building = shared.building.mergeAll inner) := by
  cases node with
  | other name => exact ⟨_, rfl, by simp [NodeAllowed], by simp⟩
  | sect name decoded =>
    obtain ⟨herrors, hmerged⟩ := @decodeSection_spec _ ctx name decoded shared
    refine ⟨_, rfl, herrors, fun hok => ?_⟩
    obtain ⟨part, rfl⟩ := herrors.mp hok
    obtain ⟨hstop, hbuilding⟩ := hmerged part rfl
    exact ⟨hstop, [(Section.mk name part).adjusted (ctx.recursion == 0)],
      fun nodes sections hrest => .sect hrest, hbuilding⟩
  | «include» node =>
    rcases hdecode : node.decode with ⟨errors, decoded⟩
    unfold decodeNode decodeInclude NodeAllowed
    simp only [hdecode]
    cases decoded with
    | none =>
      have hne := node.errors_ne_nil hdecode
      exact ⟨_, rfl, by simp [hne], fun h => absurd h hne⟩
    | some decoded =>
      obtain ⟨given, optional⟩ := decoded
      have htarget : env.target ctx.basePath node = env.expand ctx.basePath given :=
        Env.target_eq hdecode
      simp only [Prod.mk.injEq, some.injEq]
      cases hexpand : env.expand ctx.basePath given with
      | none =>
        refine ⟨_, rfl, ?_, by simp⟩
        simp only [append_eq_nil_iff, cons_ne_nil, and_false, false_iff]
        rintro ⟨given', optional', path, ⟨-, rfl, -⟩, hpath, -⟩
        rw [hexpand] at hpath
        cases hpath
      | some path =>
        rw [hexpand] at htarget
        obtain ⟨shared', more, hrun, hok, hmerged⟩ :=
          includeFile_decides optional shared hlimit (hparse · path) htarget
        refine ⟨_, by dsimp only; rw [hrun]; rfl, ?_, fun herrors => ⟨rfl, ?_⟩⟩
        · rw [append_eq_nil_iff, hok]
          constructor
          · rintro ⟨rfl, hallowed⟩
            exact ⟨given, optional, path, ⟨rfl, rfl, rfl⟩, hexpand, hallowed⟩
          · rintro ⟨given', optional', path', ⟨rfl, rfl, rfl⟩, hpath, hallowed⟩
            rw [hexpand] at hpath
            obtain rfl := some.inj hpath
            exact ⟨rfl, hallowed⟩
        · exact hmerged (append_eq_nil_iff.mp herrors).2

/-- The names that stand once do so, and have not been seen. -/
def Fresh (seen : List NodeName) (nodes : List (Node schema)) : Prop :=
  (singleNames nodes).Nodup ∧ ∀ name ∈ singleNames nodes, name ∉ seen

variable {nodes : List (Node schema)} {seen : List NodeName} {node : Node schema}

theorem fresh_cons_multipart (h : node.name.multipart = true) :
    Fresh seen (node :: nodes) ↔ Fresh seen nodes := by
  unfold Fresh singleNames
  rw [map_cons, filter_cons_of_neg (by simp [h])]

theorem fresh_cons_single (h : node.name.multipart = false) :
    Fresh seen (node :: nodes) ↔ node.name ∉ seen ∧ Fresh (node.name :: seen) nodes := by
  unfold Fresh singleNames
  rw [map_cons, filter_cons_of_pos (by simp [h])]
  simp only [nodup_cons, mem_cons, forall_eq_or_imp, not_or]
  constructor
  · rintro ⟨⟨hnotin, hnodup⟩, hseen, hrest⟩
    exact ⟨hseen, hnodup, fun name hname => ⟨fun heq => hnotin (heq ▸ hname), hrest name hname⟩⟩
  · rintro ⟨hseen, hnodup, hrest⟩
    exact ⟨⟨fun hin => (hrest _ hin).1 rfl, hnodup⟩, hseen, fun name hname => (hrest name hname).2⟩

/-- The loop over the nodes: no errors where there are no duplicates and every node is allowed. -/
theorem decodeChildren_decides (hlimit : ctx.recursion < recursionLimit)
    (hparse : ctx.recursion + 1 < recursionLimit → ∀ path, Correct env parse (ctx.nested path))
    (nodes : List (Node schema)) (seen : List NodeName) (shared : Shared schema) :
    Decides (decodeChildren env parse ctx nodes seen shared) []
      (Fresh seen nodes ∧ ∀ node ∈ nodes, NodeAllowed env ctx node)
      (Merged env ctx nodes shared) := by
  induction nodes generalizing seen shared with
  | nil =>
    refine ⟨shared, [], rfl, iff_of_true rfl ⟨⟨nodup_nil, ?_⟩, ?_⟩, fun _ => ⟨[], .nil, rfl⟩⟩
    · exact fun _ h => absurd h not_mem_nil
    · exact fun _ h => absurd h not_mem_nil
  | cons node nodes ih =>
    unfold decodeChildren
    by_cases hduplicate : (!node.name.multipart && decide (node.name ∈ seen)) = true
    · -- A duplicate leaves an error.
      rw [if_pos hduplicate]
      rw [Bool.and_eq_true, Bool.not_eq_true', decide_eq_true_eq] at hduplicate
      obtain ⟨shared', errors, hrun, -, -⟩ := ih seen shared
      refine ⟨shared', _, by rw [hrun]; rfl, ?_, by simp⟩
      simp only [cons_ne_nil, false_iff, not_and]
      exact fun hfresh => absurd hduplicate.2 ((fresh_cons_single hduplicate.1).mp hfresh).1
    · have hfresh : Fresh seen (node :: nodes) ↔
          Fresh (if node.name.multipart then seen else node.name :: seen) nodes := by
        cases hmultipart : node.name.multipart with
        | true => rw [fresh_cons_multipart hmultipart, if_pos rfl]
        | false =>
          simp only [hmultipart, Bool.not_false, Bool.true_and, decide_eq_true_eq] at hduplicate
          rw [fresh_cons_single hmultipart, if_neg Bool.false_ne_true]
          exact and_iff_right hduplicate
      obtain ⟨outcome, hnode, herrors, hmerged⟩ := decodeNode_spec node shared hlimit hparse
      rw [hfresh, forall_mem_cons, ← herrors]
      rw [if_neg hduplicate]
      rw [hnode]
      dsimp only
      by_cases hstop : outcome.stop = true
      · -- A `?` leaves an error too.
        have hne : outcome.errors ≠ [] := fun hnil => by
          rw [(hmerged hnil).1] at hstop
          cases hstop
        rw [if_pos hstop]
        exact ⟨_, _, rfl, by simp [hne], fun hnil => absurd hnil hne⟩
      · obtain ⟨shared', errors, hrun, hok, hrest⟩ :=
          ih (if node.name.multipart then seen else node.name :: seen) outcome.shared
        rw [if_neg hstop]
        refine ⟨shared', _, by rw [hrun]; rfl, ?_, fun hnil => ?_⟩
        · rw [append_eq_nil_iff, hok]
          exact and_left_comm
        · obtain ⟨hnode, htail⟩ := append_eq_nil_iff.mp hnil
          obtain ⟨-, inner, hinner, hbuilding⟩ := hmerged hnode
          obtain ⟨sections, hsections, hbuilding'⟩ := hrest htail
          refine ⟨inner ++ sections, hinner _ _ hsections, ?_⟩
          rw [hbuilding', hbuilding, Building.mergeAll_append]

/-! ## The levels that are needed -/

variable {parse' : Parser schema}

/-- An included file has one level more than the file it is included in. -/
theorem decodeNode_congr
    (h : ∀ path, ctx.recursion + 1 ≠ recursionLimit → parse (ctx.nested path) = parse' (ctx.nested path))
    (node : Node schema) : decodeNode env parse ctx node = decodeNode env parse' ctx node := by
  funext shared
  have hfile : includeFile env parse ctx = includeFile env parse' ctx := by
    funext path optional shared
    unfold includeFile
    split_ifs with hlimit
    · rfl
    · rfl
    · rfl
    · rw [h path hlimit]
  unfold decodeNode decodeInclude
  rw [hfile]

theorem decodeChildren_congr
    (h : ∀ path, ctx.recursion + 1 ≠ recursionLimit → parse (ctx.nested path) = parse' (ctx.nested path))
    (nodes : List (Node schema)) :
    decodeChildren env parse ctx nodes = decodeChildren env parse' ctx nodes := by
  induction nodes with
  | nil => rfl
  | cons node nodes ih =>
    funext seen shared
    unfold decodeChildren
    rw [ih, decodeNode_congr h]

end Decoding

/-- With a level for each file that may be nested, more levels change nothing. -/
theorem parseWithContext_fuel {fuel fuel' : ℕ} {ctx : Ctx} (hlimit : ctx.recursion < recursionLimit)
    (h : recursionLimit ≤ ctx.recursion + fuel) (h' : recursionLimit ≤ ctx.recursion + fuel') :
    parseWithContext env fuel ctx = parseWithContext env fuel' ctx := by
  induction fuel generalizing fuel' ctx with
  | zero => omega
  | succ fuel ih =>
    obtain ⟨fuel', rfl⟩ : ∃ n, fuel' = n + 1 := ⟨fuel' - 1, by omega⟩
    funext parsed shared
    cases parsed with
    | none => rfl
    | some nodes =>
      unfold parseWithContext
      rw [decodeChildren_congr]
      intro path hne
      have hnested : (ctx.nested path).recursion = ctx.recursion + 1 := rfl
      apply ih <;> omega

/-- The parser is correct in every context that is not too deep. -/
theorem parseWithContext_correct {fuel : ℕ} {ctx : Ctx} (hlimit : ctx.recursion < recursionLimit)
    (hfuel : recursionLimit ≤ ctx.recursion + fuel) :
    Correct env (parseWithContext env fuel) ctx := by
  induction fuel generalizing ctx with
  | zero => omega
  | succ fuel ih =>
    intro parsed shared
    cases parsed with
    | none => exact ⟨_, _, rfl, by simp, by simp⟩
    | some nodes =>
      have hparse : ctx.recursion + 1 < recursionLimit →
          ∀ path, Correct env (parseWithContext env fuel) (ctx.nested path) := by
        intro hnext path
        have hnested : (ctx.nested path).recursion = ctx.recursion + 1 := rfl
        apply ih <;> omega
      obtain ⟨shared', errors, hrun, hok, hmerged⟩ :=
        decodeChildren_decides hlimit hparse nodes [] shared
      unfold parseWithContext
      refine ⟨shared', _, by rw [hrun]; rfl, ?_, fun hnone other hother => ?_⟩
      · simp only [ite_eq_left_iff, reduceCtorEq, imp_false, not_not, List.isEmpty_iff,
          some.injEq, exists_eq_left']
        rw [hok, allowed_iff hlimit]
        simp [Fresh]
      · obtain rfl := some.inj hother
        apply hmerged
        by_contra hne
        rw [if_neg (by rwa [List.isEmpty_iff])] at hnone
        cases hnone

/-- Parsing ends for all files, with the same result at any number of levels from the limit on.

    It succeeds exactly when the main file is KDL and every file reached from it is well-formed, by
    a chain of includes that does not reach the limit and is never twice at one path.  A file may
    be reached by several chains.

    The config is then the merge of the sections that the includes expand to, in order. -/
theorem parse_expands (env : Env schema) (path : PathBuf) (parsed : Option (List (Node schema))) :
    ∃ result : ConfigParseResult schema,
      (∀ fuel, recursionLimit ≤ fuel → Config.parse env fuel path parsed = some result) ∧
      ((∃ config, result.config = .ok config) ↔ ∃ nodes, parsed = some nodes ∧
        ∀ chain base nodes', Reaches env path.base nodes chain base nodes' →
          FileWellFormed env base nodes' ∧ chain.length < recursionLimit ∧
            (path :: chain).Nodup) ∧
      ∀ config, result.config = .ok config → ∃ nodes, parsed = some nodes ∧
        (∃ sections, Expands env true path.base nodes sections) ∧
        ∀ sections, Expands env true path.base nodes sections →
          config = ((Building.start schema).mergeAll sections).config := by
  have hlimit : (0 : ℕ) < recursionLimit := by decide
  have hcorrect : Correct env (parseWithContext env recursionLimit) ⟨path.base, 0, [path]⟩ :=
    parseWithContext_correct hlimit (Nat.le_add_left ..)
  obtain ⟨shared, err, hrun, hok, hmerged⟩ := hcorrect parsed ⟨.start schema, [], []⟩
  have hallowed : (∃ nodes, parsed = some nodes ∧ Allowed env ⟨path.base, 0, [path]⟩ nodes) ↔
      ∃ nodes, parsed = some nodes ∧ ∀ chain base nodes',
        Reaches env path.base nodes chain base nodes' → FileWellFormed env base nodes' ∧
          chain.length < recursionLimit ∧ (path :: chain).Nodup := by
    simp only [Allowed, mem_singleton, nodup_cons, Nat.zero_add]
    have hpath : ∀ chain : List PathBuf, (∀ other ∈ chain, ¬other = path) ↔ path ∉ chain :=
      fun chain => ⟨fun h hin => h path hin rfl, fun h other hin heq => h (heq ▸ hin)⟩
    simp only [hpath, and_comm (a := List.Nodup _)]
  have hparse : ∀ fuel, recursionLimit ≤ fuel →
      parseWithContext env fuel ⟨path.base, 0, [path]⟩ parsed ⟨.start schema, [], []⟩ =
        some (shared, err) := by
    intro fuel hfuel
    have hsame : parseWithContext env fuel ⟨path.base, 0, [path]⟩ =
        parseWithContext env recursionLimit ⟨path.base, 0, [path]⟩ :=
      parseWithContext_fuel hlimit (hfuel.trans (Nat.le_add_left ..)) (Nat.le_add_left ..)
    rw [hsame, hrun]
  refine ⟨_, fun fuel hfuel => by
    unfold Config.parse
    dsimp only
    rw [hparse fuel hfuel]
    rfl, ?_, ?_⟩
  · rw [← hallowed, ← hok]
    cases err <;> simp
  · intro config hconfig
    cases err with
    | some err => cases hconfig
    | none =>
      obtain ⟨nodes, rfl, -⟩ := hok.mp rfl
      obtain ⟨sections, hexpands, hbuilding⟩ := hmerged rfl nodes rfl
      refine ⟨nodes, rfl, ⟨sections, hexpands⟩, fun other hother => ?_⟩
      rw [hother.unique hexpands, ← hbuilding]
      exact (Except.ok.inj hconfig).symm

/-- An `include` of a path relative to the directory of the file. -/
def Node.includeOf (schema : Schema) (components : List Component) : Node schema :=
  .include ⟨[.clean ⟨.relative, components⟩], [], []⟩

-- A file that is included twice is merged twice.
example (schema : Schema) :
    let main : PathBuf := ⟨.rootDir, [.normal (.text "main.kdl")]⟩
    let term : EnvironmentVariable := ⟨"TERM", some "foot"⟩
    let env : Env schema := ⟨none, fun _ => .ok (some [.sect .environment (.clean [term])])⟩
    let node := Node.includeOf schema [.normal (.text "env.kdl")]
    (Config.parse env recursionLimit main (some [node, node])).map
      (fun result => result.config.toOption.map Config.environment) = some (some [term, term]) :=
  rfl

end Tiri.NiriConfig
