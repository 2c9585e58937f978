import Tiri.Lib.Ask
import Tiri.Lib.HashMap
import Tiri.Lib.Run

/-!
# The watcher of the config files

`utils/watcher.rs`, with `ConfigPath::load` of `niri-config/src/lib.rs`.  The thread polls the
properties of the main config and of the files that it included, and processes the config again
when they are not the ones it remembers, or when it is asked to.

Every question to the file system takes one unit of time, and the file system may change between
two of them in any way.  A write gives a file a new modification time, so what is read is determined
by the properties.

Results:
* `check_unchanged`: a check that finds nothing changed in a file system that stands still
  remembers the files as they are;
* `load_eq`: what is processed is what the file system finally gives, if every file was read as it
  is remembered;
* `lastDelivery_upToDate`: along every run.
-/

namespace Tiri.ConfigWatcher

open Option List Finmap Ask

variable {Path Canonical Text Config : Type}

/-! ## The file system -/

structure Props (Canonical : Type) where
  mtime : ℕ
  canonical : Canonical
  deriving DecidableEq

/-- Where the paths lead, and when the files were modified. -/
structure FileSystem (Path Canonical : Type) where
  target : Path → Canonical
  modified : Canonical → Option ℕ

/-- `io::ErrorKind`, as far as it matters. -/
inductive ReadError
  | notFound
  | other

/-- What can be asked of the file system. -/
inductive Query (Path Canonical : Type)
  | canonicalize (path : Path)
  | modified (canonical : Canonical)
  | exists (path : Path)
  | readToString (path : Path)

/-- What is answered. -/
@[reducible] def Answer (Text : Type) : Query Path Canonical → Type
  | .canonicalize _ => Option Canonical
  | .modified _ => Option ℕ
  | .exists _ => Bool
  | .readToString _ => Except ReadError Text

/-- Code that looks at the file system. -/
abbrev Look (Path Canonical Text : Type) := Ask (Query Path Canonical) (Answer Text)

inductive ConfigPath (Path : Type)
  | explicit (path : Path)
  | regular (userPath systemPath : Path)

namespace FileSystem

/-- The properties of the file that a path leads to. -/
def props (fs : FileSystem Path Canonical) (path : Path) : Option (Props Canonical) :=
  (fs.modified (fs.target path)).map fun mtime => ⟨mtime, fs.target path⟩

/-- The properties of the main config. -/
def configProps (fs : FileSystem Path Canonical) : ConfigPath Path → Option (Props Canonical)
  | .explicit path => fs.props path
  | .regular userPath systemPath => (fs.props userPath).or (fs.props systemPath)

/-- The answers, given what the files hold. -/
def answer (contents : Props Canonical → Except ReadError Text) (fs : FileSystem Path Canonical) :
    (query : Query Path Canonical) → Answer Text query
  | .canonicalize path => (fs.props path).map Props.canonical
  | .modified canonical => fs.modified canonical
  | .exists path => (fs.props path).isSome
  | .readToString path =>
    match fs.props path with
    | none => .error .notFound
    | some props => contents props

end FileSystem

/-! ## Loading the config -/

/-- `ConfigParseResult<Config, ()>`. -/
structure ConfigParseResult (Path Config : Type) where
  config : Except Unit Config
  includes : List Path

/-- `Config::parse`.  Every path is put into the list before it is read. -/
structure Parser (Path Canonical Text Config : Type) where
  parse : Path → Text → Look Path Canonical Text (ConfigParseResult Path Config)
  listed : ∀ path text answers t, ∀ look ∈ Ask.asked answers t (parse path text),
    ∃ included ∈ (Ask.run answers t (parse path text)).1.includes, look.2 = .readToString included

section Load

variable (parser : Parser Path Canonical Text Config)

/-- `Config::load`. -/
def loadFile (path : Path) :
    Look Path Canonical Text (ConfigParseResult Path Config) := do
  let contents : Except ReadError Text ← Ask.query (A := Answer Text) (Query.readToString path)
  match contents with
  | .ok text => parser.parse path text
  | .error _ => pure ⟨.error (), []⟩

/-- The path that `load_inner` loads. -/
def ConfigPath.choose : ConfigPath Path → Look Path Canonical Text (Option Path)
  | .explicit path => pure (some path)
  | .regular userPath systemPath => do
    let userExists : Bool ← Ask.query (A := Answer Text) (Query.exists userPath)
    if userExists then pure (some userPath)
    else
      let systemExists : Bool ← Ask.query (A := Answer Text) (Query.exists systemPath)
      if systemExists then pure (some systemPath) else pure none

/-- `ConfigPath::load`, which `process` calls. -/
def ConfigPath.load (configPath : ConfigPath Path) :
    Look Path Canonical Text (ConfigParseResult Path Config) := do
  match ← configPath.choose with
  | some path => loadFile parser path
  | none => pure ⟨.error (), []⟩

end Load

/-! ## The watcher -/

/-- `Props::from_path`. -/
def Props.fromPath (path : Path) : Look Path Canonical Text (Option (Props Canonical)) := do
  let canonical : Option Canonical ← Ask.query (A := Answer Text) (Query.canonicalize path)
  match canonical with
  | none => pure none
  | some canonical =>
    let mtime : Option ℕ ← Ask.query (A := Answer Text) (Query.modified canonical)
    pure (mtime.map fun mtime => ⟨mtime, canonical⟩)

/-- `Props::from_config_path`. -/
def Props.fromConfigPath :
    ConfigPath Path → Look Path Canonical Text (Option (Props Canonical))
  | .explicit path => fromPath path
  | .regular userPath systemPath => do
    match ← fromPath userPath with
    | some props => pure (some props)
    | none => fromPath systemPath

structure WatcherInner (Path Canonical : Type) where
  path : ConfigPath Path
  lastProps : Option (Props Canonical)
  includes : HashMap Path (Option (Props Canonical))

inductive CheckResult
  | missing
  | unchanged
  | changed
  deriving DecidableEq

namespace WatcherInner

variable [DecidableEq Path] [DecidableEq Canonical]

def setIncludes (includes : List Path) :
    Look Path Canonical Text (HashMap Path (Option (Props Canonical))) :=
  includes.foldlM (fun includes path => do
    let props ← Props.fromPath path
    pure (includes.insert path props)) ∅

/-- `WatcherInner::new`. -/
def new (path : ConfigPath Path) (includes : List Path) :
    Look Path Canonical Text (WatcherInner Path Canonical) := do
  let lastProps ← Props.fromConfigPath path
  let includes ← setIncludes includes
  pure ⟨path, lastProps, includes⟩

/-- The loop of `check`, in the order that the map is iterated in. -/
def checkIncludes (includes : HashMap Path (Option (Props Canonical))) :
    List Path → Look Path Canonical Text CheckResult
  | [] => pure .unchanged
  | path :: order => do
    let newProps ← Props.fromPath path
    if includes.lookup path ≠ some newProps then pure .changed
    else checkIncludes includes order

def check (inner : WatcherInner Path Canonical) (order : List Path) :
    Look Path Canonical Text (CheckResult × WatcherInner Path Canonical) := do
  match ← Props.fromConfigPath inner.path with
  | none => pure (.missing, inner)
  | some newProps =>
    if inner.lastProps ≠ some newProps then
      pure (.changed, { inner with lastProps := some newProps })
    else do
      let result ← checkIncludes inner.includes order
      pure (result, inner)

end WatcherInner

/-- A result that was sent, with the path that was processed, from when on, and the properties that
were remembered then. -/
structure Delivery (Path Canonical Config : Type) where
  since : ℕ
  path : ConfigPath Path
  lastProps : Option (Props Canonical)
  config : Except Unit Config

/-- A request for another config was taken, or a result was sent. -/
inductive Entry (Path Canonical Config : Type)
  | requested (path : Path)
  | delivered (delivery : Delivery Path Canonical Config)

/-- The result that was sent. -/
def Entry.delivery? : Entry Path Canonical Config → Option (Delivery Path Canonical Config)
  | requested _ => none
  | delivered delivery => some delivery

/-- One turn of the loop: the load request that was received before the timeout, if any, and the
order in which the check iterates the includes. -/
structure Turn (Path : Type) where
  request : Option (Option Path)
  order : List Path

/-- The thread, with the time and what it did. -/
structure Watcher (Path Canonical Config : Type) where
  inner : WatcherInner Path Canonical
  now : ℕ
  log : List (Entry Path Canonical Config)

namespace Watcher

variable [DecidableEq Path] [DecidableEq Canonical]
variable (contents : Props Canonical → Except ReadError Text)
  (parser : Parser Path Canonical Text Config) (fs : ℕ → FileSystem Path Canonical)

/-- The answers of the file system at each time. -/
def answers (t : ℕ) : (query : Query Path Canonical) → Answer Text query :=
  (fs t).answer contents

/-- The thread starts. -/
def start (path : ConfigPath Path) (includes : List Path) : Watcher Path Canonical Config :=
  let (inner, now) := Ask.run (answers contents fs) 0 (WatcherInner.new path includes)
  ⟨inner, now, []⟩

/-- A load request is received. -/
def receive (w : Watcher Path Canonical Config) :
    Option (Option Path) → Watcher Path Canonical Config
  | some (some path) =>
    let (inner, now) := Ask.run (answers contents fs) w.now
      (WatcherInner.new (.explicit path) [])
    ⟨inner, now, w.log ++ [.requested path]⟩
  | some none => w
  | none => w

/-- `check`, at this time. -/
def check (w : Watcher Path Canonical Config) (order : List Path) :
    CheckResult × Watcher Path Canonical Config :=
  let ((result, inner), now) := Ask.run (answers contents fs) w.now (w.inner.check order)
  (result, { w with inner, now })

/-- The config is processed, the result is sent, and the includes are registered. -/
def load (w : Watcher Path Canonical Config) : Watcher Path Canonical Config :=
  let (res, now) := Ask.run (answers contents fs) w.now (w.inner.path.load parser)
  let log := w.log ++ [.delivered ⟨w.now, w.inner.path, w.inner.lastProps, res.config⟩]
  let (includes, now) := Ask.run (answers contents fs) now (WatcherInner.setIncludes res.includes)
  ⟨{ w.inner with includes }, now, log⟩

/-- What the check of the turn finds. -/
def checkResult (w : Watcher Path Canonical Config) (turn : Turn Path) : CheckResult :=
  (check contents fs (w.receive contents fs turn.request) turn.order).1

/-- One turn of the loop. -/
def step (w : Watcher Path Canonical Config) (turn : Turn Path) :
    Option (Watcher Path Canonical Config) :=
  let shouldLoad := turn.request.isSome
  let w := w.receive contents fs turn.request
  if HashMap.Lists turn.order w.inner.includes then
    let (result, w) := check contents fs w turn.order
    match result with
    | .missing => some w
    | .unchanged => some (if shouldLoad then w.load contents parser fs else w)
    | .changed => some (w.load contents parser fs)
  else none

end Watcher

/-! ## In a file system that stands still -/

variable {contents : Props Canonical → Except ReadError Text} {F : FileSystem Path Canonical}

@[simp] theorem eval_fromPath (path : Path) :
    Ask.eval (F.answer contents) (Props.fromPath path) = F.props path := by
  unfold Props.fromPath
  change Ask.eval (F.answer contents) (match (F.props path).map Props.canonical with
    | none => pure none
    | some canonical => _) = F.props path
  unfold FileSystem.props
  cases hmodified : F.modified (F.target path) with
  | none => rfl
  | some mtime =>
    rw [map_some, map_some]
    change (F.modified (F.target path)).map _ = _
    rw [hmodified]
    rfl

@[simp] theorem eval_fromConfigPath (configPath : ConfigPath Path) :
    Ask.eval (F.answer contents) (Props.fromConfigPath configPath) = F.configProps configPath := by
  cases configPath with
  | explicit path => exact eval_fromPath path
  | regular userPath systemPath =>
    rw [Props.fromConfigPath, FileSystem.configProps, eval_bind, eval_fromPath]
    cases F.props userPath with
    | none => exact eval_fromPath systemPath
    | some props => rfl

/-- The path of the main config. -/
def FileSystem.configPath (fs : FileSystem Path Canonical) : ConfigPath Path → Option Path
  | .explicit path => some path
  | .regular userPath systemPath =>
    if (fs.props userPath).isSome then some userPath
    else if (fs.props systemPath).isSome then some systemPath
    else none

@[simp] theorem eval_choose (configPath : ConfigPath Path) :
    Ask.eval (F.answer contents) configPath.choose = F.configPath configPath := by
  cases configPath with
  | explicit path => rfl
  | regular userPath systemPath =>
    rw [ConfigPath.choose, FileSystem.configPath, eval_bind, eval_query]
    have huserExists : F.answer contents (.exists userPath) = (F.props userPath).isSome := rfl
    have hsystemExists : F.answer contents (.exists systemPath) = (F.props systemPath).isSome := rfl
    rw [huserExists]
    cases (F.props userPath).isSome with
    | true => rfl
    | false =>
      rw [if_neg Bool.false_ne_true, if_neg Bool.false_ne_true, eval_bind, eval_query,
        hsystemExists]
      cases (F.props systemPath).isSome with
      | true => rfl
      | false => rfl

variable {path : Path}

/-- The file of the main config has its properties. -/
theorem props_of_configPath {configPath : ConfigPath Path}
    (h : F.configPath configPath = some path) : F.configProps configPath = F.props path := by
  cases configPath with
  | explicit path' =>
    obtain rfl := some.inj h
    rfl
  | regular userPath systemPath =>
    rw [FileSystem.configPath] at h
    rw [FileSystem.configProps]
    split at h
    · rename_i huser
      obtain rfl := some.inj h
      obtain ⟨props, hprops⟩ := isSome_iff_exists.mp huser
      rw [hprops]
      rfl
    · rename_i huser
      rw [not_isSome_iff_eq_none.mp huser, none_or]
      split at h
      · rw [some.inj h]
      · cases h

/-- Two files that have the same properties hold the same. -/
theorem answer_readToString_congr {fs fs' : FileSystem Path Canonical}
    (h : fs.props path = fs'.props path) :
    fs.answer contents (.readToString path) = fs'.answer contents (.readToString path) := by
  rw [FileSystem.answer, FileSystem.answer, h]

namespace WatcherInner

variable [DecidableEq Path] [DecidableEq Canonical]

variable {order : List Path} {includes : HashMap Path (Option (Props Canonical))}

theorem eval_checkIncludes
    (h : Ask.eval (F.answer contents) (checkIncludes includes order) = .unchanged) :
    ∀ path ∈ order, includes.lookup path = some (F.props path) := by
  induction order with
  | nil => exact fun path hpath => (not_mem_nil hpath).elim
  | cons path order ih =>
    unfold checkIncludes at h
    rw [eval_bind, eval_fromPath] at h
    split at h
    · cases h
    · rename_i hlookup
      intro path' hpath'
      rcases mem_cons.mp hpath' with rfl | hpath'
      · exact not_not.mp hlookup
      · exact ih h path' hpath'

theorem eval_checkIncludes_ne_missing :
    Ask.eval (F.answer contents) (checkIncludes includes order) ≠ .missing := by
  induction order with
  | nil => exact CheckResult.noConfusion
  | cons path order ih =>
    unfold checkIncludes
    rw [eval_bind]
    split
    · exact CheckResult.noConfusion
    · exact ih

/-- The files are as they are remembered. -/
structure Remembers (inner : WatcherInner Path Canonical) (F : FileSystem Path Canonical) :
    Prop where
  main : inner.lastProps = F.configProps inner.path
  includes : ∀ path props, inner.includes.lookup path = some props → props = F.props path

variable {inner inner' : WatcherInner Path Canonical}

/-- **A check that finds nothing changed**, in a file system that stands still. -/
theorem check_unchanged (horder : HashMap.Lists order inner.includes)
    (h : Ask.eval (F.answer contents) (inner.check order) = (.unchanged, inner')) :
    inner.Remembers F := by
  unfold check at h
  rw [eval_bind, eval_fromConfigPath] at h
  cases hprops : F.configProps inner.path with
  | none =>
    rw [hprops] at h
    cases h
  | some props =>
    rw [hprops] at h
    simp only at h
    split at h
    · cases h
    · rename_i hlast
      rw [eval_bind] at h
      have hresult : Ask.eval (F.answer contents) (checkIncludes inner.includes order) =
          .unchanged := congrArg Prod.fst h
      refine ⟨(not_not.mp hlast).trans hprops.symm, fun path props' hlookup => ?_⟩
      have hmem : path ∈ order := horder.mem_iff.mpr (mem_of_lookup_eq_some hlookup)
      have hsome := eval_checkIncludes hresult path hmem
      exact some.inj (hlookup.symm.trans hsome)

theorem check_missing (h : Ask.eval (F.answer contents) (inner.check order) = (.missing, inner')) :
    F.configProps inner.path = none := by
  unfold check at h
  rw [eval_bind, eval_fromConfigPath] at h
  cases hprops : F.configProps inner.path with
  | none => rfl
  | some props =>
    rw [hprops] at h
    simp only at h
    split at h
    · cases h
    · rw [eval_bind] at h
      have hresult := congrArg Prod.fst h
      exact (eval_checkIncludes_ne_missing hresult).elim

/-! ## What the steps leave -/

variable {answers : ℕ → (query : Query Path Canonical) → Answer Text query} {t : ℕ}

omit [DecidableEq Canonical] in
/-- Every path is registered. -/
theorem mem_setIncludes {paths : List Path} {path : Path} (h : path ∈ paths) :
    path ∈ (Ask.run answers t (setIncludes paths)).1 := by
  have hfold : ∀ (includes : HashMap Path (Option (Props Canonical))) (t : ℕ),
      path ∈ paths ∨ path ∈ includes → path ∈ (Ask.run answers t (paths.foldlM
        (fun includes path => do
          let props ← Props.fromPath path
          pure (includes.insert path props)) includes)).1 := by
    clear h
    induction paths with
    | nil =>
      intro includes t h
      rcases h with h | h
      · exact (not_mem_nil h).elim
      · exact h
    | cons path' paths ih =>
      intro includes t h
      rw [foldlM_cons, Ask.run_bind, Ask.run_bind]
      refine ih _ _ ?_
      rcases h with h | h
      · rcases mem_cons.mp h with rfl | h
        · exact .inr (mem_insert.mpr (.inl rfl))
        · exact .inl h
      · exact .inr (mem_insert.mpr (.inr h))
  exact hfold ∅ t (.inl h)

/-- Only a change is remembered. -/
theorem check_inner (answers : ℕ → (query : Query Path Canonical) → Answer Text query) (t : ℕ)
    (inner : WatcherInner Path Canonical) (order : List Path) :
    let r := (Ask.run answers t (inner.check order)).1
    r.2.path = inner.path ∧ r.2.includes = inner.includes ∧ (r.1 ≠ .changed → r.2 = inner) := by
  unfold check
  rw [Ask.run_bind]
  split
  · exact ⟨rfl, rfl, fun _ => rfl⟩
  · split
    · exact ⟨rfl, rfl, fun h => (h rfl).elim⟩
    · rw [Ask.run_bind]
      exact ⟨rfl, rfl, fun _ => rfl⟩

end WatcherInner

/-! ## What is processed -/

section Load

variable (contents : Props Canonical → Except ReadError Text)
  (parser : Parser Path Canonical Text Config) (fs : ℕ → FileSystem Path Canonical)

/-- The main config that is read, and when. -/
def mainRead (since : ℕ) (configPath : ConfigPath Path) : Option (ℕ × Path) :=
  let (path, t) := Ask.run (Watcher.answers contents fs) since configPath.choose
  path.map fun path => (t, path)

/-- What is asked for the includes, and when. -/
def includeReads (since : ℕ) (configPath : ConfigPath Path) : List (ℕ × Query Path Canonical) :=
  match mainRead contents fs since configPath with
  | none => []
  | some (t, path) =>
    match (fs t).answer contents (.readToString path) with
    | .ok text => Ask.asked (Watcher.answers contents fs) (t + 1) (parser.parse path text)
    | .error _ => []

variable {contents parser fs} {configPath : ConfigPath Path}

/-- What is asked for the includes are the files of the includes that are returned. -/
theorem mem_includes {since : ℕ} {look : ℕ × Query Path Canonical}
    (h : look ∈ includeReads contents parser fs since configPath) :
    ∃ included ∈ (Ask.run (Watcher.answers contents fs) since (configPath.load parser)).1.includes,
      look.2 = .readToString included := by
  unfold includeReads at h
  cases hmain : mainRead contents fs since configPath with
  | none =>
    rw [hmain] at h
    exact (not_mem_nil h).elim
  | some read =>
    obtain ⟨t, path⟩ := read
    obtain ⟨chosen, hchosen, heq⟩ := map_eq_some_iff.mp hmain
    obtain ⟨ht, rfl⟩ := Prod.mk.injEq .. ▸ heq
    rw [hmain] at h
    simp only at h
    cases htext : (fs t).answer contents (.readToString chosen) with
    | error e =>
      rw [htext] at h
      exact (not_mem_nil h).elim
    | ok text =>
      rw [htext] at h
      have hfst : Watcher.answers contents fs t (.readToString chosen) = .ok text := htext
      unfold ConfigPath.load
      rw [Ask.run_bind, hchosen, ht]
      simp only [loadFile, Ask.run_bind, run_query, hfst]
      exact parser.listed chosen text _ _ look h

/-- **What is processed is what the file system finally gives**, if the main config that was read
is the final one, and the includes had the final properties when they were read. -/
theorem load_eq {since t : ℕ} {path : Path}
    (hmain : mainRead contents fs since configPath = some (t, path))
    (hpath : F.configPath configPath = some path) (hread : (fs t).props path = F.props path)
    (hincludes : ∀ look ∈ includeReads contents parser fs since configPath, ∀ included,
      look.2 = .readToString included → (fs look.1).props included = F.props included) :
    (Ask.run (Watcher.answers contents fs) since (configPath.load parser)).1 =
      Ask.eval (F.answer contents) (configPath.load parser) := by
  obtain ⟨chosen, hchosen, heq⟩ := map_eq_some_iff.mp hmain
  obtain ⟨ht, rfl⟩ := Prod.mk.injEq .. ▸ heq
  have hreads : ∀ text, (fs t).answer contents (.readToString chosen) = .ok text →
      includeReads contents parser fs since configPath =
        Ask.asked (Watcher.answers contents fs) (t + 1) (parser.parse chosen text) := by
    intro text htext
    unfold includeReads
    rw [hmain]
    simp only [htext]
  unfold ConfigPath.load
  rw [Ask.run_bind, eval_bind, eval_choose, hpath, hchosen, ht]
  refine run_eq_eval fun look hlook => ?_
  have hanswer : (fs t).answer contents (.readToString chosen) =
      F.answer contents (.readToString chosen) := answer_readToString_congr hread
  change look ∈ Ask.asked (Watcher.answers contents fs) t (loadFile parser chosen) at hlook
  unfold loadFile at hlook
  rw [asked_bind, asked_query, run_query] at hlook
  rcases mem_append.mp hlook with hlook | hlook
  · rw [mem_singleton.mp hlook]
    exact hanswer
  · cases htext : (fs t).answer contents (.readToString chosen) with
    | error e =>
      have hfst : Watcher.answers contents fs t (.readToString chosen) = .error e := htext
      rw [hfst] at hlook
      cases hlook
    | ok text =>
      have hfst : Watcher.answers contents fs t (.readToString chosen) = .ok text := htext
      rw [hfst] at hlook
      obtain ⟨included, -, hincluded⟩ := parser.listed chosen text _ _ look hlook
      have hprops := hincludes look (hreads text htext ▸ hlook) included hincluded
      rw [hincluded]
      exact answer_readToString_congr hprops

end Load

/-! ## Runs -/

/-- The path that is read. -/
def Query.path? : Query Path Canonical → Option Path
  | .readToString path => some path
  | _ => none

namespace Watcher

variable [DecidableEq Path] [DecidableEq Canonical]
variable (contents : Props Canonical → Except ReadError Text)
  (parser : Parser Path Canonical Text Config) (fs : ℕ → FileSystem Path Canonical)

/-- Every included file that was read for the result was registered with the properties that it had
then. -/
def RegisteredAsRead (w : Watcher Path Canonical Config)
    (delivery : Delivery Path Canonical Config) : Prop :=
  ∀ look ∈ includeReads contents parser fs delivery.since delivery.path,
    ∀ included ∈ look.2.path?, ∀ props ∈ w.inner.includes.lookup included,
      props = (fs look.1).props included

/-- The main config that was read for the result is the final one, and had the properties that were
remembered then. -/
def ReadAsRemembered (F : FileSystem Path Canonical)
    (delivery : Delivery Path Canonical Config) : Prop :=
  ∃ look ∈ mainRead contents fs delivery.since delivery.path,
    F.configPath delivery.path = some look.2 ∧ (fs look.1).props look.2 = delivery.lastProps

/-- No request for another config is waiting for its result. -/
def Answered (w : Watcher Path Canonical Config) : Prop :=
  ∀ entry ∈ w.log.getLast?, entry.delivery?.isSome

/-- The last result that was sent. -/
def lastDelivery (w : Watcher Path Canonical Config) : Option (Delivery Path Canonical Config) :=
  w.log.reverse.findSome? Entry.delivery?

/-- The result is the one that the final file system gives for the config that is watched. -/
def UpToDate (F : FileSystem Path Canonical) (w : Watcher Path Canonical Config)
    (delivery : Delivery Path Canonical Config) : Prop :=
  delivery.config = (Ask.eval (F.answer contents) (w.inner.path.load parser)).config

/-- A result that was sent last is the one of the config that is watched, and what it included is
registered. -/
def LastLoaded (w : Watcher Path Canonical Config) : Prop :=
  ∀ delivery, w.log.getLast? = some (.delivered delivery) →
    delivery.path = w.inner.path ∧ delivery.lastProps = w.inner.lastProps ∧
      let res := (Ask.run (answers contents fs) delivery.since (delivery.path.load parser)).1
      delivery.config = res.config ∧ ∀ path ∈ res.includes, path ∈ w.inner.includes

variable {contents parser fs} {w w' : Watcher Path Canonical Config} {turn : Turn Path}

variable {delivery : Delivery Path Canonical Config}

omit [DecidableEq Path] [DecidableEq Canonical] in
theorem getLast?_of_lastDelivery (hlast : w.lastDelivery = some delivery) (hanswered : w.Answered) :
    w.log.getLast? = some (.delivered delivery) := by
  unfold lastDelivery at hlast
  rw [List.getLast?_eq_head?_reverse]
  unfold Answered at hanswered
  rw [List.getLast?_eq_head?_reverse] at hanswered
  cases hlog : w.log.reverse with
  | nil =>
    rw [hlog] at hlast
    cases hlast
  | cons entry log =>
    rw [hlog] at hlast hanswered
    have hsent := hanswered entry rfl
    cases entry with
    | requested path => cases hsent
    | delivered delivery' =>
      obtain rfl := some.inj hlast
      rfl

omit [DecidableEq Canonical] in
theorem lastLoaded_start (path : ConfigPath Path) (includes : List Path) :
    (start contents fs path includes).LastLoaded contents parser fs :=
  fun _ hlast => nomatch hlast

omit [DecidableEq Canonical] in
theorem LastLoaded.receive (h : w.LastLoaded contents parser fs)
    (request : Option (Option Path)) :
    (w.receive contents fs request).LastLoaded contents parser fs := by
  match request with
  | none => exact h
  | some none => exact h
  | some (some path) =>
    intro delivery hlast
    have hrequested : (w.log ++ [Entry.requested path]).getLast? = some (.delivered delivery) :=
      hlast
    rw [List.getLast?_concat] at hrequested
    cases hrequested

omit [DecidableEq Canonical] in
theorem lastLoaded_load (w : Watcher Path Canonical Config) :
    (w.load contents parser fs).LastLoaded contents parser fs := by
  intro delivery hlast
  have hdelivery := List.getLast?_concat .. ▸ hlast
  obtain rfl := Entry.delivered.inj (some.inj hdelivery)
  exact ⟨rfl, rfl, rfl, fun path hmem => WatcherInner.mem_setIncludes hmem⟩

/-- The thread after the check of a turn. -/
def checked (contents : Props Canonical → Except ReadError Text)
    (fs : ℕ → FileSystem Path Canonical) (w : Watcher Path Canonical Config) (turn : Turn Path) :
    Watcher Path Canonical Config :=
  (check contents fs (w.receive contents fs turn.request) turn.order).2

theorem checked_inner (h : checkResult contents fs w turn ≠ .changed) :
    (w.checked contents fs turn).inner = (w.receive contents fs turn.request).inner :=
  (WatcherInner.check_inner (answers contents fs) _ _ turn.order).2.2 h

/-- What a turn of the loop does. -/
theorem step_cases (h : step contents parser fs w turn = some w') :
    HashMap.Lists turn.order (w.receive contents fs turn.request).inner.includes ∧
      ((checkResult contents fs w turn = .missing ∧ w' = w.checked contents fs turn) ∨
        (checkResult contents fs w turn = .unchanged ∧ turn.request = none ∧
          w' = w.checked contents fs turn) ∨
        (checkResult contents fs w turn ≠ .missing ∧
          (checkResult contents fs w turn = .changed ∨ turn.request ≠ none) ∧
          w' = (w.checked contents fs turn).load contents parser fs)) := by
  unfold step at h
  simp only at h
  split at h
  · rename_i hlists
    refine ⟨hlists, ?_⟩
    split at h
    · rename_i hresult
      exact .inl ⟨hresult, (some.inj h).symm⟩
    · rename_i hresult
      cases hrequest : turn.request with
      | none =>
        refine .inr (.inl ⟨hresult, rfl, ?_⟩)
        rw [if_neg (by rw [hrequest]; exact Bool.false_ne_true)] at h
        exact (some.inj h).symm
      | some request =>
        refine .inr (.inr ⟨fun hmissing => ?_, .inr (some_ne_none request), ?_⟩)
        · exact CheckResult.noConfusion (hresult.symm.trans hmissing)
        · rw [if_pos (by rw [hrequest]; rfl)] at h
          exact (some.inj h).symm
    · rename_i hresult
      refine .inr (.inr ⟨fun hmissing => ?_, .inl hresult, (some.inj h).symm⟩)
      exact CheckResult.noConfusion (hresult.symm.trans hmissing)
  · cases h

/-- A turn that sends nothing leaves what the request left. -/
theorem quiet_or_load (h : step contents parser fs w turn = some w') :
    (w'.inner = (w.receive contents fs turn.request).inner ∧
      w'.log = (w.receive contents fs turn.request).log ∧
      (turn.request ≠ none → checkResult contents fs w turn = .missing)) ∨
    ∃ w₁ : Watcher Path Canonical Config, w' = w₁.load contents parser fs := by
  obtain ⟨-, ⟨hmissing, rfl⟩ | ⟨hunchanged, hnone, rfl⟩ | ⟨-, -, rfl⟩⟩ := step_cases h
  · exact .inl ⟨checked_inner (hmissing ▸ CheckResult.noConfusion), rfl, fun _ => hmissing⟩
  · exact .inl ⟨checked_inner (hunchanged ▸ CheckResult.noConfusion), rfl, absurd hnone⟩
  · exact .inr ⟨_, rfl⟩

theorem LastLoaded.step (h : w.LastLoaded contents parser fs)
    (hstep : Watcher.step contents parser fs w turn = some w') :
    w'.LastLoaded contents parser fs := by
  rcases quiet_or_load hstep with ⟨hinner, hlog, -⟩ | ⟨w₁, rfl⟩
  · intro delivery hlast
    rw [hinner]
    exact h.receive turn.request delivery (hlog ▸ hlast)
  · exact lastLoaded_load w₁

/-- A request for another config finds it missing, and it was there when its properties were
recorded. -/
def Loses (contents : Props Canonical → Except ReadError Text)
    (fs : ℕ → FileSystem Path Canonical) (w : Watcher Path Canonical Config) (turn : Turn Path) :
    Prop :=
  (∃ path, turn.request = some (some path)) ∧ checkResult contents fs w turn = .missing ∧
    (w.receive contents fs turn.request).inner.lastProps ≠ none

omit [DecidableEq Path] [DecidableEq Canonical] in
theorem answered_of_sent {log : List (Entry Path Canonical Config)}
    (h : w.log = log ++ [.delivered delivery]) : w.Answered := by
  intro entry hlast
  rw [h, List.getLast?_concat] at hlast
  cases hlast
  rfl

/-- A request is left without an answer only while its config was never there. -/
theorem answered_step (h : w.Answered ∨ w.inner.lastProps = none) (hloses : ¬Loses contents fs w turn)
    (hstep : step contents parser fs w turn = some w') :
    w'.Answered ∨ w'.inner.lastProps = none := by
  rcases quiet_or_load hstep with ⟨hinner, hlog, hmissing⟩ | ⟨w₁, rfl⟩
  · unfold Answered
    rw [hinner, hlog]
    rcases hturn : turn.request with _ | _ | path
    · exact h
    · exact h
    · refine .inr (not_not.mp fun hthere => hloses ⟨⟨path, hturn⟩, hmissing ?_, ?_⟩) <;> rw [hturn]
      · exact some_ne_none _
      · exact hthere
  · exact .inl (answered_of_sent rfl)

/-- Until the first request or result, what was first recorded is remembered. -/
theorem inner_step {inner : WatcherInner Path Canonical} (h : w.log = [] → w.inner = inner)
    (hstep : step contents parser fs w turn = some w') (hempty : w'.log = []) :
    w'.inner = inner := by
  rcases quiet_or_load hstep with ⟨hinner, hlog, -⟩ | ⟨w₁, rfl⟩
  · rw [hlog] at hempty
    rw [hinner]
    rcases hturn : turn.request with _ | _ | path <;> rw [hturn] at hempty
    · exact h hempty
    · exact h hempty
    · exact (concat_ne_nil _ _ hempty).elim
  · exact (concat_ne_nil _ _ hempty).elim

/-! ### Once the file system stands still -/

omit [DecidableEq Canonical] in
theorem le_receive_now (w : Watcher Path Canonical Config) (request : Option (Option Path)) :
    w.now ≤ (w.receive contents fs request).now := by
  match request with
  | none => exact Nat.le_refl _
  | some none => exact Nat.le_refl _
  | some (some path) => exact le_run (WatcherInner.new (.explicit path) [])

theorem le_checked_now (w : Watcher Path Canonical Config) (turn : Turn Path) :
    w.now ≤ (w.checked contents fs turn).now :=
  (le_receive_now w turn.request).trans (le_run _)

variable {T : ℕ}

/-- The check of a turn, once the file system stands still. -/
theorem checked_eq (hstill : ∀ t ≥ T, fs t = F) (hnow : T ≤ w.now) :
    (checkResult contents fs w turn, (w.checked contents fs turn).inner) =
      Ask.eval (F.answer contents)
        ((w.receive contents fs turn.request).inner.check turn.order) := by
  refine run_eq_eval_of_still fun t ht => ?_
  have hT : T ≤ t := (hnow.trans (le_receive_now w turn.request)).trans ht
  unfold answers
  rw [hstill t hT]

omit [DecidableEq Canonical] in
/-- A result of a turn, once the file system stands still. -/
theorem upToDate_load (hstill : ∀ t ≥ T, fs t = F) (hnow : T ≤ w.now) :
    UpToDate contents parser F (w.load contents parser fs)
      ⟨w.now, w.inner.path, w.inner.lastProps, (Ask.run (answers contents fs) w.now
        (w.inner.path.load parser)).1.config⟩ := by
  refine congrArg ConfigParseResult.config (run_eq_eval_of_still fun t ht => ?_)
  unfold answers
  rw [hstill t (hnow.trans ht)]

omit [DecidableEq Canonical] in
/-- A result that was sent before, when everything that it was made from is remembered as it
is. -/
theorem LastLoaded.upToDate (h : w.LastLoaded contents parser fs) (hremembers : w.inner.Remembers F)
    (hlast : w.log.getLast? = some (.delivered delivery))
    (hmain : ReadAsRemembered contents fs F delivery)
    (hincludes : w.RegisteredAsRead contents parser fs delivery) :
    delivery.path = w.inner.path ∧ w.UpToDate contents parser F delivery := by
  obtain ⟨hpath, hlastProps, hconfig, hregistered⟩ := h delivery hlast
  obtain ⟨⟨t, path⟩, hread, hchosen, hprops⟩ := hmain
  refine ⟨hpath, hconfig.trans (congrArg ConfigParseResult.config ?_)⟩
  rw [← hpath]
  refine load_eq hread hchosen ?_ fun look hlook included hincluded => ?_
  · rw [hprops, hlastProps, hremembers.main, ← hpath]
    exact props_of_configPath hchosen
  · obtain ⟨included', hmem, hincluded'⟩ := mem_includes hlook
    obtain rfl := Query.readToString.inj (hincluded.symm.trans hincluded')
    have hmem : included ∈ w.inner.includes := hregistered included hmem
    obtain ⟨props, hlookup⟩ := mem_iff.mp hmem
    have hthen := hincludes look hlook included (by rw [hincluded]; rfl) props hlookup
    rw [← hthen]
    exact hremembers.includes included props hlookup

/-- A turn once the file system stands still, and the main config is there: the files are as they are
remembered, or the result for them is sent. -/
theorem remembers_or_sent (hstill : ∀ t ≥ T, fs t = F) (hnow : T ≤ w.now)
    (hmain : F.configProps w'.inner.path ≠ none)
    (hstep : step contents parser fs w turn = some w') :
    w'.inner.Remembers F ∨ ∃ log delivery, w'.log = log ++ [.delivered delivery] ∧
      delivery.path = w'.inner.path ∧ w'.UpToDate contents parser F delivery := by
  have hcheck : (checkResult contents fs w turn, (w.checked contents fs turn).inner) =
      Ask.eval (F.answer contents)
        ((w.receive contents fs turn.request).inner.check turn.order) := checked_eq hstill hnow
  obtain ⟨hlists, ⟨hmissing, rfl⟩ | ⟨hunchanged, -, rfl⟩ | ⟨-, -, rfl⟩⟩ := step_cases hstep
  · -- the main config is there
    rw [checked_inner (hmissing ▸ CheckResult.noConfusion)] at hmain
    rw [hmissing] at hcheck
    exact (hmain (WatcherInner.check_missing hcheck.symm)).elim
  · rw [checked_inner (hunchanged ▸ CheckResult.noConfusion)]
    rw [hunchanged] at hcheck
    exact .inl (WatcherInner.check_unchanged hlists hcheck.symm)
  · exact .inr ⟨_, _, rfl, rfl, upToDate_load hstill (hnow.trans (le_checked_now w turn))⟩

/-- **The last result** that was sent, after a turn of the loop in a file system that stands still
and has the main config: every request is answered, if none for another config was lost since; the
files are as they were first recorded, if nothing was sent; and the last result is the one of the
final files, if the main config was read as it was remembered and the includes were registered as
they were read.  Without a request a turn whose check finds nothing changed sends nothing. -/
theorem lastDelivery_upToDate (path : ConfigPath Path) (includes : List Path)
    {turns : List (Turn Path)}
    (hrun : Run.exec (step contents parser fs) (start contents fs path includes) turns = some w)
    (hstep : step contents parser fs w turn = some w') :
    (checkResult contents fs w turn ≠ .changed → turn.request = none → w'.log = w.log) ∧
    ∀ (T : ℕ) (F : FileSystem Path Canonical), (∀ t ≥ T, fs t = F) → T ≤ w.now →
      F.configProps w'.inner.path ≠ none →
      (∀ before after u, turns ++ [turn] = before ++ after →
        Run.exec (step contents parser fs) (start contents fs path includes) before = some u →
        u.Answered → Run.Along (step contents parser fs) (fun w turn => ¬Loses contents fs w turn)
          u after → w'.Answered) ∧
      (w'.Answered → w'.lastDelivery = none →
        w'.inner = (start contents fs path includes : Watcher Path Canonical Config).inner ∧
          w'.inner.Remembers F) ∧
      ∀ delivery ∈ w'.lastDelivery, w'.Answered → ReadAsRemembered contents fs F delivery →
        w'.RegisteredAsRead contents parser fs delivery →
        delivery.path = w'.inner.path ∧ w'.UpToDate contents parser F delivery := by
  have hrun' := Run.exec_concat_eq_some.mpr ⟨w, hrun, hstep⟩
  constructor
  · intro hunchanged hrequest
    have hlog : (w.checked contents fs turn).log = w.log := by
      change (w.receive contents fs turn.request).log = w.log
      rw [hrequest]
      rfl
    obtain ⟨-, ⟨-, rfl⟩ | ⟨-, -, rfl⟩ | ⟨-, hload, -⟩⟩ := step_cases hstep
    · exact hlog
    · exact hlog
    · rcases hload with hchanged | hsome
      · exact (hunchanged hchanged).elim
      · exact (hsome hrequest).elim
  intro T F hstill hnow hmain
  have hturn := remembers_or_sent hstill hnow hmain hstep
  refine ⟨fun before after u hsplit hbefore hanswered hkeeps => ?_, fun hanswered hnone => ?_,
    fun delivery hlast hanswered hread hregistered => ?_⟩
  · rw [hsplit] at hrun'
    obtain ⟨u', hu', hafter⟩ := Run.exec_append_eq_some.mp hrun'
    cases hbefore.symm.trans hu'
    have hpending := Run.along_invariant (I := fun w => w.Answered ∨ w.inner.lastProps = none)
      (fun _ _ _ h hloses hstep => answered_step h hloses hstep) (.inl hanswered) hkeeps hafter
    rcases hturn with hremembers | ⟨log, delivery, hsent, -⟩
    · exact hpending.resolve_right (hremembers.main ▸ hmain)
    · exact answered_of_sent hsent
  · have hlog : w'.log = [] := by
      by_contra hne
      obtain ⟨delivery, hdelivery⟩ := isSome_iff_exists.mp
        (hanswered _ (getLast?_eq_getLast_of_ne_nil hne))
      rw [findSome?_eq_none_iff.mp hnone _ (mem_reverse.mpr (getLast_mem hne))] at hdelivery
      cases hdelivery
    refine ⟨Run.exec_invariant (I := fun w => w.log = [] → w.inner =
      (start contents fs path includes : Watcher Path Canonical Config).inner)
      (fun _ _ _ h hstep => inner_step h hstep) (fun _ => rfl) hrun' hlog, ?_⟩
    refine hturn.resolve_right ?_
    rintro ⟨log, delivery, hsent, -⟩
    exact concat_ne_nil _ _ (hsent.symm.trans hlog)
  · have hsent := getLast?_of_lastDelivery hlast hanswered
    rcases hturn with hremembers | ⟨log, delivery', hthis, hpath, hconfig⟩
    · have hloaded : w'.LastLoaded contents parser fs :=
        Run.exec_invariant (fun _ _ _ h hstep => h.step hstep) (lastLoaded_start path includes) hrun'
      exact hloaded.upToDate hremembers hsent hread hregistered
    · rw [hthis, List.getLast?_concat] at hsent
      cases hsent
      exact ⟨hpath, hconfig⟩

/-- A file is told from the others by what it holds. -/
def plainContents (props : Props ℕ) : Except ReadError ℕ := .ok (10 * props.canonical + props.mtime)

/-- A config that includes a file beside it. -/
def includingParser : Parser ℕ ℕ ℕ ℕ where
  parse path _ := do
    let contents : Except ReadError ℕ ←
      Ask.query (A := Answer ℕ) (Query.readToString (path + 10))
    pure ⟨contents.mapError fun _ => (), [path + 10]⟩
  listed path _ _ _ look hlook := by
    rw [asked_bind, asked_query] at hlook
    rw [Ask.run_bind]
    rcases mem_append.mp hlook with hlook | hlook
    · rw [mem_singleton.mp hlook]
      exact ⟨path + 10, mem_cons_self, rfl⟩
    · cases hlook

/-- The main config is written, and later the file that it includes. -/
def editedFs (t : ℕ) : FileSystem ℕ ℕ where
  target path := path
  modified canonical :=
    if canonical = 0 then some (if t < 4 then 0 else 1) else some (if t < 10 then 0 else 1)

/-- The thread before its third turn. -/
def beforeTurn : Watcher ℕ ℕ ℕ :=
  (Run.exec (step plainContents includingParser editedFs)
    (start plainContents editedFs (.explicit 0) [10])
    [⟨none, [10]⟩, ⟨none, [10]⟩]).get (by decide +kernel)

def afterTurn : Watcher ℕ ℕ ℕ :=
  (step plainContents includingParser editedFs beforeTurn ⟨none, [10]⟩).get (by decide +kernel)

theorem lastDelivery_upToDate_editedFs :
    let delivery := afterTurn.lastDelivery.get (by decide +kernel)
    delivery.path = afterTurn.inner.path ∧
      afterTurn.UpToDate plainContents includingParser (editedFs 10) delivery := by
  refine ((lastDelivery_upToDate (.explicit 0) [10] (some_get _).symm
    (some_get _).symm).2 10 (editedFs 10) ?_ ?_ ?_).2.2 _ (some_get _).symm ?_ ?_ ?_
  · intro t ht
    simp only [editedFs, show ¬t < 4 by omega, show ¬t < 10 by omega]
    rfl
  · decide +kernel
  · decide +kernel
  · unfold Answered
    decide +kernel
  · unfold ReadAsRemembered
    decide +kernel
  · unfold RegisteredAsRead
    decide +kernel

/-! ## Changes that are missed -/

/-- A config without includes. -/
def plainParser : Parser ℕ ℕ ℕ ℕ where
  parse _ text := pure ⟨.ok text, []⟩
  listed _ _ _ _ _ hlook := nomatch hlook

/-- The file system stands still, the main config is there, the includes were registered as they
were read, and the last result is another one than that of the final files. -/
def Misses (parser : Parser ℕ ℕ ℕ ℕ) (fs : ℕ → FileSystem ℕ ℕ) (path : ConfigPath ℕ)
    (includes : List ℕ) (turns : List (Turn ℕ)) (turn : Turn ℕ) (T : ℕ) : Prop :=
  (∀ t ≥ T, fs t = fs T) ∧
  ∃ w ∈ Run.exec (step plainContents parser fs) (start plainContents fs path includes) turns,
    T ≤ w.now ∧ ∃ w' ∈ step plainContents parser fs w turn,
      (fs T).configProps w'.inner.path ≠ none ∧ ∃ delivery ∈ w'.lastDelivery,
        w'.RegisteredAsRead plainContents parser fs delivery ∧
        ¬w'.UpToDate plainContents parser (fs T) delivery

/-- A symlink is changed, and changed once more while the config is read. -/
def linkFs (t : ℕ) : FileSystem ℕ ℕ where
  target _ := if t < 2 then 10 else if t = 4 then 12 else 11
  modified _ := some 0

/-- The path of the user is a symlink to the file of the system, until it is removed. -/
def fallbackFs (t : ℕ) : FileSystem ℕ ℕ where
  target path := if path = 0 then (if t < 13 then 30 else 99) else if path = 1 then 30 else path
  modified canonical := if canonical = 99 then none else some 0

/-- The config that is asked for is away for a moment. -/
def awayFs (t : ℕ) : FileSystem ℕ ℕ where
  target path := if path = 0 then 10 else if t = 7 then 99 else 11
  modified canonical := if canonical = 99 then none else some 0

/-- Each of the three is missed, and a request is answered when nothing has changed. -/
theorem linkFs_misses :
    Misses plainParser linkFs (.explicit 0) [] [⟨none, []⟩] ⟨none, []⟩ 5 ∧
    Misses includingParser fallbackFs (.regular 0 1) [10] [⟨some none, [10]⟩] ⟨none, [10]⟩ 13 ∧
    Misses plainParser awayFs (.explicit 0) [] [⟨some none, []⟩, ⟨some (some 1), []⟩]
      ⟨none, []⟩ 8 ∧
    checkResult plainContents awayFs
      (start plainContents awayFs (.explicit 0) [] : Watcher ℕ ℕ ℕ) ⟨some none, []⟩ = .unchanged ∧
    ∃ w ∈ step plainContents plainParser awayFs (start plainContents awayFs (.explicit 0) [])
      ⟨some none, []⟩, w.log.length = 1 := by
  unfold Misses RegisteredAsRead UpToDate
  refine ⟨⟨fun t ht => ?_, by decide +kernel⟩, ⟨fun t ht => ?_, by decide +kernel⟩,
    ⟨fun t ht => ?_, by decide +kernel⟩, by decide +kernel, by decide +kernel⟩
  · simp only [linkFs, show ¬t < 2 by omega, show t ≠ 4 by omega]
    rfl
  · simp only [fallbackFs, show ¬t < 13 by omega]
    rfl
  · simp only [awayFs, show t ≠ 7 by omega]
    rfl

end Watcher

end Tiri.ConfigWatcher
