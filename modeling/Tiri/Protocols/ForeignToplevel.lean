import Tiri.Lib.HashMap
import Tiri.Protocols.ToplevelView

/-!
# The foreign toplevel protocols

`src/protocols/foreign_toplevel.rs`: how the windows of the layout are told to the clients of
ext-foreign-toplevel-list and wlr-foreign-toplevel-management.

A handle is known by the manager that it was created for and a number.  The managers of either
protocol that are there at a time are gone through in an order that none of them sees.
-/

namespace Tiri.Protocols.ForeignToplevel

/-- A window of the layout, with the role attributes and the current state of its toplevel. -/
structure Window (Surface Output : Type) where
  surface : Surface
  id : ℕ
  title : Option String
  appId : Option String
  maximized : Bool
  fullscreen : Bool
  output : Option Output

/-- `ToplevelData`, with the instances under their managers. -/
structure ToplevelData (Output : Type) where
  identifier : ℕ
  title : Option String
  appId : Option String
  states : List State
  output : Option Output
  extListInstances : HashMap ℕ ℕ
  wlrManagementInstances : HashMap ℕ (ℕ × List ℕ)

/-- A `wl_output` that a client has bound. -/
structure WlOutput (Client Output : Type) where
  id : ℕ
  client : Client
  output : Output

/-- `ForeignToplevelManagerState`, with the layout, the clients, and what was sent. -/
structure World (Surface Client Output : Type) where
  extListInstances : Finset ℕ
  wlrManagementInstances : Finset ℕ
  toplevels : HashMap Surface (ToplevelData Output)
  /-- The clients of all managers that were bound. -/
  clients : HashMap ℕ Client
  wlOutputs : List (WlOutput Client Output)
  nextWlOutput : ℕ
  nextHandle : ℕ → ℕ
  windows : List (Window Surface Output)
  keyboardFocus : Option Surface
  /-- What was sent to each manager and its handles. -/
  log : ℕ → List Event

variable {Surface Client Output : Type}

def Window.toStateVec (win : Window Surface Output) (hasFocus : Bool) : List State :=
  (if win.maximized then [.maximized] else []) ++ (if win.fullscreen then [.fullscreen] else []) ++
    -- Clients take the activated state for keyboard focus.
    if hasFocus then [.activated] else []

/-- The title and the app id, where there is one. -/
def textEvents (title appId : Option String) : List HandleEvent :=
  (title.map HandleEvent.title).toList ++ (appId.map HandleEvent.appId).toList

namespace ToplevelData

variable (data : ToplevelData Output)

/-- What `add_ext_instance` sends to the new handle. -/
def extEvents : List HandleEvent :=
  [.identifier data.identifier] ++ textEvents data.title data.appId ++ [.done]

/-- What `add_wlr_instance` sends to the new handle. -/
def wlrEvents (outputs : List ℕ) : List HandleEvent :=
  textEvents data.title data.appId ++ [.state data.states] ++ outputs.map .outputEnter ++ [.done]

end ToplevelData

/-- A new handle and its events. -/
def introduce (toplevel : ℕ) (events : List HandleEvent) : List Event :=
  .toplevel toplevel :: events.map (.handle toplevel)

namespace World

variable [DecidableEq Surface] [DecidableEq Client] [DecidableEq Output]
variable (w : World Surface Client Output)

def isAlive (wlOutput : ℕ) : Bool := w.wlOutputs.any fun x => decide (x.id = wlOutput)

variable (manager : ℕ)

/-- `client_outputs`, of the client of a manager. -/
def clientOutputs (output : Option Output) : List ℕ :=
  (w.wlOutputs.filter fun x =>
    decide (w.clients.lookup manager = some x.client ∧ output = some x.output)).map WlOutput.id

/-! ## `refresh` -/

/-- A toplevel whose window is closed. -/
def closeToplevel (surface : Surface) : World Surface Client Output :=
  match w.toplevels.lookup surface with
  | none => w
  | some data =>
    { w with
      toplevels := w.toplevels.erase surface
      log := fun manager => w.log manager ++
        ((data.extListInstances.lookup manager).map Event.closed).toList ++
        ((data.wlrManagementInstances.lookup manager).map fun (instance_, _) =>
          Event.closed instance_).toList }

variable (win : Window Surface Output)

/-- A new window: start tracking it. -/
def newToplevel (states : List State) : World Surface Client Output :=
  let data : ToplevelData Output := {
    identifier := win.id
    title := win.title
    appId := win.appId
    states := states
    output := win.output
    extListInstances := HashMap.tabulate w.extListInstances w.nextHandle
    wlrManagementInstances := HashMap.tabulate w.wlrManagementInstances fun manager =>
      (w.nextHandle manager, w.clientOutputs manager win.output) }
  { w with
    toplevels := w.toplevels.insert win.surface data
    nextHandle := fun manager =>
      if manager ∈ w.extListInstances ∨ manager ∈ w.wlrManagementInstances then
        w.nextHandle manager + 1
      else w.nextHandle manager
    log := fun manager => w.log manager ++
      (if manager ∈ w.extListInstances then introduce (w.nextHandle manager) data.extEvents
        else []) ++
      if manager ∈ w.wlrManagementInstances then
        introduce (w.nextHandle manager) (data.wlrEvents (w.clientOutputs manager win.output))
      else [] }

/-- An existing window: check if anything changed. -/
def changeToplevel (states : List State) (data : ToplevelData Output) :
    World Surface Client Output :=
  let newTitle := if data.title ≠ win.title then win.title else none
  let newAppId := if data.appId ≠ win.appId then win.appId else none
  let statesChanged := decide (data.states ≠ states)
  let outputChanged := decide (data.output ≠ win.output)
  let somethingChangedForExt := newTitle.isSome || newAppId.isSome
  let somethingChangedForWlr :=
    newTitle.isSome || newAppId.isSome || statesChanged || outputChanged
  let extEvents := if somethingChangedForExt then textEvents newTitle newAppId ++ [.done] else []
  let wlrEvents := fun (manager : ℕ) (outputs : List ℕ) =>
    if somethingChangedForWlr then
      textEvents newTitle newAppId ++ (if statesChanged then [.state states] else []) ++
        (if outputChanged then
          outputs.map .outputLeave ++ (w.clientOutputs manager win.output).map .outputEnter
        else []) ++ [.done]
    else []
  { w with
    toplevels := w.toplevels.insert win.surface { data with
      title := win.title
      appId := win.appId
      states := states
      output := win.output
      wlrManagementInstances :=
        HashMap.mapEntries (fun manager (instance_, outputs) =>
          -- Clean up dead wl_outputs.
          (instance_, (if outputChanged then w.clientOutputs manager win.output else outputs).filter
            w.isAlive)) data.wlrManagementInstances }
    log := fun manager => w.log manager ++ (match data.extListInstances.lookup manager with
        | some instance_ => extEvents.map (.handle instance_)
        | none => []) ++
      match data.wlrManagementInstances.lookup manager with
      | some (instance_, outputs) => (wlrEvents manager outputs).map (.handle instance_)
      | none => [] }

def refreshToplevel (hasFocus : Bool) : World Surface Client Output :=
  let states := win.toStateVec hasFocus
  match w.toplevels.lookup win.surface with
  | some data => w.changeToplevel win states data
  | none => w.newToplevel win states

/-- A tracked toplevel is closed if the layout has no window for it. -/
def retainToplevel (surface : Surface) : World Surface Client Output :=
  if w.windows.any fun win => decide (win.surface = surface) then w else w.closeToplevel surface

/-- A window that is not focused.  The focused one is saved for last. -/
def refreshUnfocused : World Surface Client Output :=
  if w.keyboardFocus = some win.surface then w else w.refreshToplevel win false

/-- `refresh`, with the order in which the toplevels are retained. -/
def refresh (order : List Surface) : World Surface Client Output :=
  let w := order.foldl retainToplevel w
  let focused := (w.windows.filter fun win =>
    decide (w.keyboardFocus = some win.surface)).getLast?
  let w := w.windows.foldl refreshUnfocused w
  match focused with
  | some win => w.refreshToplevel win true
  | none => w

/-! ## Managers and outputs -/

/-- `add_ext_instance`, to the toplevel of a surface. -/
def addExtInstance (surface : Surface) : World Surface Client Output :=
  match w.toplevels.lookup surface with
  | none => w
  | some data =>
    let toplevel := w.nextHandle manager
    { w with
      toplevels := w.toplevels.insert surface
        { data with extListInstances := data.extListInstances.insert manager toplevel }
      nextHandle := Function.update w.nextHandle manager (toplevel + 1)
      log := Function.update w.log manager (w.log manager ++ introduce toplevel data.extEvents) }

/-- `add_wlr_instance`, to the toplevel of a surface. -/
def addWlrInstance (surface : Surface) : World Surface Client Output :=
  match w.toplevels.lookup surface with
  | none => w
  | some data =>
    let toplevel := w.nextHandle manager
    let outputs := w.clientOutputs manager data.output
    { w with
      toplevels := w.toplevels.insert surface { data with
        wlrManagementInstances := data.wlrManagementInstances.insert manager (toplevel, outputs) }
      nextHandle := Function.update w.nextHandle manager (toplevel + 1)
      log := Function.update w.log manager
        (w.log manager ++ introduce toplevel (data.wlrEvents outputs)) }

/-- `bind` of an `ext_foreign_toplevel_list_v1`. -/
def bindExtList (client : Client) (order : List Surface) : World Surface Client Output :=
  let w := { w with clients := w.clients.insert manager client }
  let w := order.foldl (fun w surface => w.addExtInstance manager surface) w
  { w with extListInstances := insert manager w.extListInstances }

/-- `bind` of a `zwlr_foreign_toplevel_manager_v1`. -/
def bindWlrManagement (client : Client) (order : List Surface) : World Surface Client Output :=
  let w := { w with clients := w.clients.insert manager client }
  let w := order.foldl (fun w surface => w.addWlrInstance manager surface) w
  { w with wlrManagementInstances := insert manager w.wlrManagementInstances }

/-- A `stop` of either manager, or its end. -/
def stop : World Surface Client Output :=
  { w with
    extListInstances := w.extListInstances.erase manager
    wlrManagementInstances := w.wlrManagementInstances.erase manager }

/-- A toplevel, as `on_output_bound` looks at it. -/
def enterOutput (wlOutput : WlOutput Client Output) (surface : Surface) :
    World Surface Client Output :=
  match w.toplevels.lookup surface with
  | none => w
  | some data =>
    if data.output ≠ some wlOutput.output then w
    else
      { w with
        toplevels := w.toplevels.insert surface { data with
          wlrManagementInstances := HashMap.mapEntries (fun manager (instance_, outputs) =>
            if w.clients.lookup manager = some wlOutput.client then
              (instance_, outputs ++ [wlOutput.id])
            else (instance_, outputs)) data.wlrManagementInstances }
        log := fun manager => w.log manager ++ match data.wlrManagementInstances.lookup manager with
          | some (instance_, _) =>
            if w.clients.lookup manager = some wlOutput.client then
              [.outputEnter wlOutput.id, .done].map (.handle instance_)
            else []
          | none => [] }

/-- A client binds an output, and `on_output_bound` goes through the toplevels. -/
def bindOutput (client : Client) (output : Output) (order : List Surface) :
    World Surface Client Output :=
  let wlOutput : WlOutput Client Output := { id := w.nextWlOutput, client, output }
  let w := { w with
    wlOutputs := w.wlOutputs ++ [wlOutput]
    nextWlOutput := w.nextWlOutput + 1 }
  order.foldl (fun w surface => w.enterOutput wlOutput surface) w

/-- A client destroys a `wl_output`. -/
def destroyOutput (wlOutput : ℕ) : World Surface Client Output :=
  { w with wlOutputs := w.wlOutputs.filter fun x => x.id ≠ wlOutput }

/-! ## Runs -/

/-- A toplevel that is tracked does not lose its title or app id: a client can only set them, and
a surface that was unmapped is told of as closed before it is mapped again. -/
def keepsTexts : Bool :=
  match w.toplevels.lookup win.surface with
  | some data =>
    (!data.title.isSome || win.title.isSome) && (!data.appId.isSome || win.appId.isSome)
  | none => true

/-- What can happen. -/
inductive Step (Surface Client Output : Type)
  | layout (windows : List (Window Surface Output)) (keyboardFocus : Option Surface)
  | bindExtList (manager : ℕ) (client : Client) (order : List Surface)
  | bindWlrManagement (manager : ℕ) (client : Client) (order : List Surface)
  | stop (manager : ℕ)
  | bindOutput (client : Client) (output : Output) (order : List Surface)
  | destroyOutput (wlOutput : ℕ)
  | refresh (order : List Surface)

/-- One step.  Each window has its own surface, a manager is bound once, and the toplevels are gone
through in some order. -/
def step : Step Surface Client Output → Option (World Surface Client Output)
  | .layout windows keyboardFocus =>
    if (windows.map Window.surface).Nodup ∧ windows.all w.keepsTexts then
      some { w with windows, keyboardFocus }
    else none
  | .bindExtList manager client order =>
    if manager ∉ w.clients ∧ HashMap.Lists order w.toplevels then
      some (w.bindExtList manager client order)
    else none
  | .bindWlrManagement manager client order =>
    if manager ∉ w.clients ∧ HashMap.Lists order w.toplevels then
      some (w.bindWlrManagement manager client order)
    else none
  | .stop manager => some (w.stop manager)
  | .bindOutput client output order =>
    if HashMap.Lists order w.toplevels then some (w.bindOutput client output order) else none
  | .destroyOutput wlOutput => some (w.destroyOutput wlOutput)
  | .refresh order => if HashMap.Lists order w.toplevels then some (w.refresh order) else none

omit [DecidableEq Surface] [DecidableEq Client] [DecidableEq Output] in
/-- No windows, no clients. -/
def start : World Surface Client Output where
  extListInstances := ∅
  wlrManagementInstances := ∅
  toplevels := ∅
  clients := ∅
  wlOutputs := []
  nextWlOutput := 0
  nextHandle := fun _ => 0
  windows := []
  keyboardFocus := none
  log := fun _ => []

end World

end Tiri.Protocols.ForeignToplevel
