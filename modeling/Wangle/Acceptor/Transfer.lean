import Wangle.Acceptor.ConnectionManager

/-!
# Connections that move from one manager to another

Several managers share their connections. What belongs to a connection, its `connectionManager_` and its
drain state, is kept beside the managers.
-/

namespace Wangle.Acceptor

structure Managers (Mgr Conn : Type) where
  manager : Mgr → ConnectionManager Conn
  connectionManager : Conn → Option Mgr := fun _ => none
  drainState : Conn → DrainState := fun _ => .none

namespace Managers
variable {Mgr Conn : Type} [DecidableEq Mgr] [DecidableEq Conn]

def init (timeout : Mgr → Int) : Managers Mgr Conn := { manager := fun m => .init (timeout m) true }

/-- One manager runs; the connections that it manages then point to it. -/
def runs (m : Mgr) (call : ConnectionManager Conn → Except Stuck (ConnectionManager Conn))
    (s : Managers Mgr Conn) : Except Stuck (Managers Mgr Conn) :=
  match call { s.manager m with drainState := s.drainState } with
  | .error e => .error e
  | .ok t => .ok
      { manager := Function.update s.manager m t
        connectionManager := fun c =>
          if t.isManaged c then some m
          else if s.connectionManager c = some m then none
          else s.connectionManager c
        drainState := t.drainState }

def addConnection (reaction : Reaction Conn) (m : Mgr) (c : Conn) (s : Managers Mgr Conn) :
    Except Stuck (Managers Mgr Conn) :=
  let add := runs m fun t => .ok (t.addConnection reaction c)
  match s.connectionManager c with
  | none => add s
  | some oldMgr =>
      if oldMgr = m then add s
      else match s.runs oldMgr fun t => .ok (t.removeConnection c) with
        | .error e => .error e
        | .ok s => add s

/-- The closure of `addConnection` asks whether the connection is linked, into whichever list it is. -/
def runPendingAdd (reaction : Reaction Conn) (m : Mgr) (c : Conn) (s : Managers Mgr Conn) :
    Except Stuck (Managers Mgr Conn) :=
  if c ∈ (s.manager m).pendingAdds then
    let forceToClose := !(s.manager m).notifyPendingShutdown
    match s.runs m fun t => .ok { t with pendingAdds := t.pendingAdds.erase c } with
    | .error e => .error e
    | .ok s => match s.connectionManager c with
        | none => .ok s
        | some owner => s.runs owner fun t => .ok (t.fireCloseWhenIdle reaction forceToClose c)
  else .error .notScheduled

def step (s : Managers Mgr Conn) : Mgr × Op Conn → Except Stuck (Managers Mgr Conn)
  | (m, .addConnection c reaction) => s.addConnection reaction m c
  | (m, .runPendingAdd c reaction) => s.runPendingAdd reaction m c
  | (m, op) => s.runs m (·.step op)

abbrev run (s : Managers Mgr Conn) (ops : List (Mgr × Op Conn)) : Except Stuck (Managers Mgr Conn) :=
  Transition.run step s ops

end Managers
end Wangle.Acceptor
