import Std.Data.TreeMap
import VariableBridge.Bridge.Adapter
import VariableBridge.Bridge.Throttle

/-!
# Registries

A registry holds one adapter for each monitored variable, in ascending order of
the names. Reconciling it compares every adapter with the live variable: moved
memory is followed, and a variable that no longer fits its stream gets a new
stream, which is opened before the old one is closed. The first variable that
cannot be followed ends the pass; what was done before it stays.
-/

namespace VariableBridge

open Space (Descriptor Memory)

/-- What a registry has done so far. The counts have no bound here; counters of 64 bits would
begin anew only after more cycles than any bridge goes through. -/
structure Stats where
  /-- Reconciliation passes. -/
  cycles : Nat
  /-- Adapters that followed moved memory. -/
  repoints : Nat
  /-- Streams that were replaced. -/
  rebuilds : Nat
  /-- Cycles that sent samples. -/
  sends : Nat
  deriving DecidableEq, Repr, Inhabited

/-- The adapters of a bridge. -/
structure Registry where
  /-- The adapters by name, in ascending order of the names. -/
  adapters : List (String × Adapter)
  /-- What the streams have in common. -/
  context : StreamContext
  /-- Which cycles send. -/
  throttle : Throttle
  /-- What was done so far. -/
  stats : Stats
  deriving DecidableEq, Repr, Inhabited

/-- Resolve names in the given order and check that each variable can be sent. The
result has every name once, in ascending order. -/
def resolveAll (h : Host) : List String → Except BridgeError (Std.TreeMap String Descriptor)
  | names => names.foldlM (fun found name =>
    match h.catalogue.resolve name with
    | .error error => .error error
    | .ok d =>
      match layoutFor name d with
      | .error error => .error error
      | .ok _ => .ok (found.insert name d)) ∅

/-- Adapters that were made one after the other. -/
structure Opening where
  /-- The adapters. -/
  adapters : List (String × Adapter)
  /-- Why no more were made, if one failed. -/
  failure : Option BridgeError
  /-- The bus afterwards. -/
  bus : Bus

/-- Make adapters in order until one fails. -/
def openEach (h : Host) (context : StreamContext) : List (String × Descriptor) → Bus → Opening
  | [], bus => ⟨[], none, bus⟩
  | (name, d) :: rest, bus =>
    match Adapter.create h name d context bus with
    | .error error => ⟨[], some error, bus⟩
    | .ok (adapter, bus') =>
      let opening := openEach h context rest bus'
      { opening with adapters := (name, adapter) :: opening.adapters }

/-- What a pass does with one adapter. -/
inductive Action where
  /-- Nothing has changed. -/
  | keep
  /-- The memory has moved. -/
  | repoint
  /-- The variable no longer fits the stream. -/
  | rebuild
  deriving DecidableEq, Repr

/-- Compare an adapter with the live variable. -/
def planFor (a : Adapter) (live : Descriptor) : Action :=
  if !a.fits live then .rebuild
  else if a.address = live.address then .keep
  else .repoint

/-- A reconciled adapter. -/
structure Visit where
  /-- What was done. -/
  action : Action
  /-- The adapter afterwards. -/
  adapter : Adapter
  /-- The bus afterwards. -/
  bus : Bus

/-- Reconcile one adapter. A name that can no longer be found is a missing variable. -/
def reconcileOne (h : Host) (context : StreamContext) (name : String) (a : Adapter) (bus : Bus) :
    Except BridgeError Visit :=
  match h.catalogue.resolve name with
  | .error (.noSuchVariable missing) => .error (.missingVariable missing)
  | .error error => .error error
  | .ok live =>
    match planFor a live with
    | .keep => .ok ⟨.keep, a, bus⟩
    | .repoint => .ok ⟨.repoint, a.setAddress live.address, bus⟩
    | .rebuild =>
      match Adapter.create h name live context bus with
      | .error error => .error error
      | .ok (built, bus') => .ok ⟨.rebuild, built, bus'.close a.outlet⟩

/-- What a pass over adapters has done. -/
structure Pass where
  /-- The adapters afterwards, also those that were not reached. -/
  adapters : List (String × Adapter)
  /-- Adapters that followed moved memory. -/
  repoints : Nat
  /-- Streams that were replaced. -/
  rebuilds : Nat
  /-- Why the pass ended early, if it did. -/
  failure : Option BridgeError
  /-- The bus afterwards. -/
  bus : Bus

/-- Reconcile adapters in order until one fails. -/
def reconcileEach (h : Host) (context : StreamContext) : List (String × Adapter) → Bus → Pass
  | [], bus => ⟨[], 0, 0, none, bus⟩
  | (name, a) :: rest, bus =>
    match reconcileOne h context name a bus with
    | .error error => ⟨(name, a) :: rest, 0, 0, some error, bus⟩
    | .ok visit =>
      let pass := reconcileEach h context rest visit.bus
      { pass with
        adapters := (name, visit.adapter) :: pass.adapters
        repoints := pass.repoints + if visit.action = .repoint then 1 else 0
        rebuilds := pass.rebuilds + if visit.action = .rebuild then 1 else 0 }

/-- Send one sample of each adapter in order. -/
def sendEach (m : Memory) : List (String × Adapter) → Bus → List (String × Adapter) × Bus
  | [], bus => ([], bus)
  | (name, a) :: rest, bus =>
    let (sent, bus₁) := a.send m bus
    let (others, bus₂) := sendEach m rest bus₁
    ((name, sent) :: others, bus₂)

/-- The result of a call with the state and the bus after it. -/
structure Outcome (σ α : Type) where
  /-- What the call answers. -/
  result : Except BridgeError α
  /-- The state afterwards. -/
  state : σ
  /-- The bus afterwards. -/
  bus : Bus

namespace Registry

/-- Build a registry for the variables with these names. Every name is checked before
the first stream is opened; if a stream is refused, those opened before are closed again. -/
def build (h : Host) (names : List String) (context : StreamContext) (skip : UInt32) (bus : Bus) :
    Except BridgeError Registry × Bus :=
  match resolveAll h names with
  | .error error => (.error error, bus)
  | .ok found =>
    let opening := openEach h context found.toList bus
    match opening.failure with
    | some error =>
      (.error error, opening.bus.closeAll (opening.adapters.map fun a => a.2.outlet))
    | none => (.ok ⟨opening.adapters, context, .new skip, ⟨0, 0, 0, 0⟩⟩, opening.bus)

/-- The monitored names in ascending order. -/
def names (r : Registry) : List String := r.adapters.map Prod.fst

/-- Number of adapters. -/
def size (r : Registry) : Nat := r.adapters.length

/-- Is nothing monitored? -/
def isEmpty (r : Registry) : Bool := r.adapters.isEmpty

/-- Cycles that are skipped after each one that sends. -/
def skip (r : Registry) : UInt32 := r.throttle.skip

/-- The sending ends of all streams, in the order of the names. -/
def outlets (r : Registry) : List Outlet := r.adapters.map fun a => a.2.outlet

/-- Close all streams. -/
def close (r : Registry) (bus : Bus) : Bus := bus.closeAll r.outlets

/-- Compare every adapter with the live variable. -/
def reconcile (r : Registry) (h : Host) (bus : Bus) : Outcome Registry Unit :=
  let pass := reconcileEach h r.context r.adapters bus
  let state := { r with
    adapters := pass.adapters
    stats := { r.stats with
      cycles := r.stats.cycles + 1
      repoints := r.stats.repoints + pass.repoints
      rebuilds := r.stats.rebuilds + pass.rebuilds } }
  ⟨match pass.failure with
    | some error => .error error
    | none => .ok (), state, pass.bus⟩

/-- Send one sample of every variable. -/
def sendAll (r : Registry) (m : Memory) (bus : Bus) : Registry × Bus :=
  let (adapters, bus') := sendEach m r.adapters bus
  ({ r with adapters, stats := { r.stats with sends := r.stats.sends + 1 } }, bus')

/-- One cycle: reconcile, then send if the throttle says so. Says whether it sent. -/
def process (r : Registry) (h : Host) (bus : Bus) : Outcome Registry Bool :=
  let reconciled := r.reconcile h bus
  match reconciled.result with
  | .error error => ⟨.error error, reconciled.state, reconciled.bus⟩
  | .ok () =>
    let (sends, throttle) := reconciled.state.throttle.tick
    let ticked := { reconciled.state with throttle }
    if sends then
      let (sent, bus') := ticked.sendAll h.memory reconciled.bus
      ⟨.ok true, sent, bus'⟩
    else ⟨.ok false, ticked, reconciled.bus⟩

end Registry

/-- Close the streams of several registries one after the other. -/
def closeRegistries (rs : List Registry) (bus : Bus) : Bus := rs.foldl (fun b r => r.close b) bus

end VariableBridge
