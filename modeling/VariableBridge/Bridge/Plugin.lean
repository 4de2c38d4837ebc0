import VariableBridge.Bridge.Control
import VariableBridge.Bridge.Gate

/-!
# The bridge

A bridge is prepared for a signal, processes cycles and is released again. Each
of the longer calls is a sequence of steps between which the controlling side
may change parameters: preparing first takes over settings and shape and then
installs the registry; releasing drops the current registry, empties the slot,
arms the safety check and unlocks the parameters.
-/

namespace VariableBridge

/-- A bridge. -/
structure Plugin where
  /-- The state shared with the controlling side. -/
  control : Control
  /-- The registry that cycles use. -/
  current : Option Registry
  /-- The safety check of this span. -/
  gate : Gate
  /-- A probe to use from the first span on, instead of that of the calling thread. -/
  probe : Option Probe
  /-- What the system tells of the calling thread, from one query to the next. -/
  thread : Probe
  /-- Has a span begun, so that the gate uses the probe? -/
  probing : Bool
  deriving Inhabited

namespace Plugin

/-- A bridge that is not prepared. -/
def new (settings : Settings) (probe : Option Probe) (thread : Probe) : Plugin :=
  ⟨.new settings, none, .new settings.rtStrict, probe, thread, false⟩

/-- Calls of the probe so far; queries of the calling thread are not counted. -/
def probeCalls (p : Plugin) : Nat := (p.probe.map Probe.calls).getD 0

/-- The settings to prepare with: if no variable is named, all of them are. -/
def settingsToPrepare (c : Control) (h : Host) : Except BridgeError Settings :=
  if c.settings.vars.isEmpty then
    match h.catalogue.discover with
    | .error error => .error error
    | .ok vars => .ok { c.settings with vars }
  else .ok c.settings

/-- The step of preparing that takes over settings and shape, and the registry to
install after it. -/
def takeOver (c : Control) (h : Host) (shape : Shape) (bus : Bus) : Outcome Control Registry :=
  match shape.validate with
  | .error error => ⟨.error error, c, bus⟩
  | .ok () =>
    if c.isPrepared then ⟨.error (.invalidConfig "bridge is already prepared"), c, bus⟩
    else
      match c.settings.validate with
      | .error error => ⟨.error error, c, bus⟩
      | .ok () =>
        match settingsToPrepare c h with
        | .error error => ⟨.error error, c, bus⟩
        | .ok settings =>
          match Control.buildRegistry h settings shape bus with
          | (.error error, bus') => ⟨.error error, c, bus'⟩
          | (.ok registry, bus') => ⟨.ok registry, { c with settings, shape := some shape }, bus'⟩

/-- The step of preparing that installs a registry: the slot is emptied, the registry
before is dropped and the safety check of the new span begins. -/
def install (p : Plugin) (registry : Registry) (rtStrict : Bool) (bus : Bus) : Plugin × Bus :=
  let (control, bus₁) := p.control.clearSlot bus
  ({ p with
      control
      current := some registry
      gate := .new rtStrict
      probing := p.probe.isSome },
    closeRegistries p.current.toList bus₁)

/-- Prepare the bridge. -/
def prepare (p : Plugin) (h : Host) (shape : Shape) (bus : Bus) : Outcome Plugin Unit :=
  let taken := takeOver p.control h shape bus
  match taken.result with
  | .error error => ⟨.error error, p, taken.bus⟩
  | .ok registry =>
    let (installed, bus') :=
      { p with control := taken.state }.install registry taken.state.settings.rtStrict taken.bus
    ⟨.ok (), installed, bus'⟩

/-- The safety check of a cycle. Before the first span, and where no probe was given, the calling
thread is asked. -/
def check (p : Plugin) : Except BridgeError Unit × Plugin :=
  match p.probing, p.probe with
  | true, some probe =>
    let (verdict, gate, asked) := p.gate.check probe
    (verdict, { p with gate, probe := some asked })
  | _, _ =>
    let (verdict, gate, asked) := p.gate.check p.thread
    (verdict, { p with gate, thread := asked })

/-- Take a pending registry into use. -/
def adopt (p : Plugin) : Plugin :=
  let (_, current, slot) := p.control.slot.poll p.current
  { p with current, control := { p.control with slot } }

/-- One cycle. -/
def process (p : Plugin) (h : Host) (bus : Bus) : Outcome Plugin Unit :=
  let (verdict, admitted) := p.check
  match verdict with
  | .error error => ⟨.error error, admitted, bus⟩
  | .ok () =>
    let adopted := admitted.adopt
    if adopted.control.active then
      match adopted.current with
      | none => ⟨.ok (), adopted, bus⟩
      | some registry =>
        let cycle := registry.process h bus
        ⟨match cycle.result with
          | .error error => .error error
          | .ok _ => .ok (), { adopted with current := some cycle.state }, cycle.bus⟩
    else ⟨.ok (), adopted, bus⟩

/-- One cycle that hands a signal through. -/
def processSignal {α : Type} (p : Plugin) (h : Host) (signal : α) (bus : Bus) : Outcome Plugin α :=
  let cycle := p.process h bus
  ⟨match cycle.result with
    | .error error => .error error
    | .ok () => .ok signal, cycle.state, cycle.bus⟩

/-- The step of releasing that drops the current registry. -/
def dropCurrent (p : Plugin) (bus : Bus) : Plugin × Bus :=
  ({ p with current := none }, closeRegistries p.current.toList bus)

/-- The step of releasing that empties the slot. -/
def clearSlot (p : Plugin) (bus : Bus) : Plugin × Bus :=
  let (control, bus') := p.control.clearSlot bus
  ({ p with control }, bus')

/-- The step of releasing that arms the safety check. -/
def rearm (p : Plugin) : Plugin := { p with gate := p.gate.rearm }

/-- The step of releasing that unlocks the parameters. -/
def unlock (p : Plugin) : Plugin := { p with control := { p.control with shape := none } }

/-- Release the bridge. -/
def release (p : Plugin) (bus : Bus) : Plugin × Bus :=
  let (dropped, bus₁) := p.dropCurrent bus
  let (cleared, bus₂) := dropped.clearSlot bus₁
  (cleared.rearm.unlock, bus₂)

/-- Give the bridge up. The controlling side stays as it is, with an empty slot. -/
def drop (p : Plugin) (bus : Bus) : Control × Bus :=
  let (cleared, bus₁) := p.clearSlot bus
  (cleared.control, (cleared.dropCurrent bus₁).2)

end Plugin

end VariableBridge
