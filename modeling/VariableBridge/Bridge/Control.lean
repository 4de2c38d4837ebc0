import VariableBridge.Bridge.Registry
import VariableBridge.Bridge.Settings
import VariableBridge.Bridge.Slot

/-!
# The controlling side

The controlling side owns the settings and the slot. While the bridge is
prepared, the list of variables and the safety check are locked; a change of
another parameter that shows in the streams builds a new registry and publishes
it. A change that fails leaves everything as it was.
-/

namespace VariableBridge

/-- The state that the two sides share. -/
structure Control where
  /-- The parameters. -/
  settings : Settings
  /-- The signal of the host while the bridge is prepared. -/
  shape : Option Shape
  /-- The switch that the processing side looks at. -/
  active : Bool
  /-- Registries on their way between the sides. -/
  slot : Slot Registry
  deriving DecidableEq, Repr, Inhabited

namespace Control

/-- The state of a bridge that is not prepared. -/
def new (settings : Settings) : Control := ⟨settings, none, settings.activate, .empty⟩

/-- Is the bridge prepared? -/
def isPrepared (c : Control) : Bool := c.shape.isSome

/-- Build a registry for these settings. -/
def buildRegistry (h : Host) (settings : Settings) (shape : Shape) (bus : Bus) :
    Except BridgeError Registry × Bus :=
  Registry.build h settings.vars ⟨shape.streamRate settings.skip, settings.sourceId⟩ settings.skip
    bus

/-- Publish a registry and close the streams of those that this drops. -/
def publish (c : Control) (r : Registry) (bus : Bus) : Control × Bus :=
  let (dropped, slot) := c.slot.publish r
  ({ c with slot }, closeRegistries dropped bus)

/-- Empty the slot and close the streams of what was in it. -/
def clearSlot (c : Control) (bus : Bus) : Control × Bus :=
  let (dropped, slot) := c.slot.clear
  ({ c with slot }, closeRegistries dropped bus)

/-- Take over changed settings. Equal settings change nothing; while prepared, a
registry for the new settings is built and published first. -/
def update (c : Control) (h : Host) (next : Settings) (bus : Bus) : Outcome Control Unit :=
  if next = c.settings then ⟨.ok (), c, bus⟩
  else
    match c.shape with
    | none => ⟨.ok (), { c with settings := next }, bus⟩
    | some shape =>
      match buildRegistry h next shape bus with
      | (.error error, bus') => ⟨.error error, c, bus'⟩
      | (.ok registry, bus') =>
        let (published, bus'') := c.publish registry bus'
        ⟨.ok (), { published with settings := next }, bus''⟩

/-- Change the identifier of the source. -/
def setSourceId (c : Control) (h : Host) (sourceId : String) (bus : Bus) : Outcome Control Unit :=
  c.update h { c.settings with sourceId } bus

/-- Change the number of cycles to skip. -/
def setSkip (c : Control) (h : Host) (skip : UInt32) (bus : Bus) : Outcome Control Unit :=
  c.update h { c.settings with skip } bus

/-- Change the list of variables. -/
def setVars (c : Control) (vars : List String) : Except BridgeError Unit × Control :=
  if c.isPrepared then (.error (.locked "vars"), c)
  else
    match Settings.checkNames vars with
    | .error error => (.error error, c)
    | .ok () => (.ok (), { c with settings := { c.settings with vars } })

/-- Switch the safety check on or off. -/
def setRtStrict (c : Control) (rtStrict : Bool) : Except BridgeError Unit × Control :=
  if c.isPrepared then (.error (.locked "rt_strict"), c)
  else (.ok (), { c with settings := { c.settings with rtStrict } })

/-- Switch sending on or off. -/
def setActivate (c : Control) (activate : Bool) : Control :=
  { c with settings := { c.settings with activate }, active := activate }

/-- The setting that tells whether samples are sent becomes the given one, and no other setting
changes. -/
@[simp] theorem settings_setActivate (c : Control) (activate : Bool) :
    (c.setActivate activate).settings = { c.settings with activate } := rfl

/-- The switch that the processing side looks at becomes the given one, too, also while the bridge
is prepared. -/
@[simp] theorem active_setActivate (c : Control) (activate : Bool) :
    (c.setActivate activate).active = activate := rfl

/-- No registry is built or dropped when sending is switched on or off. -/
@[simp] theorem slot_setActivate (c : Control) (activate : Bool) :
    (c.setActivate activate).slot = c.slot := rfl

/-- Drop the registry that the processing side is done with. Says whether there was one. -/
def collect (c : Control) (bus : Bus) : Bool × Control × Bus :=
  let (retired, slot) := c.slot.collect
  (retired.isSome, { c with slot }, closeRegistries retired.toList bus)

/-- Does a registry wait for the processing side? -/
def hasPending (c : Control) : Bool := c.slot.hasPending

end Control

end VariableBridge
