set_option autoImplicit false

namespace PluginHost

/-- The wake-up of the run loop. At most one wake-up is stored for the next wait. -/
structure Wake where
  stored : Bool := false
  waiting : Bool := false
deriving DecidableEq, Repr

namespace Wake

/-- Ends a wait; if there is none, the next one will not wait. -/
def wake (w : Wake) : Wake :=
  if w.waiting then { w with waiting := false } else { w with stored := true }

/-- Begins a wait, which uses up a stored wake-up at once. -/
def wait (w : Wake) : Wake :=
  if w.stored then { w with stored := false } else { w with waiting := true }

end Wake

/-- The flags of the run loop. -/
structure Control where
  quitting : Bool := false
  reload : Bool := false
deriving DecidableEq, Repr

namespace Control

/-- Once set, the quit flag stays set. -/
def quit (c : Control) : Control := { c with quitting := true }

def requestReload (c : Control) : Control := { c with reload := true }

/-- Uses up a pending request to reload. -/
def takeReload (c : Control) : Bool × Control := (c.reload, { c with reload := false })

end Control

end PluginHost
