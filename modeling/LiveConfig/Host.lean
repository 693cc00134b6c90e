import LiveConfig.Value

set_option autoImplicit false

namespace LiveConfig

structure HostState where
  states : Fields Value := []
  user : Value := .null
deriving Inhabited

namespace HostState

def state? (host : HostState) (entity : String) : Option Value :=
  Fields.find? entity host.states

/-- The host as expressions see it under one name. -/
def view (host : HostState) : Value :=
  .object [("states", .object host.states), ("user", host.user)]

end HostState

end LiveConfig
