import Mathlib
import NodeWireguard.Client.CallQueue
import NodeWireguard.Client.ConfigFromJs

/-!
# The native methods

The JavaScript side of `WireGuardClient.cpp`: each method checks its arguments and either
returns a rejected promise or starts a worker. Strings are copied when a method is called;
the configuration object is read then, through the caller's reference to it.

What a worker does is named here and modelled where it belongs.
-/

namespace NodeWireguard.NativeMethods

open ByteText AddressText JsValues ConfigFromJs CallQueue

/-- An object of the caller's, which the caller may change. -/
abbrev Reference := Nat

/-- What every object of the caller's is at the moment. -/
abbrev Memory := Reference → JsValue

/-- The methods of `index.ts` with their arguments. An interface name and a configuration are
whatever value the caller passed; the configuration is a reference, since the object may change
later. -/
inductive Method where
  | createDevice (name : JsValue)
  | deleteDevice (name : JsValue)
  | devices
  | device (name : JsValue)
  | configureDevice (name : JsValue) (cfg : Reference)
  | setUp (name : JsValue)
  | setDown (name : JsValue)
  | setAddress (name cidr : JsValue)
  | deleteAddress (name cidr : JsValue)

/-- What the worker of a method does, off the JavaScript thread. -/
inductive Operation where
  | createWireGuardLink (name : Bytes)
  | deleteLink (name : Bytes)
  | fetchDevices
  | fetchDevice (name : Bytes)
  | applyConfig (name : Bytes) (cfg : Config)
  | setLinkUp (name : Bytes) (up : Bool)
  | addAddress (name cidr : Bytes)
  | deleteAddress (name cidr : Bytes)
  deriving DecidableEq

/-- The text of an exception. `e.what()` points at it as a C string, so what is made of it
ends at its first NUL. -/
def what : Exception → Bytes
  | .invalidArgument text | .outOfRange text | .runtimeError text | .systemError _ text => text

section Methods

variable {ν : Type} (error : Bytes → ν)

/-- `RejectPromise` -/
def rejectPromise (message : String) : Begun ν Operation := .refused (error (ascii message))

/-- A method whose only argument is an interface name. -/
def withName (name : JsValue) (operation : Bytes → Operation) : Begun ν Operation :=
  match name with
  | .string utf8 => .operates (operation utf8)
  | _ => rejectPromise error "expected interface name (string) as argument 0"

/-- A method of an interface name and a CIDR text. -/
def withNameAndCidr (name cidr : JsValue) (operation : Bytes → Bytes → Operation) :
    Begun ν Operation :=
  match name, cidr with
  | .string nameUtf8, .string cidrUtf8 => .operates (operation nameUtf8 cidrUtf8)
  | _, _ => rejectPromise error "expected interface name and cidr (strings)"

variable (inet : Inet)

/-- `ConfigureDevice`: the arguments are checked and the object is read at once, on the
JavaScript thread. What `ConfigFromJs` throws becomes a rejected promise with the text up to a
zero octet, since `Napi::Error::New` is given `e.what()`. -/
def configureDevice (name config : JsValue) : Begun ν Operation :=
  match name with
  | .string utf8 =>
      if config.isObject then
        match configFromJs inet config with
        | .ok cfg => .operates (.applyConfig utf8 cfg)
        | .error failure => .refused (error (cString (what failure)))
      else rejectPromise error "expected config (object) as argument 1"
  | _ => rejectPromise error "expected interface name (string) as argument 0"

/-- What a method does on an open client. The arguments are taken from the objects as they are at
that moment. -/
def beginMethod (memory : Memory) : Method → Begun ν Operation
  | .createDevice name => withName error name .createWireGuardLink
  | .deleteDevice name => withName error name .deleteLink
  | .devices => .operates .fetchDevices
  | .device name => withName error name .fetchDevice
  | .configureDevice name cfg => configureDevice error inet name (memory cfg)
  | .setUp name => withName error name (.setLinkUp · true)
  | .setDown name => withName error name (.setLinkUp · false)
  | .setAddress name cidr => withNameAndCidr error name cidr .addAddress
  | .deleteAddress name cidr => withNameAndCidr error name cidr .deleteAddress

/-- The native object of a client. -/
def nativeClient (undefined : ν) : Native Method Memory ν Operation where
  begin := beginMethod error inet
  clientClosed := error (ascii "client is closed")
  undefined := undefined

/-- A configuration that is applied is the one read from the object. -/
theorem configure_device_applies (name config : JsValue) (applied : Bytes) (cfg : Config)
    (operates : configureDevice error inet name config = .operates (.applyConfig applied cfg)) :
    name = .string applied ∧ configFromJs inet config = .ok cfg := by
  unfold configureDevice at operates
  split at operates
  · rename_i utf8
    split at operates
    · split at operates
      · rename_i read success
        obtain ⟨rfl, rfl⟩ : utf8 = applied ∧ read = cfg := by simpa using operates
        exact ⟨rfl, success⟩
      · cases operates
    · cases operates
  · cases operates

/-- Only `configureDevice` applies a configuration. Every other method starts another operation,
and this one only with a text and an object that is read. -/
theorem applies_iff_configure (memory : Memory) (method : Method) (applied : Bytes) (cfg : Config)
    (operates : beginMethod error inet memory method = .operates (.applyConfig applied cfg)) :
    ∃ name reference, method = .configureDevice name reference ∧ name = .string applied ∧
      configFromJs inet (memory reference) = .ok cfg := by
  have named (name : JsValue) (operation : Bytes → Operation)
      (begun : withName error name operation = .operates (.applyConfig applied cfg)) :
      ∃ utf8, operation utf8 = .applyConfig applied cfg := by
    unfold withName at begun
    split at begun
    · exact ⟨_, by simpa using begun⟩
    · cases begun
  have addressed (name cidr : JsValue) (operation : Bytes → Bytes → Operation)
      (begun : withNameAndCidr error name cidr operation = .operates (.applyConfig applied cfg)) :
      ∃ nameUtf8 cidrUtf8, operation nameUtf8 cidrUtf8 = .applyConfig applied cfg := by
    unfold withNameAndCidr at begun
    split at begun
    · exact ⟨_, _, by simpa using begun⟩
    · cases begun
  cases method with
  | configureDevice name reference =>
    exact ⟨name, reference, rfl, configure_device_applies error inet name _ applied cfg operates⟩
  | devices => cases operates
  | setAddress name cidr => obtain ⟨_, _, same⟩ := addressed _ _ _ operates; cases same
  | deleteAddress name cidr => obtain ⟨_, _, same⟩ := addressed _ _ _ operates; cases same
  | createDevice name => obtain ⟨_, same⟩ := named _ _ operates; cases same
  | deleteDevice name => obtain ⟨_, same⟩ := named _ _ operates; cases same
  | device name => obtain ⟨_, same⟩ := named _ _ operates; cases same
  | setUp name => obtain ⟨_, same⟩ := named _ _ operates; cases same
  | setDown name => obtain ⟨_, same⟩ := named _ _ operates; cases same

end Methods

end NodeWireguard.NativeMethods
