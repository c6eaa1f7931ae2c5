import Mathlib
import NodeWireguard.Netlink.DumpReassembly

/-!
# The device fields of a dump

`ParseDeviceMessage` is folded over the messages of a dump, so over the attributes of all of
them in order. A device field that is not a list keeps the value of the last attribute of its
type and the value it started with where there is none.
-/

namespace NodeWireguard.DumpFields

open ByteText AddressText AttributeStream SocketAddress DeviceSettings DeviceDump WireguardUapi

/-- The device attributes of all messages, in order. -/
def deviceAttrs (messages : List Bytes) : List Attr :=
  messages.flatMap (fun payload => walk (payload.drop 4))

variable (inet : Inet) (fresh : FreshOctets)

/-- Folding messages is folding their attributes. -/
theorem fold_messages_attrs (messages : List Bytes) (device : Device) :
    messages.foldl (parseDeviceMessage inet fresh) device =
      (deviceAttrs messages).foldl (parseDeviceAttr inet fresh) device := by
  rw [deviceAttrs, List.foldl_flatMap]
  rfl

/-- A field set by one type of attribute alone holds the last such attribute's value. -/
theorem fold_last {α : Type} (get : Device → α) (kind : UInt16) (value : Bytes → α)
    (own : ∀ device payload, get (parseDeviceField inet fresh device (kind, payload)) = value payload)
    (other : ∀ device field, field.1 ≠ kind →
      get (parseDeviceField inet fresh device field) = get device)
    (attrs : List Attr) (device : Device) :
    get (attrs.foldl (parseDeviceAttr inet fresh) device) =
      ((lookup kind attrs).map value).getD (get device) := by
  induction attrs using List.reverseRecOn with
  | nil => rfl
  | append_singleton attrs attr inductionHypothesis =>
    rw [List.foldl_append, List.foldl_cons, List.foldl_nil, parseDeviceAttr, lookup_append]
    by_cases same : attrKind attr = kind
    · have last : lookup kind [attr] = some attr.payload := by simp [lookup, same]
      rw [fieldOf, same, own, last]
      rfl
    · have none : lookup kind [attr] = none := by simp [lookup, same]
      rw [other _ _ same, inductionHypothesis, none]
      rfl

/-- The fields of a parsed dump that are not lists, one by one. -/
theorem parsed_name (messages : List Bytes) (device : Device) :
    (messages.foldl (parseDeviceMessage inet fresh) device).name =
      ((lookup WGDEVICE_A_IFNAME (deviceAttrs messages)).map cString).getD
        device.name := by
  rw [fold_messages_attrs]
  refine fold_last inet fresh Device.name WGDEVICE_A_IFNAME _ (fun _ _ => rfl) ?_ _ device
  intro device field different
  unfold parseDeviceField
  rw [if_neg different]
  split_ifs <;> rfl

/-- A dump sets the private key to the last one it has, -/
theorem parsed_private_key (messages : List Bytes) (device : Device) :
    (messages.foldl (parseDeviceMessage inet fresh) device).privateKey =
      ((lookup WGDEVICE_A_PRIVATE_KEY (deviceAttrs messages)).map
        (fun payload => some (octetsOf kKeyLen payload))).getD
        device.privateKey := by
  rw [fold_messages_attrs]
  refine fold_last inet fresh Device.privateKey WGDEVICE_A_PRIVATE_KEY _ (fun _ _ => rfl) ?_ _ device
  intro device field different
  unfold parseDeviceField
  split_ifs <;> rfl

/-- the public key likewise, -/
theorem parsed_public_key (messages : List Bytes) (device : Device) :
    (messages.foldl (parseDeviceMessage inet fresh) device).publicKey =
      ((lookup WGDEVICE_A_PUBLIC_KEY (deviceAttrs messages)).map
        (fun payload => some (octetsOf kKeyLen payload))).getD
        device.publicKey := by
  rw [fold_messages_attrs]
  refine fold_last inet fresh Device.publicKey WGDEVICE_A_PUBLIC_KEY _ (fun _ _ => rfl) ?_ _ device
  intro device field different
  unfold parseDeviceField
  split_ifs <;> rfl

/-- the port, -/
theorem parsed_listen_port (messages : List Bytes) (device : Device) :
    (messages.foldl (parseDeviceMessage inet fresh) device).listenPort =
      ((lookup WGDEVICE_A_LISTEN_PORT (deviceAttrs messages)).map
        (fun payload => UInt16.ofNat (unsignedAt 2 payload))).getD
        device.listenPort := by
  rw [fold_messages_attrs]
  refine fold_last inet fresh Device.listenPort WGDEVICE_A_LISTEN_PORT _ (fun _ _ => rfl) ?_ _ device
  intro device field different
  unfold parseDeviceField
  split_ifs <;> rfl

/-- and the mark. -/
theorem parsed_firewall_mark (messages : List Bytes) (device : Device) :
    (messages.foldl (parseDeviceMessage inet fresh) device).firewallMark =
      ((lookup WGDEVICE_A_FWMARK (deviceAttrs messages)).map
        (fun payload => UInt32.ofNat (unsignedAt 4 payload))).getD
        device.firewallMark := by
  rw [fold_messages_attrs]
  refine fold_last inet fresh Device.firewallMark WGDEVICE_A_FWMARK _ (fun _ _ => rfl) ?_ _ device
  intro device field different
  unfold parseDeviceField
  split_ifs <;> rfl

/-- No attribute touches the backend mark. -/
theorem parsed_userspace (messages : List Bytes) (device : Device) :
    (messages.foldl (parseDeviceMessage inet fresh) device).userspace = device.userspace := by
  rw [fold_messages_attrs]
  induction deviceAttrs messages generalizing device with
  | nil => rfl
  | cons attr attrs inductionHypothesis =>
    rw [List.foldl_cons, inductionHypothesis, parseDeviceAttr]
    unfold parseDeviceField
    split_ifs <;> rfl

end NodeWireguard.DumpFields
