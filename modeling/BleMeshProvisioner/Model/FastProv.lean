import BleMeshProvisioner.Model.Keys

/-!
# Fast provisioning

Under `CONFIG_BLE_MESH_FAST_PROV` a provisioner that is itself a node resolves keys from
its node-role tables (`bt_mesh.sub`, `bt_mesh.app_keys`, its own device key) before the
provisioner's, and `bt_mesh_add_fast_prov_net_key` pins the net-key cursor to the index
the primary provisioner chose before adding the key (`provisioner_main.c:1305-1436`).
The fast-provisioning record itself lives in `provisioner_prov.c`, outside the source tree.
-/

set_option autoImplicit false

namespace BleMeshProvisioner

variable (cfg : Config)

/-- The device key for an address (`get_fast_prov_device_key`): the provisioner's own for
its primary address, otherwise that of the first node whose primary address it is. -/
def getFastProvDeviceKey (s : BtMesh) (addr : Nat) : Option Bytes16 :=
  if !bleMeshAddrIsUnicast addr then none
  else if addr = s.primaryAddr then some s.devKey
  else (findRow (fun n => n.unicastAddr == addr) s.meshNodes).map (·.2.devKey)

/-- The subnet with an index (`get_fast_prov_subnet`): the node-role table first. -/
def getFastProvSubnet (s : BtMesh) (netIdx : Nat) : Option Subnet :=
  match s.sub.find? (·.netIdx == netIdx) with
  | some sub => some sub
  | none => (findRow (·.netIdx == netIdx) s.pSub).map (·.2)

/-- The app key with both indices (`get_fast_prov_app_key`): the node-role table first. -/
def getFastProvAppKey (s : BtMesh) (netIdx appIdx : Nat) : Option AppKey :=
  match s.appKeys.find? (fun k => k.netIdx == netIdx && k.appIdx == appIdx) with
  | some key => some key
  | none => (findRow (fun k => k.netIdx == netIdx && k.appIdx == appIdx) s.pAppKeys).map (·.2)

/-- Modelled from the spec: `provisioner_set_fast_prov_net_idx` (provisioner_prov.c) records
the index the primary provisioner chose, and the key when one is given, for
`provisioner_get_fast_prov_net_idx` to return; its status is taken as success (0). -/
def provisionerSetFastProvNetIdx (s : BtMesh) (netKey : Option Bytes16) (netIdx : Nat) :
    Nat × BtMesh :=
  (0x00, { s with fastProvNetIdx := netIdx,
                  fastProvNetKey := match netKey with | some k => some k | none => s.fastProvNetKey })

/-- Records the fast-provisioning net index, with the subnet's active key if it is known
(`bt_mesh_set_fast_prov_net_idx`). -/
def btMeshSetFastProvNetIdx (s : BtMesh) (netIdx : Nat) : Nat × BtMesh :=
  match getFastProvSubnet s netIdx with
  | some sub => provisionerSetFastProvNetIdx s (some (if sub.krFlag then sub.keys1.net else sub.keys0.net)) netIdx
  | none => provisionerSetFastProvNetIdx s none netIdx

/-- Adds the network key of a fast-provisioning round (`bt_mesh_add_fast_prov_net_key`):
the net-key cursor is set to the recorded index, which is then passed as the requested
index; status 0x01 on any failure. -/
def btMeshAddFastProvNetKey (env : Env) (s : BtMesh) (netKey : Option Bytes16) : Nat × BtMesh :=
  let netIdx := s.fastProvNetIdx
  let r := btMeshProvisionerLocalNetKeyAdd cfg env { s with pNetIdxNext := netIdx } netKey (some netIdx)
  if r.1 ≠ 0 then (0x01, r.2.2)
  else
    let idx := r.2.1.getD netIdx
    match btMeshProvisionerLocalNetKeyGet r.2.2 idx with
    | none => (0x01, r.2.2)
    | some keys => provisionerSetFastProvNetIdx r.2.2 (some keys) idx

/-- The active bytes of a subnet found by the fast lookup (`bt_mesh_get_fast_prov_net_key`). -/
def btMeshGetFastProvNetKey (s : BtMesh) (netIdx : Nat) : Option Bytes16 :=
  (getFastProvSubnet s netIdx).map fun sub => if sub.krFlag then sub.keys1.net else sub.keys0.net

/-- The active bytes of an app key found by the fast lookup (`bt_mesh_get_fast_prov_app_key`). -/
def btMeshGetFastProvAppKey (s : BtMesh) (netIdx appIdx : Nat) : Option Bytes16 :=
  (getFastProvAppKey s netIdx appIdx).map fun key => if key.updated then key.keys1.val else key.keys0.val

end BleMeshProvisioner
