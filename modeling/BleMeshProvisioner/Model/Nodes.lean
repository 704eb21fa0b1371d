import BleMeshProvisioner.Model.State

/-!
# The node registry

`mesh_nodes` holds every admitted device. Its first `CONFIG_BLE_MESH_MAX_PROV_NODES`
slots are for the nodes this provisioner provisioned itself (`prov = true`), the rest for
nodes registered from outside; `all_node_count` and `prov_node_count` count them. The
functions here are `provisioner_main.c:67-304` and `:456-648`: storing a node in the first
free slot of its partition, resetting a slot (which also purges the node's replay-list
entries and cache), the lookups by UUID, link address, unicast range and name, and
renaming.

`provisioner_store_node` and `provisioner_reset_node` run under
`bt_mesh_provisioner_lock`; the scans of `bt_mesh_provisioner_store_node_info` and of the
two `find_reset` functions do not. Here every function is one step on `BtMesh`;
`Analysis.RegistryLock` cuts them at the lock.
-/

set_option autoImplicit false

namespace BleMeshProvisioner

variable (cfg : Config)

/-- The NUL character. -/
def nul : Char := Char.ofNat 0

/-- The C string a character buffer holds: its characters before the first NUL. This is what
`strlen` and `strncmp` read only when the buffer holds a NUL; C reads a `node_name` buffer
with no NUL past its end into the fields after it, which the model does not follow, so the
statements about names are made where the buffers they read hold a NUL. -/
def cStr (buf : List Char) : List Char := buf.takeWhile (· != nul)

/-- Whether `strncmp(a, b, n) == 0`: the two C strings agree on their first `n`
characters, the end of a string counting as a character. -/
def strncmpEq (a b : List Char) (n : Nat) : Bool := (cStr a).take n == (cStr b).take n

/-- The buffer after `strncpy(dst, src, n)`: its first `n` characters are those of the C
string `src`, NUL-padded, and the rest of the buffer is untouched. -/
def strncpy (dst src : List Char) (n : Nat) : List Char :=
  (cStr src ++ List.replicate n nul).take n ++ dst.drop n

/-- Checks a node index (`provisioner_index_check`): 0 when it names an occupied slot,
-EINVAL otherwise. -/
def provisionerIndexCheck (s : BtMesh) (nodeIndex : Int) : Int :=
  if nodeIndex < 0 then -einval
  else if s.meshNodes.length ≤ nodeIndex.toNat then -einval
  else match s.meshNodes[nodeIndex.toNat]? with
    | some (some _) => 0
    | _ => -einval

/-- Counts one more node (`provisioner_node_count_inc`); the counters are `u16_t`. -/
def provisionerNodeCountInc (s : BtMesh) (prov : Bool) : BtMesh :=
  { s with
    allNodeCount := (s.allNodeCount + 1) % 0x10000
    provNodeCount := if prov then (s.provNodeCount + 1) % 0x10000 else s.provNodeCount }

/-- Counts one node fewer (`provisioner_node_count_dec`). A counter at 0 stays 0
(`if (all_node_count) all_node_count--`), which is `Nat`'s truncated subtraction. -/
def provisionerNodeCountDec (s : BtMesh) (prov : Bool) : BtMesh :=
  { s with
    allNodeCount := s.allNodeCount - 1
    provNodeCount := if prov then s.provNodeCount - 1 else s.provNodeCount }

/-- The self-provisioned node count (`provisioner_get_prov_node_count`). -/
def provisionerGetProvNodeCount (s : BtMesh) : Nat := s.provNodeCount

/-- The count of all nodes (`provisioner_get_node_count`). -/
def provisionerGetNodeCount (s : BtMesh) : Nat := s.allNodeCount

/-- Stores a node in the first free slot of its partition (`provisioner_store_node`):
`[0, MAX_PROV_NODES)` when `prov`, `[MAX_PROV_NODES, ARRAY_SIZE(mesh_nodes))` otherwise.
`alloc` is whether `osi_calloc` succeeds. Returns the error, what is written to `*index`,
and the state. -/
def provisionerStoreNode (s : BtMesh) (node : Node) (prov : Bool) (alloc : Bool) :
    Int × Option Nat × BtMesh :=
  let min := if prov then 0 else cfg.maxProvNodes
  let max := if prov then cfg.maxProvNodes else s.meshNodes.length
  match firstFreeIn s.meshNodes min max with
  | none => (-enomem, none, s)
  | some i =>
    if alloc then
      let s1 := provisionerNodeCountInc { s with meshNodes := s.meshNodes.set i (some node) } prov
      (0, some i, s1.persist cfg (.storeNodeInfo node prov))
    else (-enomem, none, s)

/-- Admits a node the provisioner has just provisioned (`provisioner_node_provision`): the
record is built from the handshake's results with an all-NUL name and stored as
self-provisioned. `index` is whether the out-pointer is non-NULL. The arguments are taken
whole: the C parameters' widths (`u8_t element_num`, `u16_t unicast_addr`, ...) would reduce
wider ones. -/
def provisionerNodeProvision (s : BtMesh) (addr : Option MeshAddr) (uuid : Option Bytes16)
    (oobInfo unicastAddr elementNum netIdx flags ivIndex : Nat) (devKey : Option Bytes16)
    (index : Bool) (alloc : Bool) : Int × Option Nat × BtMesh :=
  match addr, uuid, devKey, index with
  | some addr, some uuid, some devKey, true =>
    provisionerStoreNode cfg s
      { addr, devUuid := uuid, oobInfo, unicastAddr, elementNum, netIdx, flags, ivIndex,
        devKey, nodeName := List.replicate cfg.meshNameSize nul } true alloc
  | _, _, _, _ => (-einval, none, s)

/-- The replay-list loop of `provisioner_reset_node`: every entry whose `src` lies in
`[unicast_addr, unicast_addr + element_num)` is zeroed, and for each one
`bt_mesh_clear_rpl_single(node->unicast_addr)` is issued. -/
def rplReset (s : BtMesh) (node : Node) : BtMesh :=
  let hit := fun r : Rpl => decide (node.unicastAddr ≤ r.src ∧ r.src < node.unicastAddr + node.elementNum)
  { s with
    rpl := s.rpl.map fun r => if hit r then Rpl.zero else r
    effects := s.effects ++
      if cfg.settings then (s.rpl.filter hit).map fun _ => .clearRplSingle node.unicastAddr
      else [] }

/-- Frees a slot (`provisioner_reset_node`). An empty slot is left as it is; an occupied one
has its node's message cache and replay entries purged, its durable record erased, and is
counted out of the partition its index lies in. It returns 0 either way. -/
def provisionerResetNode (s : BtMesh) (nodeIndex : Nat) : Int × BtMesh :=
  match s.meshNodes[nodeIndex]? with
  | some (some node) =>
    let s1 := rplReset cfg
      { s with effects := s.effects ++ [.msgCacheClear node.unicastAddr node.elementNum] } node
    let isProv := decide (nodeIndex < cfg.maxProvNodes)
    let s2 := s1.persist cfg (.clearNodeInfo node.unicastAddr isProv)
    (0, provisionerNodeCountDec { s2 with meshNodes := s2.meshNodes.set nodeIndex none } isProv)
  | _ => (0, s)

/-- Looks for a self-provisioned node by UUID and resets it if asked
(`provisioner_find_reset_node_with_uuid`); the scan covers `[0, MAX_PROV_NODES)` only. -/
def provisionerFindResetNodeWithUuid (s : BtMesh) (uuid : Bytes16) (reset : Bool) :
    Bool × BtMesh :=
  match findRow (fun n => n.devUuid == uuid) (s.meshNodes.take cfg.maxProvNodes) with
  | none => (false, s)
  | some (i, _) => (true, if reset then (provisionerResetNode cfg s i).2 else s)

/-- Looks for a self-provisioned node by link-layer address and type and resets it if
asked (`provisioner_find_reset_node_with_addr`). -/
def provisionerFindResetNodeWithAddr (s : BtMesh) (addr : MeshAddr) (reset : Bool) :
    Bool × BtMesh :=
  match findRow (fun n => n.addr.val == addr.val && n.addr.type == addr.type)
      (s.meshNodes.take cfg.maxProvNodes) with
  | none => (false, s)
  | some (i, _) => (true, if reset then (provisionerResetNode cfg s i).2 else s)

/-- Resets every slot in order (`provisioner_reset_all_nodes`), leaving early, with 0, if a
reset returns -ENODEV. -/
def provisionerResetAllNodes (s : BtMesh) : Int × BtMesh :=
  go (List.range s.meshNodes.length) s
where
  /-- The loop over the slot indices still to reset. -/
  go : List Nat → BtMesh → Int × BtMesh
    | [], s => (0, s)
    | i :: is, s =>
      let r := provisionerResetNode cfg s i
      if r.1 = -enodev then (0, r.2) else go is r.2

/-- Admits a node registered from outside (`bt_mesh_provisioner_store_node_info`): -EEXIST
if a node in either partition already has its UUID, otherwise a store. -/
def btMeshProvisionerStoreNodeInfo (s : BtMesh) (node : Option Node) (prov : Bool)
    (alloc : Bool) : Int × BtMesh :=
  match node with
  | none => (-einval, s)
  | some node =>
    if (live s.meshNodes).any (·.devUuid == node.devUuid) then (-eexist, s)
    else
      let r := provisionerStoreNode cfg s node prov alloc
      (r.1, r.2.2)

/-- Names a node (`bt_mesh_provisioner_set_node_name`). The name is cut to `MESH_NAME_SIZE`
characters; -EEXIST if some node's name has that length and agrees with it; otherwise
`strncpy` writes that many characters over the slot's buffer. `name = none` is NULL. -/
def btMeshProvisionerSetNodeName (s : BtMesh) (nodeIndex : Int) (name : Option (List Char)) :
    Int × BtMesh :=
  match name with
  | none => (-einval, s)
  | some name =>
    if provisionerIndexCheck s nodeIndex ≠ 0 then (-einval, s)
    else
      let length := min (cStr name).length cfg.meshNameSize
      if (live s.meshNodes).any fun n =>
          (cStr n.nodeName).length == length && strncmpEq n.nodeName name length then
        (-eexist, s)
      else
        (0, { s with
          meshNodes := s.meshNodes.modify
            (Option.map fun n => { n with nodeName := strncpy n.nodeName name length })
            nodeIndex.toNat })

/-- A node's name (`bt_mesh_provisioner_get_node_name`): the C string in its buffer. -/
def btMeshProvisionerGetNodeName (s : BtMesh) (nodeIndex : Int) : Option (List Char) :=
  if provisionerIndexCheck s nodeIndex ≠ 0 then none
  else (s.meshNodes[nodeIndex.toNat]?.bind id).map fun n => cStr n.nodeName

/-- The slot of the first node carrying a name (`bt_mesh_provisioner_get_node_index`),
compared as `bt_mesh_provisioner_set_node_name` compares; -ENODEV if none does. -/
def btMeshProvisionerGetNodeIndex (s : BtMesh) (name : Option (List Char)) : Int :=
  match name with
  | none => -einval
  | some name =>
    let length := min (cStr name).length cfg.meshNameSize
    match findRow (fun n => (cStr n.nodeName).length == length && strncmpEq n.nodeName name length)
        s.meshNodes with
    | some (i, _) => i
    | none => -enodev

/-- The first node whose range `[unicast_addr, unicast_addr + element_num)` holds a unicast
address (`bt_mesh_provisioner_get_node_info`). -/
def btMeshProvisionerGetNodeInfo (s : BtMesh) (unicastAddr : Nat) : Option Node :=
  if !bleMeshAddrIsUnicast unicastAddr then none
  else (findRow (fun n => n.unicastAddr ≤ unicastAddr && unicastAddr < n.unicastAddr + n.elementNum)
    s.meshNodes).map (·.2)

/-- The node in slot 0 (`bt_mesh_provisioner_get_node_entry`). -/
def btMeshProvisionerGetNodeEntry (s : BtMesh) : Option Node := s.meshNodes[0]?.bind id

/-- The self-provisioned node count, which is what `bt_mesh_provisioner_get_node_count`
returns. -/
def btMeshProvisionerGetNodeCount (s : BtMesh) : Nat := s.provNodeCount

/-- Whether a destination is known (`provisioner_check_msg_dst_addr`): every non-unicast
address is, and a unicast one when some node's range holds it. -/
def provisionerCheckMsgDstAddr (s : BtMesh) (dstAddr : Nat) : Bool :=
  !bleMeshAddrIsUnicast dstAddr ||
    (live s.meshNodes).any fun n => n.unicastAddr ≤ dstAddr && dstAddr < n.unicastAddr + n.elementNum

/-- The device key for a destination (`provisioner_get_device_key`): that of the first node
whose primary address it is. -/
def provisionerGetDeviceKey (s : BtMesh) (dstAddr : Nat) : Option Bytes16 :=
  if !bleMeshAddrIsUnicast dstAddr then none
  else (findRow (fun n => n.unicastAddr == dstAddr) s.meshNodes).map (·.2.devKey)

section Counters

variable (s : BtMesh) (prov : Bool)

@[simp] theorem countInc_meshNodes : (provisionerNodeCountInc s prov).meshNodes = s.meshNodes := rfl
@[simp] theorem countDec_meshNodes : (provisionerNodeCountDec s prov).meshNodes = s.meshNodes := rfl
@[simp] theorem countInc_allNodeCount :
    (provisionerNodeCountInc s prov).allNodeCount = (s.allNodeCount + 1) % 0x10000 := rfl
@[simp] theorem countDec_allNodeCount :
    (provisionerNodeCountDec s prov).allNodeCount = s.allNodeCount - 1 := rfl
@[simp] theorem countInc_provNodeCount : (provisionerNodeCountInc s prov).provNodeCount =
    if prov then (s.provNodeCount + 1) % 0x10000 else s.provNodeCount := rfl
@[simp] theorem countDec_provNodeCount : (provisionerNodeCountDec s prov).provNodeCount =
    if prov then s.provNodeCount - 1 else s.provNodeCount := rfl

@[simp] theorem rplReset_meshNodes (node : Node) : (rplReset cfg s node).meshNodes = s.meshNodes := rfl
@[simp] theorem rplReset_allNodeCount (node : Node) :
    (rplReset cfg s node).allNodeCount = s.allNodeCount := rfl
@[simp] theorem rplReset_provNodeCount (node : Node) :
    (rplReset cfg s node).provNodeCount = s.provNodeCount := rfl

end Counters

end BleMeshProvisioner
