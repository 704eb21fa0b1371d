import Mathlib.Data.List.Pairwise
import BleMeshProvisioner.Analysis.Registry

/-!
# The address lookups

Four scans of `mesh_nodes` read a node off an address: `provisioner_check_msg_dst_addr`,
`provisioner_get_device_key` (`provisioner_main.c:456-502`),
`bt_mesh_provisioner_get_node_info` (`:624-648`) and `get_fast_prov_device_key`
(`:1305-1328`). The first passes every non-unicast address and otherwise looks for a node
whose range `[unicast_addr, unicast_addr + element_num)` holds the address, as the node-info
scan does; the device-key scans look for a node whose primary address it is. Every scan but
the destination check refuses a non-unicast address outright.

When the live nodes' ranges are non-empty and pairwise disjoint, the scans agree
(`lookups_agree`): for a unicast address the node-info scan returns the one live node whose
range holds it, and a device key is found exactly for the primary address of a live node,
and is that node's. Nothing keeps a range below 0x8000, though, and a non-unicast address
inside a live node's range is refused by the node-info scan
(`nodeInfo_refuses_address_in_range`).
-/

set_option autoImplicit false

namespace BleMeshProvisioner

/-- The callers' precondition on the registry: every live node's range is non-empty and no
two live nodes' ranges meet. -/
structure RangesDisjoint (s : BtMesh) : Prop where
  nonempty : ∀ n ∈ live s.meshNodes, 0 < n.elementNum
  disjoint : (live s.meshNodes).Pairwise fun n m =>
    n.unicastAddr + n.elementNum ≤ m.unicastAddr ∨ m.unicastAddr + m.elementNum ≤ n.unicastAddr

section Scans

variable {s : BtMesh} {a : Nat}

/-- INTERNAL: Two live nodes whose ranges hold one address are one node. -/
theorem RangesDisjoint.eq_of_mem (hd : RangesDisjoint s) {n m : Node} (hn : n ∈ live s.meshNodes)
    (hm : m ∈ live s.meshNodes) (hna : n.unicastAddr ≤ a ∧ a < n.unicastAddr + n.elementNum)
    (hma : m.unicastAddr ≤ a ∧ a < m.unicastAddr + m.elementNum) : n = m := by
  by_contra hne
  have := hd.disjoint.forall (fun _ _ h => h.symm) hn hm hne
  omega

/-- INTERNAL: A live node found by a scan of the table. -/
theorem mem_live_of_findRow {p : Node → Bool} {i : Nat} {n : Node}
    (h : findRow p s.meshNodes = some (i, n)) : n ∈ live s.meshNodes ∧ p n = true :=
  ⟨mem_live.mpr (List.mem_iff_getElem?.mpr ⟨i, (findRow_eq_some h).1⟩), (findRow_eq_some h).2.1⟩

/-- The destination check passes exactly the non-unicast addresses and those the node-info
scan finds a node for. -/
theorem checkMsgDstAddr_iff (s : BtMesh) (a : Nat) :
    provisionerCheckMsgDstAddr s a = true ↔
      bleMeshAddrIsUnicast a = false ∨ (btMeshProvisionerGetNodeInfo s a).isSome := by
  unfold provisionerCheckMsgDstAddr btMeshProvisionerGetNodeInfo
  cases bleMeshAddrIsUnicast a
  · simp
  · simp [findRow_isSome, List.any_eq_true]

/-- With disjoint ranges, the node-info scan of a unicast address returns the one live node
whose range holds it. -/
theorem getNodeInfo_eq_some_iff (hd : RangesDisjoint s) (ha : bleMeshAddrIsUnicast a = true)
    (n : Node) :
    btMeshProvisionerGetNodeInfo s a = some n ↔
      n ∈ live s.meshNodes ∧ n.unicastAddr ≤ a ∧ a < n.unicastAddr + n.elementNum := by
  unfold btMeshProvisionerGetNodeInfo
  rw [ha, Bool.not_true, if_neg Bool.false_ne_true]
  constructor
  · intro h
    obtain ⟨⟨i, m⟩, hf, rfl⟩ := Option.map_eq_some'.mp h
    obtain ⟨hm, hp⟩ := mem_live_of_findRow hf
    simpa using And.intro hm hp
  · rintro ⟨hn, hna⟩
    obtain ⟨⟨i, m⟩, hf⟩ := Option.isSome_iff_exists.mp ((findRow_isSome
      (p := fun m : Node => m.unicastAddr ≤ a && a < m.unicastAddr + m.elementNum)).mpr
        ⟨n, hn, by simpa using hna⟩)
    obtain ⟨hm, hp⟩ := mem_live_of_findRow hf
    rw [hf, Option.map_some', hd.eq_of_mem hm hn (by simpa using hp) hna]

/-- A device key is found exactly for a unicast address that is the primary address of a
live node. -/
theorem getDeviceKey_isSome_iff (s : BtMesh) (a : Nat) :
    (provisionerGetDeviceKey s a).isSome ↔
      bleMeshAddrIsUnicast a = true ∧ ∃ n ∈ live s.meshNodes, n.unicastAddr = a := by
  unfold provisionerGetDeviceKey
  cases bleMeshAddrIsUnicast a
  · simp
  · simp [findRow_isSome]

end Scans

/-! ## The scans agree -/

/-- With the live nodes' ranges non-empty and pairwise disjoint, for every address `a`: the
destination check passes `a` exactly when `a` is not unicast or the node-info scan finds a
node; for a unicast `a` the node-info scan returns the one live node whose range holds `a`;
a device key is found exactly when `a` is unicast and the primary address of a live node,
and it is then the device key of the node the node-info scan returns; and the
fast-provisioning device-key scan agrees with the device-key scan on every address but the
local primary address. -/
theorem lookups_agree (s : BtMesh) (hd : RangesDisjoint s) (a : Nat) :
    (provisionerCheckMsgDstAddr s a = true ↔
      bleMeshAddrIsUnicast a = false ∨ (btMeshProvisionerGetNodeInfo s a).isSome) ∧
    (bleMeshAddrIsUnicast a = true → ∀ n, btMeshProvisionerGetNodeInfo s a = some n ↔
      n ∈ live s.meshNodes ∧ n.unicastAddr ≤ a ∧ a < n.unicastAddr + n.elementNum) ∧
    ((provisionerGetDeviceKey s a).isSome ↔
      bleMeshAddrIsUnicast a = true ∧ ∃ n ∈ live s.meshNodes, n.unicastAddr = a) ∧
    (∀ k, provisionerGetDeviceKey s a = some k →
      ∃ n, btMeshProvisionerGetNodeInfo s a = some n ∧ k = n.devKey) ∧
    (a ≠ s.primaryAddr → getFastProvDeviceKey s a = provisionerGetDeviceKey s a) := by
  refine ⟨checkMsgDstAddr_iff s a, getNodeInfo_eq_some_iff hd, getDeviceKey_isSome_iff s a,
    fun k hk => ?_, fun hne => ?_⟩
  · have ha : bleMeshAddrIsUnicast a = true :=
      ((getDeviceKey_isSome_iff s a).mp (Option.isSome_iff_exists.mpr ⟨k, hk⟩)).1
    unfold provisionerGetDeviceKey at hk
    rw [ha, Bool.not_true, if_neg Bool.false_ne_true] at hk
    obtain ⟨⟨i, n⟩, hf, rfl⟩ := Option.map_eq_some'.mp hk
    obtain ⟨hn, hp⟩ := mem_live_of_findRow hf
    have hna : n.unicastAddr = a := by simpa using hp
    exact ⟨n, (getNodeInfo_eq_some_iff hd ha n).mpr ⟨hn, by have := hd.nonempty n hn; omega⟩, rfl⟩
  · unfold getFastProvDeviceKey provisionerGetDeviceKey
    rw [if_neg (show ¬a = s.primaryAddr from hne)]

/-- A registry with one node, UUID 1, primary address 0x7FFF and two elements, provisioned
into `smallConfig`. -/
def edgeStore : BtMesh :=
  nodeRun smallConfig (bootState smallConfig 0 0 [])
    [.provision (some ⟨0, [1, 1, 1, 1, 1, 1]⟩) (some (testKey 1)) 0 0x7FFF 2 0 0 0 (some (testKey 0))
      true true]

/-- On `edgeStore`, whose ranges are non-empty and disjoint, the device key of address
0x7FFF is that of the node the node-info scan returns for it. -/
theorem lookups_agree_edgeStore :
    RangesDisjoint edgeStore ∧ provisionerGetDeviceKey edgeStore 0x7FFF = some (testKey 0) ∧
      ∃ n, btMeshProvisionerGetNodeInfo edgeStore 0x7FFF = some n ∧ testKey 0 = n.devKey :=
  have hd : RangesDisjoint edgeStore := ⟨by decide, by decide⟩
  have hk : provisionerGetDeviceKey edgeStore 0x7FFF = some (testKey 0) := by decide
  ⟨hd, hk, (lookups_agree edgeStore hd 0x7FFF).2.2.2.1 _ hk⟩

/-- In a reachable registry whose one node has primary address 0x7FFF and two elements, the
node's range holds the non-unicast address 0x8000, but the node-info scan of 0x8000 finds
nothing. -/
theorem nodeInfo_refuses_address_in_range :
    EmptyRegistry smallConfig (bootState smallConfig 0 0 []) ∧ RangesDisjoint edgeStore ∧
      (∃ n ∈ live edgeStore.meshNodes, n.unicastAddr ≤ 0x8000 ∧ 0x8000 < n.unicastAddr + n.elementNum) ∧
      btMeshProvisionerGetNodeInfo edgeStore 0x8000 = none :=
  ⟨emptyRegistry_bootState _ 0 0 [], ⟨by decide, by decide⟩, by decide, by decide⟩

end BleMeshProvisioner
