import BleMeshProvisioner.Analysis.RegistryLock

/-!
# The two partitions of the registry

`mesh_nodes` is cut at `CONFIG_BLE_MESH_MAX_PROV_NODES`. `provisioner_store_node` puts a node
this provisioner provisioned (`prov = true`) into the first free slot below the cut and a
node registered from outside into the first free slot above it, and the scans of both
`find_reset` functions (`provisioner_main.c:253-288`) cover only the slots below it.

So of the calls a caller can make, none removes or changes a node registered from outside:
under every schedule of concurrent callers such a node keeps its slot, every field
unchanged (`Sys.run_keepsOutside`), and a reset by its UUID returns `false`. Only
`provisioner_reset_all_nodes` frees it.

Below the cut a store and a reset undo each other: a store of a self-provisioned node that
returns 0, followed by a reset by its UUID, finds that node and leaves the table and both
counters as they were before the store (`storeNodeInfo_findReset_roundTrip`).
-/

set_option autoImplicit false

namespace BleMeshProvisioner

variable (cfg : Config)

/-! ## Above the cut -/

/-- Every node in a slot at or above the cut is still in its slot, unchanged. -/
def KeepsOutside (s s' : BtMesh) : Prop :=
  ∀ i n, cfg.maxProvNodes ≤ i → s.meshNodes[i]? = some (some n) → s'.meshNodes[i]? = some (some n)

/-- A state keeps its own nodes above the cut. -/
theorem KeepsOutside.refl (s : BtMesh) : KeepsOutside cfg s s := fun _ _ _ h => h

/-- Keeping the nodes above the cut composes along a run. -/
theorem KeepsOutside.trans {s1 s2 s3 : BtMesh} (h12 : KeepsOutside cfg s1 s2)
    (h23 : KeepsOutside cfg s2 s3) : KeepsOutside cfg s1 s3 :=
  fun i n hi h => h23 i n hi (h12 i n hi h)

section Blocks

variable {s : BtMesh}

/-- INTERNAL: A store fills a free slot, so it keeps every occupied one. -/
theorem storeNode_keepsOccupied (node : Node) (prov alloc : Bool) {i : Nat} {n : Node}
    (h : s.meshNodes[i]? = some (some n)) :
    (provisionerStoreNode cfg s node prov alloc).2.2.meshNodes[i]? = some (some n) := by
  rcases storeNode_cases cfg (s := s) node prov alloc with ⟨hr, -⟩ | ⟨j, hj, -, hr⟩ <;> rw [hr]
  · exact h
  · have hfree := (firstFreeIn_eq_some.mp hj).2.2.1
    have hji : j ≠ i := fun he => by rw [he, h] at hfree; cases hfree
    rw [persist_meshNodes, countInc_meshNodes, List.getElem?_set_ne hji]
    exact h

/-- INTERNAL: A reset below the cut keeps every slot at or above it. -/
theorem resetNode_keepsOutside {j : Nat} (hj : j < cfg.maxProvNodes) :
    KeepsOutside cfg s (provisionerResetNode cfg s j).2 := fun i _ hi h => by
  rw [resetNode_meshNodes, List.getElem?_set_ne (by omega)]
  exact h

/-- INTERNAL: A slot a `find_reset` scan finds lies below the cut. -/
theorem lt_maxProvNodes_of_findRow {p : Node → Bool} {i : Nat} {n : Node}
    (hf : findRow p (s.meshNodes.take cfg.maxProvNodes) = some (i, n)) : i < cfg.maxProvNodes := by
  have := (List.getElem?_eq_some_iff.mp (findRow_eq_some hf).1).1
  simp only [List.length_take] at this
  omega

/-- A block keeps every node above the cut, from a caller waiting, if at all, to reset a
slot below it; and it leaves the caller waiting, if at all, to reset a slot below it. -/
theorem RegCall.block_keepsOutside (c : RegCall) {pc : Pc}
    (hpc : ∀ j, pc = .resetting j → j < cfg.maxProvNodes) :
    KeepsOutside cfg s (c.block cfg s pc).2 ∧
      ∀ j, (c.block cfg s pc).1 = .resetting j → j < cfg.maxProvNodes := by
  unfold RegCall.block
  split
  · refine ⟨fun i n _ h => ?_, nofun⟩
    unfold provisionerNodeProvision
    split
    · exact storeNode_keepsOccupied cfg _ _ _ h
    · exact h
  · exact ⟨.refl cfg s, nofun⟩
  · split_ifs <;> exact ⟨.refl cfg s, nofun⟩
  · exact ⟨fun i n _ h => storeNode_keepsOccupied cfg _ _ _ h, nofun⟩
  · split
    · exact ⟨.refl cfg s, nofun⟩
    · rename_i hf
      exact ⟨.refl cfg s, fun j hj => by cases hj; exact lt_maxProvNodes_of_findRow cfg hf⟩
  · split
    · exact ⟨.refl cfg s, nofun⟩
    · rename_i hf
      exact ⟨.refl cfg s, fun j hj => by cases hj; exact lt_maxProvNodes_of_findRow cfg hf⟩
  · exact ⟨resetNode_keepsOutside cfg (hpc _ rfl), nofun⟩
  · exact ⟨.refl cfg s, hpc⟩

end Blocks

/-- Every caller waiting to reset a slot waits for one below the cut. -/
def Sys.ResetsBelowCut (sys : Sys) : Prop :=
  ∀ c ∈ sys.callers, ∀ j, c.2 = .resetting j → j < cfg.maxProvNodes

/-- No caller waits to reset a slot before any block has run. -/
theorem Sys.init_resetsBelowCut (s : BtMesh) (calls : List RegCall) :
    (Sys.init s calls).ResetsBelowCut cfg := by
  intro c hc j hj
  obtain ⟨c', -, rfl⟩ := List.mem_map.mp hc
  cases hj

/-- Under any interleaving, one block keeps every node above the cut and every pending
reset below it: the find_reset scans read only the first MAX_PROV_NODES slots. -/
theorem Sys.step_keepsOutside {sys : Sys} (h : sys.ResetsBelowCut cfg) (k : Nat) :
    KeepsOutside cfg sys.mesh (Sys.step cfg sys k).mesh ∧ (Sys.step cfg sys k).ResetsBelowCut cfg := by
  unfold Sys.step
  split
  · exact ⟨.refl cfg _, h⟩
  · rename_i c pc hk
    obtain ⟨hkeep, hpc⟩ := c.block_keepsOutside cfg (h _ (List.mem_iff_getElem?.mpr ⟨k, hk⟩))
    refine ⟨hkeep, fun c' hc' j hj => ?_⟩
    rcases List.mem_or_eq_of_mem_set hc' with hc' | rfl
    · exact h c' hc' j hj
    · exact hpc j hj

/-- INTERNAL: The run lemma behind `Sys.run_keepsOutside`. -/
theorem Sys.run_keepsOutside_of {sys : Sys} (h : sys.ResetsBelowCut cfg) (sched : List Nat) :
    KeepsOutside cfg sys.mesh (Sys.run cfg sys sched).mesh ∧
      (Sys.run cfg sys sched).ResetsBelowCut cfg := by
  induction sched generalizing sys with
  | nil => exact ⟨.refl cfg _, h⟩
  | cons k ks ih =>
    obtain ⟨h1, h2⟩ := Sys.step_keepsOutside cfg h k
    exact (ih h2).imp_left (h1.trans cfg)

/-- Under every schedule of concurrent registry callers, whatever their calls, a node in a
slot at or above `CONFIG_BLE_MESH_MAX_PROV_NODES` is still in its slot at the end, every field
unchanged: the `find_reset` scans never reach it, and a store fills only a free slot. -/
theorem Sys.run_keepsOutside (s : BtMesh) (calls : List RegCall) (sched : List Nat) {i : Nat}
    {n : Node} (hi : cfg.maxProvNodes ≤ i) (hn : s.meshNodes[i]? = some (some n)) :
    (Sys.run cfg (Sys.init s calls) sched).mesh.meshNodes[i]? = some (some n) :=
  (Sys.run_keepsOutside_of cfg (Sys.init_resetsBelowCut cfg s calls) sched).1 i n hi hn

/-- The node with UUID 1 registered from outside, in slot 1 of `smallConfig`'s table. -/
def outsideStore : BtMesh :=
  (btMeshProvisionerStoreNodeInfo smallConfig (bootState smallConfig 0 0 []) (some (sampleNode 1 2))
    false true).2

/-- A reset by UUID 1, and a store of a self-provisioned node with UUID 2. -/
def outsideCalls : List RegCall :=
  [.findResetWithUuid (testKey 1), .storeNodeInfo (some (sampleNode 2 3)) true true]

/-- Whichever way the two calls interleave, the node registered from outside stays in slot 1;
scheduled store scan, reset scan, store, the reset returns `false` and the store 0. -/
theorem Sys.run_keepsOutside_outsideStore :
    outsideStore.meshNodes[1]? = some (some (sampleNode 1 2)) ∧
      (Sys.run smallConfig (Sys.init outsideStore outsideCalls) [1, 0, 1]).mesh.meshNodes[1]? =
        some (some (sampleNode 1 2)) ∧
      (Sys.run smallConfig (Sys.init outsideStore outsideCalls) [1, 0, 1]).callers.map (·.2) =
        [.done 0, .done 0] :=
  have hn : outsideStore.meshNodes[1]? = some (some (sampleNode 1 2)) := by decide
  ⟨hn, Sys.run_keepsOutside smallConfig outsideStore outsideCalls [1, 0, 1] (by decide) hn,
    by decide⟩

/-! ## Below the cut -/

/-- With the counters consistent, a store of a self-provisioned node that returns 0 is undone
by `provisioner_find_reset_node_with_uuid` for its UUID: the scan finds the node, the call
returns `true`, and the table and both counters are as they were before the store. -/
theorem storeNodeInfo_findReset_roundTrip {s : BtMesh} (hinv : RegistryInv cfg s) {node : Node}
    {alloc : Bool} (h : (btMeshProvisionerStoreNodeInfo cfg s (some node) true alloc).1 = 0) :
    (provisionerFindResetNodeWithUuid cfg (btMeshProvisionerStoreNodeInfo cfg s (some node) true
        alloc).2 node.devUuid true).1 = true ∧
      (provisionerFindResetNodeWithUuid cfg (btMeshProvisionerStoreNodeInfo cfg s (some node) true
        alloc).2 node.devUuid true).2.meshNodes = s.meshNodes ∧
      (provisionerFindResetNodeWithUuid cfg (btMeshProvisionerStoreNodeInfo cfg s (some node) true
        alloc).2 node.devUuid true).2.allNodeCount = s.allNodeCount ∧
      (provisionerFindResetNodeWithUuid cfg (btMeshProvisionerStoreNodeInfo cfg s (some node) true
        alloc).2 node.devUuid true).2.provNodeCount = s.provNodeCount := by
  unfold btMeshProvisionerStoreNodeInfo at h ⊢
  dsimp only at h ⊢
  split_ifs at h ⊢ with hdup
  · simp [eexist] at h
  rcases storeOutcome cfg hinv node true alloc with
    ⟨j, -, -, -, hj, hfree, -, hnodes, hall, hprov⟩ | ⟨h0, -⟩
  swap
  · rw [h0] at h; simp [enomem] at h
  simp only [if_true] at hj hprov
  have hlt := (List.getElem?_eq_some_iff.mp hfree).1
  have hrow : (provisionerStoreNode cfg s node true alloc).2.2.meshNodes[j]? = some (some node) := by
    rw [hnodes, List.getElem?_set_self hlt]
  -- the scan finds the stored node: no node had its UUID before
  have hfind : findRow (fun n => n.devUuid == node.devUuid)
      ((provisionerStoreNode cfg s node true alloc).2.2.meshNodes.take cfg.maxProvNodes) =
        some (j, node) := by
    refine findRow_of_first (by rw [List.getElem?_take, if_pos hj, hrow]) (by simp)
      fun i b hi hb => ?_
    rw [List.getElem?_take, if_pos (by omega), hnodes, List.getElem?_set_ne (by omega)] at hb
    simpa using fun he => hdup (List.any_eq_true.mpr
      ⟨b, mem_live.mpr (List.mem_iff_getElem?.mpr ⟨i, hb⟩), by simp [he]⟩)
  unfold provisionerFindResetNodeWithUuid provisionerResetNode
  rw [hfind]
  dsimp only
  rw [hrow]
  refine ⟨rfl, ?_, ?_, ?_⟩
  · simp only [countDec_meshNodes, persist_meshNodes, rplReset_meshNodes, hnodes, List.set_set]
    exact set_eq_self_of_getElem? hfree
  · simp only [countDec_allNodeCount, persist_allNodeCount, rplReset_allNodeCount, hall]
    rfl
  · simp only [countDec_provNodeCount, persist_provNodeCount, rplReset_provNodeCount, hprov,
      decide_eq_true hj, if_true]
    rfl

/-- The round trip at the boot state: storing a self-provisioned node returns 0, and the
reset by its UUID gives back the empty node table. -/
theorem storeNodeInfo_findReset_roundTrip_bootState :
    RegistryInv smallConfig (bootState smallConfig 0 0 []) ∧
      (btMeshProvisionerStoreNodeInfo smallConfig (bootState smallConfig 0 0 []) (some (sampleNode 1 2))
        true true).1 = 0 ∧
      (provisionerFindResetNodeWithUuid smallConfig (btMeshProvisionerStoreNodeInfo smallConfig
        (bootState smallConfig 0 0 []) (some (sampleNode 1 2)) true true).2 (sampleNode 1 2).devUuid
          true).2.meshNodes = (bootState smallConfig 0 0 []).meshNodes :=
  have hinv : RegistryInv smallConfig (bootState smallConfig 0 0 []) :=
    (emptyRegistry_bootState smallConfig 0 0 []).registryInv
  have h0 : (btMeshProvisionerStoreNodeInfo smallConfig (bootState smallConfig 0 0 [])
      (some (sampleNode 1 2)) true true).1 = 0 := by decide
  ⟨hinv, h0, (storeNodeInfo_findReset_roundTrip smallConfig hinv h0).2.1⟩

end BleMeshProvisioner
