import BleMeshProvisioner.Analysis.Durable

/-!
# Resetting nodes

`provisioner_reset_node` (`provisioner_main.c:202-251`) returns 0 on every slot, empty or
occupied, so the early return of `provisioner_reset_all_nodes` (`:290-304`) on -ENODEV is
never taken: the loop resets every slot, and from any state that keeps the registry
invariant it leaves the registry empty (`resetAll_empties_registry`).

On an occupied slot the reset zeroes exactly the replay entries whose source lies in the
node's range `[unicast_addr, unicast_addr + element_num)` (`resetNode_rpl`). With
`CONFIG_BLE_MESH_SETTINGS` it also issues one `bt_mesh_clear_rpl_single` per zeroed entry,
but each with `node->unicast_addr` as its argument, not the entry's `src`
(`resetNode_rplErases`): the durable replay record of every element but the primary one
survives the reset (`findReset_erases_primary_rpl_only`).
-/

set_option autoImplicit false

namespace BleMeshProvisioner

variable (cfg : Config)

/-- The addresses of the replay-list erases (`bt_mesh_clear_rpl_single`) in a log. -/
def rplErases (es : List Effect) : List Nat :=
  es.filterMap fun
    | .clearRplSingle a => some a
    | _ => none

@[simp] theorem rplErases_append (es es' : List Effect) :
    rplErases (es ++ es') = rplErases es ++ rplErases es' := List.filterMap_append _ _ _

/-! ## One reset -/

section ResetNode

variable {s : BtMesh} {i : Nat} {node : Node}

/-- `provisioner_reset_node` returns 0 on every slot. -/
theorem resetNode_ret (s : BtMesh) (i : Nat) : (provisionerResetNode cfg s i).1 = 0 := by
  unfold provisionerResetNode
  split <;> rfl

/-- Resetting an occupied slot zeroes exactly the replay entries whose source lies in the
node's range, and keeps every other entry. -/
theorem resetNode_rpl (h : s.meshNodes[i]? = some (some node)) :
    (provisionerResetNode cfg s i).2.rpl = s.rpl.map fun r =>
      if node.unicastAddr ≤ r.src ∧ r.src < node.unicastAddr + node.elementNum then Rpl.zero
      else r := by
  simp only [provisionerResetNode, h, provisionerNodeCountDec, BtMesh.persist, rplReset,
    decide_eq_true_eq]

/-- With the settings store enabled, resetting an occupied slot issues one replay-list erase
per zeroed entry, each for the node's primary address. -/
theorem resetNode_rplErases (h : s.meshNodes[i]? = some (some node)) :
    rplErases (provisionerResetNode cfg s i).2.effects = rplErases s.effects ++
      if cfg.settings then
        (s.rpl.filter fun r => node.unicastAddr ≤ r.src ∧ r.src < node.unicastAddr + node.elementNum).map
          fun _ => node.unicastAddr
      else [] := by
  simp only [provisionerResetNode, h, provisionerNodeCountDec, BtMesh.persist, rplReset,
    rplErases_append]
  cases cfg.settings <;> simp [rplErases, List.filterMap_map]

end ResetNode

/-! ## Reset of every slot -/

section ResetAll

/-- INTERNAL: After resets of the slots `is`, each of those slots is empty and every other
slot is as it was. -/
theorem foldl_resetNode_meshNodes (is : List Nat) (s : BtMesh) (j : Nat) :
    (is.foldl (fun t i => (provisionerResetNode cfg t i).2) s).meshNodes[j]? =
      if j ∈ is then s.meshNodes[j]?.map fun _ => none else s.meshNodes[j]? := by
  induction is generalizing s with
  | nil => simp
  | cons i is ih =>
    rw [List.foldl_cons, ih, resetNode_meshNodes]
    by_cases hji : j = i
    · subst hji
      rcases lt_or_le j s.meshNodes.length with hj | hj
      · simp [List.getElem?_set, hj]
      · simp [List.getElem?_set, List.getElem?_eq_none hj, not_lt.mpr hj]
    · simp [List.getElem?_set, Ne.symm hji, hji]

/-- INTERNAL: The reset-all loop never leaves early, so it is the resets of every slot in
order. -/
theorem resetAll_eq_foldl (s : BtMesh) :
    provisionerResetAllNodes cfg s =
      (0, (List.range s.meshNodes.length).foldl (fun t i => (provisionerResetNode cfg t i).2) s) := by
  unfold provisionerResetAllNodes
  generalize List.range s.meshNodes.length = is
  induction is generalizing s with
  | nil => rfl
  | cons i is ih =>
    unfold provisionerResetAllNodes.go
    rw [if_neg (by rw [resetNode_ret]; decide), ih]
    rfl

/-- `provisioner_reset_all_nodes` returns 0 without taking its early return, since every
reset returns 0, and so resets every slot in order. From a state that keeps the registry
invariant, whatever slots are occupied, it leaves every slot empty and both counters 0. -/
theorem resetAll_empties_registry (s : BtMesh) (hinv : RegistryInv cfg s) :
    (∀ t i, (provisionerResetNode cfg t i).1 = 0) ∧
      provisionerResetAllNodes cfg s =
        (0, (List.range s.meshNodes.length).foldl (fun t i => (provisionerResetNode cfg t i).2) s) ∧
      EmptyRegistry cfg (provisionerResetAllNodes cfg s).2 := by
  have hinv' : RegistryInv cfg (provisionerResetAllNodes cfg s).2 :=
    resetAll_induct cfg (fun t i ht => resetNode_registryInv cfg ht i) hinv
  have hnodes : (provisionerResetAllNodes cfg s).2.meshNodes = List.replicate cfg.maxStoredNodes none := by
    apply List.ext_getElem?
    intro j
    rw [resetAll_eq_foldl, foldl_resetNode_meshNodes, ← hinv.length_eq]
    rcases lt_or_le j s.meshNodes.length with hj | hj
    · simp [hj, List.getElem?_replicate]
    · simp [List.getElem?_eq_none hj, not_lt.mpr hj, hj]
  have hlive : live (provisionerResetAllNodes cfg s).2.meshNodes = [] := by
    simp [hnodes, live]
  refine ⟨resetNode_ret cfg, resetAll_eq_foldl cfg s, hnodes, ?_, ?_⟩
  · rw [hinv'.allNodeCount_eq, hlive]; rfl
  · rw [hinv'.provNodeCount_eq, hnodes]; simp [live]

/-- A registry with its first slot empty and its second holding a node admitted from
outside. -/
def sparseStore : BtMesh :=
  nodeRun smallConfig (bootState smallConfig 0 0 []) [.storeNodeInfo (some (sampleNode 2 3)) false true]

/-- The sparse registry keeps the registry invariant, and reset-all returns 0 and empties
it. -/
theorem resetAll_empties_registry_sparseStore :
    sparseStore.meshNodes = [none, some (sampleNode 2 3)] ∧ RegistryInv smallConfig sparseStore ∧
      (provisionerResetAllNodes smallConfig sparseStore).1 = 0 ∧
      EmptyRegistry smallConfig (provisionerResetAllNodes smallConfig sparseStore).2 :=
  have hinv : RegistryInv smallConfig sparseStore := ⟨by decide, by decide, by decide⟩
  have h := resetAll_empties_registry smallConfig sparseStore hinv
  ⟨by decide, hinv, congrArg Prod.fst h.2.1, h.2.2⟩

end ResetAll

/-! ## The durable erase of a reset -/

/-- A self-provisioned node with UUID 1, primary address 2 and two elements. -/
def twoElemNode : Node := { sampleNode 1 2 with elementNum := 2 }

/-- An empty registry with the settings store enabled, whose replay list holds one entry,
from address 3. -/
def rplStore : BtMesh := { bootState settingsConfig 0 0 [] with rpl := [⟨3, false, false, 7⟩] }

/-- With the settings store enabled, a node with primary address 2 and two elements is
admitted into an empty registry whose replay list holds an entry from address 3, and is
then reset by UUID. The entry, from the node's second element, is zeroed, but the one
replay-list erase issued is for address 2, so the durable record of address 3 is never
erased. -/
theorem findReset_erases_primary_rpl_only :
    EmptyRegistry settingsConfig rplStore ∧
      (nodeRun settingsConfig rplStore
        [.storeNodeInfo (some twoElemNode) true true, .findResetWithUuid (testKey 1) true]).rpl =
        [Rpl.zero] ∧
      rplErases (nodeRun settingsConfig rplStore
        [.storeNodeInfo (some twoElemNode) true true, .findResetWithUuid (testKey 1) true]).effects =
        [2] := by
  -- the store puts the node in slot 0, and the reset by UUID resets that slot
  have hslot : (nodeStep settingsConfig rplStore
      (.storeNodeInfo (some twoElemNode) true true)).meshNodes[0]? = some (some twoElemNode) := by
    decide
  have hrun : nodeRun settingsConfig rplStore
      [.storeNodeInfo (some twoElemNode) true true, .findResetWithUuid (testKey 1) true] =
      (provisionerResetNode settingsConfig
        (nodeStep settingsConfig rplStore (.storeNodeInfo (some twoElemNode) true true)) 0).2 := rfl
  rw [hrun, resetNode_rpl settingsConfig hslot, resetNode_rplErases settingsConfig hslot]
  exact ⟨⟨rfl, rfl, rfl⟩, by decide, by decide⟩

end BleMeshProvisioner
