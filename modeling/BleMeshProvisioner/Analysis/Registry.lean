import BleMeshProvisioner.Analysis.Tables
import BleMeshProvisioner.Model.Run

/-!
# The node registry over whole runs

`RegistryInv` ties the two counters to the table: `all_node_count` is the number of
occupied slots of `mesh_nodes` and `prov_node_count` the number of occupied slots below
`CONFIG_BLE_MESH_MAX_PROV_NODES`. Every registry call keeps it, so every run from an empty
registry does; with it a store lands in the first empty slot of its partition and counts
the node without wrapping, and a reset counts it out without saturating.

Runs that admit nodes only through `bt_mesh_provisioner_store_node_info`, which looks for
the UUID first, never hold one UUID twice. `provisioner_node_provision` does not look.
-/

set_option autoImplicit false

namespace BleMeshProvisioner

variable (cfg : Config)

/-! ## Occupancy under one write -/

section Counting

variable {α : Type}

@[simp] theorem live_replicate_none (n : Nat) : live (List.replicate n (none : Option α)) = [] := by
  induction n with
  | zero => rfl
  | succ n ih => simpa [List.replicate_succ] using ih

/-- INTERNAL: Filling an empty slot below `m` adds one occupied slot below `m`. -/
theorem length_live_take_set_free {t : List (Option α)} {i m : Nat} {a : α}
    (h : t[i]? = some none) :
    (live ((t.set i (some a)).take m)).length =
      (live (t.take m)).length + if i < m then 1 else 0 := by
  rw [List.set_take]
  split_ifs with him
  · have h' : (t.take m)[i]? = some none := by rw [List.getElem?_take_of_lt him]; exact h
    simpa using (live_set_free h').length_eq
  · rw [List.set_eq_of_length_le (by simp; omega)]
    rfl

/-- INTERNAL: Emptying an occupied slot below `m` removes one occupied slot below `m`. -/
theorem length_live_take_set_none {t : List (Option α)} {i m : Nat} {a : α}
    (h : t[i]? = some (some a)) :
    (live ((t.set i none).take m)).length + (if i < m then 1 else 0) =
      (live (t.take m)).length := by
  rw [List.set_take]
  split_ifs with him
  · have h' : (t.take m)[i]? = some (some a) := by rw [List.getElem?_take_of_lt him]; exact h
    simpa using (live_set_none h').length_eq.symm
  · rw [List.set_eq_of_length_le (by simp; omega)]
    rfl

/-- INTERNAL: Emptying a slot leaves a sublist of the live entries. -/
theorem live_set_none_sublist (t : List (Option α)) (i : Nat) :
    (live (t.set i none)).Sublist (live t) := by
  induction t generalizing i with
  | nil => simp
  | cons o t ih =>
    cases i with
    | zero => cases o <;> simp
    | succ i => cases o <;> simpa using ih i

/-- INTERNAL: Rewriting a record in place keeps the occupied slots below any bound. -/
theorem length_live_take_modify (f : α → α) (t : List (Option α)) (i m : Nat) :
    (live ((t.modify (Option.map f) i).take m)).length = (live (t.take m)).length := by
  induction t generalizing i m with
  | nil => simp
  | cons o t ih =>
    cases m with
    | zero => simp
    | succ m =>
      cases i with
      | zero => cases o <;> simp
      | succ i => cases o <;> simp [ih]

/-- INTERNAL: Rewriting a record in place, keeping a field `p`, keeps the field's values
over the occupied slots. -/
theorem map_live_modify {β : Type} (p : α → β) {f : α → α} (hf : ∀ a, p (f a) = p a)
    (t : List (Option α)) (i : Nat) :
    (live (t.modify (Option.map f) i)).map p = (live t).map p := by
  induction t generalizing i with
  | nil => simp
  | cons o t ih =>
    cases i with
    | zero => cases o <;> simp [hf]
    | succ i => cases o <;> simp [ih]

end Counting

/-! ## The counters -/

/-- The registry invariant: the table keeps its size and each counter counts the occupied
slots it is meant to. -/
structure RegistryInv (s : BtMesh) : Prop where
  length_eq : s.meshNodes.length = cfg.maxStoredNodes
  allNodeCount_eq : s.allNodeCount = (live s.meshNodes).length
  provNodeCount_eq : s.provNodeCount = (live (s.meshNodes.take cfg.maxProvNodes)).length

variable {cfg}

/-- An empty registry keeps the registry invariant: both counters are zero and no slot is
occupied. -/
theorem EmptyRegistry.registryInv {s : BtMesh} (h : EmptyRegistry cfg s) : RegistryInv cfg s :=
  ⟨by simp [h.meshNodes_eq], by simp [h.meshNodes_eq, h.allNodeCount_eq],
    by simp [h.meshNodes_eq, h.provNodeCount_eq]⟩

variable (cfg)

/-- Everything a store of `node` from `s` can do (`provisioner_store_node`), the partition
being `[0, MAX_PROV_NODES)` for a self-provisioned node and `[MAX_PROV_NODES,
MAX_STORED_NODES)` otherwise: land in the partition's first empty slot, report it and
count the node; or fail with -ENOMEM and change neither the table nor the counters, which,
when the allocation succeeds, happens exactly when the partition has no empty slot. -/
def StoreOutcome (s : BtMesh) (node : Node) (prov alloc : Bool) : Prop :=
  let lo := if prov then 0 else cfg.maxProvNodes
  let hi := if prov then cfg.maxProvNodes else cfg.maxStoredNodes
  let r := provisionerStoreNode cfg s node prov alloc
  (∃ i, r.1 = 0 ∧ r.2.1 = some i ∧ lo ≤ i ∧ i < hi ∧ s.meshNodes[i]? = some none ∧
      (∀ j, lo ≤ j → j < i → s.meshNodes[j]? ≠ some none) ∧
      r.2.2.meshNodes = s.meshNodes.set i (some node) ∧
      r.2.2.allNodeCount = s.allNodeCount + 1 ∧
      r.2.2.provNodeCount = s.provNodeCount + if prov then 1 else 0) ∨
  (r.1 = -enomem ∧ r.2.1 = none ∧ r.2.2.meshNodes = s.meshNodes ∧
      r.2.2.allNodeCount = s.allNodeCount ∧ r.2.2.provNodeCount = s.provNodeCount ∧
      (alloc = true → ∀ j, lo ≤ j → j < hi → s.meshNodes[j]? ≠ some none))

/-- Whether a registry call admits a node without looking for its UUID first: only
`provisioner_node_provision` does. -/
def NodeOp.skipsUuidCheck : NodeOp → Bool
  | .provision .. => true
  | _ => false

section Steps

variable {s : BtMesh}

/-- What `provisioner_store_node` can do: return -ENOMEM and change nothing (with no free
slot in the caller's partition when it allocates), or fill the first free slot of that
partition, count the node and persist it. -/
theorem storeNode_cases (node : Node) (prov alloc : Bool) :
    (provisionerStoreNode cfg s node prov alloc = (-enomem, none, s) ∧
        (alloc = true → firstFreeIn s.meshNodes (if prov then 0 else cfg.maxProvNodes)
          (if prov then cfg.maxProvNodes else s.meshNodes.length) = none)) ∨
      ∃ i, firstFreeIn s.meshNodes (if prov then 0 else cfg.maxProvNodes)
          (if prov then cfg.maxProvNodes else s.meshNodes.length) = some i ∧ alloc = true ∧
        provisionerStoreNode cfg s node prov alloc = (0, some i, (provisionerNodeCountInc
          { s with meshNodes := s.meshNodes.set i (some node) } prov).persist cfg
          (.storeNodeInfo node prov)) := by
  rcases hi : firstFreeIn s.meshNodes (if prov then 0 else cfg.maxProvNodes)
      (if prov then cfg.maxProvNodes else s.meshNodes.length) with _ | i
  · exact .inl ⟨by simp only [provisionerStoreNode, hi], fun _ => rfl⟩
  · cases alloc
    · exact .inl ⟨by simp only [provisionerStoreNode, hi, Bool.false_eq_true, if_false],
        fun h => absurd h Bool.false_ne_true⟩
    · exact .inr ⟨i, rfl, rfl, by simp only [provisionerStoreNode, hi, if_true]⟩

/-- Under the invariant a store does what `StoreOutcome` says. -/
theorem storeOutcome (hinv : RegistryInv cfg s) (node : Node) (prov alloc : Bool) :
    StoreOutcome cfg s node prov alloc := by
  have hlen := hinv.length_eq
  unfold StoreOutcome
  rcases storeNode_cases cfg (s := s) node prov alloc with ⟨hr, hfull⟩ | ⟨i, hi, rfl, hr⟩
  · refine .inr ?_
    simp only [hr, true_and]
    intro ha j hlo hhi hj
    have := firstFreeIn_eq_none.mp (hfull ha) j hlo (by split_ifs at hhi ⊢ <;> omega)
    simp [rowFree_iff.mpr hj] at this
  · obtain ⟨hlo, hhi, hfree, hfirst⟩ := firstFreeIn_eq_some.mp hi
    -- the filled slot is one the table has room for, in both counts
    have hall : (live s.meshNodes).length + 1 ≤ cfg.maxStoredNodes :=
      calc (live s.meshNodes).length + 1 = (live (s.meshNodes.set i (some node))).length := by
            rw [(live_set_free hfree).length_eq, List.length_cons]
        _ ≤ (s.meshNodes.set i (some node)).length := List.length_filterMap_le id _
        _ = cfg.maxStoredNodes := by rw [List.length_set, hlen]
    have hprov : prov = true → (live (s.meshNodes.take cfg.maxProvNodes)).length + 1 ≤
        cfg.maxProvNodes := by
      rintro rfl
      calc (live (s.meshNodes.take cfg.maxProvNodes)).length + 1
          = (live ((s.meshNodes.set i (some node)).take cfg.maxProvNodes)).length := by
            rw [length_live_take_set_free hfree, if_pos (by simpa using hhi)]
        _ ≤ ((s.meshNodes.set i (some node)).take cfg.maxProvNodes).length :=
            List.length_filterMap_le id _
        _ ≤ cfg.maxProvNodes := List.length_take_le _ _
    have hlt := cfg.maxStoredNodes_lt
    have hle := cfg.maxProvNodes_le
    refine .inl ⟨i, by simp [hr], by simp [hr], hlo, by split_ifs at hhi ⊢ <;> omega, hfree,
      fun j hj hji hj' => absurd (rowFree_iff.mpr hj') (by simp [hfirst j hj hji]), by simp [hr],
      ?_, ?_⟩
    · simp only [hr, persist_allNodeCount, countInc_allNodeCount]
      exact Nat.mod_eq_of_lt (by rw [hinv.allNodeCount_eq]; omega)
    · simp only [hr, persist_provNodeCount, countInc_provNodeCount]
      cases prov
      · rfl
      · exact Nat.mod_eq_of_lt (by rw [hinv.provNodeCount_eq]; have := hprov rfl; omega)

/-- A `provisioner_store_node` keeps the registry invariant. -/
theorem storeNode_registryInv (hinv : RegistryInv cfg s) (node : Node) (prov alloc : Bool) :
    RegistryInv cfg (provisionerStoreNode cfg s node prov alloc).2.2 := by
  rcases storeOutcome cfg hinv node prov alloc with
    ⟨i, -, -, hlo, hhi, hfree, -, hnodes, hall, hprov⟩ | ⟨-, -, hnodes, hall, hprov, -⟩
  · refine ⟨by simp [hnodes, hinv.length_eq], ?_, ?_⟩
    · rw [hnodes, hall, hinv.allNodeCount_eq]
      simpa using (live_set_free (a := node) hfree).length_eq.symm
    · rw [hnodes, hprov, hinv.provNodeCount_eq, length_live_take_set_free hfree]
      cases prov
      · simp only [Bool.false_eq_true, if_false] at hlo ⊢
        rw [if_neg (by omega)]
      · simp only [if_true] at hhi ⊢
        rw [if_pos hhi]
  · exact ⟨hnodes ▸ hinv.length_eq, hall ▸ hnodes ▸ hinv.allNodeCount_eq,
      hprov ▸ hnodes ▸ hinv.provNodeCount_eq⟩

/-- A reset leaves the table with the slot emptied, whether or not it held a node. -/
@[simp] theorem resetNode_meshNodes (i : Nat) :
    (provisionerResetNode cfg s i).2.meshNodes = s.meshNodes.set i none := by
  unfold provisionerResetNode
  split
  · simp
  · rename_i h
    symm
    cases hi : s.meshNodes[i]? with
    | none => exact List.set_eq_of_length_le (List.getElem?_eq_none_iff.mp hi)
    | some o =>
      cases o with
      | none => exact set_eq_self_of_getElem? hi
      | some n => exact absurd hi (h n)

/-- A `provisioner_reset_node` keeps the registry invariant. -/
theorem resetNode_registryInv (hinv : RegistryInv cfg s) (i : Nat) :
    RegistryInv cfg (provisionerResetNode cfg s i).2 := by
  unfold provisionerResetNode
  split
  · rename_i node hnode
    have hall := (live_set_none hnode).length_eq
    have hprov := length_live_take_set_none (m := cfg.maxProvNodes) hnode
    refine ⟨by simp [hinv.length_eq], ?_, ?_⟩
    · simp only [countDec_allNodeCount, persist_allNodeCount, rplReset_allNodeCount,
        countDec_meshNodes, persist_meshNodes, rplReset_meshNodes, hinv.allNodeCount_eq]
      simp at hall
      omega
    · simp only [countDec_provNodeCount, persist_provNodeCount, rplReset_provNodeCount,
        countDec_meshNodes, persist_meshNodes, rplReset_meshNodes, hinv.provNodeCount_eq]
      by_cases him : i < cfg.maxProvNodes <;> simp [him] at hprov ⊢ <;> omega
  · exact hinv

/-- INTERNAL: What a call that may reset one slot leaves: the state, or a reset of it. -/
theorem findResetWithUuid_cases (uuid : Bytes16) (reset : Bool) :
    (provisionerFindResetNodeWithUuid cfg s uuid reset).2 = s ∨
      ∃ i, (provisionerFindResetNodeWithUuid cfg s uuid reset).2 = (provisionerResetNode cfg s i).2 := by
  unfold provisionerFindResetNodeWithUuid
  split
  · exact .inl rfl
  · cases reset
    · exact .inl rfl
    · exact .inr ⟨_, rfl⟩

/-- A `provisioner_find_reset_node_with_addr` either changes nothing or is a
`provisioner_reset_node` of some slot. -/
theorem findResetWithAddr_cases (addr : MeshAddr) (reset : Bool) :
    (provisionerFindResetNodeWithAddr cfg s addr reset).2 = s ∨
      ∃ i, (provisionerFindResetNodeWithAddr cfg s addr reset).2 = (provisionerResetNode cfg s i).2 := by
  unfold provisionerFindResetNodeWithAddr
  split
  · exact .inl rfl
  · cases reset
    · exact .inl rfl
    · exact .inr ⟨_, rfl⟩

/-- A property every single reset keeps is kept by `provisioner_reset_all_nodes`. -/
theorem resetAll_induct {P : BtMesh → Prop} (hP : ∀ s i, P s → P (provisionerResetNode cfg s i).2)
    (h : P s) : P (provisionerResetAllNodes cfg s).2 := by
  unfold provisionerResetAllNodes
  generalize List.range s.meshNodes.length = is
  induction is generalizing s with
  | nil => exact h
  | cons i is ih =>
    unfold provisionerResetAllNodes.go
    dsimp only
    split
    · exact hP s i h
    · exact ih (hP s i h)

/-- INTERNAL: What a rename leaves: the state, or the table with one record rewritten in
place, its UUID kept. -/
theorem setNodeName_cases (i : Int) (name : Option (List Char)) :
    (btMeshProvisionerSetNodeName cfg s i name).2 = s ∨
      ∃ (f : Node → Node) (j : Nat), (∀ n, (f n).devUuid = n.devUuid) ∧
        (btMeshProvisionerSetNodeName cfg s i name).2 =
          { s with meshNodes := s.meshNodes.modify (Option.map f) j } := by
  cases name with
  | none => exact .inl rfl
  | some name =>
    unfold btMeshProvisionerSetNodeName
    dsimp only
    split_ifs
    · exact .inl rfl
    · exact .inl rfl
    · refine .inr ⟨_, _, ?_, rfl⟩
      exact fun _ => rfl

/-- Everything one registry call can do to the state: nothing; a store, of a node whose
UUID no live node has unless the call is `provisioner_node_provision`; a reset of one slot;
the reset of every slot; or a rename, rewriting one record in place with its UUID kept. -/
theorem nodeStep_cases (op : NodeOp) :
    nodeStep cfg s op = s ∨
      (∃ node prov alloc, nodeStep cfg s op = (provisionerStoreNode cfg s node prov alloc).2.2 ∧
        (op.skipsUuidCheck = false → ∀ n ∈ live s.meshNodes, n.devUuid ≠ node.devUuid)) ∨
      (∃ i, nodeStep cfg s op = (provisionerResetNode cfg s i).2) ∨
      (op = .resetAll ∧ nodeStep cfg s op = (provisionerResetAllNodes cfg s).2) ∨
      ∃ (f : Node → Node) (j : Nat), (∀ n, (f n).devUuid = n.devUuid) ∧
        (∃ i name, op = .setNodeName i name) ∧
        nodeStep cfg s op = { s with meshNodes := s.meshNodes.modify (Option.map f) j } := by
  cases op with
  | provision a u o ua en ni f iv dk ix al =>
    dsimp only [nodeStep]
    unfold provisionerNodeProvision
    split
    · exact .inr (.inl ⟨_, _, _, rfl, fun h => Bool.noConfusion h⟩)
    · exact .inl rfl
  | storeNodeInfo node prov alloc =>
    dsimp only [nodeStep]
    unfold btMeshProvisionerStoreNodeInfo
    split
    · exact .inl rfl
    · dsimp only
      split_ifs with hex
      · exact .inl rfl
      · exact .inr (.inl ⟨_, _, _, rfl, fun _ => by simpa using hex⟩)
  | findResetWithUuid uuid reset =>
    rcases findResetWithUuid_cases cfg (s := s) uuid reset with h | ⟨i, h⟩
    · exact .inl h
    · exact .inr (.inr (.inl ⟨i, h⟩))
  | findResetWithAddr addr reset =>
    rcases findResetWithAddr_cases cfg (s := s) addr reset with h | ⟨i, h⟩
    · exact .inl h
    · exact .inr (.inr (.inl ⟨i, h⟩))
  | resetAll => exact .inr (.inr (.inr (.inl ⟨rfl, rfl⟩)))
  | setNodeName i name =>
    rcases setNodeName_cases cfg (s := s) i name with h | ⟨f, j, hf, h⟩
    · exact .inl h
    · exact .inr (.inr (.inr (.inr ⟨f, j, hf, ⟨i, name, rfl⟩, h⟩)))

/-- Every registry call keeps the registry invariant. -/
theorem nodeStep_registryInv (hinv : RegistryInv cfg s) (op : NodeOp) :
    RegistryInv cfg (nodeStep cfg s op) := by
  rcases nodeStep_cases cfg (s := s) op with
    h | ⟨node, prov, alloc, h, -⟩ | ⟨i, h⟩ | ⟨-, h⟩ | ⟨f, j, -, -, h⟩ <;> rw [h]
  · exact hinv
  · exact storeNode_registryInv cfg hinv node prov alloc
  · exact resetNode_registryInv cfg hinv i
  · exact resetAll_induct cfg (fun _ i h => resetNode_registryInv cfg h i) hinv
  · refine ⟨by simp [hinv.length_eq], ?_, ?_⟩
    · have h := length_live_take_modify f s.meshNodes j s.meshNodes.length
      rw [List.take_of_length_le (by simp), List.take_length] at h
      exact hinv.allNodeCount_eq.trans h.symm
    · exact hinv.provNodeCount_eq.trans (length_live_take_modify f _ j _).symm

end Steps

/-- INTERNAL: A property every call of a run keeps holds at the run's end. -/
theorem nodeRun_invariant {P : BtMesh → Prop} (ops : List NodeOp)
    (hstep : ∀ s, ∀ op ∈ ops, P s → P (nodeStep cfg s op)) {s : BtMesh} (h : P s) :
    P (nodeRun cfg s ops) := by
  induction ops generalizing s with
  | nil => exact h
  | cons op ops ih =>
    exact ih (fun s' op' hop' => hstep s' op' (List.mem_cons_of_mem _ hop'))
      (hstep s op (List.mem_cons_self _ _) h)

/-- Over every run of registry calls from an empty registry, failing calls included, the
counters count the occupied slots, and a store does what `StoreOutcome` says. -/
theorem nodeRun_registry {s0 : BtMesh} (h0 : EmptyRegistry cfg s0) (ops : List NodeOp) :
    RegistryInv cfg (nodeRun cfg s0 ops) ∧
      ∀ (node : Node) (prov alloc : Bool), StoreOutcome cfg (nodeRun cfg s0 ops) node prov alloc :=
  have h := nodeRun_invariant cfg (P := RegistryInv cfg) ops
    (fun _ op _ hs => nodeStep_registryInv cfg hs op) h0.registryInv
  ⟨h, storeOutcome cfg h⟩

/-- A node record for concrete runs: UUID `testKey u`, primary address `addr`, one
element, an all-NUL name of four characters. -/
def sampleNode (u : UInt8) (addr : Nat) : Node :=
  ⟨⟨0, [u, u, u, u, u, u]⟩, testKey u, 0, addr, 1, 0, 0, 0, testKey 0, List.replicate 4 nul⟩

/-- Two admissions, one into each partition, and a reset by UUID. -/
def sampleRun : List NodeOp :=
  [.storeNodeInfo (some (sampleNode 1 2)) true true, .storeNodeInfo (some (sampleNode 2 3)) false true,
    .findResetWithUuid (testKey 1) true]

/-- The registry theorem at the sample run: it starts from the empty registry, so the
invariant holds at its end and every store from there does what the outcome says. -/
theorem nodeRun_registry_sampleRun :
    EmptyRegistry smallConfig (bootState smallConfig 0 0 []) ∧
      RegistryInv smallConfig (nodeRun smallConfig (bootState smallConfig 0 0 []) sampleRun) ∧
      ∀ (node : Node) (prov alloc : Bool),
        StoreOutcome smallConfig (nodeRun smallConfig (bootState smallConfig 0 0 []) sampleRun)
          node prov alloc :=
  have h0 := emptyRegistry_bootState smallConfig 0 0 []
  ⟨h0, nodeRun_registry smallConfig h0 sampleRun⟩

/-! ## UUIDs -/

section Uuid

variable {s : BtMesh}

/-- `bt_mesh_provisioner_store_node_info` returns -EEXIST exactly when an occupied slot of
either partition holds the node's UUID. -/
theorem storeNodeInfo_eexist_iff (node : Node) (prov alloc : Bool) :
    (btMeshProvisionerStoreNodeInfo cfg s (some node) prov alloc).1 = -eexist ↔
      ∃ n ∈ live s.meshNodes, n.devUuid = node.devUuid := by
  unfold btMeshProvisionerStoreNodeInfo
  dsimp only
  split_ifs with h
  · simpa using h
  · have : ¬∃ n ∈ live s.meshNodes, n.devUuid = node.devUuid := by simpa using h
    simp only [this, iff_false]
    rcases storeNode_cases cfg (s := s) node prov alloc with ⟨hr, -⟩ | ⟨i, -, -, hr⟩ <;>
      simp [hr, eexist, enomem]

/-- INTERNAL: A store of a node whose UUID no live node has keeps the UUIDs distinct. -/
theorem storeNode_uuid_nodup (h : ((live s.meshNodes).map (·.devUuid)).Nodup) {node : Node}
    (hfresh : ∀ n ∈ live s.meshNodes, n.devUuid ≠ node.devUuid) (prov alloc : Bool) :
    ((live (provisionerStoreNode cfg s node prov alloc).2.2.meshNodes).map (·.devUuid)).Nodup := by
  rcases storeNode_cases cfg (s := s) node prov alloc with ⟨hr, -⟩ | ⟨i, hi, -, hr⟩ <;>
    simp only [hr]
  · exact h
  · simp only [persist_meshNodes, countInc_meshNodes]
    refine ((live_set_free (firstFreeIn_eq_some.mp hi).2.2.1).map _).nodup_iff.mpr
      (List.nodup_cons.mpr ⟨?_, h⟩)
    simpa using hfresh

/-- A call other than `provisioner_node_provision` never makes two occupied slots hold one
UUID. -/
theorem nodeStep_uuid_nodup (h : ((live s.meshNodes).map (·.devUuid)).Nodup) {op : NodeOp}
    (hop : op.skipsUuidCheck = false) :
    ((live (nodeStep cfg s op).meshNodes).map (·.devUuid)).Nodup := by
  have hreset : ∀ s i, ((live s.meshNodes).map (·.devUuid)).Nodup →
      ((live (provisionerResetNode cfg s i).2.meshNodes).map (·.devUuid)).Nodup :=
    fun _ i h => by
      rw [resetNode_meshNodes]
      exact h.sublist ((live_set_none_sublist _ i).map _)
  rcases nodeStep_cases cfg (s := s) op with
    h' | ⟨node, prov, alloc, h', hfresh⟩ | ⟨i, h'⟩ | ⟨-, h'⟩ | ⟨f, j, hf, -, h'⟩ <;> rw [h']
  · exact h
  · exact storeNode_uuid_nodup cfg h (hfresh hop) prov alloc
  · exact hreset s i h
  · exact resetAll_induct cfg hreset h
  · rwa [map_live_modify _ hf]

end Uuid

/-- Over every run from an empty registry that admits nodes only through
`bt_mesh_provisioner_store_node_info`, with resets and renames in between, no two
occupied slots hold the same UUID, and a store returns -EEXIST exactly when an occupied
slot of either partition holds the node's UUID. -/
theorem nodeRun_uuid_unique {s0 : BtMesh} (h0 : EmptyRegistry cfg s0) (ops : List NodeOp)
    (hops : ∀ op ∈ ops, op.skipsUuidCheck = false) :
    ((live (nodeRun cfg s0 ops).meshNodes).map (·.devUuid)).Nodup ∧
      ∀ (node : Node) (prov alloc : Bool),
        (btMeshProvisionerStoreNodeInfo cfg (nodeRun cfg s0 ops) (some node) prov alloc).1 =
            -eexist ↔
          ∃ n ∈ live (nodeRun cfg s0 ops).meshNodes, n.devUuid = node.devUuid :=
  ⟨nodeRun_invariant cfg (P := fun s => ((live s.meshNodes).map (·.devUuid)).Nodup) ops
      (fun _ op hop h => nodeStep_uuid_nodup cfg h (hops op hop)) (by simp [h0.meshNodes_eq]),
    fun node prov alloc => storeNodeInfo_eexist_iff cfg node prov alloc⟩

/-- The UUID theorem at the sample run, which makes no `provisioner_node_provision` call: the
UUIDs stay distinct and a store returns -EEXIST exactly for a UUID already held. -/
theorem nodeRun_uuid_unique_sampleRun :
    EmptyRegistry smallConfig (bootState smallConfig 0 0 []) ∧
      (∀ op ∈ sampleRun, op.skipsUuidCheck = false) ∧
      ((live (nodeRun smallConfig (bootState smallConfig 0 0 []) sampleRun).meshNodes).map
          (·.devUuid)).Nodup ∧
      ∀ (node : Node) (prov alloc : Bool),
        (btMeshProvisionerStoreNodeInfo smallConfig
            (nodeRun smallConfig (bootState smallConfig 0 0 []) sampleRun) (some node) prov
            alloc).1 = -eexist ↔
          ∃ n ∈ live (nodeRun smallConfig (bootState smallConfig 0 0 []) sampleRun).meshNodes,
            n.devUuid = node.devUuid :=
  have h0 := emptyRegistry_bootState smallConfig 0 0 []
  have hops : ∀ op ∈ sampleRun, op.skipsUuidCheck = false := by decide
  ⟨h0, hops, nodeRun_uuid_unique smallConfig h0 sampleRun hops⟩

end BleMeshProvisioner
