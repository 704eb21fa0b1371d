import BleMeshProvisioner.Analysis.Registry

/-!
# The durable image

The settings store is outside the source tree; the file only notifies it
(`bt_mesh_store_node_info`, `bt_mesh_clear_node_info`, `bt_mesh_store_p_subnet`, …), and the
model logs those calls as `Effect`s. `replay` is what the store holds after a log is applied
to an empty store: records keyed by unicast address, net index, app index and model, written
or erased as §3 of the spec describes the Persistence Sink.

With `CONFIG_BLE_MESH_SETTINGS` on, every call that admits or removes a node writes through:
over every run of registry calls that keeps unicast addresses distinct and does not rename a
node, the durable node records are the live ones (`nodeRun_nodesMirror`).
`bt_mesh_provisioner_set_node_name` (`provisioner_main.c:545-582`) changes a node's name with
no `bt_mesh_store_node_info`, and `bt_mesh_provisioner_bind_local_app_net_idx` (`:1238-1265`)
changes a key's `net_idx` with no `bt_mesh_store_p_app_key`: after either the durable record
is stale.
-/

set_option autoImplicit false

namespace BleMeshProvisioner

/-- Modelled from the spec: what the settings store holds for each key, as far as the
notifications of this file write it. -/
structure Durable where
  node : Nat → Option Node
  subnet : Nat → Option Subnet
  appKey : Nat → Option AppKey
  modBind : ModelRef → Option (List Nat)
  modPub : ModelRef → Option (Option ModelPub)

/-- A keyed record written (`some`) or erased (`none`). -/
def putRecord {κ β : Type} [DecidableEq κ] (f : κ → Option β) (k : κ) (v : Option β) :
    κ → Option β :=
  fun k' => if k' = k then v else f k'

/-- The empty store. -/
def Durable.empty : Durable :=
  ⟨fun _ => none, fun _ => none, fun _ => none, fun _ => none, fun _ => none⟩

/-- Modelled from the spec: one notification applied to the store. Node records are keyed
by primary unicast address, subnets by `net_idx`, app keys by `app_idx`, bindings and
publication by model; the cursor, IV, replay-list and message-cache calls write none of
these. -/
def Durable.apply (d : Durable) : Effect → Durable
  | .storeNodeInfo node _ => { d with node := putRecord d.node node.unicastAddr (some node) }
  | .clearNodeInfo addr _ => { d with node := putRecord d.node addr none }
  | .storePSubnet sub => { d with subnet := putRecord d.subnet sub.netIdx (some sub) }
  | .clearPSubnet sub => { d with subnet := putRecord d.subnet sub.netIdx none }
  | .storePAppKey key => { d with appKey := putRecord d.appKey key.appIdx (some key) }
  | .clearPAppKey key => { d with appKey := putRecord d.appKey key.appIdx none }
  | .storeModBind ref keys => { d with modBind := putRecord d.modBind ref (some keys) }
  | .storeModPub ref pub => { d with modPub := putRecord d.modPub ref (some pub) }
  | _ => d

/-- The store after a log of notifications is replayed onto an empty one. -/
def replay (es : List Effect) : Durable := es.foldl Durable.apply Durable.empty

/-- The durable node records mirror the table: an address has a record exactly when a live
node has that primary address, and the record is that node, every field included. -/
def NodesMirror (s : BtMesh) (d : Durable) : Prop :=
  ∀ a n, d.node a = some n ↔ n ∈ live s.meshNodes ∧ n.unicastAddr = a

/-- The durable app-key records mirror the table, `net_idx` included. -/
def AppKeysMirror (s : BtMesh) (d : Durable) : Prop :=
  ∀ i k, d.appKey i = some k ↔ k ∈ live s.pAppKeys ∧ k.appIdx = i

/-- Live nodes have distinct primary addresses, as the callers guarantee. -/
def AddrsDistinct (s : BtMesh) : Prop := ((live s.meshNodes).map (·.unicastAddr)).Nodup

/-- INTERNAL: Only the node records take part in the node mirror. -/
theorem NodesMirror.of_node_eq {s : BtMesh} {d d' : Durable} (h : NodesMirror s d)
    (he : d'.node = d.node) : NodesMirror s d' := by
  unfold NodesMirror; rwa [he]

/-- Under the mirror a live node is the record at its primary address. -/
theorem NodesMirror.record_eq {s : BtMesh} {d : Durable} (h : NodesMirror s d) {n : Node}
    (hn : n ∈ live s.meshNodes) : d.node n.unicastAddr = some n :=
  (h _ n).mpr ⟨hn, rfl⟩

/-- Under the mirror a live app key is the record at its index. -/
theorem AppKeysMirror.record_eq {s : BtMesh} {d : Durable} (h : AppKeysMirror s d) {k : AppKey}
    (hk : k ∈ live s.pAppKeys) : d.appKey k.appIdx = some k :=
  (h _ k).mpr ⟨hk, rfl⟩

@[simp] theorem replay_append (es es' : List Effect) :
    replay (es ++ es') = es'.foldl Durable.apply (replay es) := by
  simp [replay, List.foldl_append]

/-! ## Node records under one step -/

section Steps

variable (cfg : Config) {s : BtMesh}

@[simp] theorem persist_effects (e : Effect) :
    (s.persist cfg e).effects = s.effects ++ if cfg.settings then [e] else [] := rfl

/-- INTERNAL: Replay-list and message-cache notifications write no node record. -/
theorem foldl_apply_node_rpl (d : Durable) (a k : Nat) :
    (List.foldl Durable.apply d (List.replicate k (.clearRplSingle a))).node = d.node := by
  induction k generalizing d with
  | zero => rfl
  | succ k ih => exact ih _

/-- INTERNAL: With distinct addresses, a node set apart from the others shares its address
with none of them. -/
theorem addr_fresh_of_perm {l l' : List Node} {a : Node} (hp : l.Perm (a :: l'))
    (hd : (l.map (·.unicastAddr)).Nodup) : ∀ n ∈ l', n.unicastAddr ≠ a.unicastAddr := by
  have := (hp.map fun n : Node => n.unicastAddr).nodup_iff.mp hd
  simp only [List.map_cons, List.nodup_cons, List.mem_map, not_exists, not_and] at this
  exact fun n hn he => this.1 n hn he

/-- INTERNAL: A stored node gets its record, when its address is no other live node's. -/
theorem nodesMirror_store {d : Durable} (h : NodesMirror s d) {i : Nat} {node : Node}
    (hfree : s.meshNodes[i]? = some none) {s' : BtMesh}
    (hs' : s'.meshNodes = s.meshNodes.set i (some node)) (hd : AddrsDistinct s') (prov : Bool) :
    NodesMirror s' (d.apply (.storeNodeInfo node prov)) := by
  have hp := live_set_free (a := node) hfree
  rw [← hs'] at hp
  have hfresh := addr_fresh_of_perm hp hd
  intro a n
  simp only [Durable.apply, putRecord, hp.mem_iff, List.mem_cons]
  split_ifs with ha
  · subst ha
    constructor
    · rintro ⟨⟩; exact ⟨.inl rfl, rfl⟩
    · rintro ⟨rfl | hn, he⟩
      · rfl
      · exact absurd he (hfresh n hn)
  · rw [h a n]
    constructor
    · exact fun ⟨hn, he⟩ => ⟨.inr hn, he⟩
    · rintro ⟨rfl | hn, he⟩
      · exact absurd he.symm ha
      · exact ⟨hn, he⟩

/-- INTERNAL: A reset node loses its record, when its address is no other live node's. -/
theorem nodesMirror_clear {d : Durable} (h : NodesMirror s d) (hd : AddrsDistinct s) {i : Nat}
    {node : Node} (hnode : s.meshNodes[i]? = some (some node)) {s' : BtMesh}
    (hs' : s'.meshNodes = s.meshNodes.set i none) :
    NodesMirror s' { d with node := putRecord d.node node.unicastAddr none } := by
  have hp := live_set_none hnode
  rw [← hs'] at hp
  have hfresh := addr_fresh_of_perm hp hd
  intro a n
  simp only [putRecord]
  split_ifs with ha
  · subst ha
    exact ⟨fun h => by simp at h, fun ⟨hn, he⟩ => absurd he (hfresh n hn)⟩
  · rw [h a n, hp.mem_iff, List.mem_cons]
    constructor
    · rintro ⟨rfl | hn, he⟩
      · exact absurd he.symm ha
      · exact ⟨hn, he⟩
    · exact fun ⟨hn, he⟩ => ⟨.inr hn, he⟩

/-- A `provisioner_reset_node` keeps the live addresses distinct: it only frees a slot. -/
theorem AddrsDistinct.resetNode (hd : AddrsDistinct s) (i : Nat) :
    AddrsDistinct (provisionerResetNode cfg s i).2 := by
  unfold AddrsDistinct
  rw [resetNode_meshNodes]
  exact hd.sublist ((live_set_none_sublist _ i).map _)

variable (hset : cfg.settings = true)
include hset

/-- A store keeps the node mirror, when it leaves the addresses distinct. -/
theorem storeNode_nodesMirror (h : NodesMirror s (replay s.effects)) (node : Node)
    (prov alloc : Bool) (hd : AddrsDistinct (provisionerStoreNode cfg s node prov alloc).2.2) :
    NodesMirror (provisionerStoreNode cfg s node prov alloc).2.2
      (replay (provisionerStoreNode cfg s node prov alloc).2.2.effects) := by
  rcases storeNode_cases cfg (s := s) node prov alloc with ⟨hr, -⟩ | ⟨i, hi, -, hr⟩ <;>
    rw [hr] at hd ⊢
  · exact h
  · have := nodesMirror_store h (firstFreeIn_eq_some.mp hi).2.2.1 rfl hd prov
    simpa [hset, provisionerNodeCountInc] using this

/-- A reset keeps the node mirror: it erases the record of the node it frees. -/
theorem resetNode_nodesMirror (h : NodesMirror s (replay s.effects)) (hd : AddrsDistinct s)
    (i : Nat) :
    NodesMirror (provisionerResetNode cfg s i).2 (replay (provisionerResetNode cfg s i).2.effects) := by
  cases hnode : s.meshNodes[i]? with
  | none => simpa [provisionerResetNode, hnode] using h
  | some o =>
    cases o with
    | none => simpa [provisionerResetNode, hnode] using h
    | some node =>
      refine (nodesMirror_clear h hd hnode (resetNode_meshNodes cfg i)).of_node_eq ?_
      simp [provisionerResetNode, hnode, rplReset, hset, provisionerNodeCountDec, Durable.apply,
        foldl_apply_node_rpl]

end Steps

/-- An empty registry that has notified nothing is mirrored by the empty store. -/
theorem EmptyRegistry.nodesMirror {cfg : Config} {s : BtMesh} (h : EmptyRegistry cfg s)
    (he : s.effects = []) : NodesMirror s (replay s.effects) := by
  intro a n
  simp [he, h.meshNodes_eq, replay, Durable.empty]

/-- A provisioner like `smallConfig` with the settings store enabled. -/
def settingsConfig : Config := ⟨2, 1, 4, true, by decide, by decide⟩

section Runs

variable (cfg : Config) (hset : cfg.settings = true)
include hset

/-- Every registry call but a rename keeps the durable node records those of the table,
when live addresses stay distinct. -/
theorem nodeStep_nodesMirror {s : BtMesh} (h : NodesMirror s (replay s.effects))
    (hd : AddrsDistinct s) {op : NodeOp} (hop : ∀ i name, op ≠ .setNodeName i name)
    (hd' : AddrsDistinct (nodeStep cfg s op)) :
    NodesMirror (nodeStep cfg s op) (replay (nodeStep cfg s op).effects) := by
  have hreset : ∀ s i, NodesMirror s (replay s.effects) ∧ AddrsDistinct s →
      NodesMirror (provisionerResetNode cfg s i).2 (replay (provisionerResetNode cfg s i).2.effects) ∧
        AddrsDistinct (provisionerResetNode cfg s i).2 :=
    fun s i h => ⟨resetNode_nodesMirror cfg hset h.1 h.2 i, h.2.resetNode cfg i⟩
  rcases nodeStep_cases cfg (s := s) op with
    h' | ⟨node, prov, alloc, h', -⟩ | ⟨i, h'⟩ | ⟨-, h'⟩ | ⟨-, -, -, ⟨i, name, rfl⟩, -⟩
  · rwa [h']
  · rw [h'] at hd' ⊢
    exact storeNode_nodesMirror cfg hset h node prov alloc hd'
  · rw [h']
    exact (hreset s i ⟨h, hd⟩).1
  · rw [h']
    exact (resetAll_induct cfg (P := fun s => NodesMirror s (replay s.effects) ∧
      AddrsDistinct s) hreset ⟨h, hd⟩).1
  · exact absurd rfl (hop i name)

/-- With the settings store on, over every run of registry calls without a rename, from
a state whose durable node records are its live nodes, and in which every state reached
has distinct primary addresses, the durable node records are the live nodes at the end. -/
theorem nodeRun_nodesMirror {s0 : BtMesh} (h0 : NodesMirror s0 (replay s0.effects))
    (ops : List NodeOp) (hops : ∀ op ∈ ops, ∀ i name, op ≠ .setNodeName i name)
    (hd : ∀ k, AddrsDistinct (nodeRun cfg s0 (ops.take k))) :
    NodesMirror (nodeRun cfg s0 ops) (replay (nodeRun cfg s0 ops).effects) := by
  induction ops generalizing s0 with
  | nil => exact h0
  | cons op ops ih =>
    exact ih (nodeStep_nodesMirror cfg hset h0 (hd 0) (hops op (List.mem_cons_self _ _)) (hd 1))
      (fun op' hop' => hops op' (List.mem_cons_of_mem _ hop')) (fun k => hd (k + 1))

end Runs

/-- With the settings store on, `sampleRun` from boot keeps the live primary addresses
distinct after every call, and at its end the durable node records are its live nodes. -/
theorem nodeRun_nodesMirror_sampleRun :
    (∀ k, AddrsDistinct (nodeRun settingsConfig (bootState settingsConfig 0 0 []) (sampleRun.take k))) ∧
      NodesMirror (nodeRun settingsConfig (bootState settingsConfig 0 0 []) sampleRun)
        (replay (nodeRun settingsConfig (bootState settingsConfig 0 0 []) sampleRun).effects) := by
  have hd : ∀ k, AddrsDistinct
      (nodeRun settingsConfig (bootState settingsConfig 0 0 []) (sampleRun.take k)) := by
    intro k
    unfold AddrsDistinct
    match k with
    | 0 | 1 | 2 => decide
    | k + 3 => rw [List.take_of_length_le (by simp [sampleRun])]; decide
  have hops : ∀ op ∈ sampleRun, ∀ i name, op ≠ .setNodeName i name := by
    intro op hop i name
    simp only [sampleRun, List.mem_cons, List.mem_singleton, List.not_mem_nil, or_false] at hop
    rcases hop with rfl | rfl | rfl <;> nofun
  exact ⟨hd, nodeRun_nodesMirror settingsConfig rfl
    ((emptyRegistry_bootState _ 0 0 []).nodesMirror rfl) sampleRun hops hd⟩

/-! ## Calls that skip the write-through -/

/-- One node, UUID 1 and primary address 2, admitted as self-provisioned. -/
def storedNodeStore : BtMesh :=
  (btMeshProvisionerStoreNodeInfo settingsConfig (bootState settingsConfig 0 0 [])
    (some (sampleNode 1 2)) true true).2

/-- `storedNodeStore` after its node is renamed "a". -/
def renamedNodeStore : BtMesh :=
  (btMeshProvisionerSetNodeName settingsConfig storedNodeStore 0 (some ['a'])).2

/-- The network created with key 1, a second subnet with index 1 and key 2, and app key 3
bound to subnet 0 at index 0, the settings store enabled. -/
def keyedStore : BtMesh :=
  (btMeshProvisionerLocalAppKeyAdd settingsConfig (.succeeding (testKey 3))
    (btMeshProvisionerLocalNetKeyAdd settingsConfig (.succeeding (testKey 2))
      (btMeshProvisionerNetCreate settingsConfig (.succeeding (testKey 1))
        (bootState settingsConfig 2 2 []) true (some ⟨1, 0, 0⟩)).2
      (some (testKey 2)) (some 1)).2.2
    (some (testKey 3)) bleMeshKeyPrimary (some 0xFFFF)).2.2

/-- `keyedStore` after app key 0 is rebound to subnet 1. -/
def reboundStore : BtMesh := (btMeshProvisionerBindLocalAppNetIdx keyedStore 1 0).2

/-- With the settings store on, a rename that returns 0 leaves the durable record of the
node under its old name, and a rebinding of an app key to another subnet that returns 0
leaves the durable key bound to the old one: neither mirror holds afterwards. -/
theorem renamed_node_and_rebound_key_stay_stale :
    (btMeshProvisionerStoreNodeInfo settingsConfig (bootState settingsConfig 0 0 [])
        (some (sampleNode 1 2)) true true).1 = 0 ∧
      (btMeshProvisionerSetNodeName settingsConfig storedNodeStore 0 (some ['a'])).1 = 0 ∧
      (replay renamedNodeStore.effects).node 2 = some (sampleNode 1 2) ∧
      ¬NodesMirror renamedNodeStore (replay renamedNodeStore.effects) ∧
      (btMeshProvisionerBindLocalAppNetIdx keyedStore 1 0).1 = 0 ∧
      ((replay reboundStore.effects).appKey 0).map (·.netIdx) = some 0 ∧
      (live reboundStore.pAppKeys).map (·.netIdx) = [1] ∧
      ¬AppKeysMirror reboundStore (replay reboundStore.effects) := by
  refine ⟨by decide, by decide, by decide, fun h => ?_, by decide, by decide, by decide, fun h => ?_⟩
  · obtain ⟨n, hn, hne⟩ : ∃ n ∈ live renamedNodeStore.meshNodes,
        (replay renamedNodeStore.effects).node n.unicastAddr ≠ some n := by decide
    exact hne (h.record_eq hn)
  · obtain ⟨k, hk, hne⟩ : ∃ k ∈ live reboundStore.pAppKeys,
        (replay reboundStore.effects).appKey k.appIdx ≠ some k := by decide
    exact hne (h.record_eq hk)

end BleMeshProvisioner
