import BleMeshProvisioner.Model.Nodes
import BleMeshProvisioner.Model.FastProv

/-!
# Runs

The file's callers drive two state machines over `BtMesh`. The key store is driven by
the configuration layer (`KeyOp`, one constructor per entry point, with the collaborators'
answers for that call); `keyStep` is `none` only when the net-key cascade reads a NULL
row, `keyRun` applies a list of calls in order, and `KeyReachable` is every state a
sequence of calls that return reaches from an empty key store. The node registry is driven
by the provisioning handshake and by configuration (`NodeOp`); every registry call
returns, so a run is a fold, `nodeRun`, from an empty registry.
-/

set_option autoImplicit false

namespace BleMeshProvisioner

variable (cfg : Config)

/-- The `bt_mesh` global at boot: every row of the provisioner's three tables NULL,
counters and cursors 0, no composition, provisioning data or persisted record; `elems` is
the local composition. The node-role tables `bt_mesh.sub` and `bt_mesh.app_keys` start
empty, where `net.c` keeps unused entries with `net_idx` 0xFFFF: from here a fast lookup
of index 0xFFFF finds nothing, where the code finds an unused entry. -/
def bootState (subnetRows appKeyRows : Nat) (elems : List Elem) : BtMesh where
  meshNodes := List.replicate cfg.maxStoredNodes none
  allNodeCount := 0
  provNodeCount := 0
  pSub := List.replicate subnetRows none
  pAppKeys := List.replicate appKeyRows none
  pNetIdxNext := 0
  pAppIdxNext := 0
  rpl := []
  elems := elems
  comp := false
  prov := none
  provNetCreate := false
  ivIndex := 0
  ivUpdate := false
  primaryAddr := 0
  devKey := Bytes16.zero
  sub := []
  appKeys := []
  fastProvNetIdx := 0
  fastProvNetKey := none
  effects := []

/-- A small provisioner for concrete runs: two node slots, the first for provisioned nodes,
names of four characters, no settings store. -/
def smallConfig : Config := ⟨2, 1, 4, false, by decide, by decide⟩

/-- The key of sixteen equal bytes `b`. -/
def testKey (b : UInt8) : Bytes16 := ⟨List.replicate 16 b, List.length_replicate 16 b⟩

/-- Collaborators that all succeed, the random source drawing `k`. -/
def Env.succeeding (k : Bytes16) : Env := ⟨some k, true, fun _ => some 0, fun _ => some 0⟩

/-- A call into the key store, with the collaborators' answers for it. -/
inductive KeyOp where
  | netCreate (env : Env) (comp : Bool) (prov : Option ProvInfo)
  | netKeyAdd (env : Env) (netKey : Option Bytes16) (netIdx : Option Nat)
  | netKeyDelete (netIdx : Nat)
  | appKeyAdd (env : Env) (appKey : Option Bytes16) (netIdx : Nat) (appIdx : Option Nat)
  | appKeyDelete (netIdx appIdx : Nat)
  | bindAppNetIdx (netIdx appIdx : Nat)
  | bindModelAppIdx (elemAddr modId cid appIdx : Nat)
  | setFastProvNetIdx (netIdx : Nat)
  | addFastProvNetKey (env : Env) (netKey : Option Bytes16)

/-- The state a key-store call leaves, `none` when it does not return. -/
def keyStep (s : BtMesh) : KeyOp → Option BtMesh
  | .netCreate env comp prov => some (btMeshProvisionerNetCreate cfg env s comp prov).2
  | .netKeyAdd env k i => some (btMeshProvisionerLocalNetKeyAdd cfg env s k i).2.2
  | .netKeyDelete i => (btMeshProvisionerLocalNetKeyDelete cfg s i).map (·.2.2)
  | .appKeyAdd env k n i => some (btMeshProvisionerLocalAppKeyAdd cfg env s k n i).2.2
  | .appKeyDelete n i => some (btMeshProvisionerLocalAppKeyDelete cfg s n i).2
  | .bindAppNetIdx n i => some (btMeshProvisionerBindLocalAppNetIdx s n i).2
  | .bindModelAppIdx e m c i => some (btMeshProvisionerBindLocalModelAppIdx cfg s e m c i).2
  | .setFastProvNetIdx i => some (btMeshSetFastProvNetIdx s i).2
  | .addFastProvNetKey env k => some (btMeshAddFastProvNetKey cfg env s k).2

/-- An empty key store: no subnet, no app key, every local model key slot unused. -/
structure KeyStoreInit (s : BtMesh) : Prop where
  pSub_empty : ∀ o ∈ s.pSub, o = none
  pAppKeys_empty : ∀ o ∈ s.pAppKeys, o = none
  slots_unused : ∀ ks ∈ modelSlots s.elems, ∀ k ∈ ks, k = bleMeshKeyUnused

/-- At boot the key store is empty, when the composition's key slots are all unused. -/
theorem keyStoreInit_bootState (m k : Nat) {elems : List Elem}
    (h : ∀ ks ∈ modelSlots elems, ∀ x ∈ ks, x = bleMeshKeyUnused) :
    KeyStoreInit (bootState cfg m k elems) where
  pSub_empty _ ho := (List.eq_of_mem_replicate ho)
  pAppKeys_empty _ ho := (List.eq_of_mem_replicate ho)
  slots_unused := h

/-- The states reached from an empty key store by calls that return. -/
inductive KeyReachable : BtMesh → Prop
  | init {s : BtMesh} : KeyStoreInit s → KeyReachable s
  | step {s s' : BtMesh} (op : KeyOp) : KeyReachable s → keyStep cfg s op = some s' →
      KeyReachable s'

/-- The state a sequence of key-store calls leaves, `none` as soon as one does not return. -/
def keyRun (s : BtMesh) : List KeyOp → Option BtMesh
  | [] => some s
  | op :: ops => (keyStep cfg s op).bind fun s' => keyRun s' ops

/-- A call into the node registry, with `osi_calloc`'s answer where it allocates. -/
inductive NodeOp where
  | provision (addr : Option MeshAddr) (uuid : Option Bytes16)
      (oobInfo unicastAddr elementNum netIdx flags ivIndex : Nat) (devKey : Option Bytes16)
      (index alloc : Bool)
  | storeNodeInfo (node : Option Node) (prov alloc : Bool)
  | findResetWithUuid (uuid : Bytes16) (reset : Bool)
  | findResetWithAddr (addr : MeshAddr) (reset : Bool)
  | resetAll
  | setNodeName (nodeIndex : Int) (name : Option (List Char))

/-- The state a registry call leaves. -/
def nodeStep (s : BtMesh) : NodeOp → BtMesh
  | .provision a u o ua en ni f iv dk ix al =>
    (provisionerNodeProvision cfg s a u o ua en ni f iv dk ix al).2.2
  | .storeNodeInfo node prov alloc => (btMeshProvisionerStoreNodeInfo cfg s node prov alloc).2
  | .findResetWithUuid uuid reset => (provisionerFindResetNodeWithUuid cfg s uuid reset).2
  | .findResetWithAddr addr reset => (provisionerFindResetNodeWithAddr cfg s addr reset).2
  | .resetAll => (provisionerResetAllNodes cfg s).2
  | .setNodeName i name => (btMeshProvisionerSetNodeName cfg s i name).2

/-- The state a sequence of registry calls leaves. -/
def nodeRun (s : BtMesh) (ops : List NodeOp) : BtMesh := ops.foldl (nodeStep cfg) s

/-- An empty registry: every slot of `mesh_nodes` NULL and both counters 0. -/
structure EmptyRegistry (s : BtMesh) : Prop where
  meshNodes_eq : s.meshNodes = List.replicate cfg.maxStoredNodes none
  allNodeCount_eq : s.allNodeCount = 0
  provNodeCount_eq : s.provNodeCount = 0

/-- The boot state's registry is empty. -/
theorem emptyRegistry_bootState (m k : Nat) (elems : List Elem) :
    EmptyRegistry cfg (bootState cfg m k elems) :=
  ⟨rfl, rfl, rfl⟩

end BleMeshProvisioner
