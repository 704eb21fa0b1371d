import BleMeshProvisioner.Analysis.ModelDurable

/-!
# Key-store and registry calls interleaved

The file keeps two sets of tables that no call shares. The key store is `bt_mesh.p_sub`,
`bt_mesh.p_app_keys` and the key slots of the local models; the node registry is
`mesh_nodes` with its two counters. Each invariant of one side is proved over runs of that
side's calls, but a running provisioner interleaves both families on one state and one
settings store (`MeshOp`, `meshRun`).

No key-store call writes the registry, and none of the notifications it issues is the
registry's (`keyStep_keyFrame`). No registry call writes the key store, and every
notification it issues is the registry's (`nodeStep_nodeFrame`). A notification of one side
writes none of the other side's durable records. So the key-store invariant, the registry
invariant and, without an admission that skips the UUID check, the uniqueness of UUIDs hold
over every interleaving (`meshRun_invariants`). With the settings store on, the durable
image mirrors the subnets, the app keys, the models' bindings and publication, and the
nodes over every interleaving without the two calls that change a table and skip its
write-through, `bt_mesh_provisioner_set_node_name` and
`bt_mesh_provisioner_bind_local_app_net_idx` (`meshRun_durable`).
-/

set_option autoImplicit false

namespace BleMeshProvisioner

variable (cfg : Config)

/-- One call into the provisioner: a key-store call or a registry call. -/
inductive MeshOp where
  | key (op : KeyOp)
  | node (op : NodeOp)

/-- The state one call leaves, `none` if it does not return. -/
def meshStep (s : BtMesh) : MeshOp → Option BtMesh
  | .key op => keyStep cfg s op
  | .node op => some (nodeStep cfg s op)

/-- The state a sequence of calls leaves, `none` as soon as one does not return. -/
def meshRun (s : BtMesh) : List MeshOp → Option BtMesh
  | [] => some s
  | op :: ops => (meshStep cfg s op).bind fun s' => meshRun s' ops

/-- A run whose first call returns continues from the state that call leaves. -/
theorem meshRun_cons_of_step {s s1 : BtMesh} {op : MeshOp} (hs : meshStep cfg s op = some s1)
    (ops : List MeshOp) : meshRun cfg s (op :: ops) = meshRun cfg s1 ops := by
  rw [meshRun, hs, Option.some_bind]

/-- Whether a call changes a table without notifying the settings store: the node rename
and the app key's rebinding to another subnet. -/
def MeshOp.skipsWriteThrough : MeshOp → Bool
  | .node (.setNodeName ..) | .key (.bindAppNetIdx ..) => true
  | _ => false

/-! ## Whose notification -/

/-- Whether a notification is the registry's: a node record stored or erased, a replay
entry or the message cache cleared. -/
def Effect.isNodeSide : Effect → Bool
  | .storeNodeInfo .. | .clearNodeInfo .. | .clearRplSingle _ | .msgCacheClear .. => true
  | _ => false

section Sides

variable {e : Effect}

/-- INTERNAL: A registry notification writes no subnet or app-key record. -/
theorem keepsKeyRecords_of_isNodeSide (h : e.isNodeSide = true) : e.keepsKeyRecords = true := by
  cases e <;> first | rfl | cases h

/-- INTERNAL: A registry notification is about no model. -/
theorem modelRef_of_isNodeSide (h : e.isNodeSide = true) : e.modelRef = none := by
  cases e <;> first | rfl | cases h

/-- INTERNAL: A notification about a model is not the registry's. -/
theorem isNodeSide_of_modelRef {ref : ModelRef} (h : e.modelRef = some ref) :
    e.isNodeSide = false := by
  cases e <;> first | rfl | cases h

/-- INTERNAL: Replaying notifications that are not the registry's keeps the node records. -/
theorem foldl_apply_node (es : List Effect) (hes : ∀ e ∈ es, e.isNodeSide = false) (d : Durable) :
    (es.foldl Durable.apply d).node = d.node := by
  induction es generalizing d with
  | nil => rfl
  | cons e es ih =>
    rw [List.foldl_cons, ih (fun e' he' => hes e' (List.mem_cons_of_mem _ he'))]
    have he := hes e (List.mem_cons_self _ _)
    cases e <;> first | rfl | cases he

/-- INTERNAL: A notification issued under the settings guard. -/
theorem forall_mem_ite {p : Effect → Prop} (b : Bool) (h : p e) :
    ∀ x ∈ (if b then [e] else []), p x := by
  cases b <;> simp [h]

end Sides

/-- The log of `s'` is that of `s` followed by notifications that satisfy `p`. -/
def LogGrows (p : Effect → Prop) (s s' : BtMesh) : Prop :=
  ∃ es, s'.effects = s.effects ++ es ∧ ∀ e ∈ es, p e

section Logs

variable {p : Effect → Prop} {s s1 s2 s3 : BtMesh}

/-- A state whose log is unchanged grows it by nothing. -/
theorem LogGrows.of_eq (h : s2.effects = s1.effects) : LogGrows p s1 s2 :=
  ⟨[], by rw [h, List.append_nil], fun _ h => absurd h (List.not_mem_nil _)⟩

/-- Two growths of the log by notifications of one kind are one such growth. -/
theorem LogGrows.trans (h1 : LogGrows p s1 s2) (h2 : LogGrows p s2 s3) : LogGrows p s1 s3 := by
  obtain ⟨es1, he1, hp1⟩ := h1
  obtain ⟨es2, he2, hp2⟩ := h2
  refine ⟨es1 ++ es2, by rw [he2, he1, List.append_assoc], fun e he => ?_⟩
  rcases List.mem_append.mp he with he | he
  exacts [hp1 e he, hp2 e he]

/-- Persisting one notification of the kind grows the log by that kind, with settings on
or off. -/
theorem LogGrows.persist {e : Effect} (h : p e) : LogGrows p s (s.persist cfg e) :=
  ⟨_, rfl, forall_mem_ite _ h⟩

end Logs

/-! ## What each side leaves of the other -/

/-- What a key-store call leaves of the registry: the node table and both counters as they
were, and a log grown only by notifications that are not the registry's. -/
structure KeyFrame (s s' : BtMesh) : Prop where
  meshNodes : s'.meshNodes = s.meshNodes
  allNodeCount : s'.allNodeCount = s.allNodeCount
  provNodeCount : s'.provNodeCount = s.provNodeCount
  log : LogGrows (·.isNodeSide = false) s s'

/-- What a registry call leaves of the key store: both key tables and the composition as
they were, and a log grown only by the registry's notifications. -/
structure NodeFrame (s s' : BtMesh) : Prop where
  pSub : s'.pSub = s.pSub
  pAppKeys : s'.pAppKeys = s.pAppKeys
  elems : s'.elems = s.elems
  log : LogGrows (·.isNodeSide = true) s s'

section Frames

variable {s s1 s2 s3 : BtMesh}

/-- A state leaves the registry of itself as it is. -/
theorem KeyFrame.refl (s : BtMesh) : KeyFrame s s := ⟨rfl, rfl, rfl, .of_eq rfl⟩

/-- Key-store calls one after another leave the registry as it was. -/
theorem KeyFrame.trans (h1 : KeyFrame s1 s2) (h2 : KeyFrame s2 s3) : KeyFrame s1 s3 :=
  ⟨h2.1.trans h1.1, h2.2.trans h1.2, h2.3.trans h1.3, h1.4.trans h2.4⟩

/-- A state leaves the key store of itself as it is. -/
theorem NodeFrame.refl (s : BtMesh) : NodeFrame s s := ⟨rfl, rfl, rfl, .of_eq rfl⟩

/-- Registry calls one after another leave the key store as it was. -/
theorem NodeFrame.trans (h1 : NodeFrame s1 s2) (h2 : NodeFrame s2 s3) : NodeFrame s1 s3 :=
  ⟨h2.1.trans h1.1, h2.2.trans h1.2, h2.3.trans h1.3, h1.4.trans h2.4⟩

end Frames

/-! ## Key-store calls -/

section KeyCalls

variable {s : BtMesh}

/-- A net-key add leaves the registry as it was and logs only key-store notifications. -/
theorem netKeyAdd_keyFrame (env : Env) (k : Option Bytes16) (r : Option Nat) :
    KeyFrame s (btMeshProvisionerLocalNetKeyAdd cfg env s k r).2.2 := by
  obtain ⟨-, -, hlog, c, t, es, h⟩ := netKeyAdd_outcome_log cfg env s k r
  refine ⟨by rw [h], by rw [h], by rw [h], ?_⟩
  rcases hlog with ⟨he, -⟩ | ⟨-, c, sub, -, -, he⟩
  · exact .of_eq he
  · exact ⟨_, he.trans (List.append_assoc ..),
      List.forall_mem_append.mpr ⟨forall_mem_ite _ rfl, forall_mem_ite _ rfl⟩⟩

/-- An app-key add leaves the registry as it was and logs only key-store notifications. -/
theorem appKeyAdd_keyFrame (env : Env) (k : Option Bytes16) (n : Nat) (r : Option Nat) :
    KeyFrame s (btMeshProvisionerLocalAppKeyAdd cfg env s k n r).2.2 := by
  obtain ⟨-, -, hlog, c, t, es, h⟩ := appKeyAdd_outcome_log cfg env s k n r
  refine ⟨by rw [h], by rw [h], by rw [h], ?_⟩
  rcases hlog with ⟨he, -⟩ | ⟨-, c, key, -, -, he⟩
  · exact .of_eq he
  · exact ⟨_, he.trans (List.append_assoc ..),
      List.forall_mem_append.mpr ⟨forall_mem_ite _ rfl, forall_mem_ite _ rfl⟩⟩

/-- An app-key delete, its model cleanup included, leaves the registry as it was and logs
only key-store notifications. -/
theorem appKeyDelete_keyFrame (n a : Nat) :
    KeyFrame s (btMeshProvisionerLocalAppKeyDelete cfg s n a).2 := by
  rcases appKeyDelete_cases cfg s n a with hfail | ⟨hn, i, key, hf⟩
  · rw [hfail]; exact .refl s
  rw [appKeyDelete_eq_of_findRow cfg hn hf]
  refine ⟨rfl, rfl, rfl, _, List.append_assoc .., List.forall_mem_append.mpr ⟨?_, forall_mem_ite _ rfl⟩⟩
  exact foreach_effects _ (fun ref m e he => isNodeSide_of_modelRef (modelUnbind_modelRef cfg ref m a e he)) _

/-- A net-key delete that returns, its cascade included, leaves the registry as it was and
logs only key-store notifications. -/
theorem netKeyDelete_keyFrame {n : Nat} {r : Int} {rs : List Int} {s' : BtMesh}
    (hs : btMeshProvisionerLocalNetKeyDelete cfg s n = some (r, rs, s')) : KeyFrame s s' :=
  netKeyDelete_preserves cfg (KeyFrame s) (fun _ n a ht => ht.trans (appKeyDelete_keyFrame cfg n a))
    (fun _ _ _ ht => ht.trans ⟨rfl, rfl, rfl, .persist cfg rfl⟩) hs (.refl s)

/-- A model binding leaves the registry as it was and logs only key-store notifications. -/
theorem bindModel_keyFrame (e m c a : Nat) :
    KeyFrame s (btMeshProvisionerBindLocalModelAppIdx cfg s e m c a).2 := by
  rcases bindModel_outcome cfg s e m c a with ⟨-, h, -⟩ | ⟨-, h, -⟩ |
    ⟨-, -, ref, model, k, -, -, -, -, -, h⟩ <;> rw [h]
  · exact .refl s
  · exact .refl s
  · exact ⟨rfl, rfl, rfl, .persist cfg rfl⟩

/-- A net_create leaves the registry as it was and logs only key-store notifications,
the IV index record included. -/
theorem netCreate_keyFrame (env : Env) (comp : Bool) (prov : Option ProvInfo) :
    KeyFrame s (btMeshProvisionerNetCreate cfg env s comp prov).2 := by
  obtain ⟨-, -, hlog, hnodes, hall, hprov⟩ := @netCreate_outcome_log cfg env s _ comp prov rfl
  refine ⟨hnodes, hall, hprov, ?_⟩
  rcases hlog with ⟨-, he⟩ | ⟨-, sub, -, -, iv, up, he⟩
  · exact .of_eq he
  · refine ⟨_, he.trans (by simp only [List.append_assoc]; rfl), ?_⟩
    simp only [List.forall_mem_append]
    exact ⟨forall_mem_ite _ rfl, forall_mem_ite _ rfl, forall_mem_ite _ rfl, forall_mem_ite _ rfl⟩

/-- A fast-provisioning net-key add leaves the registry as it was and logs only key-store
notifications. -/
theorem addFastProvNetKey_keyFrame (env : Env) (k : Option Bytes16) :
    KeyFrame s (btMeshAddFastProvNetKey cfg env s k).2 := by
  have hpin : KeyFrame s { s with pNetIdxNext := s.fastProvNetIdx } := ⟨rfl, rfl, rfl, .of_eq rfl⟩
  have h := hpin.trans (netKeyAdd_keyFrame cfg env k (some s.fastProvNetIdx))
  unfold btMeshAddFastProvNetKey
  dsimp only
  split
  · exact h
  · split
    · exact h
    · exact h.trans ⟨rfl, rfl, rfl, .of_eq rfl⟩

/-- No key-store call that returns writes the registry or issues a registry notification. -/
theorem keyStep_keyFrame {op : KeyOp} {s' : BtMesh} (hs : keyStep cfg s op = some s') :
    KeyFrame s s' := by
  cases op with
  | netCreate env comp prov => cases hs; exact netCreate_keyFrame cfg env comp prov
  | netKeyAdd env k i => cases hs; exact netKeyAdd_keyFrame cfg env k i
  | netKeyDelete n =>
    obtain ⟨⟨r, rs, s''⟩, hd, rfl⟩ := Option.map_eq_some'.mp hs
    exact netKeyDelete_keyFrame cfg hd
  | appKeyAdd env k n i => cases hs; exact appKeyAdd_keyFrame cfg env k n i
  | appKeyDelete n a => cases hs; exact appKeyDelete_keyFrame cfg n a
  | bindAppNetIdx n a =>
    cases hs
    rcases bindAppNetIdx_cases (n := n) (a := a) (s := s) rfl with h | ⟨-, _, _, -, h⟩ <;> rw [h]
    · exact .refl s
    · exact ⟨rfl, rfl, rfl, .of_eq rfl⟩
  | bindModelAppIdx e m c a => cases hs; exact bindModel_keyFrame cfg e m c a
  | setFastProvNetIdx i =>
    cases hs; unfold btMeshSetFastProvNetIdx provisionerSetFastProvNetIdx
    split <;> exact ⟨rfl, rfl, rfl, .of_eq rfl⟩
  | addFastProvNetKey env k => cases hs; exact addFastProvNetKey_keyFrame cfg env k

end KeyCalls

/-! ## Registry calls -/

section NodeCalls

variable {s : BtMesh}

/-- A `provisioner_store_node` leaves the key store as it was and logs only registry
notifications. -/
theorem storeNode_nodeFrame (node : Node) (prov alloc : Bool) :
    NodeFrame s (provisionerStoreNode cfg s node prov alloc).2.2 := by
  rcases storeNode_cases cfg (s := s) node prov alloc with ⟨hr, -⟩ | ⟨i, -, -, hr⟩ <;> rw [hr]
  · exact .refl s
  · exact ⟨rfl, rfl, rfl, .persist cfg rfl⟩

/-- A `provisioner_reset_node` leaves the key store as it was and logs only registry
notifications, the replay-list erases included. -/
theorem resetNode_nodeFrame (i : Nat) : NodeFrame s (provisionerResetNode cfg s i).2 := by
  unfold provisionerResetNode
  split
  · refine ⟨rfl, rfl, rfl, _, by simp only [rplReset, BtMesh.persist, provisionerNodeCountDec, List.append_assoc]; rfl, ?_⟩
    simp only [List.forall_mem_append, List.forall_mem_singleton]
    refine ⟨rfl, fun e he => ?_, forall_mem_ite _ rfl⟩
    split at he
    · obtain ⟨_, -, rfl⟩ := List.mem_map.mp he; rfl
    · cases he
  · exact .refl s

/-- No registry call writes the key store or issues a notification that is not the
registry's. -/
theorem nodeStep_nodeFrame (op : NodeOp) : NodeFrame s (nodeStep cfg s op) := by
  rcases nodeStep_cases cfg (s := s) op with h | ⟨node, prov, alloc, h, -⟩ | ⟨i, h⟩ | ⟨-, h⟩ |
    ⟨f, j, -, -, h⟩ <;> rw [h]
  · exact .refl s
  · exact storeNode_nodeFrame cfg node prov alloc
  · exact resetNode_nodeFrame cfg i
  · exact resetAll_induct cfg (P := NodeFrame s) (fun _ i ht => ht.trans (resetNode_nodeFrame cfg i))
      (.refl s)
  · exact ⟨rfl, rfl, rfl, .of_eq rfl⟩

end NodeCalls

/-! ## What each side's invariants need of the other -/

section Transfer

variable {s s' : BtMesh}

/-- A key-store call keeps the registry invariant, which reads only what it leaves. -/
theorem RegistryInv.of_keyFrame (h : RegistryInv cfg s) (hf : KeyFrame s s') : RegistryInv cfg s' :=
  ⟨hf.meshNodes ▸ h.length_eq, by rw [hf.allNodeCount, hf.meshNodes]; exact h.allNodeCount_eq,
    by rw [hf.provNodeCount, hf.meshNodes]; exact h.provNodeCount_eq⟩

/-- A key-store call keeps the durable node records mirroring the table: it leaves the
table and logs no node record. -/
theorem NodesMirror.of_keyFrame (h : NodesMirror s (replay s.effects)) (hf : KeyFrame s s') :
    NodesMirror s' (replay s'.effects) := by
  obtain ⟨es, he, hes⟩ := hf.log
  intro a n
  rw [hf.meshNodes, he, replay_append, foldl_apply_node es hes]
  exact h a n

/-- A registry call keeps the key-store invariant, which reads only what it leaves. -/
theorem KeyStoreInv.of_nodeFrame (h : KeyStoreInv s) (hf : NodeFrame s s') : KeyStoreInv s' :=
  h.congr hf.pSub hf.pAppKeys (congrArg modelSlots hf.elems)

/-- A registry call keeps the durable key records mirroring the tables: it leaves both
tables and logs no key record. -/
theorem KeysDurable.of_nodeFrame (h : KeysDurable s) (hf : NodeFrame s s') : KeysDurable s' :=
  let ⟨_, he, hes⟩ := hf.log
  h.of_log hf.pSub hf.pAppKeys he fun e he' => keepsKeyRecords_of_isNodeSide (hes e he')

/-- A registry call keeps the durable model records mirroring the models: it leaves the
composition and logs no model record. -/
theorem ModelsDurable.of_nodeFrame (h : ModelsDurable s) (hf : NodeFrame s s') : ModelsDurable s' :=
  let ⟨_, he, hes⟩ := hf.log
  h.of_log (congrArg modelAt hf.elems) he fun e he' => modelRef_of_isNodeSide (hes e he')

end Transfer

/-! ## Interleaved runs -/

section Runs

variable {s s' : BtMesh}

/-- Every call of either side that returns keeps the key-store invariant and the number of
subnet rows. -/
theorem meshStep_keyStoreInv (h : KeyStoreInv s) {op : MeshOp} (hs : meshStep cfg s op = some s') :
    KeyStoreInv s' ∧ s'.pSub.length = s.pSub.length := by
  cases op with
  | key op => exact ⟨keyStep_keyStoreInv cfg h hs, keyStep_pSub_length cfg hs⟩
  | node op =>
    cases hs
    have hf := nodeStep_nodeFrame cfg (s := s) op
    exact ⟨h.of_nodeFrame hf, by rw [hf.pSub]⟩

/-- Every call of either side that returns keeps the registry invariant. -/
theorem meshStep_registryInv (h : RegistryInv cfg s) {op : MeshOp} (hs : meshStep cfg s op = some s') :
    RegistryInv cfg s' := by
  cases op with
  | key op => exact h.of_keyFrame cfg (keyStep_keyFrame cfg hs)
  | node op => cases hs; exact nodeStep_registryInv cfg h op

/-- Every call of either side that returns, a `provisioner_node_provision` apart, keeps the
live UUIDs distinct. -/
theorem meshStep_uuid_nodup (h : ((live s.meshNodes).map (·.devUuid)).Nodup) {op : MeshOp}
    (hop : ∀ n, op = .node n → n.skipsUuidCheck = false) (hs : meshStep cfg s op = some s') :
    ((live s'.meshNodes).map (·.devUuid)).Nodup := by
  cases op with
  | key op => rwa [(keyStep_keyFrame cfg hs).meshNodes]
  | node op => cases hs; exact nodeStep_uuid_nodup cfg h (hop op rfl)

/-- Over every interleaving of key-store and registry calls that returns, from a state with
the key-store invariant and the registry invariant, both invariants hold; if no call of the
run admits a node without looking for its UUID, distinct UUIDs stay distinct; a run of
key-store calls alone leaves the registry and its durable records as they were
(`KeyFrame`), and a run of registry calls alone leaves the key store and its durable records
as they were (`NodeFrame`). -/
theorem meshRun_invariants (hk : KeyStoreInv s) (hr : RegistryInv cfg s) (ops : List MeshOp)
    (hrun : meshRun cfg s ops = some s') :
    KeyStoreInv s' ∧ RegistryInv cfg s' ∧
      ((∀ op ∈ ops, ∀ n, op = .node n → n.skipsUuidCheck = false) →
        ((live s.meshNodes).map (·.devUuid)).Nodup → ((live s'.meshNodes).map (·.devUuid)).Nodup) ∧
      ((∀ op ∈ ops, ∃ k, op = .key k) → KeyFrame s s') ∧
      ((∀ op ∈ ops, ∃ n, op = .node n) → NodeFrame s s') := by
  induction ops generalizing s with
  | nil => cases hrun; exact ⟨hk, hr, fun _ h => h, fun _ => .refl _, fun _ => .refl _⟩
  | cons op ops ih =>
    obtain ⟨s1, hs1, hrun⟩ := Option.bind_eq_some.mp hrun
    obtain ⟨hk', hr', hu, hkf, hnf⟩ :=
      ih (meshStep_keyStoreInv cfg hk hs1).1 (meshStep_registryInv cfg hr hs1) hrun
    refine ⟨hk', hr', fun hops hnd => hu (fun op' h' => hops op' (List.mem_cons_of_mem _ h'))
      (meshStep_uuid_nodup cfg hnd (hops op (List.mem_cons_self _ _)) hs1), fun hops => ?_,
      fun hops => ?_⟩
    · obtain ⟨k, rfl⟩ := hops op (List.mem_cons_self _ _)
      exact (keyStep_keyFrame cfg hs1).trans (hkf fun op' h' => hops op' (List.mem_cons_of_mem _ h'))
    · obtain ⟨n, rfl⟩ := hops op (List.mem_cons_self _ _)
      cases hs1
      exact (nodeStep_nodeFrame cfg n).trans (hnf fun op' h' => hops op' (List.mem_cons_of_mem _ h'))

variable (hset : cfg.settings = true)

include hset in
/-- Every call of either side that returns and writes through keeps the durable key,
model and node records mirroring the state, provided the live addresses stay distinct. -/
theorem meshStep_durable (hk : KeyStoreInv s) (hrows : s.pSub ≠ [])
    (h : KeysDurable s ∧ ModelsDurable s ∧ NodesMirror s (replay s.effects)) (hd : AddrsDistinct s)
    {op : MeshOp} (hop : op.skipsWriteThrough = false) (hs : meshStep cfg s op = some s')
    (hd' : AddrsDistinct s') :
    KeysDurable s' ∧ ModelsDurable s' ∧ NodesMirror s' (replay s'.effects) := by
  obtain ⟨hkd, hmd, hnd⟩ := h
  cases op with
  | key op =>
    have hop' : ∀ n a, op ≠ .bindAppNetIdx n a := by rintro n a rfl; cases hop
    exact ⟨keyStep_keysDurable cfg hset hk hkd hrows hop' hs, keyStep_modelsDurable cfg hset hmd hs,
      hnd.of_keyFrame (keyStep_keyFrame cfg hs)⟩
  | node op =>
    cases hs
    have hop' : ∀ i name, op ≠ .setNodeName i name := by rintro i name rfl; cases hop
    have hf := nodeStep_nodeFrame cfg (s := s) op
    exact ⟨hkd.of_nodeFrame hf, hmd.of_nodeFrame hf, nodeStep_nodesMirror cfg hset hnd hd hop' hd'⟩

include hset in
/-- With the settings store on, over every interleaving of key-store and registry calls that
returns and that calls neither `bt_mesh_provisioner_set_node_name` nor
`bt_mesh_provisioner_bind_local_app_net_idx`, from a state with the key-store invariant and a
subnet row whose replayed log mirrors its subnets, app keys, models and nodes, and with
distinct live primary addresses after every call, the replayed log mirrors all four at the
end. -/
theorem meshRun_durable (hk : KeyStoreInv s) (hrows : s.pSub ≠ []) (hkd : KeysDurable s)
    (hmd : ModelsDurable s) (hnd : NodesMirror s (replay s.effects)) (ops : List MeshOp)
    (hops : ∀ op ∈ ops, op.skipsWriteThrough = false)
    (hd : ∀ k, ∀ t ∈ meshRun cfg s (ops.take k), AddrsDistinct t)
    (hrun : meshRun cfg s ops = some s') :
    KeysDurable s' ∧ ModelsDurable s' ∧ NodesMirror s' (replay s'.effects) := by
  induction ops generalizing s with
  | nil => cases hrun; exact ⟨hkd, hmd, hnd⟩
  | cons op ops ih =>
    obtain ⟨s1, hs1, hrun⟩ := Option.bind_eq_some.mp hrun
    have hcons := meshRun_cons_of_step cfg hs1
    have hd1 : AddrsDistinct s1 := hd 1 s1 (by rw [List.take_succ_cons, List.take_zero, hcons]; rfl)
    obtain ⟨hkd1, hmd1, hnd1⟩ := meshStep_durable cfg hset hk hrows ⟨hkd, hmd, hnd⟩ (hd 0 s rfl)
      (hops op (List.mem_cons_self _ _)) hs1 hd1
    obtain ⟨hk1, hlen⟩ := meshStep_keyStoreInv cfg hk hs1
    exact ih hk1 (List.ne_nil_of_length_pos (hlen ▸ List.length_pos.mpr hrows)) hkd1 hmd1 hnd1
      (fun op' h' => hops op' (List.mem_cons_of_mem _ h'))
      (fun k t ht => hd (k + 1) t (by rwa [List.take_succ_cons, hcons])) hrun

end Runs

/-- A provisioner with the settings store on, one subnet row, one app-key row and no local
model, at boot. -/
def mixedBoot : BtMesh := bootState settingsConfig 1 1 []

/-- The network created, a self-provisioned node admitted, an app key added at the next free
index, that node reset by UUID and another node admitted outside the partition. -/
def mixedOps : List MeshOp :=
  [.key (.netCreate (.succeeding (testKey 1)) true (some ⟨1, 0, 0⟩)),
    .node (.storeNodeInfo (some (sampleNode 2 2)) true true),
    .key (.appKeyAdd (.succeeding (testKey 3)) (some (testKey 3)) 0 (some 0xFFFF)),
    .node (.findResetWithUuid (testKey 2) true),
    .node (.storeNodeInfo (some (sampleNode 4 3)) false true)]

/-- The state `mixedOps` leaves (`mixedBoot` had it not returned). -/
def mixedEnd : BtMesh := (meshRun settingsConfig mixedBoot mixedOps).getD mixedBoot

/-- `mixedOps` returns from boot and ends with one node and one app key, both invariants and
unique UUIDs. -/
theorem meshRun_invariants_mixedOps :
    meshRun settingsConfig mixedBoot mixedOps = some mixedEnd ∧ (live mixedEnd.meshNodes).length = 1 ∧
      (live mixedEnd.pAppKeys).length = 1 ∧ KeyStoreInv mixedEnd ∧ RegistryInv settingsConfig mixedEnd ∧
      ((live mixedEnd.meshNodes).map (·.devUuid)).Nodup := by
  have hrun : meshRun settingsConfig mixedBoot mixedOps = some mixedEnd := rfl
  have hops : ∀ op ∈ mixedOps, ∀ n, op = .node n → n.skipsUuidCheck = false := by
    intro op hop n hn
    subst hn
    simp only [mixedOps, List.mem_cons, List.mem_singleton, List.not_mem_nil, or_false] at hop
    rcases hop with h | h | h | h | h <;> cases h <;> rfl
  obtain ⟨hk, hr, hu, -⟩ := meshRun_invariants settingsConfig
    (keyStoreInit_bootState settingsConfig 1 1 (by decide)).keyStoreInv
    (emptyRegistry_bootState settingsConfig 1 1 []).registryInv mixedOps hrun
  exact ⟨hrun, by decide, by decide, hk, hr, hu hops (by decide)⟩

/-- With the settings store on, `mixedOps` keeps the live primary addresses distinct after
every call, and at its end the replayed log mirrors the tables. -/
theorem meshRun_durable_mixedOps :
    (∀ k, ∀ t ∈ meshRun settingsConfig mixedBoot (mixedOps.take k), AddrsDistinct t) ∧
      KeysDurable mixedEnd ∧ ModelsDurable mixedEnd ∧ NodesMirror mixedEnd (replay mixedEnd.effects) := by
  have hd : ∀ k, ∀ t ∈ meshRun settingsConfig mixedBoot (mixedOps.take k), AddrsDistinct t := by
    intro k
    unfold AddrsDistinct
    match k with
    | 0 | 1 | 2 | 3 | 4 => decide
    | k + 5 => rw [List.take_of_length_le (by simp [mixedOps])]; decide
  have hinit : KeyStoreInit mixedBoot := keyStoreInit_bootState settingsConfig 1 1 (by decide)
  exact ⟨hd, meshRun_durable settingsConfig rfl hinit.keyStoreInv (by decide) (hinit.keysDurable rfl)
    (hinit.modelsDurable rfl) ((emptyRegistry_bootState settingsConfig 1 1 []).nodesMirror rfl) mixedOps
    (by decide) hd rfl⟩

end BleMeshProvisioner
