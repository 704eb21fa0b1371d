import BleMeshProvisioner.Analysis.Registry

/-!
# Node names

`bt_mesh_provisioner_set_node_name` (`provisioner_main.c:545-582`) copies the new name with
`strncpy(node_name, name, length)`, `length` being the name's length cut to
`MESH_NAME_SIZE`. Since `length` never exceeds `strlen(name)`, no terminating NUL is
written: the buffer then holds the new name followed by whatever the old buffer held past
`length` (`setNodeName_getNodeName`).

The C string reads of the model stop at the end of the buffer, where C reads on into the
node's next field; so every statement here is made where the buffers read hold a NUL
(`NamesTerminated`). A name shorter than `MESH_NAME_SIZE` never overwrites the buffer's last
character, and a rename to it over a buffer with a NUL at the new length keeps every buffer
terminated, reads back as the name, and the name scan finds the node under it
(`setNodeName_roundTrip`). A rename to a name shorter than the current one, though, reads
back as a mix of both, which neither the duplicate check nor
`bt_mesh_provisioner_get_node_index` sees as the name given, and which can equal another
node's name, with every buffer terminated (`rename_to_shorter_name_keeps_old_tail`).
-/

set_option autoImplicit false

namespace BleMeshProvisioner

variable (cfg : Config)

/-! ## C strings -/

/-- INTERNAL: A C string holds no NUL. -/
theorem nul_not_mem_cStr (buf : List Char) : nul ∉ cStr buf := fun h => by
  simpa using List.mem_takeWhile_imp h

/-- INTERNAL: The C string of characters with no NUL followed by a buffer. -/
theorem cStr_append {a : List Char} (ha : nul ∉ a) (b : List Char) :
    cStr (a ++ b) = a ++ cStr b :=
  List.takeWhile_append_of_pos fun c hc => by simpa using ne_of_mem_of_not_mem hc ha

/-- What a `strncpy` of at most the length of the source string leaves: the first `n`
characters of the source followed by the old buffer's C string past them. -/
theorem cStr_strncpy (dst src : List Char) {n : Nat} (hn : n ≤ (cStr src).length) :
    cStr (strncpy dst src n) = (cStr src).take n ++ cStr (dst.drop n) := by
  rw [strncpy, List.take_append_of_le_length hn]
  exact cStr_append (fun h => nul_not_mem_cStr src (List.mem_of_mem_take h)) _

/-! ## Renames -/

/-- Every live node's name buffer holds a NUL, so `strlen` and `strncmp` stop inside it and
read what `cStr` reads. -/
def NamesTerminated (s : BtMesh) : Prop := ∀ n ∈ live s.meshNodes, nul ∈ n.nodeName

/-- Whether every live name buffer holds a NUL can be decided on a state. -/
instance (s : BtMesh) : Decidable (NamesTerminated s) :=
  inferInstanceAs (Decidable (∀ n ∈ live s.meshNodes, nul ∈ n.nodeName))

/-- A change of one slot's node that leaves a NUL in its buffer keeps every buffer
terminated. -/
theorem NamesTerminated.modify {s : BtMesh} (h : NamesTerminated s) {i : Nat} {g : Node → Node}
    (hg : ∀ node, s.meshNodes[i]? = some (some node) → nul ∈ (g node).nodeName) :
    NamesTerminated { s with meshNodes := s.meshNodes.modify (Option.map g) i } := by
  intro n hn
  obtain ⟨j, hj⟩ := List.mem_iff_getElem?.mp (mem_live.mp hn)
  by_cases hij : i = j
  · subst hij
    rw [List.getElem?_modify_eq] at hj
    rcases hi : s.meshNodes[i]? with _ | _ | node <;> rw [hi] at hj <;> cases hj
    exact hg node hi
  · rw [List.getElem?_modify_ne _ _ hij] at hj
    exact h n (mem_live.mpr (List.mem_iff_getElem?.mpr ⟨j, hj⟩))

/-- INTERNAL: The index check passes exactly on an occupied slot. -/
theorem indexCheck_eq_zero {s : BtMesh} {i : Int} :
    provisionerIndexCheck s i = 0 ↔ 0 ≤ i ∧ ∃ node, s.meshNodes[i.toNat]? = some (some node) := by
  unfold provisionerIndexCheck
  by_cases hi : i < 0
  · simp [hi, einval]
  by_cases hlen : s.meshNodes.length ≤ i.toNat
  · simp [hi, hlen, einval, List.getElem?_eq_none hlen]
  rw [if_neg hi, if_neg hlen]
  split <;> simp_all [einval]

/-- What a rename that returns 0 checked and did: the slot is occupied, no live node's name
has the new name's cut length and agrees with it that far, and `strncpy` wrote the cut name
over the slot's buffer. -/
theorem setNodeName_eq_zero {s s' : BtMesh} {i : Int} {name : List Char}
    (h : btMeshProvisionerSetNodeName cfg s i (some name) = (0, s')) :
    0 ≤ i ∧ (∃ node, s.meshNodes[i.toNat]? = some (some node)) ∧
      (∀ n ∈ live s.meshNodes,
        ¬((cStr n.nodeName).length = min (cStr name).length cfg.meshNameSize ∧
          strncmpEq n.nodeName name (min (cStr name).length cfg.meshNameSize) = true)) ∧
      s' = { s with
        meshNodes := s.meshNodes.modify (Option.map fun n => { n with
          nodeName := strncpy n.nodeName name (min (cStr name).length cfg.meshNameSize) })
          i.toNat } := by
  unfold btMeshProvisionerSetNodeName at h
  dsimp only at h
  by_cases hck : provisionerIndexCheck s i ≠ 0
  · rw [if_pos hck] at h; exact absurd (Prod.mk.inj h).1 neg_einval_ne_zero
  rw [if_neg hck] at h
  split at h
  · exact absurd (Prod.mk.inj h).1 neg_eexist_ne_zero
  rename_i hfresh
  obtain ⟨hi, hnode⟩ := indexCheck_eq_zero.mp (not_not.mp hck)
  refine ⟨hi, hnode, fun n hn hmatch => hfresh ?_, (Prod.mk.inj h).2.symm⟩
  exact List.any_eq_true.mpr ⟨n, hn, by simpa using hmatch⟩

/-- A rename that returns 0 leaves in the slot's buffer the new name, cut to
`MESH_NAME_SIZE` characters, followed by the C string the old buffer held past the cut. -/
theorem setNodeName_getNodeName {s s' : BtMesh} {i : Int} {name : List Char}
    (h : btMeshProvisionerSetNodeName cfg s i (some name) = (0, s')) :
    ∃ node, s.meshNodes[i.toNat]? = some (some node) ∧
      btMeshProvisionerGetNodeName s' i = some ((cStr name).take cfg.meshNameSize ++
        cStr (node.nodeName.drop (min (cStr name).length cfg.meshNameSize))) := by
  obtain ⟨hi, ⟨node, hnode⟩, -, rfl⟩ := setNodeName_eq_zero cfg h
  have hnode' := List.getElem?_modify_eq (Option.map fun n =>
      { n with nodeName := strncpy n.nodeName name (min (cStr name).length cfg.meshNameSize) })
    i.toNat s.meshNodes
  rw [hnode, Option.map_eq_map, Option.map_some', Option.map_some'] at hnode'
  refine ⟨node, hnode, ?_⟩
  rw [btMeshProvisionerGetNodeName, if_neg (not_not.mpr (indexCheck_eq_zero.mpr ⟨hi, _, hnode'⟩)),
    hnode', Option.some_bind, id, Option.map_some', cStr_strncpy _ _ (min_le_left _ _)]
  congr 2
  exact List.take_eq_take.mpr (by omega)

/-- INTERNAL: The name scan finds the first occupied slot whose name is the given one cut to
`MESH_NAME_SIZE` characters, when no earlier slot's name has that length and agrees that
far. -/
theorem getNodeIndex_of_first {s : BtMesh} {name : List Char} {i : Nat} {node : Node}
    (hrow : s.meshNodes[i]? = some (some node))
    (hname : cStr node.nodeName = (cStr name).take cfg.meshNameSize)
    (hb : ∀ j b, j < i → s.meshNodes[j]? = some (some b) →
      ¬((cStr b.nodeName).length = min (cStr name).length cfg.meshNameSize ∧
        strncmpEq b.nodeName name (min (cStr name).length cfg.meshNameSize) = true)) :
    btMeshProvisionerGetNodeIndex cfg s (some name) = i := by
  unfold btMeshProvisionerGetNodeIndex
  dsimp only
  rw [findRow_of_first hrow (by simp [hname, strncmpEq, List.take_take, min_comm])
    fun j b hj hjb => by simpa using hb j b hj hjb]

/-- A rename that returns 0, to a name shorter than `MESH_NAME_SIZE`, of a node whose buffer
has a NUL at the new name's length (a node provisioned with an all-NUL name, or one whose name
was not longer), with every buffer terminated: every buffer stays terminated, the node reads
back as the new name, and it is the node `bt_mesh_provisioner_get_node_index` finds under
that name. -/
theorem setNodeName_roundTrip {s s' : BtMesh} {i : Int} {name : List Char}
    (h : btMeshProvisionerSetNodeName cfg s i (some name) = (0, s'))
    (hshort : (cStr name).length < cfg.meshNameSize) (hterm : NamesTerminated s)
    (hblank : ∀ node, s.meshNodes[i.toNat]? = some (some node) →
      node.nodeName[(cStr name).length]? = some nul) :
    NamesTerminated s' ∧ btMeshProvisionerGetNodeName s' i = some (cStr name) ∧
      btMeshProvisionerGetNodeIndex cfg s' (some name) = i := by
  have hlen : min (cStr name).length cfg.meshNameSize = (cStr name).length := min_eq_left hshort.le
  have hcut : (cStr name).take cfg.meshNameSize = cStr name := List.take_of_length_le hshort.le
  -- past the cut the old buffer starts with its NUL
  have htail : ∀ node, s.meshNodes[i.toNat]? = some (some node) →
      ∃ rest, node.nodeName.drop (cStr name).length = nul :: rest := fun node hn => by
    rw [List.drop_eq_getElem_cons (List.getElem?_eq_some_iff.mp (hblank node hn)).1,
      (List.getElem?_eq_some_iff.mp (hblank node hn)).2]
    exact ⟨_, rfl⟩
  obtain ⟨node, hnode, hget⟩ := setNodeName_getNodeName cfg h
  obtain ⟨rest, hrest⟩ := htail node hnode
  have hblank' : cStr (node.nodeName.drop (cStr name).length) = [] := by
    rw [hrest]; rfl
  rw [hlen, hblank', List.append_nil, hcut] at hget
  obtain ⟨hi, -, hfresh, rfl⟩ := setNodeName_eq_zero cfg h
  refine ⟨hterm.modify fun n hn => ?_, hget, ?_⟩
  · obtain ⟨rest', hrest'⟩ := htail n hn
    rw [strncpy, hlen, hrest']
    exact List.mem_append_right _ (List.mem_cons_self _ _)
  have hrow := List.getElem?_modify_eq (Option.map fun n =>
      { n with nodeName := strncpy n.nodeName name (min (cStr name).length cfg.meshNameSize) })
    i.toNat s.meshNodes
  rw [hnode, Option.map_eq_map, Option.map_some', Option.map_some'] at hrow
  refine (getNodeIndex_of_first cfg hrow ?_ fun j b hj hb => ?_).trans (Int.toNat_of_nonneg hi)
  · rw [cStr_strncpy _ _ (min_le_left _ _), hlen, hblank', List.append_nil, List.take_length, hcut]
  · rw [List.getElem?_modify_ne _ _ (Nat.ne_of_gt hj)] at hb
    exact hfresh b (mem_live.mpr (List.mem_iff_getElem?.mpr ⟨j, hb⟩))

/-- A node with UUID 1 stored as self-provisioned in `smallConfig`'s table, its name buffer
all NUL. -/
def unnamedStore : BtMesh :=
  (btMeshProvisionerStoreNodeInfo smallConfig (bootState smallConfig 0 0 []) (some (sampleNode 1 2))
    true true).2

/-- Renamed "ab", the node reads back as "ab" and is found under it, and its buffer keeps a
NUL. -/
theorem setNodeName_roundTrip_unnamedStore :
    NamesTerminated (btMeshProvisionerSetNodeName smallConfig unnamedStore 0 (some ['a', 'b'])).2 ∧
      btMeshProvisionerGetNodeName (btMeshProvisionerSetNodeName smallConfig unnamedStore 0
        (some ['a', 'b'])).2 0 = some ['a', 'b'] ∧
      btMeshProvisionerGetNodeIndex smallConfig (btMeshProvisionerSetNodeName smallConfig unnamedStore 0
        (some ['a', 'b'])).2 (some ['a', 'b']) = 0 :=
  setNodeName_roundTrip smallConfig (Prod.ext (by decide) rfl) (by decide) (by decide) fun node hn => by
    have hget : unnamedStore.meshNodes[0]? = some (some (sampleNode 1 2)) := by decide
    rw [show (0 : Int).toNat = 0 from rfl, hget] at hn
    cases hn
    decide

/-! ## A rename to a shorter name -/

/-- A provisioner with two node slots, both for self-provisioned nodes, and names of four
characters. -/
def namesConfig : Config := ⟨2, 2, 4, false, by decide, by decide⟩

/-- Two nodes provisioned, with UUIDs 1 and 2 and addresses 2 and 3, then named "xbc" and
"abc", both shorter than the four-character buffer. -/
def namedRun : List NodeOp :=
  [.provision (some ⟨0, [1, 1, 1, 1, 1, 1]⟩) (some (testKey 1)) 0 2 1 0 0 0 (some (testKey 0)) true true,
    .provision (some ⟨0, [2, 2, 2, 2, 2, 2]⟩) (some (testKey 2)) 0 3 1 0 0 0 (some (testKey 0)) true true,
    .setNodeName 0 (some ['x', 'b', 'c']), .setNodeName 1 (some ['a', 'b', 'c'])]

/-- The registry after `namedRun`. -/
def namedStore : BtMesh := nodeRun namesConfig (bootState namesConfig 0 0 []) namedRun

/-- After the two nodes are named "xbc" and "abc", renaming node 0 to "a" returns 0, but node
0 then reads back as "abc": its name is not "a", no node is found under "a", and both live
nodes carry the name "abc". Every buffer holds a NUL before and after the rename, so these
are the reads of the program. -/
theorem rename_to_shorter_name_keeps_old_tail :
    EmptyRegistry namesConfig (bootState namesConfig 0 0 []) ∧ NamesTerminated namedStore ∧
      NamesTerminated (btMeshProvisionerSetNodeName namesConfig namedStore 0 (some ['a'])).2 ∧
      (btMeshProvisionerSetNodeName namesConfig namedStore 0 (some ['a'])).1 = 0 ∧
      btMeshProvisionerGetNodeName
        (btMeshProvisionerSetNodeName namesConfig namedStore 0 (some ['a'])).2 0 =
        some ['a', 'b', 'c'] ∧
      btMeshProvisionerGetNodeIndex namesConfig
        (btMeshProvisionerSetNodeName namesConfig namedStore 0 (some ['a'])).2 (some ['a']) = -enodev ∧
      btMeshProvisionerGetNodeName
        (btMeshProvisionerSetNodeName namesConfig namedStore 0 (some ['a'])).2 1 =
        some ['a', 'b', 'c'] :=
  ⟨emptyRegistry_bootState _ 0 0 [], by decide, by decide, by decide, by decide, by decide, by decide⟩

end BleMeshProvisioner
