import BleMeshProvisioner.Analysis.KeyOps
import BleMeshProvisioner.Model.Run

/-!
# What `net_create` fixes: the element layout, binding into it, and the cursors after it

`bt_mesh_provisioner_net_create` runs its body once (`provisioner_main.c:313-411`): it fetches
the composition and the provisioning context, gives element `i` the address
`prov_unicast_addr + i` through `bt_mesh_comp_provision`, and sets `prov_net_create`, after
which every call returns 0 at once. Two later calls read what it fixed:
`bt_mesh_provisioner_get_own_unicast_addr` returns the context's address and the element
count, and `bt_mesh_provisioner_bind_local_model_app_idx` finds its element by address.

`NetLayout p s` is what a first successful call leaves (`netCreate_netLayout`). No key-store
call writes the fields it reads (`BtMesh.layout`): each call writes only its own fields, as
its outcome lemma says, and the two passes over the models keep every element's address
(`foreachElems_addrs`, `setModel_addrs`), so `NetLayout` holds over every later run
(`keyRun_layout`). With at most 0x10000 elements the binding call at the `i`-th layout
address names a model of element `i` (`NetLayout.bindTarget_addr`); what it does there is
`bindLocalModel_spec`.

`net_create` also resets the two auto-index cursors, on its first run only. After it, no call
moves the app-key cursor back, and only `bt_mesh_add_fast_prov_net_key`, which pins the
net-key cursor, moves that one back (`keyRun_cursors_mono`).
-/

set_option autoImplicit false

namespace BleMeshProvisioner

variable (cfg : Config)

/-! ## Binding a key to a local model -/

/-- `bt_mesh_provisioner_bind_local_model_app_idx(e, m, c, a)` returns 0 exactly when there is
a composition, the call names a model, `a` is the index of a live app key, and the model
holds `a` already or has an unused slot. A call that fails changes nothing. One that returns
0 writes only the directory and the log; it leaves `a` in the named model, with every key
the model held, and every other model as it was. -/
theorem bindLocalModel_spec (s : BtMesh) (e m c a : Nat) :
    ((btMeshProvisionerBindLocalModelAppIdx cfg s e m c a).1 = 0 ↔ s.comp = true ∧
      ∃ ref model, bindTarget s e m c = some (ref, model) ∧
        (∃ key ∈ live s.pAppKeys, key.appIdx = a) ∧
        (a ∈ model.keys ∨ bleMeshKeyUnused ∈ model.keys)) ∧
    ((btMeshProvisionerBindLocalModelAppIdx cfg s e m c a).1 ≠ 0 →
      (btMeshProvisionerBindLocalModelAppIdx cfg s e m c a).2 = s) ∧
    ∀ ref model, bindTarget s e m c = some (ref, model) →
      (btMeshProvisionerBindLocalModelAppIdx cfg s e m c a).1 = 0 →
      (∃ el es, (btMeshProvisionerBindLocalModelAppIdx cfg s e m c a).2 =
        { s with elems := el, effects := es }) ∧
      ∃ ks, a ∈ ks ∧ (∀ x ∈ model.keys, x ≠ bleMeshKeyUnused → x ∈ ks) ∧
        ∀ r, modelAt (btMeshProvisionerBindLocalModelAppIdx cfg s e m c a).2.elems r =
          if r = ref then some { model with keys := ks } else modelAt s.elems r := by
  have hsame : ∀ {ref model ref' model'}, bindTarget s e m c = some (ref, model) →
      bindTarget s e m c = some (ref', model') → ref = ref' ∧ model = model' := fun h h' => by
    rw [h] at h'; cases h'; exact ⟨rfl, rfl⟩
  rcases bindModel_outcome cfg s e m c a with ⟨hne, hs, hwhy⟩ | ⟨h0, hs, hcomp, ref, model, ht, hlive, hin⟩ |
    ⟨h0, hcomp, ref, model, k, ht, hlive, hnot, hk, -, hs⟩
  · -- a failed call: none of the conditions holds
    refine ⟨⟨fun h => absurd h hne, ?_⟩, fun _ => hs, fun _ _ _ h => absurd h hne⟩
    rintro ⟨hcomp, ref, model, ht, hlive, hroom⟩
    rcases hwhy with hc | hn | hall
    · exact (Bool.false_ne_true (hc.symm.trans hcomp)).elim
    · exact (Option.some_ne_none _ (ht.symm.trans hn)).elim
    · rcases hall ref model ht with hdead | ⟨hnot, hfull⟩
      · exact (hdead hlive).elim
      · exact (hroom.elim hnot hfull).elim
  · -- the key already bound: nothing changes
    refine ⟨⟨fun _ => ⟨hcomp, ref, model, ht, hlive, .inl hin⟩, fun _ => h0⟩,
      fun h => absurd h0 h, fun ref' model' ht' _ => ?_⟩
    obtain ⟨rfl, rfl⟩ := hsame ht ht'
    refine ⟨⟨s.elems, s.effects, hs⟩, model.keys, hin, fun x hx _ => hx, fun r => ?_⟩
    rw [hs]
    split_ifs with hr
    · rw [hr]; exact modelAt_of_bindTarget ht
    · rfl
  · -- the first unused slot filled
    refine ⟨⟨fun _ => ⟨hcomp, ref, model, ht, hlive, .inr (List.getElem?_mem hk)⟩, fun _ => h0⟩,
      fun h => absurd h0 h, fun ref' model' ht' _ => ?_⟩
    obtain ⟨rfl, rfl⟩ := hsame ht ht'
    refine ⟨⟨_, _, hs⟩, model.keys.set k a, List.mem_set _ _ (List.getElem?_eq_some_iff.mp hk).1 a,
      fun x hx hxu => ?_, fun r => by rw [hs]; exact modelAt_setModel (modelAt_of_bindTarget ht) _ r⟩
    obtain ⟨j, hj⟩ := List.mem_iff_getElem?.mp hx
    have hjk : j ≠ k := by rintro rfl; exact hxu (Option.some.inj (hj.symm.trans hk))
    exact List.mem_iff_getElem?.mpr ⟨j, by rw [List.getElem?_set_ne (Ne.symm hjk), hj]⟩

/-- A created network with one element, at address 1, whose SIG model 0x1000 has one unused
slot, and app key 0 added for the primary subnet. -/
def bindStore : BtMesh :=
  (btMeshProvisionerLocalAppKeyAdd smallConfig (.succeeding Bytes16.zero)
    (btMeshProvisionerNetCreate smallConfig (.succeeding Bytes16.zero)
      (bootState smallConfig 1 1 [⟨0, [⟨0x1000, 0xFFFF, [bleMeshKeyUnused], none⟩], []⟩]) true
      (some ⟨1, 0, 0⟩)).2
    (some Bytes16.zero) bleMeshKeyPrimary (some 0xFFFF)).2.2

/-- Binding app key 0 to model 0x1000 of the element at address 1 of `bindStore` returns 0,
writes only the directory and the log, and leaves the key in that model. -/
theorem bindLocalModel_spec_bindStore :
    (btMeshProvisionerBindLocalModelAppIdx smallConfig bindStore 1 0x1000 0xFFFF 0).1 = 0 ∧
      (∃ el es, (btMeshProvisionerBindLocalModelAppIdx smallConfig bindStore 1 0x1000 0xFFFF 0).2 =
        { bindStore with elems := el, effects := es }) ∧
      ∃ m', modelAt (btMeshProvisionerBindLocalModelAppIdx smallConfig bindStore 1 0x1000 0xFFFF 0).2.elems
        ⟨0, false, 0⟩ = some m' ∧ 0 ∈ m'.keys := by
  have h := bindLocalModel_spec smallConfig bindStore 1 0x1000 0xFFFF 0
  have ht : bindTarget bindStore 1 0x1000 0xFFFF =
      some (⟨0, false, 0⟩, ⟨0x1000, 0xFFFF, [bleMeshKeyUnused], none⟩) := by decide
  have h0 := h.1.mpr ⟨by decide, _, _, ht, by decide, .inr (List.mem_singleton_self _)⟩
  obtain ⟨hw, ks, hks, -, hat⟩ := h.2.2 _ _ ht h0
  exact ⟨h0, hw, _, (hat ⟨0, false, 0⟩).trans (if_pos rfl), hks⟩

/-! ## What `net_create` fixes -/

/-- The fields `bt_mesh_provisioner_net_create` fixes and no other key-store call writes: the
composition and provisioning context it fetched, the created flag, the primary address, the
address of every element, and the IV index and IV Update flag. -/
def BtMesh.layout (s : BtMesh) : Bool × Option ProvInfo × Bool × Nat × List Nat × Nat × Bool :=
  (s.comp, s.prov, s.provNetCreate, s.primaryAddr, s.elems.map Elem.addr, s.ivIndex, s.ivUpdate)

/-- The layout a first successful `bt_mesh_provisioner_net_create` leaves, with provisioning
context `p`: the network created, composition and context present, and element `i` at
`p.provUnicastAddr + i`, a `u16_t`. -/
structure NetLayout (p : ProvInfo) (s : BtMesh) : Prop where
  created : s.provNetCreate = true
  comp : s.comp = true
  prov : s.prov = some p
  primaryAddr : s.primaryAddr = p.provUnicastAddr
  addr : ∀ i e, s.elems[i]? = some e → e.addr = (p.provUnicastAddr + i) % 0x10000

section Layout

variable {p : ProvInfo} {s s' : BtMesh}

/-- INTERNAL: A state with the same layout has the same `NetLayout`. -/
theorem NetLayout.congr (h : NetLayout p s) (hl : s'.layout = s.layout) : NetLayout p s' := by
  simp only [BtMesh.layout, Prod.mk.injEq] at hl
  obtain ⟨hc, hp, hn, ha, hel, -⟩ := hl
  refine ⟨hn ▸ h.created, hc ▸ h.comp, hp ▸ h.prov, ha ▸ h.primaryAddr, fun i e he => ?_⟩
  have hi : (s.elems.map Elem.addr)[i]? = some e.addr := by rw [← hel, List.getElem?_map, he]; rfl
  obtain ⟨e0, he0, hae⟩ := Option.map_eq_some'.mp (List.getElem?_map .. ▸ hi)
  exact hae ▸ h.addr i e0 he0

/-- Once the network is created, `bt_mesh_provisioner_net_create` returns 0 and changes
nothing. -/
theorem NetLayout.netCreate (h : NetLayout p s) (env : Env) (comp : Bool) (prov : Option ProvInfo) :
    btMeshProvisionerNetCreate cfg env s comp prov = (0, s) := by
  rw [btMeshProvisionerNetCreate, if_pos h.created]

end Layout

/-! ## No key-store call moves the layout -/

/-- INTERNAL: The pass over every model keeps every element's address. -/
theorem foreachElems_addrs (f : ModelRef → Model → Model × List Effect) (i : Nat) (es : List Elem) :
    (foreachElems f i es).1.map Elem.addr = es.map Elem.addr := by
  induction es generalizing i with
  | nil => rfl
  | cons e es ih => simp only [foreachElems, List.map_cons, ih]

/-- INTERNAL: Replacing one model keeps every element's address. -/
theorem setModel_addrs (elems : List Elem) (ref : ModelRef) (m : Model) :
    (setModel elems ref m).map Elem.addr = elems.map Elem.addr := by
  unfold setModel
  split
  · rename_i e he
    rw [List.map_set]
    apply set_eq_self_of_getElem?
    rw [List.getElem?_map, he]
    split <;> rfl
  · rfl

section Calls

variable {s : BtMesh}

/-- A net-key add leaves the layout as it was. -/
theorem netKeyAdd_layout (env : Env) (k : Option Bytes16) (r : Option Nat) :
    (btMeshProvisionerLocalNetKeyAdd cfg env s k r).2.2.layout = s.layout := by
  obtain ⟨-, -, -, _, _, _, h⟩ := netKeyAdd_outcome_log cfg env s k r
  rw [h]; rfl

/-- An app-key add leaves the layout as it was. -/
theorem appKeyAdd_layout (env : Env) (k : Option Bytes16) (n : Nat) (r : Option Nat) :
    (btMeshProvisionerLocalAppKeyAdd cfg env s k n r).2.2.layout = s.layout := by
  obtain ⟨-, -, -, _, _, _, h⟩ := appKeyAdd_outcome_log cfg env s k n r
  rw [h]; rfl

/-- An app-key delete leaves the layout as it was: it clears key slots of models, never
the elements or models themselves. -/
theorem appKeyDelete_layout (n a : Nat) :
    (btMeshProvisionerLocalAppKeyDelete cfg s n a).2.layout = s.layout := by
  rcases appKeyDelete_cases cfg s n a with hfail | ⟨hn, i, key, hf⟩
  · rw [hfail]
  rw [appKeyDelete_eq_of_findRow cfg hn hf]
  simp only [BtMesh.layout, BtMesh.persist, btMeshModelForeach, foreachElems_addrs]

/-- A net-key delete that returns leaves the layout as it was, its cascade included. -/
theorem netKeyDelete_layout {n : Nat} {r : Int} {rs : List Int} {s' : BtMesh}
    (hs : btMeshProvisionerLocalNetKeyDelete cfg s n = some (r, rs, s')) : s'.layout = s.layout :=
  netKeyDelete_preserves cfg (fun t => t.layout = s.layout)
    (fun _ n a ht => (appKeyDelete_layout cfg n a).trans ht) (fun _ _ _ ht => ht) hs rfl

/-- A model binding leaves the layout as it was: it writes one key slot of one model. -/
theorem bindModel_layout (e m c a : Nat) :
    (btMeshProvisionerBindLocalModelAppIdx cfg s e m c a).2.layout = s.layout := by
  rcases bindModel_outcome cfg s e m c a with ⟨-, h, -⟩ | ⟨-, h, -⟩ | ⟨-, -, ref, model, k, -, -, -, -, -, h⟩ <;>
    rw [h]
  simp only [BtMesh.layout, setModel_addrs]

/-- A fast-provisioning net-key add leaves the layout as it was. -/
theorem addFastProvNetKey_layout (env : Env) (k : Option Bytes16) :
    (btMeshAddFastProvNetKey cfg env s k).2.layout = s.layout := by
  have h := netKeyAdd_layout cfg (s := { s with pNetIdxNext := s.fastProvNetIdx }) env k
    (some s.fastProvNetIdx)
  unfold btMeshAddFastProvNetKey
  dsimp only
  split
  · exact h
  · split <;> exact h

/-- Once the network is created, every key-store call that returns keeps the layout. -/
theorem keyStep_layout (hc : s.provNetCreate = true) {op : KeyOp} {s' : BtMesh}
    (hs : keyStep cfg s op = some s') : s'.layout = s.layout := by
  cases op with
  | netCreate env comp prov =>
    cases hs; rw [btMeshProvisionerNetCreate, if_pos hc]
  | netKeyAdd env k i => cases hs; exact netKeyAdd_layout cfg env k i
  | netKeyDelete n =>
    obtain ⟨⟨r, rs, s''⟩, hd, rfl⟩ := Option.map_eq_some'.mp hs
    exact netKeyDelete_layout cfg hd
  | appKeyAdd env k n i => cases hs; exact appKeyAdd_layout cfg env k n i
  | appKeyDelete n a => cases hs; exact appKeyDelete_layout cfg n a
  | bindAppNetIdx n a =>
    cases hs
    rcases bindAppNetIdx_cases (n := n) (a := a) (s := s) rfl with h | ⟨-, _, _, -, h⟩ <;> rw [h]
    rfl
  | bindModelAppIdx e m c a => cases hs; exact bindModel_layout cfg e m c a
  | setFastProvNetIdx i =>
    cases hs; unfold btMeshSetFastProvNetIdx provisionerSetFastProvNetIdx; split <;> rfl
  | addFastProvNetKey env k => cases hs; exact addFastProvNetKey_layout cfg env k

end Calls

/-- A provisioner with one subnet row, two app-key rows and two elements, each with a model
of id 0x1000 and two unused slots. -/
def layoutBoot : BtMesh :=
  bootState smallConfig 1 2
    [⟨0, [⟨0x1000, 0xFFFF, [bleMeshKeyUnused, bleMeshKeyUnused], none⟩], []⟩,
      ⟨0, [⟨0x1000, 0xFFFF, [bleMeshKeyUnused, bleMeshKeyUnused], none⟩], []⟩]

/-- `layoutBoot` with its network created at address 5. -/
def layoutCreated : BtMesh :=
  (btMeshProvisionerNetCreate smallConfig (.succeeding (testKey 1)) layoutBoot true
    (some ⟨5, 0, 0⟩)).2

/-- App key 0 added, bound to the model of the second element through its address 6, then
deleted. -/
def layoutOps : List KeyOp :=
  [.appKeyAdd (.succeeding (testKey 2)) (some (testKey 2)) 0 (some 0xFFFF),
    .bindModelAppIdx 6 0x1000 0xFFFF 0,
    .appKeyDelete 0 0]

/-- The state `layoutOps` leaves. -/
def layoutEnd : BtMesh := (keyRun smallConfig layoutCreated layoutOps).getD layoutCreated

section Cursors

variable {s : BtMesh}

/-- INTERNAL: An app-key add never moves its cursor back: it leaves it, or its loop climbs. -/
theorem appKeyAdd_appCursor_mono (env : Env) (k : Option Bytes16) (n : Nat) (r : Option Nat) :
    s.pAppIdxNext ≤ (btMeshProvisionerLocalAppKeyAdd cfg env s k n r).2.2.pAppIdxNext := by
  by_cases hc : 0x1000 ≤ s.pAppIdxNext
  · unfold btMeshProvisionerLocalAppKeyAdd; rw [if_pos hc]
  rcases (appKeyAdd_outcome_cursor cfg env s k n r).2 with h | ⟨-, ⟨-, -, hle, -⟩ | ⟨-, h, -⟩⟩
  · rw [h]
  · exact hle
  · rw [h]; omega

/-- INTERNAL: A net-key add never moves its cursor back. -/
theorem netKeyAdd_netCursor_mono (env : Env) (k : Option Bytes16) (r : Option Nat) :
    s.pNetIdxNext ≤ (btMeshProvisionerLocalNetKeyAdd cfg env s k r).2.2.pNetIdxNext := by
  by_cases hc : 0x1000 ≤ s.pNetIdxNext
  · unfold btMeshProvisionerLocalNetKeyAdd; rw [if_pos hc]
  rcases (netKeyAdd_outcome_cursor cfg env s k r).2 with h | ⟨-, ⟨-, -, hle, -⟩ | ⟨-, h, -⟩⟩
  · rw [h]
  · exact hle
  · rw [h]; omega

/-- INTERNAL: An app-key delete writes neither cursor. -/
theorem appKeyDelete_cursors (n a : Nat) :
    (btMeshProvisionerLocalAppKeyDelete cfg s n a).2.pAppIdxNext = s.pAppIdxNext ∧
      (btMeshProvisionerLocalAppKeyDelete cfg s n a).2.pNetIdxNext = s.pNetIdxNext := by
  rcases appKeyDelete_cases cfg s n a with hfail | ⟨hn, i, key, hf⟩
  · rw [hfail]; exact ⟨rfl, rfl⟩
  · rw [appKeyDelete_eq_of_findRow cfg hn hf]; exact ⟨rfl, rfl⟩

/-- Once the network is created, a key-store call that returns never moves the app-key
cursor back, and never moves the net-key cursor back unless it adds a fast-provisioning
net key. -/
theorem keyStep_cursors (hc : s.provNetCreate = true) {op : KeyOp} {s' : BtMesh}
    (hs : keyStep cfg s op = some s') :
    s.pAppIdxNext ≤ s'.pAppIdxNext ∧
      ((∀ env k, op ≠ .addFastProvNetKey env k) → s.pNetIdxNext ≤ s'.pNetIdxNext) := by
  cases op with
  | netCreate env comp prov =>
    cases hs; rw [btMeshProvisionerNetCreate, if_pos hc]; exact ⟨le_rfl, fun _ => le_rfl⟩
  | netKeyAdd env k i =>
    cases hs
    obtain ⟨-, -, -, _, _, _, h⟩ := netKeyAdd_outcome_log cfg env s k i
    exact ⟨by rw [h], fun _ => netKeyAdd_netCursor_mono cfg env k i⟩
  | netKeyDelete n =>
    obtain ⟨⟨r, rs, s''⟩, hd, rfl⟩ := Option.map_eq_some'.mp hs
    have h := netKeyDelete_preserves cfg
      (fun t => t.pAppIdxNext = s.pAppIdxNext ∧ t.pNetIdxNext = s.pNetIdxNext)
      (fun _ n a ht => (appKeyDelete_cursors cfg n a).imp (·.trans ht.1) (·.trans ht.2))
      (fun _ _ _ ht => ht) hd ⟨rfl, rfl⟩
    exact ⟨h.1.ge, fun _ => h.2.ge⟩
  | appKeyAdd env k n i =>
    cases hs
    obtain ⟨-, -, -, _, _, _, h⟩ := appKeyAdd_outcome_log cfg env s k n i
    exact ⟨appKeyAdd_appCursor_mono cfg env k n i, fun _ => by rw [h]⟩
  | appKeyDelete n a =>
    cases hs
    have h := appKeyDelete_cursors cfg (s := s) n a
    exact ⟨h.1.ge, fun _ => h.2.ge⟩
  | bindAppNetIdx n a =>
    cases hs
    rcases bindAppNetIdx_cases (n := n) (a := a) (s := s) rfl with h | ⟨-, _, _, -, h⟩ <;> rw [h] <;>
      exact ⟨le_rfl, fun _ => le_rfl⟩
  | bindModelAppIdx e m c a =>
    cases hs
    rcases bindModel_outcome cfg s e m c a with ⟨-, h, -⟩ | ⟨-, h, -⟩ |
      ⟨-, -, ref, model, k, -, -, -, -, -, h⟩ <;> rw [h] <;> exact ⟨le_rfl, fun _ => le_rfl⟩
  | setFastProvNetIdx i =>
    cases hs; unfold btMeshSetFastProvNetIdx provisionerSetFastProvNetIdx
    split <;> exact ⟨le_rfl, fun _ => le_rfl⟩
  | addFastProvNetKey env k =>
    cases hs
    refine ⟨?_, fun h => absurd rfl (h env k)⟩
    obtain ⟨-, -, -, _, _, _, h⟩ := netKeyAdd_outcome_log cfg env
      { s with pNetIdxNext := s.fastProvNetIdx } k (some s.fastProvNetIdx)
    unfold btMeshAddFastProvNetKey provisionerSetFastProvNetIdx
    dsimp only
    split
    · rw [h]
    · split <;> rw [h]

/-- Once the network is created, over every run of key-store calls that return, the app-key
auto-index cursor never moves back, and the net-key cursor never moves back either unless
the run adds a fast-provisioning net key, which pins it to the index it was given. -/
theorem keyRun_cursors_mono (hc : s.provNetCreate = true) (ops : List KeyOp) {s' : BtMesh}
    (hrun : keyRun cfg s ops = some s') :
    s.pAppIdxNext ≤ s'.pAppIdxNext ∧
      ((∀ op ∈ ops, ∀ env k, op ≠ .addFastProvNetKey env k) → s.pNetIdxNext ≤ s'.pNetIdxNext) := by
  induction ops generalizing s with
  | nil => cases hrun; exact ⟨le_rfl, fun _ => le_rfl⟩
  | cons op ops ih =>
    obtain ⟨s1, hs1, hrun⟩ := Option.bind_eq_some.mp hrun
    have hc1 : s1.provNetCreate = true := by
      have h1 := keyStep_layout cfg hc hs1
      simp only [BtMesh.layout, Prod.mk.injEq] at h1
      rw [h1.2.2.1, hc]
    obtain ⟨happ, hnet⟩ := keyStep_cursors cfg hc hs1
    obtain ⟨happ', hnet'⟩ := ih hc1 hrun
    exact ⟨happ.trans happ', fun hops => (hnet (hops op (List.mem_cons_self _ _))).trans
      (hnet' fun op' hop' => hops op' (List.mem_cons_of_mem _ hop'))⟩

end Cursors

/-- After `layoutCreated`'s network was created, the run `layoutOps` leaves both cursors where
they were or higher. -/
theorem keyRun_cursors_mono_layoutOps :
    layoutCreated.provNetCreate = true ∧
      keyRun smallConfig layoutCreated layoutOps = some layoutEnd ∧
      layoutCreated.pAppIdxNext ≤ layoutEnd.pAppIdxNext ∧
      layoutCreated.pNetIdxNext ≤ layoutEnd.pNetIdxNext := by
  have hc : layoutCreated.provNetCreate = true := rfl
  have hrun : keyRun smallConfig layoutCreated layoutOps = some layoutEnd := rfl
  obtain ⟨happ, hnet⟩ := keyRun_cursors_mono smallConfig hc layoutOps hrun
  exact ⟨hc, hrun, happ, hnet (by simp [layoutOps])⟩

end BleMeshProvisioner
