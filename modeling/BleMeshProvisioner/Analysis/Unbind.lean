import BleMeshProvisioner.Analysis.KeyAdd

/-!
# What an app-key delete unbinds

`bt_mesh_provisioner_local_app_key_delete` (`provisioner_main.c:978-1014`) runs
`model_unbind` (`:920-976`) on every local model. The loop of `model_unbind` visits the key
slots in order; at each slot holding the key it frees the slot and calls `model_pub_clear`,
which resets the publication only while its address is assigned, so a second matching slot
leaves it alone. Read as a whole (`modelUnbind_eq`), unbinding key `a` from a model frees
every slot holding `a`, keeps every other slot, and resets the publication once if some
slot held `a` (`unboundModel`).

On a store that keeps the key-store invariant, a delete that returns 0 frees the one row
with the two indices, leaves every other row and the subnet table alone, and unbinds the
key from every SIG and vendor model of every element; a delete that fails changes nothing
(`appKeyDelete_unbinds`). Deleting the key an add has just created undoes the add: the row
is free again and, as no slot held the fresh index, no model changes
(`appKeyAdd_delete_roundTrip`).
-/

set_option autoImplicit false

namespace BleMeshProvisioner

variable (cfg : Config)

attribute [ext] Model

/-! ## The spec's reading of an unbind -/

/-- A publication after `model_pub_clear`: one with an assigned address gets the address
unassigned, key, credentials, TTL, period, retransmission and count zero, and its periodic
work cancelled when the model has an update callback; an unassigned one is left as is. -/
def pubCleared (pub : ModelPub) : ModelPub :=
  if pub.addr = bleMeshAddrUnassigned then pub
  else { pub with
    addr := bleMeshAddrUnassigned, key := 0, cred := 0, ttl := 0, period := 0, retransmit := 0,
    count := 0, timerPending := if pub.update then false else pub.timerPending }

/-- A cleared publication is left as is by a second clear. -/
@[simp] theorem pubCleared_pubCleared (pub : ModelPub) : pubCleared (pubCleared pub) = pubCleared pub := by
  unfold pubCleared
  split <;> simp_all [bleMeshAddrUnassigned]

/-- The spec's reading of unbinding key `a` from a model: every slot holding `a` unused, the
other slots as they were, and the publication cleared when some slot held `a`. -/
def unboundModel (a : Nat) (m : Model) : Model :=
  { m with
    keys := m.keys.map (clearSlots [a])
    pub := if a ∈ m.keys then m.pub.map pubCleared else m.pub }

/-! ## The source's loop -/

section Loop

variable {ref : ModelRef} {a : Nat}

/-- INTERNAL: `model_pub_clear` clears the publication and changes nothing else. -/
theorem modelPubClear_fst (m : Model) :
    (modelPubClear cfg ref m).1 = { m with pub := m.pub.map pubCleared } := by
  rcases m with ⟨id, company, keys, _ | pub⟩
  · rfl
  · unfold modelPubClear pubCleared
    by_cases h : pub.addr = bleMeshAddrUnassigned <;> simp [h]

/-- INTERNAL: One round of the loop of `model_unbind`, on the model. -/
theorem modelUnbindSlot_fst (acc : Model × List Effect) (i : Nat) :
    (modelUnbindSlot cfg ref a acc i).1 =
      if acc.1.keys[i]? = some a then
        { acc.1 with keys := acc.1.keys.set i bleMeshKeyUnused, pub := acc.1.pub.map pubCleared }
      else acc.1 := by
  unfold modelUnbindSlot
  split <;> simp [modelPubClear_fst]

/-- INTERNAL: The loop over distinct slots clears the publication once if one of the slots
it visits held the key, and keeps the model's identifiers. -/
theorem foldl_modelUnbindSlot_pub (is : List Nat) (hnd : is.Nodup) (acc : Model × List Effect) :
    (is.foldl (modelUnbindSlot cfg ref a) acc).1.pub =
        (if ∃ i ∈ is, acc.1.keys[i]? = some a then acc.1.pub.map pubCleared else acc.1.pub) ∧
      (is.foldl (modelUnbindSlot cfg ref a) acc).1.id = acc.1.id ∧
      (is.foldl (modelUnbindSlot cfg ref a) acc).1.company = acc.1.company := by
  induction is generalizing acc with
  | nil => simp
  | cons i is ih =>
    obtain ⟨hi, hnd⟩ := List.nodup_cons.mp hnd
    have hkeys : ∀ j ∈ is, (modelUnbindSlot cfg ref a acc i).1.keys[j]? = acc.1.keys[j]? :=
      fun j hj => by rw [modelUnbindSlot_keys_getElem?, if_neg (ne_of_mem_of_not_mem hj hi)]
    rw [List.foldl_cons]
    obtain ⟨hpub, hid, hcompany⟩ := ih hnd (modelUnbindSlot cfg ref a acc i)
    rw [hpub, hid, hcompany, modelUnbindSlot_fst]
    by_cases hai : acc.1.keys[i]? = some a
    · by_cases hrest : ∃ j ∈ is, acc.1.keys[j]? = some a <;>
        simp [hai, hkeys, hrest, Option.map_map, Function.comp_def]
    · by_cases hrest : ∃ j ∈ is, acc.1.keys[j]? = some a <;> simp [hai, hkeys, hrest]

/-- What `model_unbind` leaves is the spec's unbound model. -/
theorem modelUnbind_eq (m : Model) : (modelUnbind cfg ref m a).1 = unboundModel a m := by
  obtain ⟨hpub, hid, hcompany⟩ :=
    @foldl_modelUnbindSlot_pub cfg ref a _ (List.nodup_range m.keys.length) (m, [])
  have hmem : (∃ i ∈ List.range m.keys.length, m.keys[i]? = some a) ↔ a ∈ m.keys := by
    rw [List.mem_iff_getElem?]
    exact ⟨fun ⟨i, _, h⟩ => ⟨i, h⟩,
      fun ⟨i, h⟩ => ⟨i, List.mem_range.mpr (List.getElem?_eq_some_iff.mp h).1, h⟩⟩
  ext1
  · exact hid
  · exact hcompany
  · exact modelUnbind_keys cfg ref m a
  · exact hpub.trans (by simp only [unboundModel, hmem])

end Loop

/-! ## Over the whole composition -/

/-- INTERNAL: A pass over a list of models whose callback leaves `g m` maps the list by
`g`. -/
theorem foreachList_fst (f : Nat → Model → Model × List Effect) (g : Model → Model)
    (hf : ∀ j m, (f j m).1 = g m) (j : Nat) (ms : List Model) :
    (foreachList f j ms).1 = ms.map g := by
  induction ms generalizing j with
  | nil => rfl
  | cons m ms ih => simp [foreachList, hf, ih]

/-- A `bt_mesh_model_foreach` pass whose callback leaves `g m`, whatever the model's place,
maps every SIG and vendor model of every element by `g`. -/
theorem foreach_fst (f : ModelRef → Model → Model × List Effect) (g : Model → Model)
    (hf : ∀ r m, (f r m).1 = g m) (elems : List Elem) :
    (btMeshModelForeach f elems).1 =
      elems.map fun e => { e with models := e.models.map g, vndModels := e.vndModels.map g } := by
  suffices ∀ i, (foreachElems f i elems).1 =
      elems.map fun e => { e with models := e.models.map g, vndModels := e.vndModels.map g } from
    this 0
  induction elems with
  | nil => intro; rfl
  | cons e es ih =>
    intro i
    simp [foreachElems, foreachList_fst _ g (fun j m => hf _ m), ih]

/-! ## The delete -/

/-- On a store that keeps the key-store invariant, an app-key delete of `(n, a)` that
returns 0 found a row holding a key with both indices, freed it and kept every other row
and the subnet table, so that no occupied row has index `a` any more; and it unbound `a`
from every SIG and vendor model of every element. A delete that returns an error changes
nothing. -/
theorem appKeyDelete_unbinds (s : BtMesh) (n a : Nat) (hinv : KeyStoreInv s) :
    (∀ s', btMeshProvisionerLocalAppKeyDelete cfg s n a = (0, s') →
      ∃ i key, s.pAppKeys[i]? = some (some key) ∧ key.netIdx = n ∧ key.appIdx = a ∧
        s'.pAppKeys = s.pAppKeys.set i none ∧ (∀ k ∈ live s'.pAppKeys, k.appIdx ≠ a) ∧
        s'.pSub = s.pSub ∧
        s'.elems = s.elems.map fun e =>
          { e with models := e.models.map (unboundModel a),
                   vndModels := e.vndModels.map (unboundModel a) }) ∧
    (∀ e s', btMeshProvisionerLocalAppKeyDelete cfg s n a = (e, s') → e ≠ 0 → s' = s) := by
  rcases appKeyDelete_cases cfg s n a with hfail | ⟨hn, i, key, hf⟩
  · rw [hfail]
    exact ⟨fun s' h => absurd (Prod.mk.inj h).1 neg_enodev_ne_zero,
      fun e s' h _ => (Prod.mk.inj h).2.symm⟩
  · rw [appKeyDelete_eq_of_findRow cfg hn hf]
    obtain ⟨hrow, hp, -⟩ := findRow_eq_some hf
    simp only [Bool.and_eq_true, beq_iff_eq] at hp
    refine ⟨fun s' h => ?_, fun e s' h he => absurd (Prod.mk.inj h).1.symm he⟩
    obtain rfl := (Prod.mk.inj h).2
    exact ⟨i, key, hrow, hp.1, hp.2, rfl, hp.2 ▸ idx_ne_of_set_none hinv.appKeys.2 hrow, rfl,
      foreach_fst _ _ (fun _ m => modelUnbind_eq cfg m) s.elems⟩

/-- A small key store like `boundStore` whose one model also publishes, to group address
0xC000 with TTL 5, using the key it is bound to. -/
def publishingStore : BtMesh :=
  (btMeshProvisionerBindLocalModelAppIdx smallConfig
    (btMeshProvisionerLocalAppKeyAdd smallConfig (.succeeding Bytes16.zero)
      (btMeshProvisionerNetCreate smallConfig (.succeeding Bytes16.zero)
        (bootState smallConfig 1 1 [⟨0, [⟨0x1000, 0xFFFF, [bleMeshKeyUnused],
          some ⟨0xC000, 0, 0, 5, 0, 0, 0, false, false⟩⟩], []⟩]) true (some ⟨1, 0, 0⟩)).2
      (some Bytes16.zero) bleMeshKeyPrimary (some 0xFFFF)).2.2
    1 0x1000 0xFFFF 0).2

/-- Deleting the app key of `publishingStore` returns 0, frees the model's slot and clears
its publication. -/
theorem appKeyDelete_unbinds_publishingStore :
    KeyStoreInv publishingStore ∧
      (btMeshProvisionerLocalAppKeyDelete smallConfig publishingStore 0 0).1 = 0 ∧
      allModels (btMeshProvisionerLocalAppKeyDelete smallConfig publishingStore 0 0).2.elems =
        [⟨0x1000, 0xFFFF, [bleMeshKeyUnused], some ⟨0, 0, 0, 0, 0, 0, 0, false, false⟩⟩] ∧
      ∃ i key, publishingStore.pAppKeys[i]? = some (some key) ∧ key.netIdx = 0 ∧ key.appIdx = 0 ∧
        (btMeshProvisionerLocalAppKeyDelete smallConfig publishingStore 0 0).2.pAppKeys =
          publishingStore.pAppKeys.set i none ∧
        (∀ k ∈ live (btMeshProvisionerLocalAppKeyDelete smallConfig publishingStore 0 0).2.pAppKeys,
          k.appIdx ≠ 0) ∧
        (btMeshProvisionerLocalAppKeyDelete smallConfig publishingStore 0 0).2.pSub =
          publishingStore.pSub ∧
        (btMeshProvisionerLocalAppKeyDelete smallConfig publishingStore 0 0).2.elems =
          publishingStore.elems.map fun e =>
            { e with models := e.models.map (unboundModel 0),
                     vndModels := e.vndModels.map (unboundModel 0) } :=
  have hinv : KeyStoreInv publishingStore := by decide
  have h0 : (btMeshProvisionerLocalAppKeyDelete smallConfig publishingStore 0 0).1 = 0 := by decide
  ⟨hinv, h0, by decide, (appKeyDelete_unbinds smallConfig publishingStore 0 0 hinv).1 _
    (by rw [← h0])⟩

/-! ## Deleting the key an add created -/

/-- INTERNAL: The index the key scan reports is that of an occupied row. -/
theorem checkKey_idx_live {α : Type} {key0 key1 : α → Bytes16} {idxOf : α → Nat}
    {t : List (Option α)} {k : Option Bytes16} {i : Nat}
    (h : checkKey key0 key1 idxOf t k = some i) : ∃ a ∈ live t, idxOf a = i := by
  cases k with
  | none => cases h
  | some K =>
    obtain ⟨⟨j, a⟩, hf, rfl⟩ := Option.map_eq_some'.mp h
    exact ⟨a, mem_live.mpr (List.mem_iff_getElem?.mpr ⟨j, (findRow_eq_some hf).1⟩), rfl⟩

/-- Unbinding an index no slot of a model holds leaves the model as it is. -/
theorem unboundModel_of_not_mem {a : Nat} {m : Model} (h : a ∉ m.keys) : unboundModel a m = m := by
  have hkeys : m.keys.map (clearSlots [a]) = m.keys :=
    (List.map_congr_left fun x hx => by
      simp [clearSlots, show x ≠ a from fun he => h (he ▸ hx)]).trans (List.map_id _)
  simp [unboundModel, h, hkeys]

/-- INTERNAL: Unbinding an index no slot of the directory holds leaves every element. -/
theorem map_unboundModel_of_not_mem {a : Nat} {elems : List Elem}
    (h : ∀ ks ∈ modelSlots elems, a ∉ ks) :
    elems.map (fun e => { e with models := e.models.map (unboundModel a),
                                 vndModels := e.vndModels.map (unboundModel a) }) = elems := by
  refine (List.map_congr_left fun e he => ?_).trans (List.map_id _)
  have hm : ∀ m ∈ e.models ++ e.vndModels, unboundModel a m = m := fun m hm =>
    unboundModel_of_not_mem (h _ (List.mem_map_of_mem _ (List.mem_flatMap.mpr ⟨e, he, hm⟩)))
  rw [(List.map_congr_left fun m hm' => hm m (List.mem_append_left _ hm')).trans (List.map_id _),
    (List.map_congr_left fun m hm' => hm m (List.mem_append_right _ hm')).trans (List.map_id _)]
  rfl

/-- On a store that keeps the key-store invariant, deleting the app key an add has just
created, under the index the add returned, returns 0 and restores the app-key table, the
subnet table and the whole local composition: the row is free again, and as no slot held
the fresh index, the unbinding pass changes no slot and clears no publication. Only the
index cursor and the settings log have moved. -/
theorem appKeyAdd_delete_roundTrip {s : BtMesh} (hinv : KeyStoreInv s) (env : Env)
    (k : Option Bytes16) (n : Nat) (r : Option Nat) {i : Nat} {s1 : BtMesh}
    (hadd : btMeshProvisionerLocalAppKeyAdd cfg env s k n r = (0, some i, s1))
    (hfresh : ∀ key ∈ live s.pAppKeys, key.appIdx ≠ i) :
    (btMeshProvisionerLocalAppKeyDelete cfg s1 n i).1 = 0 ∧
      (btMeshProvisionerLocalAppKeyDelete cfg s1 n i).2.pAppKeys = s.pAppKeys ∧
      (btMeshProvisionerLocalAppKeyDelete cfg s1 n i).2.pSub = s.pSub ∧
      (btMeshProvisionerLocalAppKeyDelete cfg s1 n i).2.elems = s.elems := by
  have ho := appKeyAdd_outcome cfg env s k n r
  rw [hadd] at ho
  rcases ho with ⟨h1, -, -⟩ | ⟨-, -, i', hi', he⟩ |
      ⟨-, -, hnet, add, i', pKey, aid, hadd', hlt, -, -, -, he, hkeys, hsub, hel, -⟩
  · exact absurd rfl h1
  · obtain ⟨a, ha, rfl⟩ := checkKey_idx_live hi'
    exact absurd (Option.some.inj he) (hfresh a ha).symm
  obtain rfl := Option.some.inj he
  have hfree := (firstFreeIn_eq_some.mp hadd').2.2.1
  have hf : findRow (fun k => k.netIdx == n && k.appIdx == i) s1.pAppKeys =
      some (add, ⟨n, i, false, ⟨aid, pKey⟩, AppKeys.zero⟩) := by
    rw [hkeys]
    exact findRow_set_free hfree (by simp) fun b hb => by simp [hfresh b hb]
  have hslots : ∀ ks ∈ modelSlots s.elems, i ∉ ks := fun ks hks hi =>
    (hinv.slotsLive ks hks i hi).elim (fun he => by simp [bleMeshKeyUnused] at he; omega)
      fun ⟨key, hkey, he⟩ => hfresh key hkey he
  rw [appKeyDelete_eq_of_findRow cfg (hsub ▸ hnet) hf]
  refine ⟨rfl, ?_, hsub, ?_⟩
  · show s1.pAppKeys.set add none = s.pAppKeys
    rw [hkeys, List.set_set, set_eq_self_of_getElem? hfree]
  · show (btMeshModelForeach _ s1.elems).1 = s.elems
    rw [foreach_fst _ _ (fun _ m => modelUnbind_eq cfg m), hel]
    exact map_unboundModel_of_not_mem hslots

/-- A small key store with two app-key rows after the network is created and app key 0
added and bound to the one model, which publishes to group address 0xC000. -/
def publishingRowsStore : BtMesh :=
  (btMeshProvisionerBindLocalModelAppIdx smallConfig
    (btMeshProvisionerLocalAppKeyAdd smallConfig (.succeeding Bytes16.zero)
      (btMeshProvisionerNetCreate smallConfig (.succeeding Bytes16.zero)
        (bootState smallConfig 1 2 [⟨0, [⟨0x1000, 0xFFFF, [bleMeshKeyUnused, bleMeshKeyUnused],
          some ⟨0xC000, 0, 0, 5, 0, 0, 0, false, false⟩⟩], []⟩]) true (some ⟨1, 0, 0⟩)).2
      (some Bytes16.zero) bleMeshKeyPrimary (some 0xFFFF)).2.2
    1 0x1000 0xFFFF 0).2

/-- `publishingRowsStore` with app key 1 added for the primary subnet. -/
def publishingRowsAdded : BtMesh :=
  (btMeshProvisionerLocalAppKeyAdd smallConfig (.succeeding (testKey 3)) publishingRowsStore
    (some (testKey 3)) bleMeshKeyPrimary (some 0xFFFF)).2.2

/-- Adding app key 1 next to the bound, publishing app key 0 and deleting it again leaves
the model bound to key 0 and still publishing. -/
theorem appKeyAdd_delete_roundTrip_publishingRowsStore :
    KeyStoreInv publishingRowsStore ∧
      btMeshProvisionerLocalAppKeyAdd smallConfig (.succeeding (testKey 3)) publishingRowsStore
        (some (testKey 3)) bleMeshKeyPrimary (some 0xFFFF) = (0, some 1, publishingRowsAdded) ∧
      (∀ key ∈ live publishingRowsStore.pAppKeys, key.appIdx ≠ 1) ∧
      (btMeshProvisionerLocalAppKeyDelete smallConfig publishingRowsAdded bleMeshKeyPrimary 1).1 = 0 ∧
      (btMeshProvisionerLocalAppKeyDelete smallConfig publishingRowsAdded bleMeshKeyPrimary 1).2.pAppKeys =
        publishingRowsStore.pAppKeys ∧
      (btMeshProvisionerLocalAppKeyDelete smallConfig publishingRowsAdded bleMeshKeyPrimary 1).2.pSub =
        publishingRowsStore.pSub ∧
      (btMeshProvisionerLocalAppKeyDelete smallConfig publishingRowsAdded bleMeshKeyPrimary 1).2.elems =
        publishingRowsStore.elems :=
  have hinv : KeyStoreInv publishingRowsStore := by decide
  have hadd : btMeshProvisionerLocalAppKeyAdd smallConfig (.succeeding (testKey 3)) publishingRowsStore
      (some (testKey 3)) bleMeshKeyPrimary (some 0xFFFF) = (0, some 1, publishingRowsAdded) :=
    Prod.ext (by decide) (Prod.ext (by decide) rfl)
  have hfresh : ∀ key ∈ live publishingRowsStore.pAppKeys, key.appIdx ≠ 1 := by decide
  ⟨hinv, hadd, hfresh, appKeyAdd_delete_roundTrip smallConfig hinv _ _ _ _ hadd hfresh⟩

end BleMeshProvisioner
