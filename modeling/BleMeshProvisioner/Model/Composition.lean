import BleMeshProvisioner.Model.State

/-!
# The local model directory

The provisioner's own elements and models belong to the composition registered with the
access layer. `provisioner_main.c` changes three things in it: a model's key slots
(`bt_mesh_provisioner_bind_local_model_app_idx` fills one, `model_unbind` empties those
holding a deleted key), a model's publication (`model_pub_clear`), and, through
`bt_mesh_comp_provision`, the element addresses. The walk over every model and the model
lookups are access-layer functions outside the source tree; they are modelled here from
what the spec says of the directory (§4.4, §6).

`modelUnbind_keys` is the one fact the key store needs of `model_unbind`: the loop over
the slots maps every slot holding the key to `BLE_MESH_KEY_UNUSED` and leaves the others,
so a whole `bt_mesh_model_foreach` pass maps every slot of every model the same way
(`modelSlots_foreach_unbind`).
-/

set_option autoImplicit false

namespace BleMeshProvisioner

variable (cfg : Config)

/-- Every local model, in the order `bt_mesh_model_foreach` visits them. -/
def allModels (elems : List Elem) : List Model := elems.flatMap fun e => e.models ++ e.vndModels

@[simp] theorem allModels_nil : allModels [] = [] := rfl

@[simp] theorem allModels_cons (e : Elem) (es : List Elem) :
    allModels (e :: es) = e.models ++ e.vndModels ++ allModels es := by
  simp [allModels]

/-- The key slots of every local model, in visiting order. -/
def modelSlots (elems : List Elem) : List (List Nat) := (allModels elems).map (·.keys)

/-- A slot after the keys in `D` are unbound: `BLE_MESH_KEY_UNUSED` if it held one of them. -/
def clearSlots (D : List Nat) (x : Nat) : Nat := if x ∈ D then bleMeshKeyUnused else x

/-- The loop over one list of models, the callback told each model's place. -/
def foreachList (f : Nat → Model → Model × List Effect) : Nat → List Model → List Model × List Effect
  | _, [] => ([], [])
  | j, m :: ms =>
    let r := f j m
    let rs := foreachList f (j + 1) ms
    (r.1 :: rs.1, r.2 ++ rs.2)

/-- The loop over the elements, SIG models before vendor models. -/
def foreachElems (f : ModelRef → Model → Model × List Effect) : Nat → List Elem → List Elem × List Effect
  | _, [] => ([], [])
  | i, e :: es =>
    let rm := foreachList (fun j => f ⟨i, false, j⟩) 0 e.models
    let rv := foreachList (fun j => f ⟨i, true, j⟩) 0 e.vndModels
    let rs := foreachElems f (i + 1) es
    ({ e with models := rm.1, vndModels := rv.1 } :: rs.1, rm.2 ++ rv.2 ++ rs.2)

/-- Modelled from the spec: `bt_mesh_model_foreach` (access.c) applies the callback to every
model of every element, in order, SIG models then vendor models, as §4.4's
`unbind_all_models` describes. The callback returns the model it leaves and the
notifications it issues. -/
def btMeshModelForeach (f : ModelRef → Model → Model × List Effect) (elems : List Elem) :
    List Elem × List Effect :=
  foreachElems f 0 elems

/-- The model a reference names. -/
def modelAt (elems : List Elem) (ref : ModelRef) : Option Model :=
  elems[ref.elem]?.bind fun e => (if ref.vnd then e.vndModels else e.models)[ref.idx]?

/-- The directory with the model a reference names replaced. -/
def setModel (elems : List Elem) (ref : ModelRef) (m : Model) : List Elem :=
  match elems[ref.elem]? with
  | some e => elems.set ref.elem (if ref.vnd then { e with vndModels := e.vndModels.set ref.idx m }
      else { e with models := e.models.set ref.idx m })
  | none => elems

/-- Modelled from the spec: `bt_mesh_model_find` (access.c), the first SIG model of an
element with the given id, and its index. -/
def btMeshModelFind (elem : Elem) (id : Nat) : Option (Nat × Model) :=
  findRow (·.id == id) (elem.models.map some)

/-- Modelled from the spec: `bt_mesh_model_find_vnd` (access.c), the first vendor model of
an element with the given company and id, and its index. -/
def btMeshModelFindVnd (elem : Elem) (company id : Nat) : Option (Nat × Model) :=
  findRow (fun m => m.company == company && m.id == id) (elem.vndModels.map some)

/-- Modelled from the spec: `bt_mesh_comp_provision` (access.c) records the primary address
and gives element `i` the address `addr + i` (a `u16_t`), the directory's address layout. -/
def btMeshCompProvision (s : BtMesh) (addr : Nat) : BtMesh :=
  { s with
    primaryAddr := addr
    elems := s.elems.mapIdx fun i e => { e with addr := (addr + i) % 0x10000 } }

/-- Clears a model's publication (`model_pub_clear`): nothing without a publication context
or with the address unassigned; otherwise address, key, credentials, TTL, period,
retransmit and count are zeroed, the periodic work is cancelled if the model has an
update callback, and the publication is stored. -/
def modelPubClear (ref : ModelRef) (m : Model) : Model × List Effect :=
  match m.pub with
  | none => (m, [])
  | some pub =>
    if pub.addr = bleMeshAddrUnassigned then (m, [])
    else
      let pub' := { pub with
        addr := bleMeshAddrUnassigned, key := 0, cred := 0, ttl := 0, period := 0,
        retransmit := 0, count := 0,
        timerPending := if pub.update then false else pub.timerPending }
      ({ m with pub := some pub' }, if cfg.settings then [.storeModPub ref (some pub')] else [])

/-- One round of the loop of `model_unbind`, at slot `i`: a slot holding the key is set to
`BLE_MESH_KEY_UNUSED`, the bindings are stored and the publication is cleared. -/
def modelUnbindSlot (ref : ModelRef) (appIdx : Nat) (acc : Model × List Effect) (i : Nat) :
    Model × List Effect :=
  if acc.1.keys[i]? = some appIdx then
    let m1 := { acc.1 with keys := acc.1.keys.set i bleMeshKeyUnused }
    let r := modelPubClear cfg ref m1
    (r.1, acc.2 ++ (if cfg.settings then [.storeModBind ref m1.keys] else []) ++ r.2)
  else acc

/-- Unbinds an application key from a model (`model_unbind`), slot by slot. -/
def modelUnbind (ref : ModelRef) (m : Model) (appIdx : Nat) : Model × List Effect :=
  (List.range m.keys.length).foldl (modelUnbindSlot cfg ref appIdx) (m, [])

/-- INTERNAL: `model_pub_clear` leaves the key slots alone. -/
@[simp] theorem modelPubClear_keys (ref : ModelRef) (m : Model) :
    (modelPubClear cfg ref m).1.keys = m.keys := by
  unfold modelPubClear; split
  · rfl
  · split <;> rfl

/-- INTERNAL: One round of the loop changes at most the slot it visits, and that one only
when it holds the key. -/
theorem modelUnbindSlot_keys_getElem? (ref : ModelRef) (a : Nat) (acc : Model × List Effect)
    (i j : Nat) :
    (modelUnbindSlot cfg ref a acc i).1.keys[j]? =
      if j = i then acc.1.keys[j]?.map (clearSlots [a]) else acc.1.keys[j]? := by
  unfold modelUnbindSlot
  split
  · rename_i h
    simp only [modelPubClear_keys, List.getElem?_set]
    by_cases hij : j = i
    · subst hij; simp [h, clearSlots, List.getElem?_eq_some_iff.mp h |>.1]
    · simp [hij, Ne.symm hij]
  · rename_i h
    split
    · subst_vars
      cases hj : acc.1.keys[j]? with
      | none => rfl
      | some x =>
        have : x ≠ a := fun e => h (e ▸ hj)
        simp [clearSlots, this]
    · rfl

/-- INTERNAL: The loop over a list of distinct slot indices maps exactly the slots it
visits. -/
theorem foldl_modelUnbindSlot_keys (ref : ModelRef) (a : Nat) (is : List Nat) (hnd : is.Nodup)
    (acc : Model × List Effect) (j : Nat) :
    (is.foldl (modelUnbindSlot cfg ref a) acc).1.keys[j]? =
      if j ∈ is then acc.1.keys[j]?.map (clearSlots [a]) else acc.1.keys[j]? := by
  induction is generalizing acc with
  | nil => simp
  | cons i is ih =>
    obtain ⟨hi, hnd⟩ := List.nodup_cons.mp hnd
    rw [List.foldl_cons, ih hnd, modelUnbindSlot_keys_getElem?]
    by_cases hji : j = i
    · subst hji; simp [hi]
    · by_cases hj : j ∈ is <;> simp [hji, hj]

/-- What `model_unbind` leaves in the key slots: every slot holding the key is unused, every
other slot as it was. -/
theorem modelUnbind_keys (ref : ModelRef) (m : Model) (a : Nat) :
    (modelUnbind cfg ref m a).1.keys = m.keys.map (clearSlots [a]) := by
  apply List.ext_getElem?
  intro j
  rw [modelUnbind, foldl_modelUnbindSlot_keys cfg ref a _ (List.nodup_range _), List.getElem?_map]
  by_cases hj : j < m.keys.length
  · simp [List.mem_range, hj]
  · simp [List.mem_range, hj, List.getElem?_eq_none (Nat.le_of_not_lt hj)]

/-- INTERNAL: A pass over a list of models maps the key slots of each the way the callback
does. -/
theorem foreachList_keys (f : Nat → Model → Model × List Effect) (k : List Nat → List Nat)
    (hf : ∀ j m, (f j m).1.keys = k m.keys) (j : Nat) (ms : List Model) :
    (foreachList f j ms).1.map (·.keys) = ms.map fun m => k m.keys := by
  induction ms generalizing j with
  | nil => rfl
  | cons m ms ih => simp [foreachList, hf, ih]

/-- A `bt_mesh_model_foreach` pass whose callback maps every model's key slots the same
way, whatever the model's place, maps the slots of the whole directory that way. -/
theorem modelSlots_foreach (f : ModelRef → Model → Model × List Effect) (k : List Nat → List Nat)
    (hf : ∀ r m, (f r m).1.keys = k m.keys) (elems : List Elem) :
    modelSlots (btMeshModelForeach f elems).1 = (modelSlots elems).map k := by
  suffices ∀ i, modelSlots (foreachElems f i elems).1 = (modelSlots elems).map k from this 0
  induction elems with
  | nil => intro; rfl
  | cons e es ih =>
    intro i
    simp only [foreachElems, modelSlots, allModels, List.flatMap_cons, List.map_append] at ih ⊢
    rw [ih, foreachList_keys _ k (fun j m => hf _ m), foreachList_keys _ k (fun j m => hf _ m)]
    simp [Function.comp_def]

/-- Unbinding one key from every model maps every slot of every model by `clearSlots`. -/
theorem modelSlots_foreach_unbind (a : Nat) (elems : List Elem) :
    modelSlots (btMeshModelForeach (fun r m => modelUnbind cfg r m a) elems).1 =
      (modelSlots elems).map (List.map (clearSlots [a])) :=
  modelSlots_foreach _ _ (fun r m => modelUnbind_keys cfg r m a) elems

end BleMeshProvisioner
