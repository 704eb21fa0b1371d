import BleMeshProvisioner.Model.Composition

/-!
# The key store

`bt_mesh.p_sub` holds the network keys (subnets) and `bt_mesh.p_app_keys` the application
keys, each bound to a subnet by `net_idx`. This is `provisioner_main.c:310-418` and
`:650-1265`: the lookups, the existence checks `provisioner_check_*`, the two adds with
their duplicate-key early return and auto-index loop, the gets, the deletes (an app-key
delete first unbinds the key from every local model; a net-key delete first deletes every
app key bound to it), `bt_mesh_provisioner_net_create` and the two bindings.

The two families of checks are one definition each over the table and its fields
(`checkIdx`, `checkKey`), with the source's six functions as instances. The auto-index loop
of both adds is `idxAlloc`, run on fuel `0x1000 - cursor`, as many rounds as the loop can
make; `idxAlloc_eq` says what it computes.

The cascade of `bt_mesh_provisioner_local_net_key_delete` reads `key->net_idx` from every
row of `p_app_keys` without testing the row for NULL. `netKeyDeleteCascade` returns `none`
there: the call does not return.
-/

set_option autoImplicit false

namespace BleMeshProvisioner

variable (cfg : Config)

/-! ## Lookups and checks -/

/-- Active key bytes of the first subnet with `net_idx` (`provisioner_net_key_get`). -/
def provisionerNetKeyGet (s : BtMesh) (netIdx : Nat) : Option Bytes16 :=
  (findRow (·.netIdx == netIdx) s.pSub).map fun r =>
    if r.2.krFlag then r.2.keys1.net else r.2.keys0.net

/-- The subnet with `net_idx`, or row 0 for `BLE_MESH_KEY_ANY` (`provisioner_subnet_get`). -/
def provisionerSubnetGet (s : BtMesh) (netIdx : Nat) : Option Subnet :=
  if netIdx = bleMeshKeyAny then s.pSub[0]?.bind id
  else (findRow (·.netIdx == netIdx) s.pSub).map (·.2)

/-- The app key with `app_idx` whose `net_idx` is in use (`provisioner_app_key_find`). -/
def provisionerAppKeyFind (s : BtMesh) (appIdx : Nat) : Option AppKey :=
  (findRow (fun k => k.netIdx != bleMeshKeyUnused && k.appIdx == appIdx) s.pAppKeys).map (·.2)

/-- The number of subnet rows (`bt_mesh_provisioner_get_net_key_count`). -/
def btMeshProvisionerGetNetKeyCount (s : BtMesh) : Nat := s.pSub.length

/-- The number of app-key rows (`bt_mesh_provisioner_get_app_key_count`). -/
def btMeshProvisionerGetAppKeyCount (s : BtMesh) : Nat := s.pAppKeys.length

variable {α : Type}

/-- The index check both tables share: whether an occupied row carries the index decides
the result, -EEXIST or 0 when asked whether it is free (`exist`), 0 or -ENODEV when asked
whether it is in use. -/
def checkIdx (idxOf : α → Nat) (t : List (Option α)) (idx : Nat) (exist : Bool) : Int :=
  let found := (live t).any (idxOf · == idx)
  if exist then (if found then -eexist else 0) else (if found then 0 else -enodev)

/-- The duplicate-key check both tables share: the index of the first occupied row holding
the bytes in either key slot, which is what the source writes through its index pointer
when it returns -EEXIST; `none` when it returns 0, a NULL key included. -/
def checkKey (key0 key1 : α → Bytes16) (idxOf : α → Nat) (t : List (Option α))
    (key : Option Bytes16) : Option Nat :=
  key.bind fun k => (findRow (fun a => key0 a == k || key1 a == k) t).map (idxOf ·.2)

/-- `provisioner_check_app_key`. -/
def provisionerCheckAppKey (s : BtMesh) (appKey : Option Bytes16) : Option Nat :=
  checkKey (·.keys0.val) (·.keys1.val) AppKey.appIdx s.pAppKeys appKey

/-- `provisioner_check_app_idx`. -/
def provisionerCheckAppIdx (s : BtMesh) (appIdx : Nat) (exist : Bool) : Int :=
  checkIdx AppKey.appIdx s.pAppKeys appIdx exist

/-- `provisioner_check_app_key_full`: the first NULL row, or `none` for -ENOMEM. -/
def provisionerCheckAppKeyFull (s : BtMesh) : Option Nat :=
  firstFreeIn s.pAppKeys 0 s.pAppKeys.length

/-- `provisioner_check_net_key`. -/
def provisionerCheckNetKey (s : BtMesh) (netKey : Option Bytes16) : Option Nat :=
  checkKey (·.keys0.net) (·.keys1.net) Subnet.netIdx s.pSub netKey

/-- `provisioner_check_net_idx`. -/
def provisionerCheckNetIdx (s : BtMesh) (netIdx : Nat) (exist : Bool) : Int :=
  checkIdx Subnet.netIdx s.pSub netIdx exist

/-- `provisioner_check_net_key_full`: the first NULL row, or `none` for -ENOMEM. -/
def provisionerCheckNetKeyFull (s : BtMesh) : Option Nat :=
  firstFreeIn s.pSub 0 s.pSub.length

/-- The auto-index loop of both adds, from cursor `c`: while the candidate is in use the
cursor advances and becomes the candidate, and the loop fails once the new candidate
reaches 0x1000. Returns the cursor it leaves and the index it found. -/
def idxAlloc (inUse : Nat → Bool) : Nat → Nat → Nat × Option Nat
  | c, 0 => (c, none)
  | c, fuel + 1 =>
    if inUse c then
      if 0x1000 ≤ c + 1 then (c + 1, none) else idxAlloc inUse (c + 1) fuel
    else (c, some c)

/-- What the auto-index loop computes from a cursor below 0x1000: the least index at or
above the cursor not in use, which the cursor then holds; or, when every index up to
0xFFF is in use, failure with the cursor at 0x1000. -/
theorem idxAlloc_eq (inUse : Nat → Bool) (c : Nat) (hc : c < 0x1000) :
    idxAlloc inUse c (0x1000 - c) =
      match (List.range' c (0x1000 - c)).find? (fun i => !inUse i) with
      | some i => (i, some i)
      | none => (0x1000, none) := by
  suffices ∀ n c, c + n = 0x1000 → idxAlloc inUse c n =
      match (List.range' c n).find? (fun i => !inUse i) with
      | some i => (i, some i)
      | none => (0x1000, none) from this _ c (by omega)
  intro n
  induction n with
  | zero => intro c hc; simp [idxAlloc, show c = 0x1000 by omega]
  | succ n ih =>
    intro c hc
    rw [List.range'_succ, List.find?_cons]
    cases h : inUse c
    · simp [idxAlloc, h]
    · by_cases hn : 0x1000 ≤ c + 1
      · obtain rfl : n = 0 := by omega
        simp [idxAlloc, h, show c + 1 = 0x1000 by omega]
      · simp [idxAlloc, h, hn, ih (c + 1) (by omega)]

/-! ## Adding keys -/

/-- Adds an application key (`bt_mesh_provisioner_local_app_key_add`). `appKey = none` is a
NULL key, for which random bytes are drawn; `appIdx` is the caller's index variable (`none`
for a NULL pointer), 0xFFFF asking for the next free index. Returns the error, the caller's
variable after the call, and the state. -/
def btMeshProvisionerLocalAppKeyAdd (env : Env) (s : BtMesh) (appKey : Option Bytes16)
    (netIdx : Nat) (appIdx : Option Nat) : Int × Option Nat × BtMesh :=
  if 0x1000 ≤ s.pAppIdxNext then (-eio, appIdx, s) else
  match appIdx with
  | none => (-einval, none, s)
  | some r =>
  if r ≠ 0xFFFF ∧ 0x1000 ≤ r then (-einval, appIdx, s) else
  match provisionerCheckAppKey s appKey with
  | some i => (0, some i, s)
  | none =>
  if provisionerCheckNetIdx s netIdx false ≠ 0 then (-enodev, appIdx, s) else
  if provisionerCheckAppIdx s r true ≠ 0 then (-eexist, appIdx, s) else
  match provisionerCheckAppKeyFull s with
  | none => (-enomem, appIdx, s)
  | some add =>
  match (match appKey with | some k => some k | none => env.rand) with
  | none => (-eio, appIdx, s)
  | some pKey =>
  if !env.alloc then (-enomem, appIdx, s) else
  match env.appId pKey with
  | none => (-eio, appIdx, s)
  | some aid =>
  let key (i : Nat) : AppKey :=
    { netIdx, appIdx := i, updated := false, keys0 := ⟨aid, pKey⟩, keys1 := AppKeys.zero }
  let commit (s1 : BtMesh) (i : Nat) : BtMesh :=
    let s2 := { s1 with pAppKeys := s1.pAppKeys.set add (some (key i)) }
    (s2.persist cfg (.storePAppIdx s2.pAppIdxNext)).persist cfg (.storePAppKey (key i))
  if r ≠ 0xFFFF then (0, appIdx, commit s r)
  else
    match idxAlloc (fun i => provisionerCheckAppIdx s i true ≠ 0) s.pAppIdxNext
        (0x1000 - s.pAppIdxNext) with
    | (c, none) => (-eio, appIdx, { s with pAppIdxNext := c })
    | (c, some i) => (0, some i, commit { s with pAppIdxNext := c } i)

/-- Adds a network key (`bt_mesh_provisioner_local_net_key_add`), in the same shape as the
app-key add: a new subnet is in the normal key-refresh phase with its key in `keys[0]`. -/
def btMeshProvisionerLocalNetKeyAdd (env : Env) (s : BtMesh) (netKey : Option Bytes16)
    (netIdx : Option Nat) : Int × Option Nat × BtMesh :=
  if 0x1000 ≤ s.pNetIdxNext then (-eio, netIdx, s) else
  match netIdx with
  | none => (-einval, none, s)
  | some r =>
  if r ≠ 0xFFFF ∧ 0x1000 ≤ r then (-einval, netIdx, s) else
  match provisionerCheckNetKey s netKey with
  | some i => (0, some i, s)
  | none =>
  if provisionerCheckNetIdx s r true ≠ 0 then (-eexist, netIdx, s) else
  match provisionerCheckNetKeyFull s with
  | none => (-enomem, netIdx, s)
  | some add =>
  match (match netKey with | some k => some k | none => env.rand) with
  | none => (-eio, netIdx, s)
  | some pKey =>
  if !env.alloc then (-enomem, netIdx, s) else
  match env.netKeysCreate pKey with
  | none => (-eio, netIdx, s)
  | some nid =>
  let sub (i : Nat) : Subnet :=
    { netIdx := i, keys0 := ⟨pKey, nid⟩, keys1 := SubnetKeys.zero, krFlag := false,
      krPhase := bleMeshKrNormal, nodeId := bleMeshNodeIdentityNotSupported }
  let commit (s1 : BtMesh) (i : Nat) : BtMesh :=
    let s2 := { s1 with pSub := s1.pSub.set add (some (sub i)) }
    (s2.persist cfg (.storePNetIdx s2.pNetIdxNext)).persist cfg (.storePSubnet (sub i))
  if r ≠ 0xFFFF then (0, netIdx, commit s r)
  else
    match idxAlloc (fun i => provisionerCheckNetIdx s i true ≠ 0) s.pNetIdxNext
        (0x1000 - s.pNetIdxNext) with
    | (c, none) => (-eio, netIdx, { s with pNetIdxNext := c })
    | (c, some i) => (0, some i, commit { s with pNetIdxNext := c } i)

/-! ## Reading keys -/

/-- The active bytes of the app key with both indices
(`bt_mesh_provisioner_local_app_key_get`): `keys[1]` if `updated`, else `keys[0]`. -/
def btMeshProvisionerLocalAppKeyGet (s : BtMesh) (netIdx appIdx : Nat) : Option Bytes16 :=
  if provisionerCheckNetIdx s netIdx false ≠ 0 then none
  else if provisionerCheckAppIdx s appIdx false ≠ 0 then none
  else (findRow (fun k => k.netIdx == netIdx && k.appIdx == appIdx) s.pAppKeys).map fun r =>
    if r.2.updated then r.2.keys1.val else r.2.keys0.val

/-- The active bytes of a subnet (`bt_mesh_provisioner_local_net_key_get`): `keys[1]` if
`kr_flag`, else `keys[0]`. -/
def btMeshProvisionerLocalNetKeyGet (s : BtMesh) (netIdx : Nat) : Option Bytes16 :=
  if provisionerCheckNetIdx s netIdx false ≠ 0 then none
  else (findRow (·.netIdx == netIdx) s.pSub).map fun r =>
    if r.2.krFlag then r.2.keys1.net else r.2.keys0.net

/-! ## Deleting keys -/

/-- Deletes an application key (`bt_mesh_provisioner_local_app_key_delete`): both indices
must exist; the first row carrying both is found, the key is unbound from every local
model, its durable record erased, and the row freed. -/
def btMeshProvisionerLocalAppKeyDelete (s : BtMesh) (netIdx appIdx : Nat) : Int × BtMesh :=
  if provisionerCheckNetIdx s netIdx false ≠ 0 then (-enodev, s)
  else if provisionerCheckAppIdx s appIdx false ≠ 0 then (-enodev, s)
  else match findRow (fun k => k.netIdx == netIdx && k.appIdx == appIdx) s.pAppKeys with
    | none => (-enodev, s)
    | some (i, key) =>
      let r := btMeshModelForeach (fun ref m => modelUnbind cfg ref m appIdx) s.elems
      let s1 := ({ s with elems := r.1, effects := s.effects ++ r.2 }).persist cfg (.clearPAppKey key)
      (0, { s1 with pAppKeys := s1.pAppKeys.set i none })

/-- The cascade loop of `bt_mesh_provisioner_local_net_key_delete` over the rows of
`p_app_keys`: each app key bound to the subnet is deleted, and the value each inner delete
returns is recorded (the source ignores it). Reading `key->net_idx` from a NULL row is
`none`. -/
def netKeyDeleteCascade (netIdx : Nat) : List Nat → BtMesh × List Int → Option (BtMesh × List Int)
  | [], acc => some acc
  | j :: js, (s, rs) =>
    match s.pAppKeys[j]? with
    | some (some key) =>
      if key.netIdx = netIdx then
        let r := btMeshProvisionerLocalAppKeyDelete cfg s key.netIdx key.appIdx
        netKeyDeleteCascade netIdx js (r.2, rs ++ [r.1])
      else netKeyDeleteCascade netIdx js (s, rs)
    | _ => none

/-- Deletes a network key (`bt_mesh_provisioner_local_net_key_delete`): the app keys bound
to it first, then its durable record and its row. Returns the error, the inner deletes'
results and the state, or `none` when the cascade reads a NULL row. -/
def btMeshProvisionerLocalNetKeyDelete (s : BtMesh) (netIdx : Nat) :
    Option (Int × List Int × BtMesh) :=
  if provisionerCheckNetIdx s netIdx false ≠ 0 then some (-enodev, [], s)
  else match findRow (·.netIdx == netIdx) s.pSub with
    | none => some (-enodev, [], s)
    | some (i, sub) =>
      (netKeyDeleteCascade cfg sub.netIdx (List.range s.pAppKeys.length) (s, [])).map fun r =>
        let s2 := r.1.persist cfg (.clearPSubnet sub)
        (0, r.2, { s2 with pSub := s2.pSub.set i none })

/-! ## Creating the network and binding -/

/-- Creates the provisioner's network (`bt_mesh_provisioner_net_create`), once. `comp` and
`prov` are what `bt_mesh_comp_get` and `provisioner_get_prov_info` return. With a subnet
already restored from flash only the flag is set; otherwise the primary subnet is
generated, its key in `keys[1]` and phase 2 if the provisioning flags ask for key refresh,
in `keys[0]` and the normal phase if not, and the cursors are reset. -/
def btMeshProvisionerNetCreate (env : Env) (s : BtMesh) (comp : Bool) (prov : Option ProvInfo) :
    Int × BtMesh :=
  if s.provNetCreate then (0, s) else
  let s := { s with comp }
  if !comp then (-einval, s) else
  let s := { s with prov }
  match prov with
  | none => (-einval, s)
  | some p =>
  let s := btMeshCompProvision s p.provUnicastAddr
  if s.pSub.any Option.isSome then (0, { s with provNetCreate := true }) else
  match env.rand with
  | none => (-eio, s)
  | some pKey =>
  if !env.alloc then (-enomem, s) else
  match env.netKeysCreate pKey with
  | none => (-eio, s)
  | some nid =>
  let sub : Subnet :=
    if bleMeshKeyRefresh p.flags then
      { netIdx := bleMeshKeyPrimary, keys0 := SubnetKeys.zero, keys1 := ⟨pKey, nid⟩,
        krFlag := true, krPhase := bleMeshKrPhase2, nodeId := bleMeshNodeIdentityNotSupported }
    else
      { netIdx := bleMeshKeyPrimary, keys0 := ⟨pKey, nid⟩, keys1 := SubnetKeys.zero,
        krFlag := false, krPhase := bleMeshKrNormal, nodeId := bleMeshNodeIdentityNotSupported }
  let s1 := { s with pSub := s.pSub.set 0 (some sub), pAppIdxNext := 0x0000, pNetIdxNext := 0x0001 }
  let s2 := ((s1.persist cfg (.storePNetIdx 0x0001)).persist cfg (.storePAppIdx 0x0000)).persist
    cfg (.storePSubnet sub)
  let s3 := { s2 with ivIndex := p.ivIndex, ivUpdate := bleMeshIvUpdate p.flags }
  (0, { s3.persist cfg (.storeIv p.ivIndex (bleMeshIvUpdate p.flags)) with provNetCreate := true })

/-- The model a binding names in element `i`: the first SIG model with the id when `cid` is
`BLE_MESH_CID_NVAL` (0xFFFF), else the first vendor model with both ids, with where it sits. -/
def bindModelFind (elem : Elem) (i modId cid : Nat) : Option (ModelRef × Model) :=
  if cid = 0xFFFF then (btMeshModelFind elem modId).map fun r => (⟨i, false, r.1⟩, r.2)
  else (btMeshModelFindVnd elem cid modId).map fun r => (⟨i, true, r.1⟩, r.2)

/-- Binds an application key to a local model
(`bt_mesh_provisioner_bind_local_model_app_idx`): the first element with the address, the
model `bindModelFind` names in it, the key must exist; a key already in a slot is a
success, otherwise the first unused slot takes it. -/
def btMeshProvisionerBindLocalModelAppIdx (s : BtMesh) (elemAddr modId cid appIdx : Nat) :
    Int × BtMesh :=
  if !s.comp then (-einval, s) else
  match findRow (·.addr == elemAddr) (s.elems.map some) with
  | none => (-enodev, s)
  | some (i, elem) =>
    match bindModelFind elem i modId cid with
    | none => (-enodev, s)
    | some (ref, model) =>
      if provisionerCheckAppIdx s appIdx false ≠ 0 then (-enodev, s)
      else if appIdx ∈ model.keys then (0, s)
      else match (List.range model.keys.length).find?
          (fun k => model.keys[k]? == some bleMeshKeyUnused) with
        | none => (-enomem, s)
        | some k =>
          let model' := { model with keys := model.keys.set k appIdx }
          (0, ({ s with elems := setModel s.elems ref model' }).persist cfg
            (.storeModBind ref model'.keys))

/-- Rebinds an application key to a subnet (`bt_mesh_provisioner_bind_local_app_net_idx`):
both indices must exist, and the first row with the `app_idx` takes the `net_idx`. -/
def btMeshProvisionerBindLocalAppNetIdx (s : BtMesh) (netIdx appIdx : Nat) : Int × BtMesh :=
  if provisionerCheckNetIdx s netIdx false ≠ 0 then (-enodev, s)
  else if provisionerCheckAppIdx s appIdx false ≠ 0 then (-enodev, s)
  else match findRow (·.appIdx == appIdx) s.pAppKeys with
    | none => (-enodev, s)
    | some (i, key) => (0, { s with pAppKeys := s.pAppKeys.set i (some { key with netIdx }) })

end BleMeshProvisioner
