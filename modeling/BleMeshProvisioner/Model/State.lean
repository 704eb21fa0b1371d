import Mathlib.Data.List.Perm.Basic
import Mathlib.Data.List.Nodup

/-!
# The provisioner's state

`provisioner_main.c` keeps its state in file statics (`mesh_nodes`, `all_node_count`,
`prov_node_count`, `comp`, `prov`, `prov_net_create`) and in the provisioner's fields of
the global `bt_mesh` (`p_sub`, `p_app_keys`, `p_net_idx_next`, `p_app_idx_next`, `rpl`).
`BtMesh` is all of it in one flat record. A C array of pointers is a list of options,
`none` standing for NULL: `ARRAY_SIZE` of a table is its length and `t[i] == NULL` is
`t[i]? = some none`. Unsigned fields are `Nat`; the one place where the width matters,
the `u16_t` node counters, reduces modulo `0x10000` where it increments.

The file reaches collaborators whose bodies are outside the source tree. The key
derivations, `bt_mesh_rand` and `osi_calloc` answer once per call (`Env`). The settings
store and the network message cache are only notified: each notification is an `Effect`,
appended to `BtMesh.effects` in the order the calls are made.

The scans the file repeats over every table are stated once here, each with the lemma
that says all it returns: `findRow`, the first occupied row a predicate accepts, and
`firstFreeIn`, the first NULL row of a range. `live` lists the occupied rows; writing or
clearing one row permutes it as `live_perm_of_getElem?` and `live_set_some_perm` say.
-/

set_option autoImplicit false

namespace BleMeshProvisioner

/-! ## Constants -/

/-- EIO, returned negated when a collaborator fails or no index is left. -/
def eio : Int := 5

/-- ENOMEM, returned negated when a table is full or allocation fails. -/
def enomem : Int := 12

/-- EEXIST, returned negated for a duplicate index, UUID or name. -/
def eexist : Int := 17

/-- ENODEV, returned negated for an unknown index. -/
def enodev : Int := 19

/-- EINVAL, returned negated for a NULL or out-of-range argument. -/
def einval : Int := 22

/-! Every error the file returns is nonzero, so no failure reads as success. -/

@[simp] theorem neg_eio_ne_zero : -eio ≠ 0 := by decide
@[simp] theorem neg_enomem_ne_zero : -enomem ≠ 0 := by decide
@[simp] theorem neg_eexist_ne_zero : -eexist ≠ 0 := by decide
@[simp] theorem neg_enodev_ne_zero : -enodev ≠ 0 := by decide
@[simp] theorem neg_einval_ne_zero : -einval ≠ 0 := by decide

/-- Sentinel of an unused model key slot (`BLE_MESH_KEY_UNUSED`). -/
def bleMeshKeyUnused : Nat := 0xFFFF

/-- Index that stands for any subnet (`BLE_MESH_KEY_ANY`). -/
def bleMeshKeyAny : Nat := 0xFFFF

/-- Index of the primary subnet (`BLE_MESH_KEY_PRIMARY`). -/
def bleMeshKeyPrimary : Nat := 0x0000

/-- The unassigned address (`BLE_MESH_ADDR_UNASSIGNED`). -/
def bleMeshAddrUnassigned : Nat := 0x0000

/-- Key-refresh phase of a subnet that is not refreshing (`BLE_MESH_KR_NORMAL`). -/
def bleMeshKrNormal : Nat := 0

/-- Second key-refresh phase (`BLE_MESH_KR_PHASE_2`). -/
def bleMeshKrPhase2 : Nat := 2

/-- Node-identity state of a provisioner's subnet (`BLE_MESH_NODE_IDENTITY_NOT_SUPPORTED`). -/
def bleMeshNodeIdentityNotSupported : Nat := 2

/-- Whether an address is unicast (`BLE_MESH_ADDR_IS_UNICAST`): nonzero, top bit clear. -/
def bleMeshAddrIsUnicast (addr : Nat) : Bool := addr != 0 && addr < 0x8000

/-- Key-refresh bit of the provisioning flags (`BLE_MESH_KEY_REFRESH`). -/
def bleMeshKeyRefresh (flags : Nat) : Bool := flags.testBit 0

/-- IV-update bit of the provisioning flags (`BLE_MESH_IV_UPDATE`). -/
def bleMeshIvUpdate (flags : Nat) : Bool := flags.testBit 1

/-! ## Records -/

/-- Sixteen bytes, the width of a device UUID and of every key the file copies with
`memcpy(…, 16)`. The length is part of the value, so `memcmp(a, b, 16) == 0` is `a = b`. -/
structure Bytes16 where
  bytes : List UInt8
  length_eq : bytes.length = 16
  deriving DecidableEq

/-- All sixteen bytes zero, as `osi_calloc` and `= {0}` leave them. -/
def Bytes16.zero : Bytes16 := ⟨List.replicate 16 0, rfl⟩

/-- A device's link-layer address and its type (`bt_mesh_addr_t`). -/
structure MeshAddr where
  type : Nat
  val : List UInt8
  deriving DecidableEq

/-- One admitted device (`struct bt_mesh_node_t`). `nodeName` is the whole character
buffer, NUL bytes included, since `strncpy` writes into it without terminating. -/
structure Node where
  addr : MeshAddr
  devUuid : Bytes16
  oobInfo : Nat
  unicastAddr : Nat
  elementNum : Nat
  netIdx : Nat
  flags : Nat
  ivIndex : Nat
  devKey : Bytes16
  nodeName : List Char
  deriving DecidableEq

/-- One key generation of a subnet (`struct bt_mesh_subnet_keys`) as far as the file reads
it: the key bytes and the NID derived from them. -/
structure SubnetKeys where
  net : Bytes16
  nid : Nat
  deriving DecidableEq

/-- A zeroed key generation, as `osi_calloc` leaves the slot a subnet does not use. -/
def SubnetKeys.zero : SubnetKeys := ⟨Bytes16.zero, 0⟩

/-- One network key (`struct bt_mesh_subnet`): `keys0` and `keys1` are `keys[0]` and
`keys[1]`, and `krFlag` selects `keys[1]` as the active one. -/
structure Subnet where
  netIdx : Nat
  keys0 : SubnetKeys
  keys1 : SubnetKeys
  krFlag : Bool
  krPhase : Nat
  nodeId : Nat
  deriving DecidableEq

/-- One key generation of an application key (`struct bt_mesh_app_keys`): AID and bytes. -/
structure AppKeys where
  id : Nat
  val : Bytes16
  deriving DecidableEq

/-- A zeroed key generation. -/
def AppKeys.zero : AppKeys := ⟨0, Bytes16.zero⟩

/-- One application key (`struct bt_mesh_app_key`): `updated` selects `keys[1]`. -/
structure AppKey where
  netIdx : Nat
  appIdx : Nat
  updated : Bool
  keys0 : AppKeys
  keys1 : AppKeys
  deriving DecidableEq

/-- Publication state of a model (`struct bt_mesh_model_pub`) as far as `model_pub_clear`
touches it: `update` is whether the model has an update callback, `timerPending` whether
its periodic-publish work is scheduled. -/
structure ModelPub where
  addr : Nat
  key : Nat
  cred : Nat
  ttl : Nat
  period : Nat
  retransmit : Nat
  count : Nat
  update : Bool
  timerPending : Bool
  deriving DecidableEq

/-- A local model (`struct bt_mesh_model`): its identifiers (`id`, or `vnd.company` and
`vnd.id` for a vendor model), its key slots `keys[]` and its publication context. -/
structure Model where
  id : Nat
  company : Nat
  keys : List Nat
  pub : Option ModelPub
  deriving DecidableEq

/-- A local element (`struct bt_mesh_elem`): its address and its SIG and vendor models. -/
structure Elem where
  addr : Nat
  models : List Model
  vndModels : List Model
  deriving DecidableEq

/-- A model named by where `bt_mesh_model_foreach` finds it: element index, vendor list or
not, index in that list. The settings store keys a model's records by these. -/
structure ModelRef where
  elem : Nat
  vnd : Bool
  idx : Nat
  deriving DecidableEq

/-- One replay-protection entry (`struct bt_mesh_rpl`). -/
structure Rpl where
  src : Nat
  oldIv : Bool
  store : Bool
  seq : Nat
  deriving DecidableEq

/-- An entry after `memset(rpl, 0, sizeof(struct bt_mesh_rpl))`. -/
def Rpl.zero : Rpl := ⟨0, false, false, 0⟩

/-- The provisioning context `provisioner_get_prov_info` returns, as far as the file
reads it. -/
structure ProvInfo where
  provUnicastAddr : Nat
  flags : Nat
  ivIndex : Nat
  deriving DecidableEq

/-- A call to a collaborator that is only notified: the settings store (each call guarded
by `IS_ENABLED(CONFIG_BLE_MESH_SETTINGS)`) and the network message cache. -/
inductive Effect where
  | storeNodeInfo (node : Node) (prov : Bool)
  | clearNodeInfo (unicastAddr : Nat) (prov : Bool)
  | clearRplSingle (src : Nat)
  | msgCacheClear (unicastAddr elementNum : Nat)
  | storePNetIdx (next : Nat)
  | storePAppIdx (next : Nat)
  | storePSubnet (subnet : Subnet)
  | clearPSubnet (subnet : Subnet)
  | storePAppKey (key : AppKey)
  | clearPAppKey (key : AppKey)
  | storeModBind (ref : ModelRef) (keys : List Nat)
  | storeModPub (ref : ModelRef) (pub : Option ModelPub)
  | storeIv (ivIndex : Nat) (ivUpdate : Bool)
  deriving DecidableEq

/-- What the collaborators answer during one call: `bt_mesh_rand` (fresh bytes, or a
failure), `osi_calloc` (whether it returns memory), `bt_mesh_net_keys_create` (the NID of a
network key) and `bt_mesh_app_id` (the AID of an application key); the last two may fail. -/
structure Env where
  rand : Option Bytes16
  alloc : Bool
  netKeysCreate : Bytes16 → Option Nat
  appId : Bytes16 → Option Nat

/-- The build configuration, supplied by `sdkconfig.h` outside the source tree:
`CONFIG_BLE_MESH_MAX_STORED_NODES`, `CONFIG_BLE_MESH_MAX_PROV_NODES`, `MESH_NAME_SIZE`
and `CONFIG_BLE_MESH_SETTINGS`. The node table's partitions are `[0, maxProvNodes)` and
`[maxProvNodes, maxStoredNodes)`. The two proof fields are what the code relies on: it
reads `mesh_nodes[i]` for every `i < CONFIG_BLE_MESH_MAX_PROV_NODES`, and it keeps both
bounds in `u16_t` variables. -/
structure Config where
  maxStoredNodes : Nat
  maxProvNodes : Nat
  meshNameSize : Nat
  settings : Bool
  maxProvNodes_le : maxProvNodes ≤ maxStoredNodes
  maxStoredNodes_lt : maxStoredNodes < 0x10000

/-- The provisioner's state. `elems` is the registered composition's elements, of which
the file changes only addresses, key slots and publication; `comp` and `prov` are the
file's cached pointers; `sub` and `appKeys` are the node-role tables the fast-provisioning
lookups read first; `fastProvNetIdx` and `fastProvNetKey` are what
`provisioner_get_fast_prov_net_idx` reads and `provisioner_set_fast_prov_net_idx` writes. -/
structure BtMesh where
  meshNodes : List (Option Node)
  allNodeCount : Nat
  provNodeCount : Nat
  pSub : List (Option Subnet)
  pAppKeys : List (Option AppKey)
  pNetIdxNext : Nat
  pAppIdxNext : Nat
  rpl : List Rpl
  elems : List Elem
  comp : Bool
  prov : Option ProvInfo
  provNetCreate : Bool
  ivIndex : Nat
  ivUpdate : Bool
  primaryAddr : Nat
  devKey : Bytes16
  sub : List Subnet
  appKeys : List AppKey
  fastProvNetIdx : Nat
  fastProvNetKey : Option Bytes16
  effects : List Effect
  deriving DecidableEq

/-- Records a settings-store notification, when `CONFIG_BLE_MESH_SETTINGS` is enabled. -/
def BtMesh.persist (cfg : Config) (s : BtMesh) (e : Effect) : BtMesh :=
  { s with effects := s.effects ++ if cfg.settings then [e] else [] }

section Persist

variable (cfg : Config) (s : BtMesh) (e : Effect)

@[simp] theorem persist_meshNodes : (s.persist cfg e).meshNodes = s.meshNodes := rfl
@[simp] theorem persist_allNodeCount : (s.persist cfg e).allNodeCount = s.allNodeCount := rfl
@[simp] theorem persist_provNodeCount : (s.persist cfg e).provNodeCount = s.provNodeCount := rfl
@[simp] theorem persist_pSub : (s.persist cfg e).pSub = s.pSub := rfl
@[simp] theorem persist_pAppKeys : (s.persist cfg e).pAppKeys = s.pAppKeys := rfl
@[simp] theorem persist_pNetIdxNext : (s.persist cfg e).pNetIdxNext = s.pNetIdxNext := rfl
@[simp] theorem persist_pAppIdxNext : (s.persist cfg e).pAppIdxNext = s.pAppIdxNext := rfl
@[simp] theorem persist_elems : (s.persist cfg e).elems = s.elems := rfl
@[simp] theorem persist_rpl : (s.persist cfg e).rpl = s.rpl := rfl

end Persist

/-! ## Table scans -/

variable {α : Type}

/-- The occupied rows of a table, in row order. -/
def live (t : List (Option α)) : List α := t.filterMap id

@[simp] theorem mem_live {t : List (Option α)} {a : α} : a ∈ live t ↔ some a ∈ t := by
  simp [live]

@[simp] theorem live_nil : live ([] : List (Option α)) = [] := rfl

@[simp] theorem live_cons_none (t : List (Option α)) : live (none :: t) = live t := rfl

@[simp] theorem live_cons_some (a : α) (t : List (Option α)) :
    live (some a :: t) = a :: live t := rfl

/-- Whether row `i` exists and is NULL. -/
def rowFree (t : List (Option α)) (i : Nat) : Bool :=
  match t[i]? with
  | some none => true
  | _ => false

/-- A row is free exactly when the table has it and it is empty. -/
theorem rowFree_iff {t : List (Option α)} {i : Nat} :
    rowFree t i = true ↔ t[i]? = some none := by
  unfold rowFree; split <;> simp_all

/-- The first NULL row of `[lo, hi)`, as `for (i = lo; i < hi; i++) if (t[i] == NULL)`
finds it. -/
def firstFreeIn (t : List (Option α)) (lo hi : Nat) : Option Nat :=
  (List.range' lo (hi - lo)).find? (rowFree t)

/-- The first-free scan of rows lo to hi returns i exactly when row i is free, lies in the
range and no earlier row of the range is free. -/
theorem firstFreeIn_eq_some {t : List (Option α)} {lo hi i : Nat} :
    firstFreeIn t lo hi = some i ↔
      lo ≤ i ∧ i < hi ∧ t[i]? = some none ∧ ∀ j, lo ≤ j → j < i → rowFree t j = false := by
  rw [firstFreeIn, List.find?_range'_eq_some, List.mem_range'_1, rowFree_iff]
  constructor
  · rintro ⟨hf, ⟨h1, h2⟩, hb⟩
    exact ⟨h1, by omega, hf, fun j hj hji => by simpa using hb j hj hji⟩
  · rintro ⟨h1, h2, hf, hb⟩
    exact ⟨hf, ⟨h1, by omega⟩, fun j hj hji => by simpa using hb j hj hji⟩

/-- The first-free scan of rows lo to hi finds nothing exactly when no row of the range is
free. -/
theorem firstFreeIn_eq_none {t : List (Option α)} {lo hi : Nat} :
    firstFreeIn t lo hi = none ↔ ∀ j, lo ≤ j → j < hi → rowFree t j = false := by
  rw [firstFreeIn, List.find?_range'_eq_none]
  exact forall_congr' fun j =>
    ⟨fun h h1 h2 => by simpa using h h1 (by omega), fun h h1 h2 => by simpa using h h1 (by omega)⟩

/-- The first occupied row that `p` accepts, with its index: the shape of every
`for (i = 0; i < ARRAY_SIZE(t); i++) if (t[i] && p(t[i]))` of the file. -/
def findRow (p : α → Bool) : List (Option α) → Option (Nat × α)
  | [] => none
  | none :: t => (findRow p t).map fun r => (r.1 + 1, r.2)
  | some a :: t => if p a then some (0, a) else (findRow p t).map fun r => (r.1 + 1, r.2)

/-- INTERNAL: One step of the scan: the head row if it is occupied and accepted, else the
scan of the rest, one row further on. -/
theorem findRow_cons (p : α → Bool) (o : Option α) (t : List (Option α)) :
    findRow p (o :: t) =
      if o.any p then o.map ((0, ·)) else (findRow p t).map fun r => (r.1 + 1, r.2) := by
  cases o with
  | none => rfl
  | some a => by_cases h : p a <;> simp [findRow, h]

/-- A first-match scan finds nothing exactly when no live entry matches. -/
theorem findRow_eq_none {p : α → Bool} {t : List (Option α)} :
    findRow p t = none ↔ ∀ a ∈ live t, p a = false := by
  induction t with
  | nil => simp [findRow]
  | cons o t ih =>
    cases o with
    | none => simp [findRow, ih]
    | some a => by_cases h : p a <;> simp [findRow, h, ih]

/-- INTERNAL: What a successful scan returns: an occupied row that `p` accepts, every
occupied row before it rejected. -/
theorem findRow_eq_some {p : α → Bool} {t : List (Option α)} {i : Nat} {a : α}
    (h : findRow p t = some (i, a)) :
    t[i]? = some (some a) ∧ p a = true ∧
      ∀ j b, j < i → t[j]? = some (some b) → p b = false := by
  induction t generalizing i with
  | nil => simp [findRow] at h
  | cons o t ih =>
    rw [findRow_cons] at h
    split at h
    · obtain ⟨b, rfl, hb⟩ := Option.map_eq_some'.mp h
      cases hb
      exact ⟨by simp, by simpa using ‹Option.any p (some a) = true›, fun j b hj => absurd hj (by omega)⟩
    · obtain ⟨⟨k, c⟩, hk, he⟩ := Option.map_eq_some'.mp h
      cases he
      obtain ⟨h1, h2, h3⟩ := ih hk
      refine ⟨by simpa using h1, h2, fun j b hj hb => ?_⟩
      cases j with
      | zero =>
        simp only [List.getElem?_cons_zero, Option.some.injEq] at hb
        subst hb
        simpa using ‹¬Option.any p (some b) = true›
      | succ j => exact h3 j b (by omega) (by simpa using hb)

/-- INTERNAL: Clearing row `i` removes exactly what it held from the occupied rows. -/
theorem live_perm_of_getElem? {t : List (Option α)} {i : Nat} {o : Option α}
    (h : t[i]? = some o) : (live t).Perm (o.toList ++ live (t.set i none)) := by
  induction t generalizing i with
  | nil => simp at h
  | cons x t ih =>
    cases i with
    | zero =>
      simp only [List.getElem?_cons_zero, Option.some.injEq] at h
      subst h
      cases x <;> simp
    | succ i =>
      have hp := ih (by simpa using h)
      cases x with
      | none => simpa using hp
      | some a =>
        simp only [List.set_cons_succ, live_cons_some]
        exact (hp.cons a).trans (by simpa using List.perm_middle.symm)

/-- INTERNAL: Writing a row puts the new value among the occupied rows in place of what
the row held. -/
theorem live_set_some_perm {t : List (Option α)} {i : Nat} (a : α) (h : i < t.length) :
    (live (t.set i (some a))).Perm (a :: live (t.set i none)) := by
  have hget : (t.set i (some a))[i]? = some (some a) := by simp [h]
  simpa using live_perm_of_getElem? hget

end BleMeshProvisioner
