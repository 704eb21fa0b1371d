import BleMeshProvisioner.Analysis.KeyDurable

/-!
# The key store as a map

What the key store is for: a map from net index to a network key, and from app index to an
application key bound to a subnet, which the configuration API reads with
`bt_mesh_provisioner_local_net_key_get` and `bt_mesh_provisioner_local_app_key_get`
(`provisioner_main.c:889-918`, `:1103-1126`). `KeyMap` is that map, holding the bytes a
reader gets. `keyMap` reads it off the tables, each index to the occupied row that carries
it (`rowAt`), and the two getters answer from it (`netKeyGet_keyMap`, `appKeyGet_keyMap`), as
do the file's other key lookups: the internal ones and, while the node-role tables do not
hold the index, the fast-provisioning ones (`keyLookups_agree`).

`KeyMap.Step` says what each call may do to the map: nothing, or add a key under a fresh
index (with the bytes given, if any), delete a subnet together with every app key bound to
it, delete an app key, or rebind one. Every call of the store is such a step
(`keyStep_refines`), so every run of calls that return is a run of the map
(`keyRun_refines`). No step of the map changes a key in place, so a key a reader gets
before a run is the key it gets after, unless the run deletes or rebinds it
(`keyRun_keyGet_stable`).
-/

set_option autoImplicit false

namespace BleMeshProvisioner

/-! ## A table read by index -/

section Rows

variable {α : Type} {f : α → Nat} {t : List (Option α)}

/-- The occupied row a scan by index `x` finds: the first one carrying it. -/
def rowAt (f : α → Nat) (t : List (Option α)) (x : Nat) : Option α := (live t).find? (f · == x)

/-- INTERNAL: A scan of the rows returns the first occupied row `p` accepts. -/
theorem findRow_map {β : Type} (p : α → Bool) (g : α → β) (t : List (Option α)) :
    (findRow p t).map (fun r => g r.2) = ((live t).find? p).map g := by
  induction t with
  | nil => rfl
  | cons o t ih =>
    cases o with
    | none => simpa [findRow, Option.map_map, Function.comp_def] using ih
    | some a => by_cases h : p a <;> simp [findRow, h, ih, Option.map_map, Function.comp_def]

/-- A scan by index finds no row exactly when no live row carries the index. -/
theorem rowAt_eq_none_iff {x : Nat} : rowAt f t x = none ↔ ∀ a ∈ live t, f a ≠ x := by
  simp [rowAt, List.find?_eq_none]

/-- INTERNAL: With indices distinct, a search whose accepted rows share an index finds
exactly the row it accepts. -/
theorem find?_eq_some_iff_of_nodup {p : α → Bool} {l : List α} (hnd : (l.map f).Nodup)
    (hp : ∀ a b, p a = true → p b = true → f a = f b) {a : α} :
    l.find? p = some a ↔ a ∈ l ∧ p a = true := by
  refine ⟨fun h => ⟨List.mem_of_find?_eq_some h, List.find?_some h⟩, fun ⟨ha, hpa⟩ => ?_⟩
  cases hb : l.find? p with
  | none => exact absurd hpa (by simpa using List.find?_eq_none.mp hb a ha)
  | some b =>
    exact congrArg some (List.inj_on_of_nodup_map hnd (List.mem_of_find?_eq_some hb) ha
      (hp b a (List.find?_some hb) hpa))

/-- With indices distinct, a table read by index mirrors it. -/
theorem rowAt_mirror (hnd : ((live t).map f).Nodup) : RecordsMirror f t (rowAt f t) := fun x a =>
  (find?_eq_some_iff_of_nodup hnd fun _ _ ha hb => (beq_iff_eq.mp ha).trans (beq_iff_eq.mp hb).symm).trans
    (by simp)

/-- A table has one mirror. -/
theorem RecordsMirror.unique {r r' : Nat → Option α} (h : RecordsMirror f t r)
    (h' : RecordsMirror f t r') : r = r' :=
  funext fun x => Option.ext fun a => (h x a).trans (h' x a).symm

/-- Writing a row with a fresh index into a free row writes its index. -/
theorem rowAt_set_free (hnd : ((live t).map f).Nodup) {i : Nat} {a : α}
    (hfree : t[i]? = some none) (hnew : ∀ b ∈ live t, f b ≠ f a) :
    rowAt f (t.set i (some a)) = putRecord (rowAt f t) (f a) (some a) := by
  have hnd' : ((live (t.set i (some a))).map f).Nodup :=
    ((live_set_free hfree).map f).nodup_iff.mpr (List.nodup_cons.mpr
      ⟨fun hm => let ⟨b, hb, he⟩ := List.mem_map.mp hm; hnew b hb he, hnd⟩)
  exact (rowAt_mirror hnd').unique ((rowAt_mirror hnd).insert hfree hnew)

/-- Freeing an occupied row erases its index. -/
theorem rowAt_set_none (hnd : ((live t).map f).Nodup) {i : Nat} {a : α}
    (hrow : t[i]? = some (some a)) : rowAt f (t.set i none) = putRecord (rowAt f t) (f a) none :=
  (rowAt_mirror (List.nodup_cons.mp (((live_set_none hrow).map f).nodup_iff.mp hnd)).2).unique
    ((rowAt_mirror hnd).erase hnd hrow)

/-- Rewriting an occupied row with a value of the same index rewrites that index. -/
theorem rowAt_set_some (hnd : ((live t).map f).Nodup) {i : Nat} {a b : α}
    (hrow : t[i]? = some (some a)) (he : f b = f a) :
    rowAt f (t.set i (some b)) = putRecord (rowAt f t) (f a) (some b) := by
  have hfree : (t.set i none)[i]? = some none :=
    List.getElem?_set_self (List.getElem?_eq_some_iff.mp hrow).1
  rw [← List.set_set none, rowAt_set_free (List.nodup_cons.mp (((live_set_none hrow).map f).nodup_iff.mp hnd)).2
    hfree (he ▸ idx_ne_of_set_none hnd hrow), rowAt_set_none hnd hrow, he]
  funext x
  unfold putRecord
  split <;> rfl

end Rows

/-- The net-key cascade's rows read by app index: the keys bound elsewhere. -/
theorem rowAt_map_dropNet {t : List (Option AppKey)} (hnd : ((live t).map AppKey.appIdx).Nodup)
    (n : Nat) :
    rowAt AppKey.appIdx (t.map (dropNet n)) = fun a => (rowAt AppKey.appIdx t a).filter (·.netIdx != n) := by
  have hnd' : ((live (t.map (dropNet n))).map AppKey.appIdx).Nodup := by
    rw [live_map_dropNet]; exact hnd.sublist ((List.filter_sublist _).map _)
  refine (rowAt_mirror hnd').unique fun x k => ?_
  simp only [Option.filter_eq_some, Option.mem_def, rowAt_mirror hnd x k, live_map_dropNet,
    List.mem_filter]
  tauto

/-- INTERNAL: Reading a written record through `g` is writing the record read through `g`. -/
theorem map_putRecord {β γ : Type} (r : Nat → Option β) (k : Nat) (v : Option β) (g : β → γ) :
    (fun x => (putRecord r k v x).map g) = putRecord (fun x => (r x).map g) k (v.map g) := by
  funext x
  unfold putRecord
  split <;> rfl

/-! ## The map -/

/-- The bytes a reader of a subnet gets: `keys[1]` during a key refresh, else `keys[0]`. -/
def Subnet.activeNet (sub : Subnet) : Bytes16 := if sub.krFlag then sub.keys1.net else sub.keys0.net

/-- The bytes a reader of an app key gets: `keys[1]` once updated, else `keys[0]`. -/
def AppKey.activeVal (key : AppKey) : Bytes16 := if key.updated then key.keys1.val else key.keys0.val

/-- The key store as a map: the bytes of the network key with each net index, and the subnet
and bytes of the application key with each app index. -/
structure KeyMap where
  net : Nat → Option Bytes16
  app : Nat → Option (Nat × Bytes16)

namespace KeyMap

/-- A network key under index `i`. -/
def addNet (m : KeyMap) (i : Nat) (k : Bytes16) : KeyMap := { m with net := putRecord m.net i (some k) }

/-- Subnet `n` gone, with every app key bound to it. -/
def deleteNet (m : KeyMap) (n : Nat) : KeyMap :=
  ⟨putRecord m.net n none, fun a => (m.app a).filter (·.1 != n)⟩

/-- An application key under index `a`, bound to subnet `n`. -/
def addApp (m : KeyMap) (a n : Nat) (k : Bytes16) : KeyMap :=
  { m with app := putRecord m.app a (some (n, k)) }

/-- App key `a` gone. -/
def deleteApp (m : KeyMap) (a : Nat) : KeyMap := { m with app := putRecord m.app a none }

/-- What a reader asking for app key `a` of subnet `n` gets. -/
def appGet (m : KeyMap) (n a : Nat) : Option Bytes16 :=
  (m.app a).bind fun p => if p.1 = n then some p.2 else none

/-- A reader asking for app key a of subnet n gets k exactly when the map holds k at a,
bound to n. -/
theorem appGet_eq_some {m : KeyMap} {n a : Nat} {k : Bytes16} :
    m.appGet n a = some k ↔ m.app a = some (n, k) := by
  unfold appGet
  cases m.app a with
  | none => simp
  | some p => obtain ⟨n', k'⟩ := p; by_cases h : n' = n <;> simp [h, eq_comm]

/-- What a key-store call may do to the map: nothing (every failure, an add whose key is
already held, and the calls that write neither table), or what it is for. An add puts a key
under an index the map does not have, below 0x1000, the requested one when explicit, with
the bytes given when given; `bt_mesh_provisioner_net_create` puts the primary subnet into an
empty map; an app key is added, or rebound, only to a subnet the map has; a subnet is
deleted with every app key bound to it. -/
inductive Step : KeyOp → KeyMap → KeyMap → Prop
  | stay (op : KeyOp) (m : KeyMap) : Step op m m
  | netCreate (env : Env) (comp : Bool) (prov : Option ProvInfo) (m : KeyMap) (k : Bytes16) :
      (∀ n, m.net n = none) → Step (.netCreate env comp prov) m (m.addNet bleMeshKeyPrimary k)
  | netKeyAdd (env : Env) (key : Option Bytes16) (r : Option Nat) (m : KeyMap) (i : Nat)
      (k : Bytes16) : m.net i = none → i < 0x1000 → (∀ x, r = some x → x ≠ 0xFFFF → i = x) →
      (∀ K, key = some K → k = K) → Step (.netKeyAdd env key r) m (m.addNet i k)
  | netKeyDelete (n : Nat) (m : KeyMap) : m.net n ≠ none → Step (.netKeyDelete n) m (m.deleteNet n)
  | appKeyAdd (env : Env) (key : Option Bytes16) (n : Nat) (r : Option Nat) (m : KeyMap)
      (a : Nat) (k : Bytes16) : m.net n ≠ none → m.app a = none → a < 0x1000 →
      (∀ x, r = some x → x ≠ 0xFFFF → a = x) → (∀ K, key = some K → k = K) →
      Step (.appKeyAdd env key n r) m (m.addApp a n k)
  | appKeyDelete (n a : Nat) (m : KeyMap) (k : Bytes16) :
      m.app a = some (n, k) → Step (.appKeyDelete n a) m (m.deleteApp a)
  | bindAppNetIdx (n a : Nat) (m : KeyMap) (n0 : Nat) (k : Bytes16) :
      m.net n ≠ none → m.app a = some (n0, k) → Step (.bindAppNetIdx n a) m (m.addApp a n k)
  | addFastProvNetKey (env : Env) (key : Option Bytes16) (m : KeyMap) (i : Nat) (k : Bytes16) :
      m.net i = none → i < 0x1000 → (∀ K, key = some K → k = K) →
      Step (.addFastProvNetKey env key) m (m.addNet i k)

/-- The maps a sequence of calls goes through. -/
inductive Run : List KeyOp → KeyMap → KeyMap → Prop
  | nil (m : KeyMap) : Run [] m m
  | cons {op : KeyOp} {ops : List KeyOp} {m m1 m2 : KeyMap} :
      Step op m m1 → Run ops m1 m2 → Run (op :: ops) m m2

/-- INTERNAL: A record other than the one written is kept. -/
theorem putRecord_of_ne {β : Type} {r : Nat → Option β} {k x : Nat} (v : Option β) (h : x ≠ k) :
    putRecord r k v x = r x :=
  if_neg h

/-- No step rewrites a network key: it stays unless the step deletes its subnet. -/
theorem Step.net_eq {op : KeyOp} {m m' : KeyMap} (h : Step op m m') {n : Nat} {k : Bytes16}
    (hk : m.net n = some k) (hop : op ≠ .netKeyDelete n) : m'.net n = some k := by
  have fresh : ∀ {i}, m.net i = none → n ≠ i := fun hi he => by rw [he, hi] at hk; cases hk
  cases h with
  | stay => exact hk
  | netCreate _ _ _ _ _ hnone => rw [hnone] at hk; cases hk
  | netKeyAdd _ _ _ _ _ _ hi => exact (putRecord_of_ne _ (fresh hi)).trans hk
  | netKeyDelete n' _ _ => exact (putRecord_of_ne _ fun he => hop (congrArg KeyOp.netKeyDelete he).symm).trans hk
  | appKeyAdd => exact hk
  | appKeyDelete => exact hk
  | bindAppNetIdx => exact hk
  | addFastProvNetKey _ _ _ _ _ hi => exact (putRecord_of_ne _ (fresh hi)).trans hk

/-- No step rewrites an application key: it stays unless the step deletes it or its subnet,
or rebinds it. -/
theorem Step.app_eq {op : KeyOp} {m m' : KeyMap} (h : Step op m m') {n a : Nat} {k : Bytes16}
    (hk : m.app a = some (n, k))
    (hop : op ≠ .netKeyDelete n ∧ op ≠ .appKeyDelete n a ∧ ∀ n', op ≠ .bindAppNetIdx n' a) :
    m'.app a = some (n, k) := by
  cases h with
  | netKeyDelete n' _ _ =>
    have hn : n ≠ n' := fun he => hop.1 (congrArg KeyOp.netKeyDelete he).symm
    show (m.app a).filter _ = _
    simp [hk, hn]
  | appKeyAdd _ _ _ _ _ a' _ _ ha' =>
    exact (putRecord_of_ne _ fun he => by rw [he, ha'] at hk; cases hk).trans hk
  | appKeyDelete n' a' _ _ hk' =>
    refine (putRecord_of_ne _ fun he => ?_).trans hk
    subst he
    obtain ⟨rfl, -⟩ := Prod.mk.inj (Option.some.inj (hk'.symm.trans hk))
    exact hop.2.1 rfl
  | bindAppNetIdx n' a' => exact (putRecord_of_ne _ fun he => hop.2.2 n' (congrArg _ he.symm)).trans hk
  | stay => exact hk
  | netCreate => exact hk
  | netKeyAdd => exact hk
  | addFastProvNetKey => exact hk

/-- A subnet's key survives every run of the map that does not delete that subnet. -/
theorem Run.net_eq {ops : List KeyOp} {m m' : KeyMap} (h : Run ops m m') {n : Nat} {k : Bytes16}
    (hk : m.net n = some k) (hops : ∀ op ∈ ops, op ≠ .netKeyDelete n) : m'.net n = some k := by
  induction h with
  | nil => exact hk
  | cons hs _ ih =>
    exact ih (hs.net_eq hk (hops _ (List.mem_cons_self _ _))) fun op h => hops op (List.mem_cons_of_mem _ h)

/-- An app key survives, with its binding, every run of the map that deletes neither it
nor its subnet and rebinds it nowhere. -/
theorem Run.app_eq {ops : List KeyOp} {m m' : KeyMap} (h : Run ops m m') {n a : Nat} {k : Bytes16}
    (hk : m.app a = some (n, k))
    (hops : ∀ op ∈ ops, op ≠ .netKeyDelete n ∧ op ≠ .appKeyDelete n a ∧ ∀ n', op ≠ .bindAppNetIdx n' a) :
    m'.app a = some (n, k) := by
  induction h with
  | nil => exact hk
  | cons hs _ ih =>
    exact ih (hs.app_eq hk (hops _ (List.mem_cons_self _ _))) fun op h => hops op (List.mem_cons_of_mem _ h)

end KeyMap

/-- The map the tables hold: each index read to the occupied row that carries it. -/
def keyMap (s : BtMesh) : KeyMap where
  net n := (rowAt Subnet.netIdx s.pSub n).map Subnet.activeNet
  app a := (rowAt AppKey.appIdx s.pAppKeys a).map fun key => (key.netIdx, key.activeVal)

/-! ## The getters read the map -/

/-- `bt_mesh_provisioner_local_net_key_get` reads the map. -/
theorem netKeyGet_keyMap (s : BtMesh) (n : Nat) :
    btMeshProvisionerLocalNetKeyGet s n = (keyMap s).net n := by
  have hscan : (findRow (·.netIdx == n) s.pSub).map (fun r => r.2.activeNet) = (keyMap s).net n :=
    findRow_map _ _ _
  unfold btMeshProvisionerLocalNetKeyGet
  split_ifs with hc
  · rw [← hscan, findRow_eq_none.mpr fun a ha => ?_]
    · rfl
    · simpa using fun he => hc (checkIdx_false_eq_zero.mpr ⟨a, ha, he⟩)
  · exact hscan

/-- INTERNAL: Under the invariant the scan of `p_app_keys` by both indices reads the map. -/
theorem findRow_bothIdx_keyMap {s : BtMesh} (hinv : KeyStoreInv s) (n a : Nat) :
    (findRow (fun k => k.netIdx == n && k.appIdx == a) s.pAppKeys).map (fun r => r.2.activeVal) =
      (keyMap s).appGet n a := by
  -- the scan finds the row carrying app index `a`, when it is bound to `n`
  have hfind : (live s.pAppKeys).find? (fun k => k.netIdx == n && k.appIdx == a) =
      (rowAt AppKey.appIdx s.pAppKeys a).filter (·.netIdx == n) := by
    refine Option.ext fun k => ?_
    simp only [Option.mem_def, Option.filter_eq_some, rowAt_mirror hinv.appKeys.2 a k,
      find?_eq_some_iff_of_nodup (p := fun k => k.netIdx == n && k.appIdx == a) hinv.appKeys.2
        fun x y hx hy => by simp only [Bool.and_eq_true, beq_iff_eq] at hx hy; rw [hx.2, hy.2],
      Bool.and_eq_true, beq_iff_eq]
    tauto
  rw [findRow_map, hfind]
  show _ = ((rowAt AppKey.appIdx s.pAppKeys a).map fun key => (key.netIdx, key.activeVal)).bind _
  cases rowAt AppKey.appIdx s.pAppKeys a with
  | none => rfl
  | some k => by_cases h : k.netIdx = n <;> simp [h, Option.filter_some]

/-- INTERNAL: Under the invariant an app key the map holds is an occupied row. -/
theorem keyMap_app_eq_some {s : BtMesh} (hinv : KeyStoreInv s) {n a : Nat} {k : Bytes16}
    (h : (keyMap s).app a = some (n, k)) :
    ∃ key ∈ live s.pAppKeys, key.appIdx = a ∧ key.netIdx = n ∧ key.activeVal = k := by
  obtain ⟨key, hr, he⟩ := Option.map_eq_some'.mp h
  obtain ⟨hmem, hidx⟩ := (rowAt_mirror hinv.appKeys.2 a key).mp hr
  cases he
  exact ⟨key, hmem, hidx, rfl, rfl⟩

/-- Under the key-store invariant `bt_mesh_provisioner_local_app_key_get` reads the map: the
app key with the index, when it is bound to the subnet asked for. -/
theorem appKeyGet_keyMap {s : BtMesh} (hinv : KeyStoreInv s) (n a : Nat) :
    btMeshProvisionerLocalAppKeyGet s n a = (keyMap s).appGet n a := by
  -- a key the map holds for `n` passes both checks
  have hchecks : ∀ k, (keyMap s).appGet n a = some k →
      provisionerCheckNetIdx s n false = 0 ∧ provisionerCheckAppIdx s a false = 0 := fun k h => by
    obtain ⟨key, hmem, hidx, hnet, -⟩ := keyMap_app_eq_some hinv (KeyMap.appGet_eq_some.mp h)
    obtain ⟨sub, hs, hse⟩ := hinv.bound key hmem
    exact ⟨checkIdx_false_eq_zero.mpr ⟨sub, hs, hse.trans hnet⟩,
      checkIdx_false_eq_zero.mpr ⟨key, hmem, hidx⟩⟩
  unfold btMeshProvisionerLocalAppKeyGet
  split_ifs with h1 h2
  · cases h : (keyMap s).appGet n a with
    | none => rfl
    | some k => exact absurd (hchecks k h).1 h1
  · cases h : (keyMap s).appGet n a with
    | none => rfl
    | some k => exact absurd (hchecks k h).2 h2
  · exact findRow_bothIdx_keyMap hinv n a

/-- Under the key-store invariant every key lookup of the file reads the map:
`provisioner_net_key_get`, `provisioner_subnet_get` for an index other than
`BLE_MESH_KEY_ANY` (which reads row 0), and `provisioner_app_key_find`; and the
fast-provisioning lookups `bt_mesh_get_fast_prov_net_key` and `bt_mesh_get_fast_prov_app_key`,
which read the node-role tables first, whenever those do not hold the index. -/
theorem keyLookups_agree {s : BtMesh} (hinv : KeyStoreInv s) (n a : Nat) :
    provisionerNetKeyGet s n = (keyMap s).net n ∧
      (n ≠ bleMeshKeyAny → (provisionerSubnetGet s n).map Subnet.activeNet = (keyMap s).net n) ∧
      (provisionerAppKeyFind s a).map (fun k => (k.netIdx, k.activeVal)) = (keyMap s).app a ∧
      ((∀ sub ∈ s.sub, sub.netIdx ≠ n) → btMeshGetFastProvNetKey s n = (keyMap s).net n) ∧
      ((∀ k ∈ s.appKeys, ¬(k.netIdx = n ∧ k.appIdx = a)) →
        btMeshGetFastProvAppKey s n a = (keyMap s).appGet n a) := by
  have hnet : (findRow (·.netIdx == n) s.pSub).map (fun r => r.2.activeNet) = (keyMap s).net n :=
    findRow_map _ _ _
  refine ⟨hnet, fun hn => ?_, ?_, fun hsub => ?_, fun hkeys => ?_⟩
  · unfold provisionerSubnetGet
    rw [if_neg hn, Option.map_map]
    exact hnet
  · -- a live key's subnet index is below 0x1000, so never `BLE_MESH_KEY_UNUSED`
    have hused : ∀ k ∈ live s.pAppKeys, k.netIdx ≠ bleMeshKeyUnused := fun k hk => by
      obtain ⟨sub, hs, hse⟩ := hinv.bound k hk
      have := hinv.subnets.1 sub hs
      simp only [bleMeshKeyUnused]
      omega
    unfold provisionerAppKeyFind
    rw [Option.map_map]
    show _ = (rowAt AppKey.appIdx s.pAppKeys a).map _
    refine (findRow_map _ (fun k : AppKey => (k.netIdx, k.activeVal)) _).trans
      (congrArg (Option.map _) (Option.ext fun k => ?_))
    simp only [Option.mem_def, rowAt_mirror hinv.appKeys.2 a k,
      find?_eq_some_iff_of_nodup (p := fun k => k.netIdx != bleMeshKeyUnused && k.appIdx == a)
        hinv.appKeys.2 fun x y hx hy => by
          simp only [Bool.and_eq_true, beq_iff_eq] at hx hy; rw [hx.2, hy.2],
      Bool.and_eq_true, beq_iff_eq, bne_iff_ne]
    exact ⟨fun ⟨hk, _, ha⟩ => ⟨hk, ha⟩, fun ⟨hk, ha⟩ => ⟨hk, hused k hk, ha⟩⟩
  · unfold btMeshGetFastProvNetKey getFastProvSubnet
    rw [List.find?_eq_none.mpr (by simpa using hsub), Option.map_map]
    exact hnet
  · unfold btMeshGetFastProvAppKey getFastProvAppKey
    rw [List.find?_eq_none.mpr (by simpa using hkeys), Option.map_map]
    exact findRow_bothIdx_keyMap hinv n a

/-- `boundStore` with node-role tables as `net.c` keeps them when the provisioner is not a
node: one subnet entry and one app-key entry, both unused (`net_idx` 0xFFFF). -/
def roleStore : BtMesh :=
  { boundStore with
    sub := [⟨bleMeshKeyUnused, SubnetKeys.zero, SubnetKeys.zero, false, bleMeshKrNormal, 0⟩]
    appKeys := [⟨bleMeshKeyUnused, 0, false, AppKeys.zero, AppKeys.zero⟩] }

/-- On `roleStore`, whose node-role tables hold unused entries that the fast lookups pass
over, every lookup of index 0 reads the map, which holds the primary subnet's key and app
key 0 bound to it. -/
theorem keyLookups_agree_roleStore :
    KeyStoreInv roleStore ∧ provisionerNetKeyGet roleStore 0 = (keyMap roleStore).net 0 ∧
      (provisionerAppKeyFind roleStore 0).map (fun k => (k.netIdx, k.activeVal)) =
        (keyMap roleStore).app 0 ∧
      btMeshGetFastProvNetKey roleStore 0 = (keyMap roleStore).net 0 ∧
      btMeshGetFastProvAppKey roleStore 0 0 = (keyMap roleStore).appGet 0 0 ∧
      (keyMap roleStore).net 0 = some Bytes16.zero ∧ (keyMap roleStore).appGet 0 0 = some Bytes16.zero :=
  have hinv : KeyStoreInv roleStore := by decide
  have h := keyLookups_agree hinv 0 0
  ⟨hinv, h.1, h.2.2.1, h.2.2.2.1 (by decide), h.2.2.2.2 (by decide), by decide, by decide⟩

/-! ## What the calls do to the map -/

section Tables

variable {s s' : BtMesh}

/-- Only the two key tables take part in the abstraction. -/
theorem keyMap_congr (hsub : s'.pSub = s.pSub) (hkeys : s'.pAppKeys = s.pAppKeys) :
    keyMap s' = keyMap s := by
  unfold keyMap
  rw [hsub, hkeys]

/-- INTERNAL: The map has no network key under an index no occupied row carries. -/
theorem keyMap_net_eq_none {n : Nat} (h : ∀ b ∈ live s.pSub, b.netIdx ≠ n) :
    (keyMap s).net n = none := by
  show (rowAt _ _ n).map _ = none
  rw [rowAt_eq_none_iff.mpr h]
  rfl

/-- INTERNAL: The map has no application key under an index no occupied row carries. -/
theorem keyMap_app_eq_none {a : Nat} (h : ∀ b ∈ live s.pAppKeys, b.appIdx ≠ a) :
    (keyMap s).app a = none := by
  show (rowAt _ _ a).map _ = none
  rw [rowAt_eq_none_iff.mpr h]
  rfl

/-- INTERNAL: Under the invariant the map holds every occupied subnet row. -/
theorem keyMap_net_of_mem (hinv : KeyStoreInv s) {sub : Subnet} (h : sub ∈ live s.pSub) :
    (keyMap s).net sub.netIdx = some sub.activeNet := by
  show (rowAt _ _ _).map _ = _
  rw [(rowAt_mirror hinv.subnets.2 _ sub).mpr ⟨h, rfl⟩]
  rfl

/-- INTERNAL: Under the invariant the map holds every occupied app-key row. -/
theorem keyMap_app_of_mem (hinv : KeyStoreInv s) {key : AppKey} (h : key ∈ live s.pAppKeys) :
    (keyMap s).app key.appIdx = some (key.netIdx, key.activeVal) := by
  show (rowAt _ _ _).map _ = _
  rw [(rowAt_mirror hinv.appKeys.2 _ key).mpr ⟨h, rfl⟩]
  rfl

/-- Filling a free subnet row with a new index adds that subnet's active key to the map. -/
theorem keyMap_insertSubnet (hinv : KeyStoreInv s) {add : Nat} {sub : Subnet}
    (hfree : s.pSub[add]? = some none) (hnew : ∀ b ∈ live s.pSub, b.netIdx ≠ sub.netIdx)
    (hsub : s'.pSub = s.pSub.set add (some sub)) (hkeys : s'.pAppKeys = s.pAppKeys) :
    keyMap s' = (keyMap s).addNet sub.netIdx sub.activeNet := by
  unfold keyMap KeyMap.addNet
  rw [hsub, hkeys, rowAt_set_free hinv.subnets.2 hfree hnew, map_putRecord]
  rfl

/-- Filling a free app-key row with a new index adds that key, bound to its subnet, to
the map. -/
theorem keyMap_insertAppKey (hinv : KeyStoreInv s) {add : Nat} {key : AppKey}
    (hfree : s.pAppKeys[add]? = some none) (hnew : ∀ b ∈ live s.pAppKeys, b.appIdx ≠ key.appIdx)
    (hsub : s'.pSub = s.pSub) (hkeys : s'.pAppKeys = s.pAppKeys.set add (some key)) :
    keyMap s' = (keyMap s).addApp key.appIdx key.netIdx key.activeVal := by
  unfold keyMap KeyMap.addApp
  rw [hsub, hkeys, rowAt_set_free hinv.appKeys.2 hfree hnew, map_putRecord]
  rfl

/-- Rewriting a live app key's net_idx rebinds that key in the map. -/
theorem keyMap_rebindAppKey (hinv : KeyStoreInv s) {i : Nat} {key : AppKey}
    (hrow : s.pAppKeys[i]? = some (some key)) (n : Nat) (hsub : s'.pSub = s.pSub)
    (hkeys : s'.pAppKeys = s.pAppKeys.set i (some { key with netIdx := n })) :
    keyMap s' = (keyMap s).addApp key.appIdx n key.activeVal := by
  unfold keyMap KeyMap.addApp
  rw [hsub, hkeys, rowAt_set_some (b := { key with netIdx := n }) hinv.appKeys.2 hrow rfl, map_putRecord]
  rfl

/-- Freeing a live app-key row deletes that key from the map. -/
theorem keyMap_eraseAppKey (hinv : KeyStoreInv s) {i : Nat} {key : AppKey}
    (hrow : s.pAppKeys[i]? = some (some key)) (hsub : s'.pSub = s.pSub)
    (hkeys : s'.pAppKeys = s.pAppKeys.set i none) :
    keyMap s' = (keyMap s).deleteApp key.appIdx := by
  unfold keyMap KeyMap.deleteApp
  rw [hsub, hkeys, rowAt_set_none hinv.appKeys.2 hrow, map_putRecord]
  rfl

/-- Freeing a subnet row and every app key bound to it deletes the subnet and its keys
from the map. -/
theorem keyMap_deleteNet (hinv : KeyStoreInv s) {i : Nat} {sub : Subnet}
    (hrow : s.pSub[i]? = some (some sub)) (hsub : s'.pSub = s.pSub.set i none)
    (hkeys : s'.pAppKeys = s.pAppKeys.map (dropNet sub.netIdx)) :
    keyMap s' = (keyMap s).deleteNet sub.netIdx := by
  unfold keyMap KeyMap.deleteNet
  rw [hsub, hkeys, rowAt_set_none hinv.subnets.2 hrow, map_putRecord,
    rowAt_map_dropNet hinv.appKeys.2]
  congr 1
  funext a
  dsimp only
  cases rowAt AppKey.appIdx s.pAppKeys a with
  | none => rfl
  | some k => by_cases h : k.netIdx = sub.netIdx <;> simp [h, Option.filter_some]

end Tables

/-! ## Every call is a step of the map -/

section Refines

variable (cfg : Config) {s s' : BtMesh}

/-- A net-key add is a step of the map, under the key-store invariant. -/
theorem netKeyAdd_refines (hinv : KeyStoreInv s) (env : Env) (k : Option Bytes16) (r : Option Nat) :
    KeyMap.Step (.netKeyAdd env k r) (keyMap s)
      (keyMap (btMeshProvisionerLocalNetKeyAdd cfg env s k r).2.2) := by
  rcases netKeyAdd_outcome cfg env s k r with ⟨-, -, hs'⟩ | ⟨-, hs', -⟩ |
      ⟨-, -, add, i, pKey, nid, hadd, hi, hnew, hexp, hkey, -, hsub, hkeys, -, -⟩
  · rw [hs']; exact .stay _ _
  · rw [hs']; exact .stay _ _
  · rw [keyMap_insertSubnet hinv (firstFreeIn_eq_some.mp hadd).2.2.1 hnew hsub hkeys]
    exact .netKeyAdd env k r _ i pKey (keyMap_net_eq_none hnew) hi hexp hkey

/-- An app-key add is a step of the map, under the key-store invariant. -/
theorem appKeyAdd_refines (hinv : KeyStoreInv s) (env : Env) (k : Option Bytes16) (n : Nat)
    (r : Option Nat) :
    KeyMap.Step (.appKeyAdd env k n r) (keyMap s)
      (keyMap (btMeshProvisionerLocalAppKeyAdd cfg env s k n r).2.2) := by
  rcases appKeyAdd_outcome cfg env s k n r with ⟨-, -, hs'⟩ | ⟨-, hs', -⟩ |
      ⟨-, -, ⟨sub, hsubm, hsn⟩, add, i, pKey, aid, hadd, hi, hnew, hexp, hkey, -, hkeys, hsub, -, -⟩
  · rw [hs']; exact .stay _ _
  · rw [hs']; exact .stay _ _
  · rw [keyMap_insertAppKey hinv (firstFreeIn_eq_some.mp hadd).2.2.1 hnew hsub hkeys]
    refine .appKeyAdd env k n r _ i pKey ?_ (keyMap_app_eq_none hnew) hi hexp hkey
    rw [← hsn, keyMap_net_of_mem hinv hsubm]
    exact Option.some_ne_none _

/-- A net-key delete that returns, its cascade included, is a step of the map, under the
key-store invariant. -/
theorem netKeyDelete_refines (hinv : KeyStoreInv s) {n : Nat} {r : Int} {rs : List Int}
    (h : btMeshProvisionerLocalNetKeyDelete cfg s n = some (r, rs, s')) :
    KeyMap.Step (.netKeyDelete n) (keyMap s) (keyMap s') := by
  obtain ⟨hok, hfail⟩ := netKeyDelete_spec_of_some cfg hinv h
  by_cases hr : r = 0
  · obtain ⟨-, -, -, -, ⟨i, sub, hrow, rfl, hsub⟩, hkeys, -⟩ := hok hr
    rw [keyMap_deleteNet hinv hrow hsub hkeys]
    refine .netKeyDelete _ _ ?_
    rw [keyMap_net_of_mem hinv (mem_live.mpr (List.mem_iff_getElem?.mpr ⟨i, hrow⟩))]
    exact Option.some_ne_none _
  · rw [hfail hr]; exact .stay _ _

/-- An app-key delete is a step of the map, under the key-store invariant. -/
theorem appKeyDelete_refines (hinv : KeyStoreInv s) (n a : Nat) :
    KeyMap.Step (.appKeyDelete n a) (keyMap s)
      (keyMap (btMeshProvisionerLocalAppKeyDelete cfg s n a).2) := by
  rcases appKeyDelete_cases cfg s n a with hfail | ⟨hn, i, key, hf⟩
  · rw [hfail]; exact .stay _ _
  obtain ⟨hrow, hp, -⟩ := findRow_eq_some hf
  obtain ⟨rfl, rfl⟩ : key.netIdx = n ∧ key.appIdx = a := by simpa using hp
  obtain ⟨-, hkeys, hsub, -⟩ := appKeyDelete_of_findRow cfg hn hf
  rw [keyMap_eraseAppKey hinv hrow hsub hkeys]
  exact .appKeyDelete _ _ _ _ (keyMap_app_of_mem hinv (mem_live.mpr (List.mem_iff_getElem?.mpr ⟨i, hrow⟩)))

omit cfg in
/-- Rebinding an app key to a subnet is a step of the map, under the key-store
invariant. -/
theorem bindAppNetIdx_refines (hinv : KeyStoreInv s) (n a : Nat) :
    KeyMap.Step (.bindAppNetIdx n a) (keyMap s) (keyMap (btMeshProvisionerBindLocalAppNetIdx s n a).2) := by
  rcases bindAppNetIdx_rebinds (n := n) (a := a) (s := s) rfl with he | ⟨⟨sub, hsubm, hsn⟩, i, key, hrow, rfl, he⟩
  · rw [he]; exact .stay _ _
  have hmap : keyMap (btMeshProvisionerBindLocalAppNetIdx s n key.appIdx).2 =
      (keyMap s).addApp key.appIdx n key.activeVal :=
    keyMap_rebindAppKey hinv hrow n (by rw [he]) (by rw [he])
  rw [hmap]
  refine .bindAppNetIdx n _ _ key.netIdx key.activeVal ?_
    (keyMap_app_of_mem hinv (mem_live.mpr (List.mem_iff_getElem?.mpr ⟨i, hrow⟩)))
  rw [← hsn, keyMap_net_of_mem hinv hsubm]
  exact Option.some_ne_none _

/-- A net_create is a step of the map, under the key-store invariant. -/
theorem netCreate_refines (hinv : KeyStoreInv s) (env : Env) (comp : Bool) (prov : Option ProvInfo) :
    KeyMap.Step (.netCreate env comp prov) (keyMap s) (keyMap (btMeshProvisionerNetCreate cfg env s comp prov).2) := by
  obtain ⟨hkeys, -, hsub | ⟨hnone, sub, hidx, hsub⟩⟩ := @netCreate_cases cfg env s _ comp prov rfl
  · rw [keyMap_congr hsub hkeys]; exact .stay _ _
  have hlive : live s.pSub = [] :=
    List.eq_nil_iff_forall_not_mem.mpr fun a ha => by simpa using hnone _ (mem_live.mp ha)
  by_cases hrows : s.pSub = []
  · rw [keyMap_congr (by rw [hsub, hrows]; rfl) hkeys]; exact .stay _ _
  obtain ⟨o, os, hos⟩ := List.exists_cons_of_ne_nil hrows
  have hfree : s.pSub[0]? = some none := by
    rw [hos, List.getElem?_cons_zero, hnone o (hos ▸ List.mem_cons_self o os)]
  rw [keyMap_insertSubnet hinv hfree (by simp [hlive]) hsub hkeys, hidx]
  exact .netCreate env comp prov _ _ fun n => keyMap_net_eq_none (by simp [hlive])

/-- The fast-provisioning add is a net-key add. -/
theorem KeyMap.Step.fast {env : Env} {k : Option Bytes16} {r : Option Nat} {m m' : KeyMap}
    (h : KeyMap.Step (.netKeyAdd env k r) m m') : KeyMap.Step (.addFastProvNetKey env k) m m' := by
  cases h with
  | stay => exact .stay _ _
  | netKeyAdd _ _ _ _ i k' hi hlt _ hk => exact .addFastProvNetKey env k m i k' hi hlt hk

/-- Every key-store call that returns is a step of the map, from a state that keeps the
key-store invariant. -/
theorem keyStep_refines (hinv : KeyStoreInv s) {op : KeyOp} (hs : keyStep cfg s op = some s') :
    KeyMap.Step op (keyMap s) (keyMap s') := by
  cases op with
  | netCreate env comp prov => cases hs; exact netCreate_refines cfg hinv env comp prov
  | netKeyAdd env k i => cases hs; exact netKeyAdd_refines cfg hinv env k i
  | netKeyDelete n =>
    obtain ⟨⟨r, rs, s''⟩, hd, rfl⟩ := Option.map_eq_some'.mp hs
    exact netKeyDelete_refines cfg hinv hd
  | appKeyAdd env k n i => cases hs; exact appKeyAdd_refines cfg hinv env k n i
  | appKeyDelete n a => cases hs; exact appKeyDelete_refines cfg hinv n a
  | bindAppNetIdx n a => cases hs; exact bindAppNetIdx_refines hinv n a
  | bindModelAppIdx e m c a =>
    cases hs
    obtain ⟨hsub, hkeys, -⟩ := bindModel_cases cfg (e := e) (m := m) (c := c) (a := a) (s := s) rfl
    rw [keyMap_congr hsub hkeys]; exact .stay _ _
  | setFastProvNetIdx i =>
    cases hs
    obtain ⟨hsub, hkeys, -⟩ := setFastProvNetIdx_tables s i
    rw [keyMap_congr hsub hkeys]; exact .stay _ _
  | addFastProvNetKey env k =>
    cases hs
    obtain ⟨hsub, hkeys, -⟩ := addFastProvNetKey_tables cfg env s k
    rw [keyMap_congr hsub hkeys]
    exact (netKeyAdd_refines cfg (s := { s with pNetIdxNext := s.fastProvNetIdx })
      (hinv.congr rfl rfl rfl) env k _).fast

end Refines

/-! ## Whole runs -/

section Runs

variable (cfg : Config) {s s' : BtMesh}

/-- INTERNAL: Every run of calls that return keeps the key-store invariant. -/
theorem keyRun_keyStoreInv (hinv : KeyStoreInv s) {ops : List KeyOp}
    (hrun : keyRun cfg s ops = some s') : KeyStoreInv s' := by
  induction ops generalizing s with
  | nil => cases hrun; exact hinv
  | cons op ops ih =>
    obtain ⟨s1, hs1, hrun⟩ := Option.bind_eq_some.mp hrun
    exact ih (keyStep_keyStoreInv cfg hinv hs1) hrun

/-- INTERNAL: Every run of key-store calls that return is a run of the map, from a state that
keeps the key-store invariant. -/
theorem keyRun_keyMapRun (hinv : KeyStoreInv s) {ops : List KeyOp}
    (hrun : keyRun cfg s ops = some s') : KeyMap.Run ops (keyMap s) (keyMap s') := by
  induction ops generalizing s with
  | nil => cases hrun; exact .nil _
  | cons op ops ih =>
    obtain ⟨s1, hs1, hrun⟩ := Option.bind_eq_some.mp hrun
    exact .cons (keyStep_refines cfg hinv hs1) (ih (keyStep_keyStoreInv cfg hinv hs1) hrun)

/-- From a state that keeps the key-store invariant, every run of key-store calls that
return is a run of the map, and at its end the two getters read the map. -/
theorem keyRun_refines (hinv : KeyStoreInv s) {ops : List KeyOp}
    (hrun : keyRun cfg s ops = some s') :
    KeyMap.Run ops (keyMap s) (keyMap s') ∧
      (∀ n, btMeshProvisionerLocalNetKeyGet s' n = (keyMap s').net n) ∧
      ∀ n a, btMeshProvisionerLocalAppKeyGet s' n a = (keyMap s').appGet n a :=
  ⟨keyRun_keyMapRun cfg hinv hrun, netKeyGet_keyMap s',
    appKeyGet_keyMap (keyRun_keyStoreInv cfg hinv hrun)⟩

/-- From a state that keeps the key-store invariant, over every run of key-store calls that
return, a network key the getter reads is read with the same bytes at the end unless a call
of the run deletes its subnet, and an application key the getter reads for a subnet is read
for it with the same bytes unless a call deletes the key or its subnet, or rebinds the key. -/
theorem keyRun_keyGet_stable (hinv : KeyStoreInv s) {ops : List KeyOp}
    (hrun : keyRun cfg s ops = some s') :
    (∀ n k, (∀ op ∈ ops, op ≠ .netKeyDelete n) →
      btMeshProvisionerLocalNetKeyGet s n = some k → btMeshProvisionerLocalNetKeyGet s' n = some k) ∧
    (∀ n a k, (∀ op ∈ ops, op ≠ .netKeyDelete n ∧ op ≠ .appKeyDelete n a ∧
        ∀ n', op ≠ .bindAppNetIdx n' a) →
      btMeshProvisionerLocalAppKeyGet s n a = some k →
        btMeshProvisionerLocalAppKeyGet s' n a = some k) := by
  have hmap := keyRun_keyMapRun cfg hinv hrun
  refine ⟨fun n k hops hk => ?_, fun n a k hops hk => ?_⟩
  · rw [netKeyGet_keyMap] at hk ⊢
    exact hmap.net_eq hk hops
  · rw [appKeyGet_keyMap hinv, KeyMap.appGet_eq_some] at hk
    rw [appKeyGet_keyMap (keyRun_keyStoreInv cfg hinv hrun), KeyMap.appGet_eq_some]
    exact hmap.app_eq hk hops

end Runs

/-- A key store with two rows in each table, at boot. -/
def mapBoot : BtMesh := bootState smallConfig 2 2 []

/-- The network created with key 1, and app key 0 added for it with key 2. -/
def mapSetup : List KeyOp :=
  [.netCreate (.succeeding (testKey 1)) true (some ⟨1, 0, 0⟩),
    .appKeyAdd (.succeeding (testKey 2)) (some (testKey 2)) 0 (some 0xFFFF)]

/-- The state `mapSetup` leaves. -/
def mapStart : BtMesh := (keyRun smallConfig mapBoot mapSetup).getD mapBoot

/-- Subnet 1 added with key 3, app key 1 added for it with key 4 and rebound to the primary
subnet, then subnet 1 deleted. -/
def mapOps : List KeyOp :=
  [.netKeyAdd (.succeeding (testKey 3)) (some (testKey 3)) (some 0xFFFF),
    .appKeyAdd (.succeeding (testKey 4)) (some (testKey 4)) 1 (some 0xFFFF),
    .bindAppNetIdx 0 1, .netKeyDelete 1]

/-- The state `mapOps` leaves (`mapStart` had it not returned). -/
def mapEnd : BtMesh := (keyRun smallConfig mapStart mapOps).getD mapStart

/-- The state the setup leaves keeps the key-store invariant. -/
theorem mapStart_keyStoreInv : KeyStoreInv mapStart :=
  have hboot : KeyStoreInit mapBoot := keyStoreInit_bootState smallConfig 2 2 (by decide)
  keyRun_keyStoreInv smallConfig hboot.keyStoreInv
    (rfl : keyRun smallConfig mapBoot mapSetup = some mapStart)

/-- The run `mapOps` returns, is a run of the map, and leaves getters that read the map. -/
theorem keyRun_refines_mapOps :
    keyRun smallConfig mapStart mapOps = some mapEnd ∧
      KeyMap.Run mapOps (keyMap mapStart) (keyMap mapEnd) ∧
      (∀ n, btMeshProvisionerLocalNetKeyGet mapEnd n = (keyMap mapEnd).net n) ∧
      ∀ n a, btMeshProvisionerLocalAppKeyGet mapEnd n a = (keyMap mapEnd).appGet n a :=
  ⟨rfl, keyRun_refines smallConfig mapStart_keyStoreInv rfl⟩

/-- After `mapOps` the primary subnet is still read with key 1 and app key 0 with key 2; the
app key added for the deleted subnet survives it, having been rebound. -/
theorem keyRun_keyGet_stable_mapOps :
    keyRun smallConfig mapStart mapOps = some mapEnd ∧
      btMeshProvisionerLocalNetKeyGet mapEnd 0 = some (testKey 1) ∧
      btMeshProvisionerLocalAppKeyGet mapEnd 0 0 = some (testKey 2) ∧
      btMeshProvisionerLocalAppKeyGet mapEnd 0 1 = some (testKey 4) :=
  have hrun : keyRun smallConfig mapStart mapOps = some mapEnd := rfl
  have hstable := keyRun_keyGet_stable smallConfig mapStart_keyStoreInv hrun
  ⟨hrun, hstable.1 0 _ (by simp [mapOps]) rfl, hstable.2 0 0 _ (by simp [mapOps]) rfl, rfl⟩

end BleMeshProvisioner
