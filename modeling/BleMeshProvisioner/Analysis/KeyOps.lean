import BleMeshProvisioner.Analysis.Tables
import BleMeshProvisioner.Model.FastProv

/-!
# What each key-store call can do

One lemma per entry point of the key store, saying everything the call can do to the
subnet table, the app-key table and the model slots, with the guards that let it. Every
later proof about the key store cites these and never unfolds the calls again.

The two adds have three outcomes (`NetKeyAddOutcome`, `AppKeyAddOutcome`): a failure,
after which only the auto-index cursor may have moved; the duplicate-key early return,
which changes nothing and reports the index of the first row holding the key in either
slot; and an insertion into a free row, of a fresh index below 0x1000. The same case
analysis says what an add does to its cursor: nothing, unless it asked for an automatic
index and ran the loop, which leaves an `AutoIdxOutcome`.
-/

set_option autoImplicit false

namespace BleMeshProvisioner

variable (cfg : Config)

/-! ## The auto-index loop -/

/-- INTERNAL: A successful run of the loop stops at a free index below 0x1000, at or above
the cursor, and leaves the cursor there. -/
theorem idxAlloc_some {inUse : Nat → Bool} {c c' i : Nat} (hc : c < 0x1000)
    (h : idxAlloc inUse c (0x1000 - c) = (c', some i)) :
    c' = i ∧ c ≤ i ∧ i < 0x1000 ∧ inUse i = false ∧ ∀ j, c ≤ j → j < i → inUse j = true := by
  rw [idxAlloc_eq inUse c hc] at h
  split at h
  · rename_i j hj
    simp only [Prod.mk.injEq, Option.some.injEq] at h
    obtain ⟨rfl, rfl⟩ := h
    obtain ⟨h1, h2, h3⟩ := List.find?_range'_eq_some.mp hj
    obtain ⟨h4, h5⟩ := List.mem_range'_1.mp h2
    exact ⟨rfl, h4, by omega, by simpa using h1, fun j hj hji => by simpa using h3 j hj hji⟩
  · simp at h

/-- INTERNAL: A failed run of the loop found every index from the cursor to 0xFFF in use,
and leaves the cursor at 0x1000. -/
theorem idxAlloc_none {inUse : Nat → Bool} {c c' : Nat} (hc : c < 0x1000)
    (h : idxAlloc inUse c (0x1000 - c) = (c', none)) :
    c' = 0x1000 ∧ ∀ j, c ≤ j → j < 0x1000 → inUse j = true := by
  rw [idxAlloc_eq inUse c hc] at h
  split at h
  · simp at h
  · rename_i hn
    refine ⟨(Prod.mk.inj_iff.mp h).1.symm, fun j hj hj' => ?_⟩
    simpa using List.find?_range'_eq_none.mp hn j hj (by omega)

/-! ## What the loop leaves -/

/-- What the auto-index loop leaves, read off the add's return `e`, reported index `ri` and
cursor `c'`, from cursor `c` over the indices `used`: the least index from `c` up that is
not used, reported with 0 and with the cursor on it; or, every index from `c` to 0xFFF
being used, -EIO with the cursor at 0x1000. -/
def AutoIdxOutcome (used : Nat → Prop) (c : Nat) (e : Int) (ri : Option Nat) (c' : Nat) : Prop :=
  (e = 0 ∧ ri = some c' ∧ c ≤ c' ∧ c' < 0x1000 ∧ ¬used c' ∧ ∀ j, c ≤ j → j < c' → used j) ∨
  (e = -eio ∧ c' = 0x1000 ∧ ∀ j, c ≤ j → j < 0x1000 → used j)

section Loop

variable {used : Nat → Prop} {c c' : Nat} {e : Int} {ri : Option Nat}

/-- The loop succeeds exactly when some index from the cursor to 0xFFF is free. -/
theorem AutoIdxOutcome.eq_zero_iff (h : AutoIdxOutcome used c e ri c') :
    e = 0 ↔ ∃ i, c ≤ i ∧ i < 0x1000 ∧ ¬used i := by
  rcases h with ⟨rfl, -, hc, hlt, hfree, -⟩ | ⟨rfl, -, hall⟩
  · exact iff_of_true rfl ⟨c', hc, hlt, hfree⟩
  · exact iff_of_false neg_eio_ne_zero fun ⟨i, hi, hlt, hfree⟩ => hfree (hall i hi hlt)

variable {α : Type} {f : α → Nat} {t : List (Option α)}

/-- INTERNAL: An index is in use for the loop exactly when an occupied row has it. -/
theorem checkIdx_true_ne_zero {x : Nat} : checkIdx f t x true ≠ 0 ↔ ∃ a ∈ live t, f a = x := by
  rw [Ne, checkIdx_true_eq_zero]
  push_neg
  rfl

/-- INTERNAL: A run of the loop that finds an index. -/
theorem autoIdxOutcome_of_some {i : Nat} (hc : c < 0x1000)
    (h : idxAlloc (fun j => checkIdx f t j true ≠ 0) c (0x1000 - c) = (c', some i)) :
    AutoIdxOutcome (fun j => ∃ a ∈ live t, f a = j) c 0 (some i) c' := by
  obtain ⟨rfl, hci, hi, hfree, hbelow⟩ := idxAlloc_some hc h
  refine .inl ⟨rfl, rfl, hci, hi, ?_, fun j hj hji => ?_⟩
  · exact fun ⟨a, ha, hfa⟩ => checkIdx_true_eq_zero.mp (by simpa using hfree) a ha hfa
  · exact checkIdx_true_ne_zero.mp (by simpa using hbelow j hj hji)

/-- INTERNAL: A run of the loop that runs out. -/
theorem autoIdxOutcome_of_none (hc : c < 0x1000)
    (h : idxAlloc (fun j => checkIdx f t j true ≠ 0) c (0x1000 - c) = (c', none)) :
    AutoIdxOutcome (fun j => ∃ a ∈ live t, f a = j) c (-eio) ri c' := by
  obtain ⟨rfl, hall⟩ := idxAlloc_none hc h
  exact .inr ⟨rfl, rfl, fun j hj hjc => checkIdx_true_ne_zero.mp (by simpa using hall j hj hjc)⟩

end Loop

/-! ## Adds -/

/-- The three things `bt_mesh_provisioner_local_net_key_add(k, &r)` can do to `s`: fail,
changing at most the cursor and leaving the caller's index; find the key already held in
either slot of a subnet and report that subnet's index, changing nothing; or write a new
subnet into the first free row, with a fresh index below 0x1000 (the requested one if
explicit), the key (the given one if any) in `keys[0]`, the other slot zero and the
normal phase, leaving the cursor below 0x1000. -/
def NetKeyAddOutcome (s : BtMesh) (k : Option Bytes16) (r : Option Nat)
    (res : Int × Option Nat × BtMesh) : Prop :=
  (res.1 ≠ 0 ∧ res.2.1 = r ∧ res.2.2 = { s with pNetIdxNext := res.2.2.pNetIdxNext }) ∨
  (res.1 = 0 ∧ res.2.2 = s ∧ ∃ i, provisionerCheckNetKey s k = some i ∧ res.2.1 = some i) ∨
  (res.1 = 0 ∧ provisionerCheckNetKey s k = none ∧
    ∃ add i pKey nid, provisionerCheckNetKeyFull s = some add ∧ i < 0x1000 ∧
      (∀ b ∈ live s.pSub, b.netIdx ≠ i) ∧ (∀ x, r = some x → x ≠ 0xFFFF → i = x) ∧
      (∀ K, k = some K → pKey = K) ∧ res.2.1 = some i ∧
      res.2.2.pSub = s.pSub.set add (some ⟨i, ⟨pKey, nid⟩, SubnetKeys.zero, false,
        bleMeshKrNormal, bleMeshNodeIdentityNotSupported⟩) ∧
      res.2.2.pAppKeys = s.pAppKeys ∧ res.2.2.elems = s.elems ∧ res.2.2.pNetIdxNext < 0x1000)

/-- What a net-key add logs: nothing, with the subnet table as it was; or, having written a
subnet into the first free row, the cursor and then that subnet. -/
def NetKeyAddLog (s s' : BtMesh) : Prop :=
  (s'.effects = s.effects ∧ s'.pSub = s.pSub) ∨
  ∃ add c sub, provisionerCheckNetKeyFull s = some add ∧ s'.pSub = s.pSub.set add (some sub) ∧
    s'.effects = s.effects ++ (if cfg.settings then [.storePNetIdx c] else []) ++
      if cfg.settings then [.storePSubnet sub] else []

/-- What `bt_mesh_provisioner_local_net_key_add` leaves, what it does to its cursor (nothing,
unless it asked for an automatic index and reached the loop, which leaves an
`AutoIdxOutcome`), what it logs, and that it writes no field but its cursor, the subnet
table and the log. -/
theorem netKeyAdd_outcome_log (env : Env) (s : BtMesh) (k : Option Bytes16) (r : Option Nat) :
    NetKeyAddOutcome s k r (btMeshProvisionerLocalNetKeyAdd cfg env s k r) ∧
      ((btMeshProvisionerLocalNetKeyAdd cfg env s k r).2.2.pNetIdxNext = s.pNetIdxNext ∨
        r = some 0xFFFF ∧ AutoIdxOutcome (fun j => ∃ sub ∈ live s.pSub, sub.netIdx = j)
          s.pNetIdxNext (btMeshProvisionerLocalNetKeyAdd cfg env s k r).1
          (btMeshProvisionerLocalNetKeyAdd cfg env s k r).2.1
          (btMeshProvisionerLocalNetKeyAdd cfg env s k r).2.2.pNetIdxNext) ∧
      NetKeyAddLog cfg s (btMeshProvisionerLocalNetKeyAdd cfg env s k r).2.2 ∧
      ∃ c t es, (btMeshProvisionerLocalNetKeyAdd cfg env s k r).2.2 =
        { s with pNetIdxNext := c, pSub := t, effects := es } := by
  generalize hres : btMeshProvisionerLocalNetKeyAdd cfg env s k r = res
  unfold btMeshProvisionerLocalNetKeyAdd at hres
  unfold NetKeyAddOutcome NetKeyAddLog
  by_cases hcur : 0x1000 ≤ s.pNetIdxNext
  · rw [if_pos hcur] at hres; subst hres; exact ⟨.inl ⟨neg_eio_ne_zero, rfl, rfl⟩, .inl rfl, .inl ⟨rfl, rfl⟩, ⟨_, _, _, rfl⟩⟩
  rw [if_neg hcur] at hres
  cases r with
  | none => subst hres; exact ⟨.inl ⟨neg_einval_ne_zero, rfl, rfl⟩, .inl rfl, .inl ⟨rfl, rfl⟩, ⟨_, _, _, rfl⟩⟩
  | some x =>
  dsimp only at hres
  by_cases hx : x ≠ 0xFFFF ∧ 0x1000 ≤ x
  · rw [if_pos hx] at hres; subst hres; exact ⟨.inl ⟨neg_einval_ne_zero, rfl, rfl⟩, .inl rfl, .inl ⟨rfl, rfl⟩, ⟨_, _, _, rfl⟩⟩
  rw [if_neg hx] at hres
  cases hck : provisionerCheckNetKey s k with
  | some i =>
    rw [hck] at hres; subst hres; exact ⟨.inr (.inl ⟨rfl, rfl, _, rfl, rfl⟩), .inl rfl, .inl ⟨rfl, rfl⟩, ⟨_, _, _, rfl⟩⟩
  | none =>
  rw [hck] at hres; dsimp only at hres
  by_cases hidx : provisionerCheckNetIdx s x true ≠ 0
  · rw [if_pos hidx] at hres; subst hres; exact ⟨.inl ⟨neg_eexist_ne_zero, rfl, rfl⟩, .inl rfl, .inl ⟨rfl, rfl⟩, ⟨_, _, _, rfl⟩⟩
  rw [if_neg hidx] at hres
  cases hadd : provisionerCheckNetKeyFull s with
  | none =>
    rw [hadd] at hres; subst hres; exact ⟨.inl ⟨neg_enomem_ne_zero, rfl, rfl⟩, .inl rfl, .inl ⟨rfl, rfl⟩, ⟨_, _, _, rfl⟩⟩
  | some add =>
  rw [hadd] at hres; dsimp only at hres
  split at hres
  · subst hres; exact ⟨.inl ⟨neg_eio_ne_zero, rfl, rfl⟩, .inl rfl, .inl ⟨rfl, rfl⟩, ⟨_, _, _, rfl⟩⟩
  rename_i pKey hpKey
  have hkey : ∀ K, k = some K → pKey = K := by
    rintro K rfl
    simpa using hpKey.symm
  split at hres
  · subst hres; exact ⟨.inl ⟨neg_enomem_ne_zero, rfl, rfl⟩, .inl rfl, .inl ⟨rfl, rfl⟩, ⟨_, _, _, rfl⟩⟩
  split at hres
  · subst hres; exact ⟨.inl ⟨neg_eio_ne_zero, rfl, rfl⟩, .inl rfl, .inl ⟨rfl, rfl⟩, ⟨_, _, _, rfl⟩⟩
  rename_i nid hnid
  have hfree : ∀ i, provisionerCheckNetIdx s i true = 0 → ∀ b ∈ live s.pSub, b.netIdx ≠ i :=
    fun i h => checkIdx_true_eq_zero.mp h
  split at hres
  · rename_i hne
    subst hres
    refine ⟨.inr (.inr ⟨rfl, rfl, add, x, pKey, nid, rfl, by omega,
      hfree x (by simpa using hidx), fun y hy _ => Option.some.inj hy, hkey, rfl, rfl,
      rfl, rfl, by simp; omega⟩), .inl rfl,
      .inr ⟨add, _, _, rfl, rfl, rfl⟩, ⟨_, _, _, rfl⟩⟩
  rename_i hauto
  rw [not_not] at hauto
  subst hauto
  split at hres
  · rename_i c hloop
    subst hres
    exact ⟨.inl ⟨neg_eio_ne_zero, rfl, rfl⟩, .inr ⟨rfl, autoIdxOutcome_of_none (not_le.mp hcur) hloop⟩,
      .inl ⟨rfl, rfl⟩, ⟨_, _, _, rfl⟩⟩
  · rename_i c i hloop
    have hout := autoIdxOutcome_of_some (not_le.mp hcur) hloop
    obtain ⟨rfl, -, hi, hfr, -⟩ := idxAlloc_some (by omega) hloop
    subst hres
    exact ⟨.inr (.inr ⟨rfl, rfl, add, c, pKey, nid, rfl, hi, hfree c (by simpa using hfr),
      fun y hy hne => absurd (Option.some.inj hy).symm hne, hkey, rfl, rfl, rfl, rfl,
      by simpa using hi⟩), .inr ⟨rfl, hout⟩,
      .inr ⟨add, _, _, rfl, rfl, rfl⟩, ⟨_, _, _, rfl⟩⟩

/-- What `bt_mesh_provisioner_local_net_key_add` leaves, and what it does to its cursor. -/
theorem netKeyAdd_outcome_cursor (env : Env) (s : BtMesh) (k : Option Bytes16) (r : Option Nat) :
    NetKeyAddOutcome s k r (btMeshProvisionerLocalNetKeyAdd cfg env s k r) ∧
      ((btMeshProvisionerLocalNetKeyAdd cfg env s k r).2.2.pNetIdxNext = s.pNetIdxNext ∨
        r = some 0xFFFF ∧ AutoIdxOutcome (fun j => ∃ sub ∈ live s.pSub, sub.netIdx = j)
          s.pNetIdxNext (btMeshProvisionerLocalNetKeyAdd cfg env s k r).1
          (btMeshProvisionerLocalNetKeyAdd cfg env s k r).2.1
          (btMeshProvisionerLocalNetKeyAdd cfg env s k r).2.2.pNetIdxNext) :=
  (netKeyAdd_outcome_log cfg env s k r).imp_right And.left

/-- Every net-key add ends in one of the outcomes NetKeyAddOutcome lists. -/
theorem netKeyAdd_outcome (env : Env) (s : BtMesh) (k : Option Bytes16) (r : Option Nat) :
    NetKeyAddOutcome s k r (btMeshProvisionerLocalNetKeyAdd cfg env s k r) :=
  (netKeyAdd_outcome_cursor cfg env s k r).1

/-- The three things `bt_mesh_provisioner_local_app_key_add(k, n, &r)` can do, as for the
net-key add; an insertion also needs `n` to name a live subnet, and binds the new key
to it. -/
def AppKeyAddOutcome (s : BtMesh) (k : Option Bytes16) (n : Nat) (r : Option Nat)
    (res : Int × Option Nat × BtMesh) : Prop :=
  (res.1 ≠ 0 ∧ res.2.1 = r ∧ res.2.2 = { s with pAppIdxNext := res.2.2.pAppIdxNext }) ∨
  (res.1 = 0 ∧ res.2.2 = s ∧ ∃ i, provisionerCheckAppKey s k = some i ∧ res.2.1 = some i) ∨
  (res.1 = 0 ∧ provisionerCheckAppKey s k = none ∧ (∃ sub ∈ live s.pSub, sub.netIdx = n) ∧
    ∃ add i pKey aid, provisionerCheckAppKeyFull s = some add ∧ i < 0x1000 ∧
      (∀ b ∈ live s.pAppKeys, b.appIdx ≠ i) ∧ (∀ x, r = some x → x ≠ 0xFFFF → i = x) ∧
      (∀ K, k = some K → pKey = K) ∧ res.2.1 = some i ∧
      res.2.2.pAppKeys = s.pAppKeys.set add (some ⟨n, i, false, ⟨aid, pKey⟩, AppKeys.zero⟩) ∧
      res.2.2.pSub = s.pSub ∧ res.2.2.elems = s.elems ∧ res.2.2.pAppIdxNext < 0x1000)

/-- What an app-key add logs: nothing, with the app-key table as it was; or, having written a
key into the first free row, the cursor and then that key. -/
def AppKeyAddLog (s s' : BtMesh) : Prop :=
  (s'.effects = s.effects ∧ s'.pAppKeys = s.pAppKeys) ∨
  ∃ add c key, provisionerCheckAppKeyFull s = some add ∧
    s'.pAppKeys = s.pAppKeys.set add (some key) ∧
    s'.effects = s.effects ++ (if cfg.settings then [.storePAppIdx c] else []) ++
      if cfg.settings then [.storePAppKey key] else []

/-- What `bt_mesh_provisioner_local_app_key_add` leaves, what it does to its cursor (nothing,
unless it asked for an automatic index and reached the loop, which leaves an
`AutoIdxOutcome`), what it logs, and that it writes no field but its cursor, the app-key
table and the log. -/
theorem appKeyAdd_outcome_log (env : Env) (s : BtMesh) (k : Option Bytes16) (n : Nat)
    (r : Option Nat) :
    AppKeyAddOutcome s k n r (btMeshProvisionerLocalAppKeyAdd cfg env s k n r) ∧
      ((btMeshProvisionerLocalAppKeyAdd cfg env s k n r).2.2.pAppIdxNext = s.pAppIdxNext ∨
        r = some 0xFFFF ∧ AutoIdxOutcome (fun j => ∃ key ∈ live s.pAppKeys, key.appIdx = j)
          s.pAppIdxNext (btMeshProvisionerLocalAppKeyAdd cfg env s k n r).1
          (btMeshProvisionerLocalAppKeyAdd cfg env s k n r).2.1
          (btMeshProvisionerLocalAppKeyAdd cfg env s k n r).2.2.pAppIdxNext) ∧
      AppKeyAddLog cfg s (btMeshProvisionerLocalAppKeyAdd cfg env s k n r).2.2 ∧
      ∃ c t es, (btMeshProvisionerLocalAppKeyAdd cfg env s k n r).2.2 =
        { s with pAppIdxNext := c, pAppKeys := t, effects := es } := by
  generalize hres : btMeshProvisionerLocalAppKeyAdd cfg env s k n r = res
  unfold btMeshProvisionerLocalAppKeyAdd at hres
  unfold AppKeyAddOutcome AppKeyAddLog
  by_cases hcur : 0x1000 ≤ s.pAppIdxNext
  · rw [if_pos hcur] at hres; subst hres; exact ⟨.inl ⟨neg_eio_ne_zero, rfl, rfl⟩, .inl rfl, .inl ⟨rfl, rfl⟩, ⟨_, _, _, rfl⟩⟩
  rw [if_neg hcur] at hres
  cases r with
  | none => subst hres; exact ⟨.inl ⟨neg_einval_ne_zero, rfl, rfl⟩, .inl rfl, .inl ⟨rfl, rfl⟩, ⟨_, _, _, rfl⟩⟩
  | some x =>
  dsimp only at hres
  by_cases hx : x ≠ 0xFFFF ∧ 0x1000 ≤ x
  · rw [if_pos hx] at hres; subst hres; exact ⟨.inl ⟨neg_einval_ne_zero, rfl, rfl⟩, .inl rfl, .inl ⟨rfl, rfl⟩, ⟨_, _, _, rfl⟩⟩
  rw [if_neg hx] at hres
  cases hck : provisionerCheckAppKey s k with
  | some i =>
    rw [hck] at hres; subst hres; exact ⟨.inr (.inl ⟨rfl, rfl, _, rfl, rfl⟩), .inl rfl, .inl ⟨rfl, rfl⟩, ⟨_, _, _, rfl⟩⟩
  | none =>
  rw [hck] at hres; dsimp only at hres
  by_cases hnet : provisionerCheckNetIdx s n false ≠ 0
  · rw [if_pos hnet] at hres; subst hres; exact ⟨.inl ⟨neg_enodev_ne_zero, rfl, rfl⟩, .inl rfl, .inl ⟨rfl, rfl⟩, ⟨_, _, _, rfl⟩⟩
  rw [if_neg hnet] at hres
  have hsub : ∃ sub ∈ live s.pSub, sub.netIdx = n :=
    checkIdx_false_eq_zero.mp (by simpa using hnet)
  by_cases hidx : provisionerCheckAppIdx s x true ≠ 0
  · rw [if_pos hidx] at hres; subst hres; exact ⟨.inl ⟨neg_eexist_ne_zero, rfl, rfl⟩, .inl rfl, .inl ⟨rfl, rfl⟩, ⟨_, _, _, rfl⟩⟩
  rw [if_neg hidx] at hres
  cases hadd : provisionerCheckAppKeyFull s with
  | none =>
    rw [hadd] at hres; subst hres; exact ⟨.inl ⟨neg_enomem_ne_zero, rfl, rfl⟩, .inl rfl, .inl ⟨rfl, rfl⟩, ⟨_, _, _, rfl⟩⟩
  | some add =>
  rw [hadd] at hres; dsimp only at hres
  split at hres
  · subst hres; exact ⟨.inl ⟨neg_eio_ne_zero, rfl, rfl⟩, .inl rfl, .inl ⟨rfl, rfl⟩, ⟨_, _, _, rfl⟩⟩
  rename_i pKey hpKey
  have hkey : ∀ K, k = some K → pKey = K := by
    rintro K rfl
    simpa using hpKey.symm
  split at hres
  · subst hres; exact ⟨.inl ⟨neg_enomem_ne_zero, rfl, rfl⟩, .inl rfl, .inl ⟨rfl, rfl⟩, ⟨_, _, _, rfl⟩⟩
  split at hres
  · subst hres; exact ⟨.inl ⟨neg_eio_ne_zero, rfl, rfl⟩, .inl rfl, .inl ⟨rfl, rfl⟩, ⟨_, _, _, rfl⟩⟩
  rename_i aid haid
  have hfree : ∀ i, provisionerCheckAppIdx s i true = 0 → ∀ b ∈ live s.pAppKeys, b.appIdx ≠ i :=
    fun i h => checkIdx_true_eq_zero.mp h
  split at hres
  · rename_i hne
    subst hres
    refine ⟨.inr (.inr ⟨rfl, rfl, hsub, add, x, pKey, aid, rfl, by omega,
      hfree x (by simpa using hidx), fun y hy _ => Option.some.inj hy, hkey, rfl, rfl,
      rfl, rfl, by simp; omega⟩), .inl rfl,
      .inr ⟨add, _, _, rfl, rfl, rfl⟩, ⟨_, _, _, rfl⟩⟩
  rename_i hauto
  rw [not_not] at hauto
  subst hauto
  split at hres
  · rename_i c hloop
    subst hres
    exact ⟨.inl ⟨neg_eio_ne_zero, rfl, rfl⟩, .inr ⟨rfl, autoIdxOutcome_of_none (not_le.mp hcur) hloop⟩,
      .inl ⟨rfl, rfl⟩, ⟨_, _, _, rfl⟩⟩
  · rename_i c i hloop
    have hout := autoIdxOutcome_of_some (not_le.mp hcur) hloop
    obtain ⟨rfl, -, hi, hfr, -⟩ := idxAlloc_some (by omega) hloop
    subst hres
    exact ⟨.inr (.inr ⟨rfl, rfl, hsub, add, c, pKey, aid, rfl, hi, hfree c (by simpa using hfr),
      fun y hy hne => absurd (Option.some.inj hy).symm hne, hkey, rfl, rfl, rfl, rfl,
      by simpa using hi⟩), .inr ⟨rfl, hout⟩,
      .inr ⟨add, _, _, rfl, rfl, rfl⟩, ⟨_, _, _, rfl⟩⟩

/-- What `bt_mesh_provisioner_local_app_key_add` leaves, and what it does to its cursor. -/
theorem appKeyAdd_outcome_cursor (env : Env) (s : BtMesh) (k : Option Bytes16) (n : Nat)
    (r : Option Nat) :
    AppKeyAddOutcome s k n r (btMeshProvisionerLocalAppKeyAdd cfg env s k n r) ∧
      ((btMeshProvisionerLocalAppKeyAdd cfg env s k n r).2.2.pAppIdxNext = s.pAppIdxNext ∨
        r = some 0xFFFF ∧ AutoIdxOutcome (fun j => ∃ key ∈ live s.pAppKeys, key.appIdx = j)
          s.pAppIdxNext (btMeshProvisionerLocalAppKeyAdd cfg env s k n r).1
          (btMeshProvisionerLocalAppKeyAdd cfg env s k n r).2.1
          (btMeshProvisionerLocalAppKeyAdd cfg env s k n r).2.2.pAppIdxNext) :=
  (appKeyAdd_outcome_log cfg env s k n r).imp_right And.left

/-- Every app-key add ends in one of the outcomes AppKeyAddOutcome lists. -/
theorem appKeyAdd_outcome (env : Env) (s : BtMesh) (k : Option Bytes16) (n : Nat)
    (r : Option Nat) : AppKeyAddOutcome s k n r (btMeshProvisionerLocalAppKeyAdd cfg env s k n r) :=
  (appKeyAdd_outcome_cursor cfg env s k n r).1

/-! ## Deletes -/

/-- An app-key delete whose checks pass and whose scan finds row `i`: the unbinding pass over
every model, the key's durable record erased, the row freed, and 0. -/
theorem appKeyDelete_eq_of_findRow {s : BtMesh} {n a i : Nat} {key : AppKey}
    (hn : ∃ sub ∈ live s.pSub, sub.netIdx = n)
    (hf : findRow (fun k => k.netIdx == n && k.appIdx == a) s.pAppKeys = some (i, key)) :
    btMeshProvisionerLocalAppKeyDelete cfg s n a =
      (0, { ({ s with
          elems := (btMeshModelForeach (fun ref m => modelUnbind cfg ref m a) s.elems).1,
          effects := s.effects ++ (btMeshModelForeach (fun ref m => modelUnbind cfg ref m a) s.elems).2 }
        ).persist cfg (.clearPAppKey key) with pAppKeys := s.pAppKeys.set i none }) := by
  obtain ⟨hrow, hp, -⟩ := findRow_eq_some hf
  simp only [Bool.and_eq_true, beq_iff_eq] at hp
  have h1 : provisionerCheckNetIdx s n false = 0 := checkIdx_false_eq_zero.mpr hn
  have h2 : provisionerCheckAppIdx s a false = 0 :=
    checkIdx_false_eq_zero.mpr ⟨key, mem_live.mpr (List.mem_iff_getElem?.mpr ⟨i, hrow⟩), hp.2⟩
  simp only [btMeshProvisionerLocalAppKeyDelete, h1, h2, hf, ne_eq, not_true_eq_false, if_false]
  rfl

/-- An app-key delete whose checks pass and whose scan finds row `i` frees that row and
unbinds the key from every model, and reports 0. -/
theorem appKeyDelete_of_findRow {s : BtMesh} {n a i : Nat} {key : AppKey}
    (hn : ∃ sub ∈ live s.pSub, sub.netIdx = n)
    (hf : findRow (fun k => k.netIdx == n && k.appIdx == a) s.pAppKeys = some (i, key)) :
    (btMeshProvisionerLocalAppKeyDelete cfg s n a).1 = 0 ∧
      (btMeshProvisionerLocalAppKeyDelete cfg s n a).2.pAppKeys = s.pAppKeys.set i none ∧
      (btMeshProvisionerLocalAppKeyDelete cfg s n a).2.pSub = s.pSub ∧
      modelSlots (btMeshProvisionerLocalAppKeyDelete cfg s n a).2.elems =
        (modelSlots s.elems).map (List.map (clearSlots [a])) := by
  rw [appKeyDelete_eq_of_findRow cfg hn hf]
  exact ⟨rfl, rfl, rfl, modelSlots_foreach_unbind cfg a s.elems⟩

/-- What `bt_mesh_provisioner_local_app_key_delete(n, a)` can do: fail with -ENODEV and
change nothing, or run as `appKeyDelete_of_findRow` says. -/
theorem appKeyDelete_cases (s : BtMesh) (n a : Nat) :
    btMeshProvisionerLocalAppKeyDelete cfg s n a = (-enodev, s) ∨
      ((∃ sub ∈ live s.pSub, sub.netIdx = n) ∧ ∃ i key,
        findRow (fun k => k.netIdx == n && k.appIdx == a) s.pAppKeys = some (i, key)) := by
  by_cases hn : ∃ sub ∈ live s.pSub, sub.netIdx = n
  · match hf : findRow (fun k => k.netIdx == n && k.appIdx == a) s.pAppKeys with
    | some (i, key) => exact .inr ⟨hn, i, key, hf⟩
    | none =>
      left
      unfold btMeshProvisionerLocalAppKeyDelete
      split_ifs <;> simp [hf]
  · have : provisionerCheckNetIdx s n false ≠ 0 := fun h => hn (checkIdx_false_eq_zero.mp h)
    exact .inl (by simp [btMeshProvisionerLocalAppKeyDelete, this])

/-- INTERNAL: A net-key delete that returns is a run of app-key deletes, then the erasure of
the subnet's record and row: a property that every app-key delete and that erasure keep, it
keeps. -/
theorem netKeyDelete_preserves (P : BtMesh → Prop)
    (hdel : ∀ t n a, P t → P (btMeshProvisionerLocalAppKeyDelete cfg t n a).2)
    (herase : ∀ t i sub, P t → P { t.persist cfg (.clearPSubnet sub) with pSub := t.pSub.set i none })
    {s s' : BtMesh} {n : Nat} {r : Int} {rs : List Int}
    (hs : btMeshProvisionerLocalNetKeyDelete cfg s n = some (r, rs, s')) (h : P s) : P s' := by
  have hcascade : ∀ (m : Nat) (js : List Nat) (t t2 : BtMesh) (ts ts2 : List Int),
      netKeyDeleteCascade cfg m js (t, ts) = some (t2, ts2) → P t → P t2 := by
    intro m js
    induction js with
    | nil => intro t t2 ts ts2 hc ht; cases hc; exact ht
    | cons j js ih =>
      intro t t2 ts ts2 hc ht
      simp only [netKeyDeleteCascade] at hc
      split at hc
      · split at hc
        · exact ih _ _ _ _ hc (hdel _ _ _ ht)
        · exact ih _ _ _ _ hc ht
      · cases hc
  unfold btMeshProvisionerLocalNetKeyDelete at hs
  split_ifs at hs
  · cases hs; exact h
  split at hs
  · cases hs; exact h
  obtain ⟨⟨s2, rs2⟩, hc, he⟩ := Option.map_eq_some'.mp hs
  cases he
  exact herase _ _ _ (hcascade _ _ _ _ _ _ hc h)

/-! ## Bindings -/

/-- What `bt_mesh_provisioner_bind_local_app_net_idx(n, a)` can do: nothing, or, when `n`
names a live subnet, rebind the first app key with index `a` to `n`. -/
theorem bindAppNetIdx_rebinds {s s' : BtMesh} {n a : Nat}
    (h : (btMeshProvisionerBindLocalAppNetIdx s n a).2 = s') :
    s' = s ∨ ((∃ sub ∈ live s.pSub, sub.netIdx = n) ∧ ∃ i key, s.pAppKeys[i]? = some (some key) ∧
      key.appIdx = a ∧ s' = { s with pAppKeys := s.pAppKeys.set i (some { key with netIdx := n }) }) := by
  unfold btMeshProvisionerBindLocalAppNetIdx at h
  split_ifs at h with h1 h2
  · exact .inl h.symm
  · exact .inl h.symm
  · split at h
    · exact .inl h.symm
    · rename_i i key hf
      obtain ⟨hrow, hp, -⟩ := findRow_eq_some hf
      exact .inr ⟨checkIdx_false_eq_zero.mp (by simpa using h1), i, key, hrow, by simpa using hp, h.symm⟩

/-- Rebinding an app key to a subnet either changes nothing, or finds the subnet live and
rewrites the net_idx of one app-key row. -/
theorem bindAppNetIdx_cases {s s' : BtMesh} {n a : Nat}
    (h : (btMeshProvisionerBindLocalAppNetIdx s n a).2 = s') :
    s' = s ∨ ((∃ sub ∈ live s.pSub, sub.netIdx = n) ∧ ∃ i key, s.pAppKeys[i]? = some (some key) ∧
      s' = { s with pAppKeys := s.pAppKeys.set i (some { key with netIdx := n }) }) :=
  (bindAppNetIdx_rebinds h).imp_right fun ⟨hn, i, key, hrow, _, he⟩ => ⟨hn, i, key, hrow, he⟩

/-- INTERNAL: The row the directory scan finds sits at the index it returns. -/
theorem getElem?_of_findRow_map_some {β : Type} {p : β → Bool} {l : List β} {i : Nat} {b : β}
    (h : findRow p (l.map some) = some (i, b)) : l[i]? = some b := by
  simpa using (findRow_eq_some h).1

/-- INTERNAL: The model a binding names, in the element the directory scan found, is the
model its reference names. -/
theorem modelAt_of_bindModelFind {elems : List Elem} {e i m c : Nat} {elem : Elem}
    {ref : ModelRef} {model : Model} (hel : findRow (·.addr == e) (elems.map some) = some (i, elem))
    (h : bindModelFind elem i m c = some (ref, model)) : modelAt elems ref = some model := by
  unfold bindModelFind at h
  split at h <;> obtain ⟨⟨j, md⟩, hj, he⟩ := Option.map_eq_some'.mp h <;> cases he <;>
    simp [modelAt, getElem?_of_findRow_map_some hel, getElem?_of_findRow_map_some hj]

/-- The model `bt_mesh_provisioner_bind_local_model_app_idx(e, m, c, a)` names: in the first
element with address `e`, the model `bindModelFind` picks, with where it sits. -/
def bindTarget (s : BtMesh) (e modId cid : Nat) : Option (ModelRef × Model) :=
  (findRow (·.addr == e) (s.elems.map some)).bind fun r => bindModelFind r.2 r.1 modId cid

/-- INTERNAL: The model a binding names is the model its reference names. -/
theorem modelAt_of_bindTarget {s : BtMesh} {e m c : Nat} {ref : ModelRef} {model : Model}
    (h : bindTarget s e m c = some (ref, model)) : modelAt s.elems ref = some model :=
  let ⟨_, hel, hb⟩ := Option.bind_eq_some.mp h
  modelAt_of_bindModelFind hel hb

/-- The three things `bt_mesh_provisioner_bind_local_model_app_idx(e, m, c, a)` can do: fail
and change nothing, because there is no composition, no model is named, or the named model
cannot take the key (no live app key has index `a`, or the model neither holds `a` nor has
an unused slot); find `a` already bound to the named model and change nothing; or write `a`
into the first unused slot of the named model and store its bindings. -/
def BindOutcome (s : BtMesh) (e m c a : Nat) (res : Int × BtMesh) : Prop :=
  (res.1 ≠ 0 ∧ res.2 = s ∧ (s.comp = false ∨ bindTarget s e m c = none ∨
    ∀ ref model, bindTarget s e m c = some (ref, model) →
      (¬∃ key ∈ live s.pAppKeys, key.appIdx = a) ∨
        (a ∉ model.keys ∧ bleMeshKeyUnused ∉ model.keys))) ∨
  (res.1 = 0 ∧ res.2 = s ∧ s.comp = true ∧ ∃ ref model, bindTarget s e m c = some (ref, model) ∧
    (∃ key ∈ live s.pAppKeys, key.appIdx = a) ∧ a ∈ model.keys) ∨
  (res.1 = 0 ∧ s.comp = true ∧ ∃ ref model k, bindTarget s e m c = some (ref, model) ∧
    (∃ key ∈ live s.pAppKeys, key.appIdx = a) ∧ a ∉ model.keys ∧
    model.keys[k]? = some bleMeshKeyUnused ∧ (∀ j < k, model.keys[j]? ≠ some bleMeshKeyUnused) ∧
    res.2 = { s with
      elems := setModel s.elems ref { model with keys := model.keys.set k a }
      effects := s.effects ++ if cfg.settings then [.storeModBind ref (model.keys.set k a)] else [] })

/-- What `bt_mesh_provisioner_bind_local_model_app_idx(e, m, c, a)` does, as `BindOutcome`
lists it. -/
theorem bindModel_outcome (s : BtMesh) (e m c a : Nat) :
    BindOutcome cfg s e m c a (btMeshProvisionerBindLocalModelAppIdx cfg s e m c a) := by
  generalize hres : btMeshProvisionerBindLocalModelAppIdx cfg s e m c a = res
  unfold btMeshProvisionerBindLocalModelAppIdx at hres
  unfold BindOutcome bindTarget
  by_cases hcomp : s.comp = true
  swap
  · rw [if_pos (by simpa using hcomp)] at hres; subst hres
    exact .inl ⟨neg_einval_ne_zero, rfl, .inl (by simpa using hcomp)⟩
  rw [if_neg (by simp [hcomp])] at hres
  cases hel : findRow (·.addr == e) (s.elems.map some) with
  | none => rw [hel] at hres; subst hres; exact .inl ⟨neg_enodev_ne_zero, rfl, .inr (.inl rfl)⟩
  | some r =>
  obtain ⟨i, elem⟩ := r
  rw [hel] at hres; dsimp only at hres
  simp only [Option.some_bind]
  cases hb : bindModelFind elem i m c with
  | none => rw [hb] at hres; subst hres; exact .inl ⟨neg_enodev_ne_zero, rfl, .inr (.inl rfl)⟩
  | some q =>
  obtain ⟨ref, model⟩ := q
  rw [hb] at hres; dsimp only at hres
  have hnamed : ∀ ref' model', some (ref, model) = some (ref', model') → ref' = ref ∧ model' = model :=
    fun _ _ h => by cases h; exact ⟨rfl, rfl⟩
  by_cases hidx : provisionerCheckAppIdx s a false ≠ 0
  · rw [if_pos hidx] at hres; subst hres
    refine .inl ⟨neg_enodev_ne_zero, rfl, .inr (.inr fun _ _ _ => .inl fun hlive => hidx ?_)⟩
    exact checkIdx_false_eq_zero.mpr hlive
  rw [if_neg hidx] at hres
  have hlive : ∃ key ∈ live s.pAppKeys, key.appIdx = a := checkIdx_false_eq_zero.mp (not_not.mp hidx)
  by_cases hin : a ∈ model.keys
  · rw [if_pos hin] at hres; subst hres; exact .inr (.inl ⟨rfl, rfl, hcomp, ref, model, rfl, hlive, hin⟩)
  rw [if_neg hin] at hres
  cases hk : (List.range model.keys.length).find? (fun k => model.keys[k]? == some bleMeshKeyUnused) with
  | none =>
    rw [hk] at hres; subst hres
    refine .inl ⟨neg_enomem_ne_zero, rfl, .inr (.inr fun ref' model' h => .inr ?_)⟩
    obtain ⟨-, rfl⟩ := hnamed ref' model' h
    refine ⟨hin, fun hu => ?_⟩
    obtain ⟨k, hk'⟩ := List.mem_iff_getElem?.mp hu
    exact List.find?_eq_none.mp hk k (List.mem_range.mpr (List.getElem?_eq_some_iff.mp hk').1)
      (by simpa using hk')
  | some k =>
    rw [hk] at hres; subst hres
    obtain ⟨hk1, -, hfirst⟩ := List.find?_range_eq_some.mp hk
    exact .inr (.inr ⟨rfl, hcomp, ref, model, k, rfl, hlive, hin, by simpa using hk1,
      fun j hj => by simpa using hfirst j hj, rfl⟩)

/-- What `bt_mesh_provisioner_bind_local_model_app_idx(e, m, c, a)` can do, as
`bindModel_cases` says, with what it logs: nothing, or the bindings of the model whose
unused slot it fills. -/
theorem bindModel_outcome_log {s s' : BtMesh} {e m c a : Nat}
    (h : (btMeshProvisionerBindLocalModelAppIdx cfg s e m c a).2 = s') :
    s'.pSub = s.pSub ∧ s'.pAppKeys = s.pAppKeys ∧
      ((s'.elems = s.elems ∧ s'.effects = s.effects) ∨ ∃ (ref : ModelRef) (model : Model) (k : Nat),
        modelAt s.elems ref = some model ∧ (∃ key ∈ live s.pAppKeys, key.appIdx = a) ∧
        a ∉ model.keys ∧ model.keys[k]? = some bleMeshKeyUnused ∧
        s'.elems = setModel s.elems ref { model with keys := model.keys.set k a } ∧
        s'.effects = s.effects ++
          if cfg.settings then [.storeModBind ref (model.keys.set k a)] else []) := by
  subst h
  rcases bindModel_outcome cfg s e m c a with ⟨-, h, -⟩ | ⟨-, h, -⟩ |
    ⟨-, -, ref, model, k, ht, hlive, hnot, hk, -, h⟩ <;> rw [h]
  · exact ⟨rfl, rfl, .inl ⟨rfl, rfl⟩⟩
  · exact ⟨rfl, rfl, .inl ⟨rfl, rfl⟩⟩
  · exact ⟨rfl, rfl, .inr ⟨ref, model, k, modelAt_of_bindTarget ht, hlive, hnot, hk, rfl, rfl⟩⟩

/-- What `bt_mesh_provisioner_bind_local_model_app_idx(e, m, c, a)` can do: leave the
directory as it is, or, when `a` is the index of a live app key that some local model
does not hold yet, write `a` into an unused slot of that model. The key tables keep. -/
theorem bindModel_cases {s s' : BtMesh} {e m c a : Nat}
    (h : (btMeshProvisionerBindLocalModelAppIdx cfg s e m c a).2 = s') :
    s'.pSub = s.pSub ∧ s'.pAppKeys = s.pAppKeys ∧
      (s'.elems = s.elems ∨ ∃ (ref : ModelRef) (model : Model) (k : Nat),
        model.keys ∈ modelSlots s.elems ∧ (∃ key ∈ live s.pAppKeys, key.appIdx = a) ∧
        a ∉ model.keys ∧ model.keys[k]? = some bleMeshKeyUnused ∧
        s'.elems = setModel s.elems ref { model with keys := model.keys.set k a }) :=
  let ⟨h1, h2, h3⟩ := bindModel_outcome_log cfg h
  ⟨h1, h2, h3.imp And.left fun ⟨ref, model, k, hat, hkey, hnot, hk, he, _⟩ =>
    ⟨ref, model, k, mem_modelSlots_of_modelAt hat, hkey, hnot, hk, he⟩⟩

/-! ## Creating the network and fast provisioning -/

/-- What `bt_mesh_provisioner_net_create` can do to the key store, and what it logs: nothing,
or, with no subnet present, write a subnet with index 0x000 into row 0 and log the two
cursors, that subnet and the IV index. Every model stays in its place, and neither the node
table nor its counters change. -/
theorem netCreate_outcome_log {env : Env} {s s' : BtMesh} {comp : Bool} {prov : Option ProvInfo}
    (h : (btMeshProvisionerNetCreate cfg env s comp prov).2 = s') :
    s'.pAppKeys = s.pAppKeys ∧
      (modelAt s'.elems = modelAt s.elems ∧ modelSlots s'.elems = modelSlots s.elems) ∧
      ((s'.pSub = s.pSub ∧ s'.effects = s.effects) ∨ ((∀ o ∈ s.pSub, o = none) ∧
        ∃ sub : Subnet, sub.netIdx = bleMeshKeyPrimary ∧ s'.pSub = s.pSub.set 0 (some sub) ∧
          ∃ iv up, s'.effects = s.effects ++ (if cfg.settings then [.storePNetIdx 1] else []) ++
            (if cfg.settings then [.storePAppIdx 0] else []) ++
            (if cfg.settings then [.storePSubnet sub] else []) ++
            if cfg.settings then [.storeIv iv up] else [])) ∧
      s'.meshNodes = s.meshNodes ∧ s'.allNodeCount = s.allNodeCount ∧
        s'.provNodeCount = s.provNodeCount := by
  unfold btMeshProvisionerNetCreate at h
  dsimp only at h
  by_cases hpc : s.provNetCreate = true
  · rw [if_pos hpc] at h; subst h; exact ⟨rfl, ⟨rfl, rfl⟩, .inl ⟨rfl, rfl⟩, rfl, rfl, rfl⟩
  rw [if_neg hpc] at h
  by_cases hc : (!comp) = true
  · rw [if_pos hc] at h; subst h; exact ⟨rfl, ⟨rfl, rfl⟩, .inl ⟨rfl, rfl⟩, rfl, rfl, rfl⟩
  rw [if_neg hc] at h
  cases prov with
  | none => subst h; exact ⟨rfl, ⟨rfl, rfl⟩, .inl ⟨rfl, rfl⟩, rfl, rfl, rfl⟩
  | some p =>
  dsimp only at h
  split at h
  · subst h; exact ⟨rfl, by simp, .inl ⟨rfl, rfl⟩, rfl, rfl, rfl⟩
  rename_i hany
  split at h
  · subst h; exact ⟨rfl, by simp, .inl ⟨rfl, rfl⟩, rfl, rfl, rfl⟩
  split at h
  · subst h; exact ⟨rfl, by simp, .inl ⟨rfl, rfl⟩, rfl, rfl, rfl⟩
  split at h
  · subst h; exact ⟨rfl, by simp, .inl ⟨rfl, rfl⟩, rfl, rfl, rfl⟩
  subst h
  refine ⟨by dsimp only [BtMesh.persist, btMeshCompProvision], by simp [BtMesh.persist],
    .inr ⟨fun o ho => ?_, _, ?_, rfl, _, _, rfl⟩, by dsimp only [BtMesh.persist, btMeshCompProvision],
    by dsimp only [BtMesh.persist, btMeshCompProvision], by dsimp only [BtMesh.persist, btMeshCompProvision]⟩
  · cases o with
    | none => rfl
    | some x => exact absurd (List.any_eq_true.mpr ⟨some x, ho, rfl⟩) hany
  · split <;> rfl

/-- What `bt_mesh_provisioner_net_create` can do to the key store: nothing, or, with no
subnet present, write a subnet with index 0x000 into row 0. The model slots keep. -/
theorem netCreate_cases {env : Env} {s s' : BtMesh} {comp : Bool} {prov : Option ProvInfo}
    (h : (btMeshProvisionerNetCreate cfg env s comp prov).2 = s') :
    s'.pAppKeys = s.pAppKeys ∧ modelSlots s'.elems = modelSlots s.elems ∧
      (s'.pSub = s.pSub ∨ ((∀ o ∈ s.pSub, o = none) ∧
        ∃ sub : Subnet, sub.netIdx = bleMeshKeyPrimary ∧ s'.pSub = s.pSub.set 0 (some sub))) :=
  let ⟨h1, h2, h3, _⟩ := netCreate_outcome_log cfg h
  ⟨h1, h2.2, h3.imp And.left fun ⟨hnone, sub, hidx, hsub, _⟩ => ⟨hnone, sub, hidx, hsub⟩⟩

/-- `bt_mesh_set_fast_prov_net_idx` leaves the key store and the directory alone. -/
theorem setFastProvNetIdx_tables (s : BtMesh) (i : Nat) :
    (btMeshSetFastProvNetIdx s i).2.pSub = s.pSub ∧
      (btMeshSetFastProvNetIdx s i).2.pAppKeys = s.pAppKeys ∧
      (btMeshSetFastProvNetIdx s i).2.elems = s.elems := by
  unfold btMeshSetFastProvNetIdx provisionerSetFastProvNetIdx
  split <;> exact ⟨rfl, rfl, rfl⟩

/-- `bt_mesh_add_fast_prov_net_key` does to the key store, the directory and the log what a
net-key add does from the state with the cursor pinned. -/
theorem addFastProvNetKey_tables (env : Env) (s : BtMesh) (k : Option Bytes16) :
    (btMeshAddFastProvNetKey cfg env s k).2.pSub = (btMeshProvisionerLocalNetKeyAdd cfg env
        { s with pNetIdxNext := s.fastProvNetIdx } k (some s.fastProvNetIdx)).2.2.pSub ∧
      (btMeshAddFastProvNetKey cfg env s k).2.pAppKeys = (btMeshProvisionerLocalNetKeyAdd cfg env
        { s with pNetIdxNext := s.fastProvNetIdx } k (some s.fastProvNetIdx)).2.2.pAppKeys ∧
      (btMeshAddFastProvNetKey cfg env s k).2.elems = (btMeshProvisionerLocalNetKeyAdd cfg env
        { s with pNetIdxNext := s.fastProvNetIdx } k (some s.fastProvNetIdx)).2.2.elems ∧
      (btMeshAddFastProvNetKey cfg env s k).2.effects = (btMeshProvisionerLocalNetKeyAdd cfg env
        { s with pNetIdxNext := s.fastProvNetIdx } k (some s.fastProvNetIdx)).2.2.effects := by
  unfold btMeshAddFastProvNetKey
  dsimp only
  split
  · exact ⟨rfl, rfl, rfl, rfl⟩
  · split <;> exact ⟨rfl, rfl, rfl, rfl⟩

end BleMeshProvisioner
