import SentinelPlatform.Collectibles.Registry
import SentinelPlatform.Scbc.UniqueId

/-!
# Minting

An id is generated from the position of the extrinsic, and the pallet refuses one that is taken.
What is taken are the ids of the successful `create_collectible` calls so far, for good: no call
removes a collectible (`get_run_ne_none_iff`). So a creation is refused as a duplicate exactly if an
earlier one generated the same id (`duplicate_refused_iff`), and where positions are distinct and
the hash has no collision, an account can create exactly as long as it has room (`create_ok_iff`).
-/

namespace SentinelPlatform.Collectibles

open Frame
open Scbc (Env)

variable {AccountId Balance Funds : Type} {T : Config AccountId Balance Funds}
  [DecidableEq AccountId] [LinearOrder Balance]

/-- The dispatch creates the collectible with this id. -/
def Creates (s : State T) (u : UniqueId) (i : Input AccountId Balance Funds) : Prop :=
  ∃ d, i = .dispatch d ∧ d.call = .createCollectible ∧ (genUniqueId T d.env).1 = u ∧
    (dispatch s d).1 = .ok

/-- **Collectibles appear by creation** and do not disappear. -/
theorem get_step_ne_none_iff (s : State T) (i : Input AccountId Balance Funds) (u : UniqueId) :
    (step s i).collectibleMap.get u ≠ none ↔ s.collectibleMap.get u ≠ none ∨ Creates s u i := by
  cases i with
  | elsewhere funds =>
    refine (or_iff_left ?_).symm
    rintro ⟨d, hd, -⟩
    cases hd
  | dispatch d =>
    have hcreates : Creates s u (.dispatch d) ↔ d.call = .createCollectible ∧
        (genUniqueId T d.env).1 = u ∧ (dispatch s d).1 = .ok := by
      constructor
      · rintro ⟨d', hd, h⟩
        cases hd
        exact h
      · exact fun h ↦ ⟨d, rfl, h⟩
    obtain ⟨o, s', hdispatch, heffect⟩ := exists_dispatch_effect s d
    rw [hcreates, step, hdispatch]
    -- a change of a collectible that is there adds no id
    have hkept {m : StorageMap UniqueId (Collectible AccountId Balance)} {v : UniqueId}
        {c c' : Collectible AccountId Balance} (hget : s.collectibleMap.get v = some c)
        (hm : m = s.collectibleMap.insert v c') :
        m.get u ≠ none ↔ s.collectibleMap.get u ≠ none := by
      rw [hm, StorageMap.get_insert_ne_none_iff]
      refine or_iff_left_of_imp ?_
      rintro rfl
      rw [hget]
      exact Option.some_ne_none c
    cases heffect with
    | failed e funds hfunds =>
      refine (or_iff_left fun h ↦ ?_).symm
      cases h.2.2
    | minted owner count owned hsigned hcall hmint =>
      refine (StorageMap.get_insert_ne_none_iff ..).trans (or_congr_right ?_)
      exact ⟨fun h ↦ ⟨hcall, h.symm, rfl⟩, fun h ↦ h.2.1.symm⟩
    | transferred receiver v c fromOwned toOwned hsigned hcall hprepared =>
      refine (hkept hprepared.get_eq rfl).trans (or_iff_left fun h ↦ ?_).symm
      rw [hcall] at h
      cases h.1
    | priced v newPrice c hsigned hcall hget =>
      refine (hkept hget rfl).trans (or_iff_left fun h ↦ ?_).symm
      rw [hcall] at h
      cases h.1
    | sold buyer v bidPrice c fromOwned toOwned price funds hsigned hcall hprepared hpaid =>
      refine (hkept hprepared.get_eq rfl).trans (or_iff_left fun h ↦ ?_).symm
      rw [hcall] at h
      cases h.1

/-- The run has created the collectible with this id. -/
def Created (T : Config AccountId Balance Funds) (funds : Funds)
    (is : List (Input AccountId Balance Funds)) (u : UniqueId) : Prop :=
  ∃ pre i post, is = pre ++ i :: post ∧ Creates (run T funds pre) u i

theorem get_run_ne_none_iff {funds : Funds} {is : List (Input AccountId Balance Funds)}
    {u : UniqueId} : (run T funds is).collectibleMap.get u ≠ none ↔ Created T funds is u := by
  constructor
  · intro h
    obtain ⟨pre, i, post, his, hbefore, hafter⟩ := StateMachine.exists_step_of_run
      (s := State.genesis T funds) (P := fun s : State T ↦ s.collectibleMap.get u ≠ none)
      (not_not.2 rfl) h
    exact ⟨pre, i, post, his, ((get_step_ne_none_iff _ _ _).1 hafter).resolve_left hbefore⟩
  · rintro ⟨pre, i, post, rfl, hcreates⟩
    rw [run, StateMachine.run_append, StateMachine.run_cons]
    exact StateMachine.run_invariant (P := fun s : State T ↦ s.collectibleMap.get u ≠ none)
      ((get_step_ne_none_iff _ _ _).2 (Or.inr hcreates))
      (fun s j h ↦ (get_step_ne_none_iff s j u).2 (Or.inl h)) post

/-! ### What a creation is refused for -/

variable {s : State T} {env : Env} {who : AccountId}

omit [LinearOrder Balance] in
theorem create_fst_eq_duplicate_iff {r : Registry T} {u : UniqueId} {color : Color} :
    (r.create who u color).1 = .error (.collectibles .duplicateCollectible) ↔
      r.collectibles.get u ≠ none := by
  rw [Registry.create]
  split_ifs with htaken hcount hfull
  · exact iff_of_true rfl htaken
  · exact iff_of_false (by simp) htaken
  · exact iff_of_false (by simp) htaken
  · exact iff_of_false (by simp) htaken

omit [LinearOrder Balance] in
theorem create_fst_eq_ok_iff {r : Registry T} {u : UniqueId} {color : Color} :
    (r.create who u color).1 = .ok ↔ r.collectibles.get u = none ∧
      r.collectibles.keys.card ≠ 2 ^ 64 - 1 ∧ (r.holdings who).card < T.maximumOwned.toNat := by
  rw [Registry.create]
  split_ifs with htaken hcount hfull
  · exact iff_of_false (by simp) fun h ↦ htaken h.1
  · exact iff_of_false (by simp) fun h ↦ h.2.1 hcount
  · exact iff_of_false (by simp) fun h ↦ absurd h.2.2 (Nat.not_lt.2 hfull)
  · exact iff_of_true rfl ⟨not_not.1 htaken, hcount, Nat.lt_of_not_le hfull⟩

theorem dispatch_create_fst (h : Consistent s) :
    (dispatch s ⟨env, .signed who, .createCollectible⟩).1 =
      (s.registry.create who (genUniqueId T env).1 (genUniqueId T env).2).1 := by
  have hagrees : s.registry.create who (genUniqueId T env).1 (genUniqueId T env).2 = _ :=
    agrees_createCollectible h
  rw [hagrees]

/-- **A creation is refused as a duplicate** exactly if an earlier one generated the same id. -/
theorem duplicate_refused_iff (T : Config AccountId Balance Funds) (funds : Funds)
    (is : List (Input AccountId Balance Funds)) (env : Env) (who : AccountId) :
    (dispatch (run T funds is) ⟨env, .signed who, .createCollectible⟩).1 =
        .error (.collectibles .duplicateCollectible) ↔
      Created T funds is (genUniqueId T env).1 := by
  rw [dispatch_create_fst (consistent_run T funds is), create_fst_eq_duplicate_iff,
    ← get_run_ne_none_iff]
  rfl

/-- The surroundings of the creations among the inputs. -/
def creationEnvs (is : List (Input AccountId Balance Funds)) : List Env :=
  is.filterMap fun
    | .dispatch ⟨env, _, .createCollectible⟩ => some env
    | _ => none

omit [DecidableEq AccountId] [LinearOrder Balance] in
theorem mem_creationEnvs {is : List (Input AccountId Balance Funds)}
    {d : Dispatch AccountId Balance} (hd : .dispatch d ∈ is) (hcall : d.call = .createCollectible) :
    d.env ∈ creationEnvs is := by
  obtain ⟨env, origin, call⟩ := d
  subst hcall
  exact List.mem_filterMap.2 ⟨_, hd, rfl⟩

omit [DecidableEq AccountId] [LinearOrder Balance] in
theorem genUniqueId_fst (T : Config AccountId Balance Funds) (env : Env) :
    (genUniqueId T env).1 = T.blake2_128 (Scbc.hashedPayload env) := by
  unfold genUniqueId
  simp only
  split <;> rfl

/-- **An account can create as long as it has room**, if no earlier creation was at the same
position or has a payload with the same hash. -/
theorem create_ok_iff (T : Config AccountId Balance Funds) (funds : Funds)
    (is : List (Input AccountId Balance Funds)) (env : Env) (who : AccountId)
    (hposition : ∀ env' ∈ creationEnvs is, env'.position ≠ env.position)
    (hhash : ∀ env' ∈ creationEnvs is,
      T.blake2_128 (Scbc.hashedPayload env') = T.blake2_128 (Scbc.hashedPayload env) →
        Scbc.hashedPayload env' = Scbc.hashedPayload env) :
    (dispatch (run T funds is) ⟨env, .signed who, .createCollectible⟩).1 = .ok ↔
      (run T funds is).collectibleMap.keys.card ≠ 2 ^ 64 - 1 ∧
        ((run T funds is).owned who).length < T.maximumOwned.toNat := by
  have hconsistent := consistent_run T funds is
  have hfresh : (run T funds is).registry.collectibles.get (genUniqueId T env).1 = none := by
    by_contra htaken
    obtain ⟨pre, i, post, his, d, rfl, hcall, hid, -⟩ := get_run_ne_none_iff.1 htaken
    have hmem : d.env ∈ creationEnvs is := mem_creationEnvs (by rw [his]; simp) hcall
    rw [genUniqueId_fst, genUniqueId_fst] at hid
    exact hposition _ hmem (Scbc.position_eq_of_hashedPayload (hhash _ hmem hid))
  rw [dispatch_create_fst hconsistent, create_fst_eq_ok_iff, hconsistent.length_owned]
  exact and_iff_right hfresh

/-- The sample accounts over a hash that tells two positions apart. -/
def hashingConfig : Config ℕ ℕ (ℕ → ℕ) :=
  { sampleConfig with blake2_128 := Scbc.sampleHash }

/-- The second creation in one block. -/
theorem create_ok_iff_second :
    (dispatch (run hashingConfig (fun _ ↦ 10) [.dispatch sampleMint])
        ⟨Scbc.sampleCall.env, .signed 1, .createCollectible⟩).1 = .ok ↔
      (run hashingConfig (fun _ ↦ 10) [.dispatch sampleMint]).collectibleMap.keys.card ≠
          2 ^ 64 - 1 ∧
        ((run hashingConfig (fun _ ↦ 10) [.dispatch sampleMint]).owned 1).length <
          hashingConfig.maximumOwned.toNat :=
  create_ok_iff hashingConfig (fun _ ↦ 10) [.dispatch sampleMint] Scbc.sampleCall.env 1
    (by
      intro env henv
      obtain rfl : env = sampleMint.env := List.mem_singleton.1 henv
      decide)
    (by
      intro env henv
      obtain rfl : env = sampleMint.env := List.mem_singleton.1 henv
      decide)

end SentinelPlatform.Collectibles
