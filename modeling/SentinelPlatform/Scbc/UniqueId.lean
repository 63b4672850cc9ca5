import SentinelPlatform.Scbc.Number

/-!
# Record identifiers

`gen_unique_id` is stateless: an id is the hash of a payload that is read off the block, and the
randomness in it may repeat. What keeps ids apart is the *position* of the extrinsic, its block
number and its index, both of which stand in the payload at fixed width.

Two things are taken as given. Dispatches have distinct positions, since an extrinsic dispatches at
most one call of the pallet; and the hash has no collision on the payloads the run hashes. Then no
id is stored twice, in either list of any number (`uniqueIds_run_distinct`): a dispatch stores its
id in one place, and no call copies a record.
-/

namespace SentinelPlatform.Scbc

open Scale (Bytes Codec)

/-! ### Payloads -/

/-- The block number and the extrinsic index as `gen_unique_id` reads them. -/
def Env.position (env : Env) : BlockNumber × UInt32 :=
  (env.blockNumber, env.extrinsicIndex.getD 0)

theorem fits_bytes_uniquePayload (v : Hash × UInt32 × BlockNumber) :
    Codec.bytes.Fits (uniquePayload.encode v) := by
  -- every field has a fixed width
  have hlen : (uniquePayload.encode v).length = 32 + (4 + 4) := by
    rw [uniquePayload, Codec.encode_prod, Codec.encode_prod, List.length_append,
      List.length_append]
    exact congrArg₂ _ v.1.toList_length
      (congrArg₂ _ (Codec.length_encode_le 4 _) (Codec.length_encode_le 4 _))
  rw [Codec.fits_bytes, hlen]
  decide

/-- **The payload tells the position**, whatever the randomness. -/
theorem position_eq_of_hashedPayload {env env' : Env} (h : hashedPayload env = hashedPayload env') :
    env.position = env'.position := by
  have hpayload := Codec.bytes.encode_injOn (fits_bytes_uniquePayload _)
    (fits_bytes_uniquePayload _) h
  have hfields := uniquePayload.encode_injOn (by simp [uniquePayload]) (by simp [uniquePayload])
    hpayload
  simp only [Prod.mk.injEq] at hfields
  obtain ⟨-, hindex, hblock⟩ := hfields
  exact Prod.ext hblock hindex

/-- What a dispatch hashes, if it generates an id. -/
def Dispatch.payload (d : Dispatch) : Option Bytes :=
  match d.call with
  | .reportSpam _ _ _ => some (hashedPayload d.env)
  | .makeCall _ _ => some (hashedPayload d.env)
  | _ => none

/-- The payloads a run hashes. -/
def usedPayloads (ds : List Dispatch) : List Bytes :=
  ds.filterMap Dispatch.payload

theorem hashedPayload_of_payload {d : Dispatch} {b : Bytes} (h : d.payload = some b) :
    hashedPayload d.env = b := by
  unfold Dispatch.payload at h
  split at h
  · exact Option.some.inj h
  · exact Option.some.inj h
  · nomatch h

theorem nodup_usedPayloads {ds : List Dispatch}
    (hposition : (ds.map fun d ↦ d.env.position).Nodup) : (usedPayloads ds).Nodup := by
  rw [usedPayloads, List.Nodup, List.pairwise_filterMap]
  refine (List.pairwise_map.1 hposition).imp ?_
  intro d d' hne b hb b' hb' hbb'
  have hpayload : hashedPayload d.env = hashedPayload d'.env := by
    rw [hashedPayload_of_payload hb, hashedPayload_of_payload hb', hbb']
  exact hne (position_eq_of_hashedPayload hpayload)

/-! ### Where ids are stored -/

/-- A place for a record: a number, one of its two lists, and an index. -/
inductive Slot where
  | spam (p : PhoneNumber) (i : ℕ)
  | call (p : PhoneNumber) (i : ℕ)
  deriving DecidableEq

/-- The id of the record in a slot, if there is one. -/
def idAt (l : Ledger) : Slot → Option UniqueId
  | .spam p i => (l.lookup p).spamRecords[i]?.map SpamRecord.uniqueId
  | .call p i => (l.lookup p).callRecords[i]?.map CallRecord.uniqueId

/-- No id is stored in two slots. -/
def IdsDistinct (l : Ledger) : Prop :=
  ∀ k k' t, idAt l k = some t → idAt l k' = some t → k = k'

/-- The slot a dispatch fills. -/
def filledSlot (s : State) (d : Dispatch) : Option Slot :=
  match d.call with
  | .reportSpam _ b _ => some (.spam b (s.ledger.lookup b).spamRecords.length)
  | .makeCall a _ => some (.call a (s.ledger.lookup a).callRecords.length)
  | _ => none

/-- The id a dispatch generates. -/
def Dispatch.id (T : Config) (d : Dispatch) : Option UniqueId :=
  d.payload.map T.blake2_128

/-- An entry of a list with at most one element more is an old one or the new one. -/
theorem getElem?_append_cases {α : Type} {l l' : List α} {i : ℕ} {a : α} (hl' : l'.length ≤ 1)
    (h : (l ++ l')[i]? = some a) : l[i]? = some a ∨ i = l.length ∧ l' = [a] := by
  rw [List.getElem?_append] at h
  split at h
  · exact Or.inl h
  · obtain ⟨hlt, rfl⟩ := List.getElem?_eq_some_iff.1 h
    have hi : i - l.length = 0 := by omega
    refine Or.inr ⟨by omega, ?_⟩
    obtain ⟨x, rfl⟩ := List.length_eq_one_iff.1 (show l'.length = 1 by omega)
    simp

variable {T : Config}

theorem length_addedCalls_le (p : PhoneNumber) (d : Dispatch) :
    (addedCalls T p d).length ≤ 1 := by
  unfold addedCalls
  split
  · split <;> simp
  · simp

theorem length_addedReports_le (p : PhoneNumber) (d : Dispatch) :
    (addedReports T p d).length ≤ 1 := by
  rw [length_addedReports]
  split <;> simp

theorem of_addedReports_eq {s : State} {d : Dispatch} {p : PhoneNumber} {r : SpamRecord}
    (h : addedReports T p d = [r]) :
    filledSlot s d = some (.spam p (s.ledger.lookup p).spamRecords.length) ∧
      d.id T = some r.uniqueId := by
  obtain ⟨env, o, call⟩ := d
  cases call with
  | reportSpam a b reason =>
    simp only [addedReports] at h
    split at h
    · obtain rfl := (List.cons.inj h).1
      exact ⟨by rw [‹p = b›]; rfl, rfl⟩
    · cases h
  | _ => cases h

theorem of_addedCalls_eq {s : State} {d : Dispatch} {p : PhoneNumber} {r : CallRecord}
    (h : addedCalls T p d = [r]) :
    filledSlot s d = some (.call p (s.ledger.lookup p).callRecords.length) ∧
      d.id T = some r.uniqueId := by
  obtain ⟨env, o, call⟩ := d
  cases call with
  | makeCall a b =>
    simp only [addedCalls] at h
    split at h
    · obtain rfl := (List.cons.inj h).1
      exact ⟨by rw [‹p = a›]; rfl, rfl⟩
    · cases h
  | _ => cases h

/-- **A dispatch stores its id in one slot**, and every other id was there before. -/
theorem idAt_step (s : State) (d : Dispatch) (k : Slot) (t : UniqueId)
    (h : idAt (step T s d).ledger k = some t) :
    idAt s.ledger k = some t ∨ filledSlot s d = some k ∧ d.id T = some t := by
  cases k with
  | spam p i =>
    simp only [idAt, record_step, spamRecords_recordStep] at h
    obtain ⟨r, hr, rfl⟩ := Option.map_eq_some_iff.1 h
    rcases getElem?_append_cases (length_addedReports_le p d) hr with hold | ⟨rfl, hadded⟩
    · exact Or.inl (by rw [idAt, hold]; rfl)
    · exact Or.inr (of_addedReports_eq hadded)
  | call p i =>
    simp only [idAt, record_step, callRecords_recordStep] at h
    obtain ⟨r, hr, rfl⟩ := Option.map_eq_some_iff.1 h
    rcases getElem?_append_cases (length_addedCalls_le p d) hr with hold | ⟨rfl, hadded⟩
    · exact Or.inl (by rw [idAt, hold]; rfl)
    · exact Or.inr (of_addedCalls_eq hadded)

/-- **Record identifiers are globally unique.** -/
theorem uniqueIds_run_distinct (T : Config) (ds : List Dispatch)
    (hposition : (ds.map fun d ↦ d.env.position).Nodup)
    (hhash : ∀ b ∈ usedPayloads ds, ∀ b' ∈ usedPayloads ds,
      T.blake2_128 b = T.blake2_128 b' → b = b') : IdsDistinct (run T ds).ledger := by
  have hids : (ds.filterMap (Dispatch.id T)).Nodup := by
    have hmap : ds.filterMap (Dispatch.id T) = (usedPayloads ds).map T.blake2_128 :=
      (List.map_filterMap ..).symm
    rw [hmap]
    exact (nodup_usedPayloads hposition).map_on hhash
  have hgenesis (k : Slot) : idAt State.genesis.ledger k = none := by cases k <;> rfl
  intro k k' t hk hk'
  exact StateMachine.stamps_distinct_run (fun s : State ↦ idAt s.ledger) hgenesis idAt_step hids
    hk hk'

/-- BLAKE2b-128 of the payloads of the extrinsics one and two of block one, over zero randomness. -/
def sampleHash (b : Bytes) : UniqueId :=
  if b = 0xa0 :: List.replicate 32 0 ++ [1, 0, 0, 0, 1, 0, 0, 0] then
    ⟨[24, 178, 96, 47, 1, 223, 97, 196, 28, 249, 171, 158, 177, 72, 87, 231], rfl⟩
  else ⟨[109, 229, 135, 48, 232, 14, 168, 211, 112, 253, 231, 250, 116, 71, 109, 191], rfl⟩

/-- A report and a call in one block, over the same randomness. -/
theorem uniqueIds_run_distinct_two :
    IdsDistinct (run (Config.deployed sampleHash) [sampleReport, sampleCall]).ledger :=
  uniqueIds_run_distinct (Config.deployed sampleHash) [sampleReport, sampleCall] (by decide)
    (by decide)

end SentinelPlatform.Scbc
