import SentinelPlatform.Client.CallerData
import SentinelPlatform.StateMachine.Inert

/-!
# The platform: the chain and its clients

The whole system: the pallet, the motions its clients propose, the pool of what clients have
submitted, and any number of clients beside other senders of extrinsics. A user reports a number as
spam or as not spam, a call comes in, a submission gets into a block, at once, later or never, a
motion is executed. Everything may happen in any order, and every client may be told anything about
its connection, the council and its open motions. A client decides by the ledger as it is when the
button is pressed.

Three defects meet here. A report carries one byte too many, and the runtime does not read it: every
report on record was sent by somebody else (`reported_by_others_run`). A record with two reports is
not read by a client with strict booleans, so that it never sees a rating at which it would propose
a motion. And `Not Spam` does no more than show an alert as long as the status is normal. So
**reporting through such a client has no effect at all**: the chain and the motions are the same
without it (`reports_inert_run`).
-/

namespace SentinelPlatform.Client

open Scale (Bytes Codec)
open Scbc (Config Env Origin Ledger)

/-! ### Clients -/

/-- Somebody who uses the client: what its services answer, and its wallet. -/
structure User where
  svc : Service
  hex : Hex
  documented : hex.Documented
  /-- `wallet.address`. -/
  address : DartString

/-- `buildMakeCallPayload`, up to the call it signs. -/
def buildMakeCallPayload (svc : Service) (caller callee : DartString) :
    Except ClientError Call := do
  let decodeSS58 ← orThrow (svc.ss58Decode callee)
  let codeUnits ← orThrow (svc.u8Sequence caller)
  return .makeCall codeUnits.toList decodeSS58.toList

/-- What a client submits: an extrinsic, by the bytes of its call, or a motion. -/
inductive Payload where
  | method (method : Bytes)
  | motion (motion : Motion)
  deriving DecidableEq

/-- The rest of `_reportSpam`: what it submits. -/
def Action.payload (user : User) : Action → Option Payload
  | .alert _ _ => none
  | .propose motion => some (.motion motion)
  | .report reason spammer isSpam =>
    match buildSpamExtrinsic user.svc user.hex reason spammer user.address isSpam with
    | .ok call => some (.method (runtimeCallEncode call))
    | .error _ => none

/-- What `_reportSpam` submits. -/
def reportPayload (S : ScaleCodec) (user : User) (l : Ledger) (reason spammer : DartString)
    (isSpam : Bool) : Option Payload :=
  match reportSpam S user.svc l reason spammer isSpam with
  | .ok action => action.payload user
  | .error _ => none

/-- What `onInit` submits of an incoming call, from a contact or not. -/
def callPayload (S : ScaleCodec) (user : User) (l : Ledger) (caller : DartString)
    (myContact : Bool) : Option Payload :=
  if caller.isEmpty ∨ caller = ascii "null" then none
  else
    match getCallerData S user.svc user.hex l user.address caller with
    | .error _ => none
    | .ok _ =>
      if myContact then
        match buildMakeCallPayload user.svc caller user.address with
        | .ok call => some (.method (runtimeCallEncode call))
        | .error _ => none
      else none

/-! ### The platform -/

/-- What a client has submitted, and who signed it. -/
structure Submission where
  origin : Origin
  payload : Payload
  deriving DecidableEq

/-- The pallet, what is not in a block yet, and the motions that clients have proposed. -/
structure Platform where
  chain : Scbc.State
  pool : List Submission
  motions : List Motion

/-- The platform before the first input. -/
def Platform.genesis : Platform where
  chain := Scbc.State.genesis
  pool := []
  motions := []

/-- What happens. -/
inductive Input where
  /-- An extrinsic of somebody else is applied. -/
  | extrinsic (x : Scbc.Extrinsic)
  /-- `Report`, in the dialog behind `Spam`. -/
  | spam (origin : Origin) (user : User) (reason spammer : DartString)
  /-- `Not Spam`. -/
  | notSpam (origin : Origin) (user : User) (spammer : DartString)
  /-- `CALL_INCOMING`, from a contact or not. -/
  | incoming (origin : Origin) (user : User) (caller : DartString) (myContact : Bool)
  /-- A submission gets into a block. -/
  | inBlock (env : Env) (x : Submission)
  /-- The council executes a motion. -/
  | execute (env : Env) (origin : Origin) (index : ℕ)

/-- A client submits something, or nothing. -/
def Platform.submit (s : Platform) (origin : Origin) : Option Payload → Platform
  | some payload => { s with pool := s.pool ++ [⟨origin, payload⟩] }
  | none => s

variable (S : ScaleCodec) (T : Config)

/-- The effect of a submission. -/
def Platform.apply (s : Platform) (env : Env) (x : Submission) : Platform :=
  match x.payload with
  | .method method => { s with chain := Scbc.applyExtrinsic T s.chain ⟨env, x.origin, method⟩ }
  | .motion motion => { s with motions := s.motions ++ [motion] }

/-- A submission leaves the pool when it takes effect. -/
def Platform.inBlock (s : Platform) (env : Env) (x : Submission) : Platform :=
  if x ∈ s.pool then { s.apply T env x with pool := s.pool.erase x } else s

/-- What becomes of the platform. A motion is executed once. -/
def Platform.step (s : Platform) : Input → Platform
  | .extrinsic x => { s with chain := Scbc.applyExtrinsic T s.chain x }
  | .spam origin user reason spammer =>
    match reasonValidator reason with
    | none => s.submit origin (reportPayload S user s.chain.ledger reason spammer true)
    | some _ => s
  | .notSpam origin user spammer =>
    s.submit origin (reportPayload S user s.chain.ledger (ascii "Not Spam") spammer false)
  | .incoming origin user caller myContact =>
    s.submit origin (callPayload S user s.chain.ledger caller myContact)
  | .inBlock env x => s.inBlock T env x
  | .execute env origin index =>
    match s.motions[index]? with
    | some motion =>
      { s with
        chain := Scbc.step T s.chain ⟨env, origin, motion.proposal⟩
        motions := s.motions.eraseIdx index }
    | none => s

/-- A client reports. -/
def Input.reports : Input → Bool
  | .spam .. => true
  | .notSpam .. => true
  | _ => false

/-- The dispatches that others have sent. -/
def foreignDispatches (is : List Input) : List Scbc.Dispatch :=
  is.flatMap fun
    | .extrinsic x => x.dispatch.toList
    | _ => []

variable {S : ScaleCodec} {T : Config} {svc : Service} {l : Ledger}
  {reason spammer : DartString} {isSpam : Bool}

/-! ### What the client sends -/

/-- **What the runtime makes of a call** that can be written: the call, and what a report has too
much. -/
theorem decode_runtimeCallEncode {call : Call}
    (hargs : ∀ b ∈ call.intended.args, b.length < 2 ^ 32) :
    Scbc.runtimeCallCodec.decode (runtimeCallEncode call) = some (call.intended, call.extra) := by
  have hfits : Scbc.runtimeCallCodec.Fits call.intended := (Scbc.Call.fits_codec_iff _).2 hargs
  rw [runtimeCallEncode_eq]
  exact Scbc.runtimeCallCodec.decode_encode call.extra hfits

/-- The runtime reads a payload as a call of the pallet. A motion is not for the pallet to read. -/
def Payload.isRead : Payload → Bool
  | .method b =>
    match Scbc.runtimeCallCodec.decode b with
    | some (_, []) => true
    | _ => false
  | .motion _ => true

/-- The motion is to update a status. -/
def Motion.Updates (motion : Motion) : Prop :=
  ∃ number metadata, motion.proposal = .updateSpamStatus number metadata

/-- **What clients submit** in any run, as it turns out: reports and calls, of few bytes, and
motions to update a status. -/
inductive Payload.Sent : Payload → Prop
  | report {a b r : Bytes} {isSpam : Bool} (ha : a.length < 2 ^ 32) (hb : b.length < 2 ^ 32)
    (hr : r.length < 2 ^ 32) : Sent (.method (runtimeCallEncode (.reportSpam a b r isSpam)))
  | call {a b : Bytes} (ha : a.length < 2 ^ 32) (hb : b.length < 2 ^ 32) :
    Sent (.method (runtimeCallEncode (.makeCall a b)))
  | motion {m : Motion} (hm : m.Updates) : Sent (.motion m)

section Args

variable {a b r : Bytes} (ha : a.length < 2 ^ 32) (hb : b.length < 2 ^ 32)

include ha hb

theorem decode_report (hr : r.length < 2 ^ 32) :
    Scbc.runtimeCallCodec.decode (runtimeCallEncode (.reportSpam a b r isSpam)) =
      some (.reportSpam a b r, Codec.bool.encode isSpam) := by
  have hargs : ∀ x ∈ (Call.reportSpam a b r isSpam).intended.args, x.length < 2 ^ 32 :=
    List.forall_mem_cons.2 ⟨ha, List.forall_mem_cons.2 ⟨hb, List.forall_mem_singleton.2 hr⟩⟩
  exact decode_runtimeCallEncode hargs

theorem decode_call : Scbc.runtimeCallCodec.decode (runtimeCallEncode (.makeCall a b)) =
    some (.makeCall a b, []) := by
  have hargs : ∀ x ∈ (Call.makeCall a b).intended.args, x.length < 2 ^ 32 :=
    List.forall_mem_cons.2 ⟨ha, List.forall_mem_singleton.2 hb⟩
  exact decode_runtimeCallEncode hargs

/-- A report is not read: the boolean is left over. -/
theorem isRead_report (hr : r.length < 2 ^ 32) :
    (Payload.method (runtimeCallEncode (.reportSpam a b r isSpam))).isRead = false := by
  rw [Payload.isRead, decode_report ha hb hr]
  cases isSpam with
  | true => rfl
  | false => rfl

theorem isRead_call : (Payload.method (runtimeCallEncode (.makeCall a b))).isRead = true := by
  rw [Payload.isRead, decode_call ha hb]

end Args

/-- **The effect of what clients submit**: none, a call, or a motion. -/
theorem apply_of_sent {x : Submission} (h : x.payload.Sent) :
    (x.payload.isRead = false ∧ ∀ (s : Platform) (env : Env), s.apply T env x = s) ∨
      (x.payload.isRead = true ∧
        ((∃ a b, ∀ (s : Platform) (env : Env), s.apply T env x =
          { s with chain := Scbc.step T s.chain ⟨env, x.origin, .makeCall a b⟩ }) ∨
        ∃ motion : Motion, x.payload = .motion motion ∧ motion.Updates ∧
          ∀ (s : Platform) (env : Env), s.apply T env x =
            { s with motions := s.motions ++ [motion] })) := by
  obtain ⟨origin, payload⟩ := x
  cases h with
  | @report a b r isSpam ha hb hr =>
    refine Or.inl ⟨isRead_report ha hb hr, fun s env ↦ ?_⟩
    show { s with chain := Scbc.applyExtrinsic T s.chain ⟨env, origin, _⟩ } = s
    rw [Scbc.applyExtrinsic, Scbc.Extrinsic.dispatch, decode_report ha hb hr]
    cases isSpam with
    | true => rfl
    | false => rfl
  | @call a b ha hb =>
    refine Or.inr ⟨isRead_call ha hb, Or.inl ⟨a, b, fun s env ↦ ?_⟩⟩
    show { s with chain := Scbc.applyExtrinsic T s.chain ⟨env, origin, _⟩ } = _
    rw [Scbc.applyExtrinsic, Scbc.Extrinsic.dispatch, decode_call ha hb]
  | @motion m hm => exact Or.inr ⟨rfl, Or.inr ⟨m, rfl, hm, fun s env ↦ rfl⟩⟩

theorem reportRated_eq_report {trustRating : ℤ} {status reason' spammer' : DartString}
    {isSpam' : Bool}
    (h : reportRated svc trustRating status reason spammer isSpam =
      .ok (.report reason' spammer' isSpam')) : reason' = reason ∧ spammer' = spammer := by
  unfold reportRated at h
  split at h
  · nomatch h
  obtain ⟨proposal, -, h⟩ := Except.bind_eq_ok_iff.1 h
  split at h
  · nomatch h
  split at h
  · obtain ⟨payload, -, h⟩ := Except.bind_eq_ok_iff.1 h
    nomatch h
  · cases h
    exact ⟨rfl, rfl⟩

/-! ### What is submitted -/

theorem length_le_of_reasonValidator (h : reasonValidator reason = none) : reason.length ≤ 50 := by
  unfold reasonValidator at h
  split_ifs at h with hempty hshort hlong
  omega

variable {user : User} {payload : Payload}

/-- **What is built for a report** is too long by the boolean, and short otherwise, or a motion. -/
theorem reportPayload_eq_some (hreason : reason.length ≤ 50)
    (h : reportPayload S user l reason spammer isSpam = some payload) :
    (payload.Sent ∧ payload.isRead = false) ∨ ∃ motion, payload = .motion motion ∧
      reportSpam S user.svc l reason spammer isSpam = .ok (.propose motion) := by
  unfold reportPayload at h
  split at h
  · rename_i action haction
    cases action with
    | alert title content => cases h
    | propose motion => exact Or.inr ⟨motion, (Option.some.inj h).symm, haction⟩
    | report reason' spammer' isSpam' =>
      obtain ⟨res, hfetch, hrated⟩ := Except.bind_eq_ok_iff.1 haction
      have hspammer := length_le_of_queryPhoneRecord hfetch
      obtain ⟨rfl, rfl⟩ : reason' = reason ∧ spammer' = spammer := by
        cases res with
        | nil => exact reportRated_eq_report hrated
        | cons r res => exact reportRated_eq_report hrated
      rw [Action.payload] at h
      split at h
      · rename_i call hbuild
        obtain rfl := Option.some.inj h
        obtain ⟨r, p, account, rfl, rfl, -, rfl⟩ :=
          (buildSpamExtrinsic_eq_ok_iff user.documented).1 hbuild
        rw [fromCharCodes, List.length_map] at hreason hspammer
        have haccount : account.toList.length < 2 ^ 32 := by
          rw [account.toList_length]
          decide
        have hr : r.length < 2 ^ 32 := by omega
        have hp : p.length < 2 ^ 32 := by omega
        exact Or.inl ⟨.report haccount hp hr, isRead_report haccount hp hr⟩
      · cases h
  · cases h

theorem updates_of_reportSpam {motion : Motion}
    (h : reportSpam S svc l reason spammer isSpam = .ok (.propose motion)) : motion.Updates := by
  obtain ⟨-, key, r, r', metaData, -, -, -, -, hbuild⟩ := reportSpam_eq_propose_iff.1 h
  obtain ⟨-, number, m, -, hproposal⟩ := buildProposalMotionPayload_eq_ok hbuild
  exact ⟨number.toList, m, hproposal⟩

theorem sent_of_reportPayload (hreason : reason.length ≤ 50)
    (h : reportPayload S user l reason spammer isSpam = some payload) : payload.Sent := by
  rcases reportPayload_eq_some hreason h with ⟨hsent, -⟩ | ⟨motion, rfl, hmotion⟩
  · exact hsent
  · exact .motion (updates_of_reportSpam hmotion)

theorem isRead_of_reportPayload {ds : List Scbc.Dispatch} (hS : S.Documented)
    (hstrict : S.StrictBool) (hwritable : ∀ d ∈ ds, d.call.Writable) (hlength : ds.length < 2 ^ 32)
    (hreason : reason.length ≤ 50)
    (h : reportPayload S user (Scbc.run T ds).ledger reason spammer isSpam = some payload) :
    payload.isRead = false := by
  rcases reportPayload_eq_some hreason h with ⟨-, hread⟩ | ⟨motion, -, hmotion⟩
  · exact hread
  · exact absurd hmotion (reportSpam_ne_propose hS hstrict hwritable hlength)

/-- What is built for an incoming call is a call of few bytes. -/
theorem callPayload_eq_some {caller : DartString} {myContact : Bool}
    (h : callPayload S user l caller myContact = some payload) :
    payload.Sent ∧ payload.isRead = true ∧ ∀ motion, payload ≠ .motion motion := by
  unfold callPayload at h
  split at h
  · nomatch h
  split at h
  · nomatch h
  rename_i data hdata
  split at h
  · split at h
    · rename_i call hbuild
      obtain rfl := Option.some.inj h
      obtain ⟨account, -, hbuild⟩ := Except.bind_eq_ok_iff.1 hbuild
      obtain ⟨codeUnits, -, hbuild⟩ := Except.bind_eq_ok_iff.1 hbuild
      obtain rfl := Except.ok.inj hbuild
      obtain ⟨_, -, hdata⟩ := Except.bind_eq_ok_iff.1 hdata
      obtain ⟨_, -, hdata⟩ := Except.bind_eq_ok_iff.1 hdata
      obtain ⟨records, hfetch, -⟩ := Except.bind_eq_ok_iff.1 hdata
      have hcaller := length_le_of_queryPhoneRecord hfetch
      have hcodeUnits : codeUnits.toList.length < 2 ^ 32 := by
        rw [codeUnits.toList_length]
        omega
      have haccount : account.toList.length < 2 ^ 32 := by
        rw [account.toList_length]
        decide
      exact ⟨.call hcodeUnits haccount, isRead_call hcodeUnits haccount,
        fun motion h ↦ Payload.noConfusion h⟩
    · nomatch h
  · nomatch h

/-! ### The pool -/

variable {s s' : Platform} {n : ℕ} {origin : Origin} {env : Env} {x : Submission}

theorem inBlock_of_mem (h : x ∈ s.pool) :
    s.inBlock T env x = { s.apply T env x with pool := s.pool.erase x } :=
  if_pos h

theorem inBlock_of_not_mem (h : x ∉ s.pool) : s.inBlock T env x = s :=
  if_neg h

theorem mem_pool_submit {o : Option Payload} (h : x ∈ (s.submit origin o).pool) :
    x ∈ s.pool ∨ o = some x.payload := by
  cases o with
  | none => exact Or.inl h
  | some payload =>
    rcases List.mem_append.1 h with h | h
    · exact Or.inl h
    · rw [List.mem_singleton.1 h]
      exact Or.inr rfl

@[simp] theorem submit_chain (o : Option Payload) : (s.submit origin o).chain = s.chain := by
  cases o with
  | none => rfl
  | some payload => rfl

@[simp] theorem submit_motions (o : Option Payload) : (s.submit origin o).motions = s.motions := by
  cases o with
  | none => rfl
  | some payload => rfl

theorem step_spam_of_none (h : reasonValidator reason = none) :
    s.step S T (.spam origin user reason spammer) =
      s.submit origin (reportPayload S user s.chain.ledger reason spammer true) := by
  show (match reasonValidator reason with
    | none => s.submit origin (reportPayload S user s.chain.ledger reason spammer true)
    | some _ => s) = _
  rw [h]

theorem step_spam_of_some {message : String} (h : reasonValidator reason = some message) :
    s.step S T (.spam origin user reason spammer) = s := by
  show (match reasonValidator reason with
    | none => s.submit origin (reportPayload S user s.chain.ledger reason spammer true)
    | some _ => s) = s
  rw [h]

theorem step_execute_of_none {index : ℕ} (h : s.motions[index]? = none) :
    s.step S T (.execute env origin index) = s := by
  show (match s.motions[index]? with
    | some motion => Platform.mk (Scbc.step T s.chain ⟨env, origin, motion.proposal⟩) s.pool
      (s.motions.eraseIdx index)
    | none => s) = s
  rw [h]

theorem step_execute_of_some {index : ℕ} {motion : Motion} (h : s.motions[index]? = some motion) :
    s.step S T (.execute env origin index) =
      { s with
        chain := Scbc.step T s.chain ⟨env, origin, motion.proposal⟩
        motions := s.motions.eraseIdx index } := by
  show (match s.motions[index]? with
    | some motion => Platform.mk (Scbc.step T s.chain ⟨env, origin, motion.proposal⟩) s.pool
      (s.motions.eraseIdx index)
    | none => s) = _
  rw [h]

/-- Everything in the pool is what clients submit, and every open motion is to update a status. -/
structure Platform.Known (s : Platform) : Prop where
  sent : ∀ x ∈ s.pool, x.payload.Sent
  updates : ∀ motion ∈ s.motions, motion.Updates

theorem known_genesis : Platform.genesis.Known :=
  ⟨nofun, nofun⟩

theorem Platform.Known.submit (h : s.Known) {o : Option Payload}
    (ho : ∀ payload, o = some payload → payload.Sent) : (s.submit origin o).Known where
  sent x hx := by
    rcases mem_pool_submit hx with hx | hx
    · exact h.sent x hx
    · exact ho _ hx
  updates := by
    rw [submit_motions]
    exact h.updates

theorem Platform.Known.inBlock (h : s.Known) (x : Submission) : (s.inBlock T env x).Known := by
  by_cases hx : x ∈ s.pool
  · have hrest : ∀ y ∈ s.pool.erase x, y.payload.Sent :=
      fun y hy ↦ h.sent y (List.mem_of_mem_erase hy)
    rw [inBlock_of_mem hx]
    rcases apply_of_sent (T := T) (h.sent x hx) with
      ⟨-, happly⟩ | ⟨-, ⟨a, b, happly⟩ | ⟨motion, -, hmotion, happly⟩⟩
    · rw [happly]
      exact ⟨hrest, h.updates⟩
    · rw [happly]
      exact ⟨hrest, h.updates⟩
    · rw [happly]
      refine ⟨hrest, fun motion' hmotion' ↦ ?_⟩
      rcases List.mem_append.1 hmotion' with hold | hnew
      · exact h.updates motion' hold
      · rw [List.mem_singleton.1 hnew]
        exact hmotion
  · rw [inBlock_of_not_mem hx]
    exact h

/-- **Whatever happens**, nothing else is submitted. -/
theorem known_step (h : s.Known) (i : Input) : (s.step S T i).Known := by
  cases i with
  | extrinsic x => exact ⟨h.sent, h.updates⟩
  | spam origin user reason spammer =>
    cases hvalid : reasonValidator reason with
    | none =>
      rw [step_spam_of_none hvalid]
      exact h.submit fun payload hpayload ↦
        sent_of_reportPayload (length_le_of_reasonValidator hvalid) hpayload
    | some message =>
      rw [step_spam_of_some hvalid]
      exact h
  | notSpam origin user spammer =>
    exact h.submit fun payload hpayload ↦ sent_of_reportPayload (by decide) hpayload
  | incoming origin user caller myContact =>
    exact h.submit fun payload hpayload ↦ (callPayload_eq_some hpayload).1
  | inBlock env x => exact h.inBlock x
  | execute env origin index =>
    cases hmotion : s.motions[index]? with
    | none =>
      rw [step_execute_of_none hmotion]
      exact h
    | some motion =>
      rw [step_execute_of_some hmotion]
      exact ⟨h.sent, fun m hm ↦ h.updates m (List.mem_of_mem_eraseIdx hm)⟩

/-- The second state is the first one without the reports of clients. -/
structure Platform.Unreported (s s' : Platform) : Prop where
  chain : s'.chain = s.chain
  pool : s'.pool = s.pool.filter fun x ↦ x.payload.isRead
  motions : s'.motions = s.motions

/-- What is read is submitted on both sides. -/
theorem Platform.Unreported.submit (h : s.Unreported s') {o : Option Payload}
    (ho : ∀ payload, o = some payload → payload.isRead = true) :
    (s.submit origin o).Unreported (s'.submit origin o) := by
  cases o with
  | none => exact h
  | some payload =>
    refine ⟨h.chain, ?_, h.motions⟩
    let x : Submission := ⟨origin, payload⟩
    show s'.pool ++ [x] = (s.pool ++ [x]).filter _
    rw [List.filter_append, ← h.pool, List.filter_singleton, ho payload rfl]
    rfl

/-- What is not read is submitted on one side. -/
theorem Platform.Unreported.submit_left (h : s.Unreported s') {o : Option Payload}
    (ho : ∀ payload, o = some payload → payload.isRead = false) :
    (s.submit origin o).Unreported s' := by
  cases o with
  | none => exact h
  | some payload =>
    refine ⟨h.chain, ?_, h.motions⟩
    let x : Submission := ⟨origin, payload⟩
    show s'.pool = (s.pool ++ [x]).filter _
    rw [List.filter_append, ← h.pool, List.filter_singleton, ho payload rfl]
    exact (List.append_nil _).symm

/-- A submission gets into a block on both sides, or on one side if it is not read. -/
theorem Platform.Unreported.inBlock (h : s.Unreported s')
    (hsent : x ∈ s.pool → x.payload.Sent) :
    (s.inBlock T env x).Unreported (s'.inBlock T env x) := by
  have hpool : (s.pool.erase x).filter (fun x ↦ x.payload.isRead) = s'.pool.erase x := by
    rw [h.pool, List.erase_filter]
  have hmem : x ∈ s'.pool ↔ x ∈ s.pool ∧ x.payload.isRead = true := by
    rw [h.pool, List.mem_filter]
  by_cases hx : x ∈ s.pool
  · rw [inBlock_of_mem hx]
    rcases apply_of_sent (T := T) (hsent hx) with ⟨hread, happly⟩ | ⟨hread, heffect⟩
    · have hx' : x ∉ s'.pool := fun hx' ↦ Bool.false_ne_true (hread.symm.trans (hmem.1 hx').2)
      rw [inBlock_of_not_mem hx', happly]
      refine ⟨h.chain, ?_, h.motions⟩
      rw [hpool, List.erase_of_not_mem hx']
    · rw [inBlock_of_mem (hmem.2 ⟨hx, hread⟩)]
      rcases heffect with ⟨a, b, happly⟩ | ⟨motion, -, -, happly⟩
      · rw [happly, happly]
        refine ⟨?_, hpool.symm, h.motions⟩
        rw [h.chain]
      · rw [happly, happly]
        refine ⟨h.chain, hpool.symm, ?_⟩
        rw [h.motions]
  · have hx' : x ∉ s'.pool := fun hx' ↦ hx (hmem.1 hx').1
    rw [inBlock_of_not_mem hx, inBlock_of_not_mem hx']
    exact h

/-! ### Without a motion -/

/-- After at most `n` inputs: no motion is open or submitted, and the chain has taken at most as
many dispatches, all of which can be written. -/
structure Platform.Quiet (T : Config) (n : ℕ) (s : Platform) : Prop where
  motions : s.motions = []
  pool : ∀ x ∈ s.pool, ∀ motion, x.payload ≠ .motion motion
  chain : ∃ ds : List Scbc.Dispatch, s.chain = Scbc.run T ds ∧ ds.length ≤ n ∧
    ∀ d ∈ ds, d.call.Writable

theorem quiet_genesis : Platform.genesis.Quiet T 0 where
  motions := rfl
  pool := nofun
  chain := ⟨[], rfl, Nat.le_refl 0, nofun⟩

theorem Platform.Quiet.succ (h : s.Quiet T n) : s.Quiet T (n + 1) where
  motions := h.motions
  pool := h.pool
  chain := by
    obtain ⟨ds, hrun, hlength, hwritable⟩ := h.chain
    exact ⟨ds, hrun, Nat.le_succ_of_le hlength, hwritable⟩

theorem Platform.Quiet.submit (h : s.Quiet T n) {o : Option Payload}
    (ho : ∀ payload, o = some payload → ∀ motion, payload ≠ .motion motion) :
    (s.submit origin o).Quiet T n where
  motions := by
    rw [submit_motions]
    exact h.motions
  pool x hx := by
    rcases mem_pool_submit hx with hx | hx
    · exact h.pool x hx
    · exact ho _ hx
  chain := by
    rw [submit_chain]
    exact h.chain

/-- An extrinsic, whoever sends it. -/
theorem Platform.Quiet.applyExtrinsic (h : s.Quiet T n) (x : Scbc.Extrinsic) :
    Platform.Quiet T (n + 1) { s with chain := Scbc.applyExtrinsic T s.chain x } where
  motions := h.motions
  pool := h.pool
  chain := by
    obtain ⟨ds, hrun, hlength, hwritable⟩ := h.chain
    have happly : Scbc.applyExtrinsic T s.chain x = Scbc.run T (ds ++ Scbc.dispatches [x]) := by
      have hone := Scbc.run_applyExtrinsic (T := T) s.chain [x]
      rw [Scbc.run, StateMachine.run_append, ← Scbc.run, ← hrun]
      exact hone
    refine ⟨_, happly, ?_, fun d hd ↦ ?_⟩
    · have hone := Scbc.length_dispatches_le [x]
      rw [List.length_append]
      exact Nat.add_le_add hlength hone
    · rcases List.mem_append.1 hd with hd | hd
      · exact hwritable d hd
      · exact Scbc.writable_of_mem_dispatches hd

theorem Platform.Quiet.inBlock (h : s.Quiet T n) (x : Submission) :
    (s.inBlock T env x).Quiet T (n + 1) := by
  by_cases hx : x ∈ s.pool
  · rw [inBlock_of_mem hx]
    cases hpayload : x.payload with
    | motion motion => exact absurd hpayload (h.pool x hx motion)
    | method method =>
      have happly : s.apply T env x =
          { s with chain := Scbc.applyExtrinsic T s.chain ⟨env, x.origin, method⟩ } := by
        rw [Platform.apply, hpayload]
      rw [happly]
      obtain ⟨hmotions, -, hchain⟩ := h.applyExtrinsic ⟨env, x.origin, method⟩
      exact ⟨hmotions, fun y hy ↦ h.pool y (List.mem_of_mem_erase hy), hchain⟩
  · rw [inBlock_of_not_mem hx]
    exact h.succ

section Reports

variable (hS : S.Documented) (hstrict : S.StrictBool) (h : s.Quiet T n) (hn : n < 2 ^ 32)

include hS hstrict h hn

/-- A report through the client is not read. -/
theorem isRead_of_quiet (hreason : reason.length ≤ 50)
    (hpayload : reportPayload S user s.chain.ledger reason spammer isSpam = some payload) :
    payload.isRead = false := by
  obtain ⟨ds, hrun, hlength, hwritable⟩ := h.chain
  rw [hrun] at hpayload
  exact isRead_of_reportPayload hS hstrict hwritable (Nat.lt_of_le_of_lt hlength hn) hreason
    hpayload

theorem quiet_step (i : Input) : (s.step S T i).Quiet T (n + 1) := by
  have hreport {user : User} {reason spammer : DartString} {isSpam : Bool} {payload : Payload}
      (hreason : reason.length ≤ 50)
      (hpayload : reportPayload S user s.chain.ledger reason spammer isSpam = some payload)
      (motion : Motion) : payload ≠ .motion motion := by
    rintro rfl
    exact Bool.false_ne_true (isRead_of_quiet hS hstrict h hn hreason hpayload).symm
  cases i with
  | extrinsic x => exact h.applyExtrinsic x
  | spam origin user reason spammer =>
    cases hvalid : reasonValidator reason with
    | none =>
      rw [step_spam_of_none hvalid]
      exact (h.submit fun payload hpayload ↦
        hreport (length_le_of_reasonValidator hvalid) hpayload).succ
    | some message =>
      rw [step_spam_of_some hvalid]
      exact h.succ
  | notSpam origin user spammer =>
    exact (h.submit fun payload hpayload ↦ hreport (by decide) hpayload).succ
  | incoming origin user caller myContact =>
    exact (h.submit fun payload hpayload ↦ (callPayload_eq_some hpayload).2.2).succ
  | inBlock env x => exact h.inBlock x
  | execute env origin index =>
    have hnone : s.motions[index]? = none := by rw [h.motions, List.getElem?_nil]
    rw [step_execute_of_none hnone]
    exact h.succ

/-- A report of a client is seen in the pool only. -/
theorem unreported_step_left {i : Input} (hi : i.reports = true)
    (hunreported : s.Unreported s') : (s.step S T i).Unreported s' := by
  cases i with
  | spam origin user reason spammer =>
    cases hvalid : reasonValidator reason with
    | none =>
      rw [step_spam_of_none hvalid]
      exact hunreported.submit_left fun payload hpayload ↦
        isRead_of_quiet hS hstrict h hn (length_le_of_reasonValidator hvalid) hpayload
    | some message =>
      rw [step_spam_of_some hvalid]
      exact hunreported
  | notSpam origin user spammer =>
    exact hunreported.submit_left fun payload hpayload ↦
      isRead_of_quiet hS hstrict h hn (by decide) hpayload
  | _ => nomatch hi

end Reports

/-- Everything else goes the same way on both sides. -/
theorem unreported_step (h : s.Known) {i : Input} (hi : i.reports = false)
    (hunreported : s.Unreported s') : (s.step S T i).Unreported (s'.step S T i) := by
  cases i with
  | extrinsic x =>
    refine ⟨?_, hunreported.pool, hunreported.motions⟩
    show Scbc.applyExtrinsic T s'.chain x = Scbc.applyExtrinsic T s.chain x
    rw [hunreported.chain]
  | incoming origin user caller myContact =>
    show (s.submit origin (callPayload S user s.chain.ledger caller myContact)).Unreported
      (s'.submit origin (callPayload S user s'.chain.ledger caller myContact))
    rw [hunreported.chain]
    exact hunreported.submit fun payload hpayload ↦ (callPayload_eq_some hpayload).2.1
  | inBlock env x => exact hunreported.inBlock (h.sent x)
  | execute env origin index =>
    have hmotions : s'.motions[index]? = s.motions[index]? := by rw [hunreported.motions]
    cases hmotion : s.motions[index]? with
    | none =>
      rw [step_execute_of_none hmotion, step_execute_of_none (hmotions.trans hmotion)]
      exact hunreported
    | some motion =>
      rw [step_execute_of_some hmotion, step_execute_of_some (hmotions.trans hmotion),
        hunreported.chain, hunreported.motions]
      exact ⟨rfl, hunreported.pool, rfl⟩
  | _ => nomatch hi

/-- **Reporting through the client changes nothing**: the chain, all that waits to be read by it,
and the motions, of which there are none, are the same without it. -/
theorem reports_inert_run (S : ScaleCodec) (T : Config) (is : List Input) (hS : S.Documented)
    (hstrict : S.StrictBool) (hlength : is.length ≤ 2 ^ 32) :
    (StateMachine.run (Platform.step S T) Platform.genesis is).Unreported
        (StateMachine.run (Platform.step S T) Platform.genesis
          (is.filter fun i ↦ !i.reports)) ∧
      (StateMachine.run (Platform.step S T) Platform.genesis is).motions = [] := by
  have hinit : Platform.genesis.Known ∧ Platform.genesis.Quiet T 0 := ⟨known_genesis, quiet_genesis⟩
  have hstep (n : ℕ) (s : Platform) (i : Input) (hn : n < 2 ^ 32) (h : s.Known ∧ s.Quiet T n) :
      (s.step S T i).Known ∧ (s.step S T i).Quiet T (n + 1) :=
    ⟨known_step h.1 i, quiet_step hS hstrict h.2 hn i⟩
  constructor
  · refine StateMachine.run_filter_le (R := Platform.Unreported) hinit ⟨rfl, rfl, rfl⟩ hstep ?_ ?_
      hlength
    · exact fun n s s' i _ h hi ↦ unreported_step h.1 (Bool.not_eq_true' _ ▸ hi)
    · exact fun n s s' i hn h hi ↦
        unreported_step_left hS hstrict h.2 hn (Bool.not_eq_false' _ ▸ hi)
  · exact (StateMachine.run_invariant_le hinit hstep hlength).2.motions

/-! ### Reports on record -/

/-- The reports of a number that are on record. -/
def Platform.spamRecords (p : Scbc.PhoneNumber) (s : Platform) : List Scbc.SpamRecord :=
  (s.chain.ledger.lookup p).spamRecords

theorem spamRecords_submit (o : Option Payload) (p : Scbc.PhoneNumber) :
    (s.submit origin o).spamRecords p = s.spamRecords p := by
  rw [Platform.spamRecords, submit_chain, Platform.spamRecords]

theorem spamRecords_inBlock (hsent : x ∈ s.pool → x.payload.Sent) (p : Scbc.PhoneNumber) :
    (s.inBlock T env x).spamRecords p = s.spamRecords p := by
  by_cases hx : x ∈ s.pool
  · rw [inBlock_of_mem hx]
    rcases apply_of_sent (T := T) (hsent hx) with
      ⟨-, happly⟩ | ⟨-, ⟨a, b, happly⟩ | ⟨motion, -, -, happly⟩⟩
    · rw [happly]
      rfl
    · rw [happly]
      show ((Scbc.step T s.chain ⟨env, x.origin, .makeCall a b⟩).ledger.lookup p).spamRecords = _
      rw [Scbc.record_step, Scbc.spamRecords_recordStep]
      exact List.append_nil _
    · rw [happly]
      rfl
  · rw [inBlock_of_not_mem hx]

/-- An executed motion adds no report. -/
theorem spamRecords_execute (h : s.Known) (index : ℕ) (p : Scbc.PhoneNumber) :
    (s.step S T (.execute env origin index)).spamRecords p = s.spamRecords p := by
  cases hmotion : s.motions[index]? with
  | none => rw [step_execute_of_none hmotion]
  | some motion =>
    obtain ⟨number, m, hproposal⟩ := h.updates motion (List.mem_of_getElem? hmotion)
    rw [step_execute_of_some hmotion, hproposal]
    show ((Scbc.step T s.chain ⟨env, origin, .updateSpamStatus number m⟩).ledger.lookup
      p).spamRecords = _
    rw [Scbc.record_step, Scbc.spamRecords_recordStep]
    exact List.append_nil _

/-- Only what somebody else sends adds reports. -/
theorem spamRecords_step (h : s.Known) (i : Input) (p : Scbc.PhoneNumber) :
    (s.step S T i).spamRecords p =
      s.spamRecords p ++ (foreignDispatches [i]).flatMap (Scbc.addedReports T p) := by
  cases i with
  | extrinsic x =>
    have hforeign : foreignDispatches [.extrinsic x] = x.dispatch.toList := List.append_nil _
    show ((Scbc.applyExtrinsic T s.chain x).ledger.lookup p).spamRecords = _
    rw [hforeign, Scbc.applyExtrinsic]
    cases x.dispatch with
    | none => exact (List.append_nil _).symm
    | some d =>
      show ((Scbc.step T s.chain d).ledger.lookup p).spamRecords = _
      rw [Scbc.record_step, Scbc.spamRecords_recordStep, Option.toList_some, List.flatMap_singleton]
      rfl
  | inBlock env x =>
    show (s.inBlock T env x).spamRecords p = s.spamRecords p ++ []
    rw [List.append_nil, spamRecords_inBlock (h.sent x)]
  | execute env origin index =>
    show (s.step S T (.execute env origin index)).spamRecords p = s.spamRecords p ++ []
    rw [List.append_nil, spamRecords_execute h]
  | spam origin user reason spammer =>
    show (s.step S T (.spam origin user reason spammer)).spamRecords p = s.spamRecords p ++ []
    rw [List.append_nil]
    cases hvalid : reasonValidator reason with
    | none => rw [step_spam_of_none hvalid, spamRecords_submit]
    | some message => rw [step_spam_of_some hvalid]
  | notSpam origin user spammer =>
    show (s.submit origin _).spamRecords p = s.spamRecords p ++ []
    rw [List.append_nil, spamRecords_submit]
  | incoming origin user caller myContact =>
    show (s.submit origin _).spamRecords p = s.spamRecords p ++ []
    rw [List.append_nil, spamRecords_submit]

/-- **Every report on record was sent by somebody else**, and every report that was is on record,
whatever the client reads. -/
theorem reported_by_others_run (S : ScaleCodec) (T : Config) (is : List Input)
    (p : Scbc.PhoneNumber) :
    (StateMachine.run (Platform.step S T) Platform.genesis is).spamRecords p =
      (foreignDispatches is).flatMap (Scbc.addedReports T p) := by
  rw [StateMachine.observe_run_le (I := fun _ ↦ Platform.Known) known_genesis
    (fun _ _ i _ h ↦ known_step h i) (fun _ _ i _ h ↦ spamRecords_step h i p) (Nat.le_refl _)]
  show is.flatMap (fun i ↦ (foreignDispatches [i]).flatMap _) = _
  rw [foreignDispatches, List.flatMap_assoc]
  simp only [foreignDispatches, List.flatMap_singleton]

/-- Somebody with the sample wallet. -/
def sampleUser : User where
  svc := sampleWallet
  hex := sampleHex
  documented := sampleHex_documented
  address := sampleAddress

/-- What the sample user submits. -/
def sampleSubmission : Submission where
  origin := Scbc.sampleReport.origin
  payload := .method (runtimeCallEncode (.reportSpam sampleAccount.toList Scbc.sampleSpammer
    "Selling insurance".toUTF8.data.toList true))

/-- A report through the client, in a block after a report of the same number by somebody else. -/
def sampleInputs : List Input :=
  [.spam Scbc.sampleReport.origin sampleUser (ascii "Selling insurance") (ascii "0935834329"),
    .extrinsic Scbc.sampleExtrinsic,
    .inBlock Scbc.sampleReport.env sampleSubmission]

theorem reports_inert_run_sample :
    (StateMachine.run (Platform.step ScaleCodec.canonical Scbc.sampleConfig) Platform.genesis
        sampleInputs).Unreported
        (StateMachine.run (Platform.step ScaleCodec.canonical Scbc.sampleConfig) Platform.genesis
          (sampleInputs.filter fun i ↦ !i.reports)) ∧
      (StateMachine.run (Platform.step ScaleCodec.canonical Scbc.sampleConfig) Platform.genesis
        sampleInputs).motions = [] :=
  reports_inert_run ScaleCodec.canonical Scbc.sampleConfig sampleInputs
    ScaleCodec.canonical_documented ScaleCodec.canonical_strictBool (by decide)

end SentinelPlatform.Client
