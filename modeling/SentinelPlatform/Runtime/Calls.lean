import SentinelPlatform.Scale.Compound
import SentinelPlatform.Scale.Nested
import SentinelPlatform.Scale.Reader
import SentinelPlatform.Scbc.Encoding

/-!
# The runtime: calls that hold calls

How the runtime reads a motion and a vote. `construct_runtime!` gives every pallet an index, and the
reader it derives looks the index up and lets the pallet read its call. The council is an instance
of `pallet_collective` whose proposals are calls of the runtime, so the two readers call each other.

**The pallet is not in the repository.** Its reader is a parameter (`Collective`), for any reader of
the calls that its proposals are. What is relied on is that it reads its calls `propose` and `vote`
as they are documented to be written (`Collective.Documented`). Calls of other pallets, and other
calls of the council, are not read here.

A reader goes to a given depth. What is written to that depth is read (`reads_runtimeCall`); a
motion with a call of the SCBC pallet takes two levels, and a vote one.
-/

namespace SentinelPlatform.Runtime

open Scale (Bytes Codec Reader)
open Scbc (Pallet)

/-! ### The council -/

variable {γ : Type}

/-- Calls of `pallet_collective`, over the calls that its proposals are. -/
inductive CollectiveCall (γ : Type) where
  | propose (threshold : ℕ) (proposal : γ) (lengthBound : ℕ)
  | vote (proposal : List.Vector UInt8 32) (index : ℕ) (approve : Bool)

/-- `#[pallet::call_index]`. -/
def CollectiveCall.callIndex : CollectiveCall γ → UInt8
  | propose .. => 2
  | vote .. => 3

/-- How the calls are documented to be written: the numbers are compact. -/
def CollectiveCall.codec (c : Codec γ) : Codec (CollectiveCall γ) :=
  Codec.ofAlternatives callIndex
    [{ tag := 2, codec := Codec.compact.prod (c.prod Codec.compact)
       build := fun x ↦ .propose x.1 x.2.1 x.2.2
       get := fun
         | .propose threshold proposal lengthBound => some (threshold, proposal, lengthBound)
         | _ => none },
     { tag := 3, codec := (Codec.array 32).prod (Codec.compact.prod Codec.bool)
       build := fun x ↦ .vote x.1 x.2.1 x.2.2
       get := fun | .vote proposal index approve => some (proposal, index, approve) | _ => none }]
    (by decide : [(2 : UInt8), 3].Nodup)

/-- The reader of the pallet's calls. -/
structure Collective where
  decode : {γ : Type} → Reader γ → Reader (CollectiveCall γ)

/-- Its calls are read as they are written, if their proposals are. -/
structure Collective.Documented (C : Collective) : Prop where
  reads : ∀ {γ : Type} {r : Reader γ} {c : Codec γ}, r.Reads c →
    (C.decode r).Reads (CollectiveCall.codec c)

/-! ### The runtime -/

/-- `RuntimeCall`, of the pallets whose calls clients send. -/
inductive RuntimeCall where
  | council (call : CollectiveCall RuntimeCall)
  | scbc (call : Scbc.Call)

/-- The pallet of a call. -/
def RuntimeCall.pallet : RuntimeCall → Pallet
  | council _ => .council
  | scbc _ => .scbc

/-- How a call is written, with a codec for the calls in calls. -/
def RuntimeCall.layer (c : Codec RuntimeCall) : Codec RuntimeCall :=
  Codec.ofAlternatives (fun call ↦ call.pallet.index)
    [{ tag := Pallet.council.index, codec := CollectiveCall.codec c, build := .council
       get := fun | .council call => some call | _ => none },
     { tag := Pallet.scbc.index, codec := Scbc.Call.codec, build := .scbc
       get := fun | .scbc call => some call | _ => none }]
    (by decide : [Pallet.council.index, Pallet.scbc.index].Nodup)

variable {C : Collective}

/-- The derived reader of calls, to a given depth: the index of the pallet, then its call. -/
def runtimeCall (C : Collective) : ℕ → Reader RuntimeCall
  | 0, _ => none
  | _ + 1, [] => none
  | n + 1, t :: b =>
    if t = Pallet.council.index then (C.decode (runtimeCall C n)).map .council b
    else if t = Pallet.scbc.index then Reader.map .scbc Scbc.Call.codec.decode b
    else none

theorem runtimeCall_council (n : ℕ) (b : Bytes) :
    runtimeCall C (n + 1) (Pallet.council.index :: b) =
      (C.decode (runtimeCall C n)).map .council b := by
  rw [runtimeCall, if_pos rfl]

theorem runtimeCall_scbc (n : ℕ) (b : Bytes) : runtimeCall C (n + 1) (Pallet.scbc.index :: b) =
    Reader.map .scbc Scbc.Call.codec.decode b := by
  have hne : Pallet.scbc.index ≠ Pallet.council.index := by decide
  rw [runtimeCall, if_neg hne, if_pos rfl]

/-- **What is written is read**, to the depth of the reader. -/
theorem reads_runtimeCall (hC : C.Documented) (n : ℕ) :
    (runtimeCall C n).Reads (Codec.nested RuntimeCall.layer n) := by
  induction n with
  | zero => exact fun _ _ h ↦ h.elim
  | succ n ih =>
    rintro (call | call) rest hfits
    · show runtimeCall C (n + 1) (Pallet.council.index :: ((CollectiveCall.codec _).encode call ++
        rest)) = _
      rw [runtimeCall_council, Reader.map, hC.reads ih call rest hfits, Option.map_some]
    · show runtimeCall C (n + 1) (Pallet.scbc.index :: (Scbc.Call.codec.encode call ++ rest)) = _
      rw [runtimeCall_scbc, Reader.map, Scbc.Call.codec.decode_encode rest hfits, Option.map_some]

/-- A call of the SCBC pallet is read as the pallet's own codec says. -/
theorem runtimeCall_of_decode {n : ℕ} {b rest : Bytes} {call : Scbc.Call}
    (h : Scbc.runtimeCallCodec.decode b = some (call, rest)) :
    runtimeCall C (n + 1) b = some (.scbc call, rest) := by
  obtain ⟨hfits, rfl⟩ := Scbc.runtimeCallCodec.sound h
  show runtimeCall C (n + 1) (Pallet.scbc.index :: (Scbc.Call.codec.encode call ++ rest)) = _
  rw [runtimeCall_scbc, Reader.map, Scbc.Call.codec.decode_encode rest hfits, Option.map_some]

/-! ### Motions and votes -/

/-- **A motion is read**, with the call it holds. -/
theorem runtimeCall_propose (hC : C.Documented) {call : Scbc.Call}
    (hcall : Scbc.Call.codec.Fits call) {threshold lengthBound : ℕ}
    (hthreshold : threshold < 2 ^ 32) (hlengthBound : lengthBound < 2 ^ 32) (n : ℕ) (rest : Bytes) :
    runtimeCall C (n + 2) (8 :: 2 :: (Codec.compact.encode threshold ++
        (Scbc.runtimeCallCodec.encode call ++ Codec.compact.encode lengthBound)) ++ rest) =
      some (.council (.propose threshold (.scbc call) lengthBound), rest) :=
  reads_runtimeCall hC (n + 2) (.council (.propose threshold (.scbc call) lengthBound)) rest
    ⟨hthreshold, hcall, hlengthBound⟩

/-- A reader that reads nothing but the two calls, and these as they are written. -/
def sampleCollective : Collective where
  decode r
    | 2 :: b => Reader.map (fun x ↦ .propose x.1 x.2.1 x.2.2)
        (Reader.prod Codec.compact.decode (r.prod Codec.compact.decode)) b
    | 3 :: b => Reader.map (fun x ↦ .vote x.1 x.2.1 x.2.2)
        (Reader.prod (Codec.array 32).decode (Reader.prod Codec.compact.decode Codec.bool.decode)) b
    | _ => none

theorem sampleCollective_documented : sampleCollective.Documented where
  reads {γ r c} hr := by
    have hpropose : Reader.Reads (Reader.prod Codec.compact.decode (r.prod Codec.compact.decode))
        (Codec.compact.prod (c.prod Codec.compact)) :=
      (Reader.reads_decode _).prod (hr.prod (Reader.reads_decode _))
    have hvote : Reader.Reads (Reader.prod (Codec.array 32).decode
        (Reader.prod Codec.compact.decode Codec.bool.decode))
        ((Codec.array 32).prod (Codec.compact.prod Codec.bool)) :=
      (Reader.reads_decode _).prod ((Reader.reads_decode _).prod (Reader.reads_decode _))
    rintro (⟨threshold, proposal, lengthBound⟩ | ⟨proposal, index, approve⟩) rest hfits
    · exact congrArg (Option.map _) (hpropose (threshold, proposal, lengthBound) rest hfits)
    · exact congrArg (Option.map _) (hvote (proposal, index, approve) rest hfits)

end SentinelPlatform.Runtime
