import Mathlib.Data.List.Forall2
import VectorTrial.Proofs.Wrapper.Body
import VectorTrial.Wrapper.Library

/-!
# Calls within bounds

Native code has raw addresses only: how many bytes a wrapper reads and writes is decided by the
types in its text. A call passes the checks before it if and only if there is one argument for each
parameter, each of its kind of register, and no feature is missing. Then the types in the text have
the sizes of the buffers that native code is entered with, whatever this code computes.

## Main definitions

* `VectorTrial.Wrapper.accesses` — the accesses of a wrapper to memory.
* `VectorTrial.CallBuffers.accesses` — the accesses that take up the buffers of a call.
* `VectorTrial.Wrapper.KeepsBounds` — wrappers that are called within their bounds only.

## Main results

* `VectorTrial.Wrapper.buffers_eq_ok` — the calls that come to native code.
* `VectorTrial.Wrapper.keepsBounds` — every wrapper keeps within its bounds.
-/

namespace VectorTrial

/-! ### Accesses to memory -/

/-- **Accesses.** What native code does with the buffers of its caller, with the number of bytes
where the type has a known size. -/
inductive MemoryAccess where
  /-- Reads from the buffer of the argument at a position. -/
  | input (index : Nat) (bytes : Option Nat)
  /-- Writes to the buffer of the result. -/
  | output (bytes : Option Nat)
  deriving DecidableEq, Repr

/-- The access of a statement, if it has one. -/
def Statement.access? : Statement → Option MemoryAccess
  | read _ type index => some (.input index (nativeSize? type))
  | call _ _ _ _ _ => none
  | write type _ => some (.output (nativeSize? type))

/-- The accesses that read some buffers whole, from a position on. -/
def inputAccesses : Nat → List (List UInt8) → List MemoryAccess
  | _, [] => []
  | index, bytes :: rest => .input index (some bytes.length) :: inputAccesses (index + 1) rest

/-- The accesses that take up the buffers of a call: each argument is read whole, and then the whole
result is written. -/
def CallBuffers.accesses (b : CallBuffers) : List MemoryAccess :=
  inputAccesses 0 b.inputs ++ [.output (some b.output.length)]

theorem length_bytes_of_kind {r : Register} {s : Shape} (h : r.kind = s.kind) :
    r.bytes.length = s.byteSize := by
  rw [r.length_bytes, h, Shape.byteSize_kind]

/-- The lines that read parameters read exactly the buffers of arguments of their kinds. -/
theorem filterMap_access?_reads {params : List (String × Shape)} {args : List Register}
    (h : List.Forall₂ (fun (a : Register) s => a.kind = Shape.kind s) args (params.map Prod.snd))
    (index : Nat) : (Statement.reads index params).filterMap Statement.access? =
      inputAccesses index (args.map Register.bytes) := by
  induction params generalizing args index with
  | nil =>
    cases h
    rfl
  | cons p params ih =>
    cases h with
    | cons hkind hrest =>
      rw [Statement.reads, List.filterMap_cons, ih hrest, List.map_cons, inputAccesses,
        length_bytes_of_kind hkind, ← Shape.heldBy_nativeType]
      rfl

namespace Wrapper

/-- The accesses of a wrapper to memory, line after line. -/
def accesses (w : Wrapper) : List MemoryAccess := w.body.filterMap Statement.access?

/-- What native code is entered with for some arguments: their bytes, and a cleared result. -/
def given (w : Wrapper) (args : List Register) : CallBuffers :=
  ⟨args.map Register.bytes, (Register.zero w.ret).bytes⟩

/-- A wrapper reads all buffers of arguments of the right kinds, and writes a result. -/
theorem accesses_eq {w : Wrapper} {args : List Register}
    (h : List.Forall₂ (fun (a : Register) s => a.kind = Shape.kind s) args w.paramShapes) :
    w.accesses = (w.given args).accesses := by
  have hbindings : (w.bindings.map Binding.statement).filterMap Statement.access? = [] := by
    rw [List.filterMap_map]
    exact List.filterMap_eq_nil_iff.2 fun b _ => rfl
  have houtput : (Register.zero w.ret).bytes.length = w.ret.byteSize :=
    length_bytes_of_kind (Register.kind_pack w.ret [])
  rw [accesses, body, List.filterMap_append, List.filterMap_append, hbindings, List.append_nil,
    filterMap_access?_reads h, CallBuffers.accesses, given, houtput, ← Shape.heldBy_nativeType]
  rfl

/-! ### Checks before a call -/

/-- No argument is out of place if all of them have the kinds of the parameters. -/
theorem firstMisfit?_eq_none {shapes : List Shape} {args : List Register}
    (hlength : args.length = shapes.length) (index : Nat) :
    firstMisfit? index shapes args = none ↔
      List.Forall₂ (fun (a : Register) s => a.kind = Shape.kind s) args shapes := by
  induction shapes generalizing args index with
  | nil =>
    obtain rfl := List.length_eq_zero_iff.1 hlength
    exact iff_of_true rfl .nil
  | cons s shapes ih =>
    obtain ⟨a, args, rfl⟩ := List.exists_cons_of_length_eq_add_one hlength
    rw [firstMisfit?, List.forall₂_cons, ← ih (Nat.succ.inj hlength) (index + 1)]
    have hfits : a.fits s = true ↔ a.kind = s.kind := decide_eq_true_iff
    split_ifs with hfit
    · exact (and_iff_right (hfits.1 hfit)).symm
    · exact iff_of_false (fun h => (nomatch h)) fun h => hfit (hfits.2 h.1)

/-- **Calls.** A call comes to native code if there is one argument for each parameter, each of its
kind, and no feature is missing. -/
theorem buffers_eq_ok {w : Wrapper} {host : Host} {args : List Register} {b : CallBuffers} :
    w.buffers host args = .ok b ↔
      List.Forall₂ (fun (a : Register) s => a.kind = Shape.kind s) args w.paramShapes ∧
        host.missing w.features = [] ∧ b = w.given args := by
  have hlength : w.paramShapes.length = w.params.length := List.length_map _
  constructor
  · intro h
    unfold buffers at h
    split_ifs at h with hcount
    rw [not_not, ← hlength] at hcount
    split at h
    · cases h
    · next hmisfit =>
      simp only at h
      split_ifs at h with hmissing
      cases h
      exact ⟨(firstMisfit?_eq_none hcount 0).1 hmisfit, List.isEmpty_iff.1 hmissing, rfl⟩
  · rintro ⟨hkinds, hmissing, rfl⟩
    have hcount := hkinds.length_eq
    rw [buffers, if_neg (not_not.2 (hcount.trans hlength)),
      (firstMisfit?_eq_none hcount 0).2 hkinds]
    exact if_pos (List.isEmpty_iff.2 hmissing)

/-- A call that passes the checks on arguments is refused where features are missing. -/
theorem buffers_of_missing {w : Wrapper} {host : Host} {args : List Register}
    (hkinds : List.Forall₂ (fun (a : Register) s => a.kind = Shape.kind s) args w.paramShapes)
    (hmissing : host.missing w.features ≠ []) :
    w.buffers host args = .error (.unsupportedCpu w.name (host.missing w.features)) := by
  have hcount := hkinds.length_eq
  have hmisfit := (firstMisfit?_eq_none hcount 0).2 hkinds
  have hnonempty : ¬ (host.missing w.features).isEmpty = true := by
    rwa [List.isEmpty_iff]
  rw [paramShapes, List.length_map] at hcount
  rw [buffers, if_neg (not_not.2 hcount), hmisfit]
  exact if_neg hnonempty

/-- **Bounds.** Whatever native code is found for a wrapper, a call comes to it only if there is one
argument for each parameter, each of its kind, and no feature is missing. Then the code is entered
with the bytes of the arguments and with a cleared result, whose bytes it replaces. The lines of the
wrapper read and write exactly these buffers, each of them whole. -/
def KeepsBounds (w : Wrapper) : Prop :=
  ∀ (code : EntryPoint) (host : Host) (args : List Register),
    ((∃ r, (NativeFunction.mk w code).invoke host args = .ok r) ↔
      List.Forall₂ (fun (a : Register) s => a.kind = Shape.kind s) args w.paramShapes ∧
        host.missing w.features = []) ∧
    ∀ r, (NativeFunction.mk w code).invoke host args = .ok r →
      ∃ b : CallBuffers, b.inputs = args.map Register.bytes ∧
        b.output = (Register.zero w.ret).bytes ∧ w.accesses = b.accesses ∧
        r = (Register.zero w.ret).overwrite (code b)

/-- **Bounds.** Every wrapper keeps within its bounds. -/
theorem keepsBounds (w : Wrapper) : w.KeepsBounds := by
  intro code host args
  refine ⟨⟨?_, ?_⟩, ?_⟩
  · rintro ⟨r, hr⟩
    obtain ⟨b, hb, -⟩ := bind_eq_ok.1 hr
    obtain ⟨hkinds, hmissing, -⟩ := buffers_eq_ok.1 hb
    exact ⟨hkinds, hmissing⟩
  · rintro ⟨hkinds, hmissing⟩
    exact ⟨_, bind_eq_ok.2 ⟨_, buffers_eq_ok.2 ⟨hkinds, hmissing, rfl⟩, rfl⟩⟩
  · intro r hr
    obtain ⟨b, hb, hresult⟩ := bind_eq_ok.1 hr
    obtain ⟨hkinds, -, rfl⟩ := buffers_eq_ok.1 hb
    exact ⟨w.given args, rfl, rfl, accesses_eq hkinds, (Except.ok.inj hresult).symm⟩

end Wrapper

end VectorTrial
