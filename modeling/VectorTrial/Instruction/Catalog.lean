import VectorTrial.Lane.Shape

/-!
# The instruction catalog

The instructions under test: binary integer operations on vector registers. Every entry has a
symbolic model, which a checker knows by its symbol, and a native realisation, which a compiler
knows by its function name. The catalog is closed and its indices are stable.

## Main definitions

* `VectorTrial.Feature` — the processor features that entries need.
* `VectorTrial.Operation` — what an instruction computes.
* `VectorTrial.Entry` — one row of the catalog.
* `VectorTrial.Intrinsic` — a handle for a row, with its lookups.

## Main results

* `VectorTrial.Intrinsic.result_eq_first` — an instruction returns a value laid out as its first
  operand.
-/

namespace VectorTrial

/-- A processor feature that an instruction needs. -/
inductive Feature where
  | sse2
  | ssse3
  | avx2
  | avx512f
  | avx512bw
  | avx512vl
  deriving DecidableEq, Repr

/-- The name of a feature, as compilers write it. -/
def Feature.name : Feature → String
  | sse2 => "sse2"
  | ssse3 => "ssse3"
  | avx2 => "avx2"
  | avx512f => "avx512f"
  | avx512bw => "avx512bw"
  | avx512vl => "avx512vl"

/-- The direction of a shift and the bits that it brings in. -/
inductive ShiftKind where
  | logicalRight
  | arithmeticRight
  | left
  deriving DecidableEq, Repr

/-- Where a shift takes its count from. -/
inductive CountSource where
  /-- One count for all lanes: the low 64 bits of a vector operand. -/
  | quadword
  /-- One count for all lanes: a scalar operand. -/
  | immediate
  /-- A count for each lane: the lane of a vector operand at the same place. -/
  | perLane
  deriving DecidableEq, Repr

/-- Whether neighbours are added or subtracted. -/
inductive PairKind where
  | add
  | sub
  deriving DecidableEq, Repr

/-- What happens to a sum that leaves the range of its lane. -/
inductive RangePolicy where
  | wrapping
  | saturating
  deriving DecidableEq, Repr

/-- What an instruction computes. -/
inductive Operation where
  /-- The unsigned average of two lanes, a half rounded up. -/
  | average
  /-- Bytes of the first operand chosen by the bytes of the second. -/
  | shuffle
  /-- A shift of every lane. -/
  | shift (kind : ShiftKind) (count : CountSource)
  /-- Lanes of the first operand, their negations or zeros, by the sign of the second. -/
  | sign
  /-- Sums or differences of neighbouring lanes. -/
  | horizontal (kind : PairKind) (policy : RangePolicy)
  deriving DecidableEq, Repr

/-- Whether the second operand is a shift count. -/
def Operation.isShift : Operation → Bool
  | shift _ _ => true
  | _ => false

/-- One row of the catalog. -/
structure Entry where
  /-- The short name, such as `sse2_pavg_w`. -/
  name : String
  /-- The symbol of the symbolic model. -/
  symbol : String
  /-- The function that realises the instruction natively. -/
  nativeFunction : String
  operation : Operation
  /-- The processor features that the native function needs. -/
  features : List Feature
  first : Shape
  second : Shape
  result : Shape
  deriving DecidableEq, Repr

namespace Catalog

/-! ### The table -/

section Table

open Feature

private def b128 : Shape := .vector .v128 .w8
private def w128 : Shape := .vector .v128 .w16
private def d128 : Shape := .vector .v128 .w32
private def q128 : Shape := .vector .v128 .w64
private def b256 : Shape := .vector .v256 .w8
private def w256 : Shape := .vector .v256 .w16
private def d256 : Shape := .vector .v256 .w32
private def q256 : Shape := .vector .v256 .w64
private def b512 : Shape := .vector .v512 .w8
private def w512 : Shape := .vector .v512 .w16
private def d512 : Shape := .vector .v512 .w32
private def q512 : Shape := .vector .v512 .w64
private def s32 : Shape := .scalar32

/-- The number of catalog entries. -/
def size : Nat := 107

/-- The catalog, in the order of its indices. -/
def table : Vector Entry 107 :=
  #v[
    ⟨"sse2_pavg_w", "llvm.x86.sse2.pavg.w", "_mm_avg_epu16", .average, [sse2], w128, w128, w128⟩,
    ⟨"sse2_pavg_b", "llvm.x86.sse2.pavg.b", "_mm_avg_epu8", .average, [sse2], b128, b128, b128⟩,
    ⟨"avx2_pavg_w", "llvm.x86.avx2.pavg.w", "_mm256_avg_epu16", .average, [avx2], w256, w256, w256⟩,
    ⟨"avx2_pavg_b", "llvm.x86.avx2.pavg.b", "_mm256_avg_epu8", .average, [avx2], b256, b256, b256⟩,
    ⟨"avx512_pavg_b_512", "llvm.x86.avx512.pavg.b.512", "_mm512_avg_epu8",
      .average, [avx512bw], b512, b512, b512⟩,
    ⟨"avx512_pavg_w_512", "llvm.x86.avx512.pavg.w.512", "_mm512_avg_epu16",
      .average, [avx512bw], w512, w512, w512⟩,
    ⟨"avx2_pshuf_b", "llvm.x86.avx2.pshuf.b", "_mm256_shuffle_epi8",
      .shuffle, [avx2], b256, b256, b256⟩,
    ⟨"ssse3_pshuf_b_128", "llvm.x86.ssse3.pshuf.b.128", "_mm_shuffle_epi8",
      .shuffle, [ssse3], b128, b128, b128⟩,
    ⟨"sse2_psrl_w", "llvm.x86.sse2.psrl.w", "_mm_srl_epi16",
      .shift .logicalRight .quadword, [sse2], w128, w128, w128⟩,
    ⟨"sse2_psrl_d", "llvm.x86.sse2.psrl.d", "_mm_srl_epi32",
      .shift .logicalRight .quadword, [sse2], d128, d128, d128⟩,
    ⟨"sse2_psrl_q", "llvm.x86.sse2.psrl.q", "_mm_srl_epi64",
      .shift .logicalRight .quadword, [sse2], q128, q128, q128⟩,
    ⟨"avx2_psrl_w", "llvm.x86.avx2.psrl.w", "_mm256_srl_epi16",
      .shift .logicalRight .quadword, [avx2], w256, w128, w256⟩,
    ⟨"avx2_psrl_d", "llvm.x86.avx2.psrl.d", "_mm256_srl_epi32",
      .shift .logicalRight .quadword, [avx2], d256, d128, d256⟩,
    ⟨"avx2_psrl_q", "llvm.x86.avx2.psrl.q", "_mm256_srl_epi64",
      .shift .logicalRight .quadword, [avx2], q256, q128, q256⟩,
    ⟨"avx512_psrl_w_512", "llvm.x86.avx512.psrl.w.512", "_mm512_srl_epi16",
      .shift .logicalRight .quadword, [avx512bw], w512, w128, w512⟩,
    ⟨"avx512_psrl_d_512", "llvm.x86.avx512.psrl.d.512", "_mm512_srl_epi32",
      .shift .logicalRight .quadword, [avx512f], d512, d128, d512⟩,
    ⟨"avx512_psrl_q_512", "llvm.x86.avx512.psrl.q.512", "_mm512_srl_epi64",
      .shift .logicalRight .quadword, [avx512f], q512, q128, q512⟩,
    ⟨"sse2_psrli_w", "llvm.x86.sse2.psrli.w", "_mm_srl_epi16",
      .shift .logicalRight .immediate, [sse2], w128, s32, w128⟩,
    ⟨"sse2_psrli_d", "llvm.x86.sse2.psrli.d", "_mm_srl_epi32",
      .shift .logicalRight .immediate, [sse2], d128, s32, d128⟩,
    ⟨"sse2_psrli_q", "llvm.x86.sse2.psrli.q", "_mm_srl_epi64",
      .shift .logicalRight .immediate, [sse2], q128, s32, q128⟩,
    ⟨"avx2_psrli_w", "llvm.x86.avx2.psrli.w", "_mm256_srl_epi16",
      .shift .logicalRight .immediate, [avx2], w256, s32, w256⟩,
    ⟨"avx2_psrli_d", "llvm.x86.avx2.psrli.d", "_mm256_srl_epi32",
      .shift .logicalRight .immediate, [avx2], d256, s32, d256⟩,
    ⟨"avx2_psrli_q", "llvm.x86.avx2.psrli.q", "_mm256_srl_epi64",
      .shift .logicalRight .immediate, [avx2], q256, s32, q256⟩,
    ⟨"avx512_psrli_w_512", "llvm.x86.avx512.psrli.w.512", "_mm512_srl_epi16",
      .shift .logicalRight .immediate, [avx512bw], w512, s32, w512⟩,
    ⟨"avx512_psrli_d_512", "llvm.x86.avx512.psrli.d.512", "_mm512_srl_epi32",
      .shift .logicalRight .immediate, [avx512f], d512, s32, d512⟩,
    ⟨"avx512_psrli_q_512", "llvm.x86.avx512.psrli.q.512", "_mm512_srl_epi64",
      .shift .logicalRight .immediate, [avx512f], q512, s32, q512⟩,
    ⟨"avx2_psrlv_d", "llvm.x86.avx2.psrlv.d", "_mm_srlv_epi32",
      .shift .logicalRight .perLane, [avx2], d128, d128, d128⟩,
    ⟨"avx2_psrlv_d_256", "llvm.x86.avx2.psrlv.d.256", "_mm256_srlv_epi32",
      .shift .logicalRight .perLane, [avx2], d256, d256, d256⟩,
    ⟨"avx2_psrlv_q", "llvm.x86.avx2.psrlv.q", "_mm_srlv_epi64",
      .shift .logicalRight .perLane, [avx2], q128, q128, q128⟩,
    ⟨"avx2_psrlv_q_256", "llvm.x86.avx2.psrlv.q.256", "_mm256_srlv_epi64",
      .shift .logicalRight .perLane, [avx2], q256, q256, q256⟩,
    ⟨"avx512_psrlv_d_512", "llvm.x86.avx512.psrlv.d.512", "_mm512_srlv_epi32",
      .shift .logicalRight .perLane, [avx512f], d512, d512, d512⟩,
    ⟨"avx512_psrlv_q_512", "llvm.x86.avx512.psrlv.q.512", "_mm512_srlv_epi64",
      .shift .logicalRight .perLane, [avx512f], q512, q512, q512⟩,
    ⟨"avx512_psrlv_w_128", "llvm.x86.avx512.psrlv.w.128", "_mm_srlv_epi16",
      .shift .logicalRight .perLane, [avx512bw, avx512vl], w128, w128, w128⟩,
    ⟨"avx512_psrlv_w_256", "llvm.x86.avx512.psrlv.w.256", "_mm256_srlv_epi16",
      .shift .logicalRight .perLane, [avx512bw, avx512vl], w256, w256, w256⟩,
    ⟨"avx512_psrlv_w_512", "llvm.x86.avx512.psrlv.w.512", "_mm512_srlv_epi16",
      .shift .logicalRight .perLane, [avx512bw], w512, w512, w512⟩,
    ⟨"sse2_psra_w", "llvm.x86.sse2.psra.w", "_mm_sra_epi16",
      .shift .arithmeticRight .quadword, [sse2], w128, w128, w128⟩,
    ⟨"sse2_psra_d", "llvm.x86.sse2.psra.d", "_mm_sra_epi32",
      .shift .arithmeticRight .quadword, [sse2], d128, d128, d128⟩,
    ⟨"avx2_psra_w", "llvm.x86.avx2.psra.w", "_mm256_sra_epi16",
      .shift .arithmeticRight .quadword, [avx2], w256, w128, w256⟩,
    ⟨"avx2_psra_d", "llvm.x86.avx2.psra.d", "_mm256_sra_epi32",
      .shift .arithmeticRight .quadword, [avx2], d256, d128, d256⟩,
    ⟨"avx512_psra_q_128", "llvm.x86.avx512.psra.q.128", "_mm_sra_epi64",
      .shift .arithmeticRight .quadword, [avx512f, avx512vl], q128, q128, q128⟩,
    ⟨"avx512_psra_q_256", "llvm.x86.avx512.psra.q.256", "_mm256_sra_epi64",
      .shift .arithmeticRight .quadword, [avx512f, avx512vl], q256, q128, q256⟩,
    ⟨"avx512_psra_w_512", "llvm.x86.avx512.psra.w.512", "_mm512_sra_epi16",
      .shift .arithmeticRight .quadword, [avx512bw], w512, w128, w512⟩,
    ⟨"avx512_psra_d_512", "llvm.x86.avx512.psra.d.512", "_mm512_sra_epi32",
      .shift .arithmeticRight .quadword, [avx512f], d512, d128, d512⟩,
    ⟨"avx512_psra_q_512", "llvm.x86.avx512.psra.q.512", "_mm512_sra_epi64",
      .shift .arithmeticRight .quadword, [avx512f], q512, q128, q512⟩,
    ⟨"sse2_psrai_w", "llvm.x86.sse2.psrai.w", "_mm_sra_epi16",
      .shift .arithmeticRight .immediate, [sse2], w128, s32, w128⟩,
    ⟨"sse2_psrai_d", "llvm.x86.sse2.psrai.d", "_mm_sra_epi32",
      .shift .arithmeticRight .immediate, [sse2], d128, s32, d128⟩,
    ⟨"avx2_psrai_w", "llvm.x86.avx2.psrai.w", "_mm256_sra_epi16",
      .shift .arithmeticRight .immediate, [avx2], w256, s32, w256⟩,
    ⟨"avx2_psrai_d", "llvm.x86.avx2.psrai.d", "_mm256_sra_epi32",
      .shift .arithmeticRight .immediate, [avx2], d256, s32, d256⟩,
    ⟨"avx512_psrai_w_512", "llvm.x86.avx512.psrai.w.512", "_mm512_sra_epi16",
      .shift .arithmeticRight .immediate, [avx512bw], w512, s32, w512⟩,
    ⟨"avx512_psrai_d_512", "llvm.x86.avx512.psrai.d.512", "_mm512_sra_epi32",
      .shift .arithmeticRight .immediate, [avx512f], d512, s32, d512⟩,
    ⟨"avx512_psrai_q_128", "llvm.x86.avx512.psrai.q.128", "_mm_sra_epi64",
      .shift .arithmeticRight .immediate, [avx512f, avx512vl], q128, s32, q128⟩,
    ⟨"avx512_psrai_q_256", "llvm.x86.avx512.psrai.q.256", "_mm256_sra_epi64",
      .shift .arithmeticRight .immediate, [avx512f, avx512vl], q256, s32, q256⟩,
    ⟨"avx512_psrai_q_512", "llvm.x86.avx512.psrai.q.512", "_mm512_sra_epi64",
      .shift .arithmeticRight .immediate, [avx512f], q512, s32, q512⟩,
    ⟨"avx2_psrav_d", "llvm.x86.avx2.psrav.d", "_mm_srav_epi32",
      .shift .arithmeticRight .perLane, [avx2], d128, d128, d128⟩,
    ⟨"avx2_psrav_d_256", "llvm.x86.avx2.psrav.d.256", "_mm256_srav_epi32",
      .shift .arithmeticRight .perLane, [avx2], d256, d256, d256⟩,
    ⟨"avx512_psrav_d_512", "llvm.x86.avx512.psrav.d.512", "_mm512_srav_epi32",
      .shift .arithmeticRight .perLane, [avx512f], d512, d512, d512⟩,
    ⟨"avx512_psrav_q_128", "llvm.x86.avx512.psrav.q.128", "_mm_srav_epi64",
      .shift .arithmeticRight .perLane, [avx512f, avx512vl], q128, q128, q128⟩,
    ⟨"avx512_psrav_q_256", "llvm.x86.avx512.psrav.q.256", "_mm256_srav_epi64",
      .shift .arithmeticRight .perLane, [avx512f, avx512vl], q256, q256, q256⟩,
    ⟨"avx512_psrav_q_512", "llvm.x86.avx512.psrav.q.512", "_mm512_srav_epi64",
      .shift .arithmeticRight .perLane, [avx512f], q512, q512, q512⟩,
    ⟨"avx512_psrav_w_128", "llvm.x86.avx512.psrav.w.128", "_mm_srav_epi16",
      .shift .arithmeticRight .perLane, [avx512bw, avx512vl], w128, w128, w128⟩,
    ⟨"avx512_psrav_w_256", "llvm.x86.avx512.psrav.w.256", "_mm256_srav_epi16",
      .shift .arithmeticRight .perLane, [avx512bw, avx512vl], w256, w256, w256⟩,
    ⟨"avx512_psrav_w_512", "llvm.x86.avx512.psrav.w.512", "_mm512_srav_epi16",
      .shift .arithmeticRight .perLane, [avx512bw], w512, w512, w512⟩,
    ⟨"sse2_psll_w", "llvm.x86.sse2.psll.w", "_mm_sll_epi16",
      .shift .left .quadword, [sse2], w128, w128, w128⟩,
    ⟨"sse2_psll_d", "llvm.x86.sse2.psll.d", "_mm_sll_epi32",
      .shift .left .quadword, [sse2], d128, d128, d128⟩,
    ⟨"sse2_psll_q", "llvm.x86.sse2.psll.q", "_mm_sll_epi64",
      .shift .left .quadword, [sse2], q128, q128, q128⟩,
    ⟨"avx2_psll_w", "llvm.x86.avx2.psll.w", "_mm256_sll_epi16",
      .shift .left .quadword, [avx2], w256, w128, w256⟩,
    ⟨"avx2_psll_d", "llvm.x86.avx2.psll.d", "_mm256_sll_epi32",
      .shift .left .quadword, [avx2], d256, d128, d256⟩,
    ⟨"avx2_psll_q", "llvm.x86.avx2.psll.q", "_mm256_sll_epi64",
      .shift .left .quadword, [avx2], q256, q128, q256⟩,
    ⟨"avx512_psll_w_512", "llvm.x86.avx512.psll.w.512", "_mm512_sll_epi16",
      .shift .left .quadword, [avx512bw], w512, w128, w512⟩,
    ⟨"avx512_psll_d_512", "llvm.x86.avx512.psll.d.512", "_mm512_sll_epi32",
      .shift .left .quadword, [avx512f], d512, d128, d512⟩,
    ⟨"avx512_psll_q_512", "llvm.x86.avx512.psll.q.512", "_mm512_sll_epi64",
      .shift .left .quadword, [avx512f], q512, q128, q512⟩,
    ⟨"sse2_pslli_w", "llvm.x86.sse2.pslli.w", "_mm_sll_epi16",
      .shift .left .immediate, [sse2], w128, s32, w128⟩,
    ⟨"sse2_pslli_d", "llvm.x86.sse2.pslli.d", "_mm_sll_epi32",
      .shift .left .immediate, [sse2], d128, s32, d128⟩,
    ⟨"sse2_pslli_q", "llvm.x86.sse2.pslli.q", "_mm_sll_epi64",
      .shift .left .immediate, [sse2], q128, s32, q128⟩,
    ⟨"avx2_pslli_w", "llvm.x86.avx2.pslli.w", "_mm256_sll_epi16",
      .shift .left .immediate, [avx2], w256, s32, w256⟩,
    ⟨"avx2_pslli_d", "llvm.x86.avx2.pslli.d", "_mm256_sll_epi32",
      .shift .left .immediate, [avx2], d256, s32, d256⟩,
    ⟨"avx2_pslli_q", "llvm.x86.avx2.pslli.q", "_mm256_sll_epi64",
      .shift .left .immediate, [avx2], q256, s32, q256⟩,
    ⟨"avx512_pslli_w_512", "llvm.x86.avx512.pslli.w.512", "_mm512_sll_epi16",
      .shift .left .immediate, [avx512bw], w512, s32, w512⟩,
    ⟨"avx512_pslli_d_512", "llvm.x86.avx512.pslli.d.512", "_mm512_sll_epi32",
      .shift .left .immediate, [avx512f], d512, s32, d512⟩,
    ⟨"avx512_pslli_q_512", "llvm.x86.avx512.pslli.q.512", "_mm512_sll_epi64",
      .shift .left .immediate, [avx512f], q512, s32, q512⟩,
    ⟨"avx2_psllv_d", "llvm.x86.avx2.psllv.d", "_mm_sllv_epi32",
      .shift .left .perLane, [avx2], d128, d128, d128⟩,
    ⟨"avx2_psllv_d_256", "llvm.x86.avx2.psllv.d.256", "_mm256_sllv_epi32",
      .shift .left .perLane, [avx2], d256, d256, d256⟩,
    ⟨"avx2_psllv_q", "llvm.x86.avx2.psllv.q", "_mm_sllv_epi64",
      .shift .left .perLane, [avx2], q128, q128, q128⟩,
    ⟨"avx2_psllv_q_256", "llvm.x86.avx2.psllv.q.256", "_mm256_sllv_epi64",
      .shift .left .perLane, [avx2], q256, q256, q256⟩,
    ⟨"avx512_psllv_d_512", "llvm.x86.avx512.psllv.d.512", "_mm512_sllv_epi32",
      .shift .left .perLane, [avx512f], d512, d512, d512⟩,
    ⟨"avx512_psllv_q_512", "llvm.x86.avx512.psllv.q.512", "_mm512_sllv_epi64",
      .shift .left .perLane, [avx512f], q512, q512, q512⟩,
    ⟨"avx512_psllv_w_128", "llvm.x86.avx512.psllv.w.128", "_mm_sllv_epi16",
      .shift .left .perLane, [avx512bw, avx512vl], w128, w128, w128⟩,
    ⟨"avx512_psllv_w_256", "llvm.x86.avx512.psllv.w.256", "_mm256_sllv_epi16",
      .shift .left .perLane, [avx512bw, avx512vl], w256, w256, w256⟩,
    ⟨"avx512_psllv_w_512", "llvm.x86.avx512.psllv.w.512", "_mm512_sllv_epi16",
      .shift .left .perLane, [avx512bw], w512, w512, w512⟩,
    ⟨"ssse3_psign_b_128", "llvm.x86.ssse3.psign.b.128", "_mm_sign_epi8",
      .sign, [ssse3], b128, b128, b128⟩,
    ⟨"ssse3_psign_w_128", "llvm.x86.ssse3.psign.w.128", "_mm_sign_epi16",
      .sign, [ssse3], w128, w128, w128⟩,
    ⟨"ssse3_psign_d_128", "llvm.x86.ssse3.psign.d.128", "_mm_sign_epi32",
      .sign, [ssse3], d128, d128, d128⟩,
    ⟨"avx2_psign_b", "llvm.x86.avx2.psign.b", "_mm256_sign_epi8", .sign, [avx2], b256, b256, b256⟩,
    ⟨"avx2_psign_w", "llvm.x86.avx2.psign.w", "_mm256_sign_epi16", .sign, [avx2], w256, w256, w256⟩,
    ⟨"avx2_psign_d", "llvm.x86.avx2.psign.d", "_mm256_sign_epi32", .sign, [avx2], d256, d256, d256⟩,
    ⟨"ssse3_phadd_w_128", "llvm.x86.ssse3.phadd.w.128", "_mm_hadd_epi16",
      .horizontal .add .wrapping, [ssse3], w128, w128, w128⟩,
    ⟨"ssse3_phadd_d_128", "llvm.x86.ssse3.phadd.d.128", "_mm_hadd_epi32",
      .horizontal .add .wrapping, [ssse3], d128, d128, d128⟩,
    ⟨"ssse3_phadd_sw_128", "llvm.x86.ssse3.phadd.sw.128", "_mm_hadds_epi16",
      .horizontal .add .saturating, [ssse3], w128, w128, w128⟩,
    ⟨"avx2_phadd_w", "llvm.x86.avx2.phadd.w", "_mm256_hadd_epi16",
      .horizontal .add .wrapping, [avx2], w256, w256, w256⟩,
    ⟨"avx2_phadd_d", "llvm.x86.avx2.phadd.d", "_mm256_hadd_epi32",
      .horizontal .add .wrapping, [avx2], d256, d256, d256⟩,
    ⟨"avx2_phadd_sw", "llvm.x86.avx2.phadd.sw", "_mm256_hadds_epi16",
      .horizontal .add .saturating, [avx2], w256, w256, w256⟩,
    ⟨"ssse3_phsub_w_128", "llvm.x86.ssse3.phsub.w.128", "_mm_hsub_epi16",
      .horizontal .sub .wrapping, [ssse3], w128, w128, w128⟩,
    ⟨"ssse3_phsub_d_128", "llvm.x86.ssse3.phsub.d.128", "_mm_hsub_epi32",
      .horizontal .sub .wrapping, [ssse3], d128, d128, d128⟩,
    ⟨"ssse3_phsub_sw_128", "llvm.x86.ssse3.phsub.sw.128", "_mm_hsubs_epi16",
      .horizontal .sub .saturating, [ssse3], w128, w128, w128⟩,
    ⟨"avx2_phsub_w", "llvm.x86.avx2.phsub.w", "_mm256_hsub_epi16",
      .horizontal .sub .wrapping, [avx2], w256, w256, w256⟩,
    ⟨"avx2_phsub_d", "llvm.x86.avx2.phsub.d", "_mm256_hsub_epi32",
      .horizontal .sub .wrapping, [avx2], d256, d256, d256⟩,
    ⟨"avx2_phsub_sw", "llvm.x86.avx2.phsub.sw", "_mm256_hsubs_epi16",
      .horizontal .sub .saturating, [avx2], w256, w256, w256⟩]

end Table

end Catalog

/-- A handle for a catalog entry. -/
structure Intrinsic where
  index : Fin Catalog.size
  deriving DecidableEq, Repr

namespace Intrinsic

/-- All handles, in catalog order. -/
def all : List Intrinsic := (List.finRange Catalog.size).map Intrinsic.mk

/-- The catalog row of a handle. -/
def entry (i : Intrinsic) : Entry := Catalog.table[i.index]

/-- The handle with a given index. -/
def ofIndex? (index : Nat) : Option Intrinsic :=
  if h : index < Catalog.size then some ⟨⟨index, h⟩⟩ else none

/-- The wording of the failure that ends a program which takes an index outside the catalog for
granted. -/
def outOfRangeMessage (index : Nat) : String :=
  "intrinsic index " ++ toString index ++ " out of range (catalog has " ++
    toString Catalog.size ++ " entries)"

/-- The short name. -/
def name (i : Intrinsic) : String := i.entry.name

/-- The symbol of the symbolic model. -/
def symbol (i : Intrinsic) : String := i.entry.symbol

/-- The processor features that the native function needs. -/
def features (i : Intrinsic) : List Feature := i.entry.features

/-- The names of these features. -/
def featureNames (i : Intrinsic) : List String := i.features.map Feature.name

/-- The layout of the first operand. -/
def first (i : Intrinsic) : Shape := i.entry.first

/-- The layout of the second operand. -/
def second (i : Intrinsic) : Shape := i.entry.second

/-- The layout of the result. -/
def result (i : Intrinsic) : Shape := i.entry.result

/-- The layouts of the first operand, the second operand and the result. -/
def shapes (i : Intrinsic) : List Shape := [i.first, i.second, i.result]

/-- Whether the second operand is a bare scalar count. -/
def hasScalarOperand (i : Intrinsic) : Bool := i.second.isScalar

/-- Whether the second operand is a shift count: of a vector, of each lane or immediate. -/
def hasShiftCount (i : Intrinsic) : Bool := i.entry.operation.isShift

/-- The first handle whose entry has a property, by the text that was looked up. -/
private def lookUp (key : Intrinsic → String) (text : String) : Except OperandError Intrinsic :=
  match all.find? fun i => key i == text with
  | some i => .ok i
  | none => .error (.unknownIntrinsic text)

/-- The handle of the entry with a given short name. -/
def ofName (text : String) : Except OperandError Intrinsic := lookUp name text

/-- The handle of the entry with a given model symbol. -/
def ofSymbol (text : String) : Except OperandError Intrinsic := lookUp symbol text

/-- The entry of a symbol is the first one that has it. -/
theorem ofSymbol_eq (text : String) : ofSymbol text =
    (all.find? fun i => i.symbol == text).elim (.error (.unknownIntrinsic text)) .ok := by
  unfold ofSymbol lookUp
  cases all.find? fun i => i.symbol == text <;> rfl

/-- The name of the execution wrapper of an entry. -/
def wrapperName (i : Intrinsic) : String := "func" ++ toString i.index.val

theorem result_eq_first (i : Intrinsic) : i.result = i.first := by
  have h : ∀ k : Fin Catalog.size, Catalog.table[k].result = Catalog.table[k].first := by
    decide +kernel
  exact h i.index

theorem first_not_scalar (i : Intrinsic) : i.first.isScalar = false := by
  have h : ∀ k : Fin Catalog.size, Catalog.table[k].first.isScalar = false := by decide +kernel
  exact h i.index

end Intrinsic

end VectorTrial
