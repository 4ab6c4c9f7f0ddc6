import MiniLlm.GemmKernels
import MiniLlm.StreamOrder

/-!
# The GEMM launchers and their two backends

`launch_gemm`, `launch_gemm_bias` and `launch_gemm_bias_gelu` as the launches
they make. What changes is the memory behind `C`. `cublasSgemm` is a parameter;
its handle, its status and the transpose flags, which are always `N`, are left
out. Most indices are of type `size_t`; where one is an `int`, it has to be one.
A launch has no run where one overflows, where an access faults, and where CUDA
refuses its grid.
-/

set_option autoImplicit false

namespace MiniLlm.Gemm

open FlatMemory KernelLaunch Streams

/-- `cublasSgemm(m, n, k, alpha, A, lda, B, ldb, beta, C, ldc)`, and what it stores. -/
def Sgemm (R : Type*) : Type _ :=
  ℕ → ℕ → ℕ → R → Buffer R → ℕ → Buffer R → ℕ → R → Buffer R → ℕ → Option (List (ℕ × R))

section Kernels

variable {R : Type*}

/-- A kernel that reads and writes `C`. -/
def onC (stream : CudaStream) (C : Buffer R) (kernel : Buffer R → Option (List (ℕ × R))) :
    Launch (Memory R) where
  stream := stream
  run := fun data => (kernel (C.withData data)).map fun writes => storeAll writes data

def launch256 (grid : ℕ) (thread : ℕ → Option (List (ℕ × R))) : Option (List (ℕ × R)) :=
  launch 1 grid fun _ b => gather (List.range 256) fun t => thread (b*256+t)

def addBiasKernel [Add R] (C bias : Buffer R) (M N idx : ℕ) : Option (List (ℕ × R)) :=
  if M*N ≤ idx then some [] else do
    let v ← C.load idx
    let b ← bias.load (idx%N)
    C.store idx (v+b)

/-- `total` and the size of the grid are of type `int`. -/
def addBiasGrid [Add R] (C bias : Buffer R) (M N : ℕ) : Option (List (ℕ × R)) :=
  if M*N+256 ≤ intMax then launch256 ((M*N+256-1)/256) (addBiasKernel C bias M N) else none

def launchAddBias [Add R] (C : Buffer R) (bias : Option (Buffer R)) (M N : ℕ)
    (stream : CudaStream) : List (Launch (Memory R)) :=
  match bias with
  | none => []
  | some bias => [onC stream C fun C => addBiasGrid C bias M N]

/-- A thread has four elements, and takes them one by one if they are not all there. -/
def geluKernel (gelu : R → R) (x : Buffer R) (n vecIdx : ℕ) : Option (List (ℕ × R)) :=
  let base := vecIdx*4
  if base+3 < n then do
    let xv ← x.load4 base
    x.store4 base ⟨gelu xv.x,gelu xv.y,gelu xv.z,gelu xv.w⟩
  else gather (List.range' base (n-base)) fun i => do
    let v ← x.load i
    x.store i (gelu v)

/-- So are `nums` and the size of this grid. -/
def geluGrid (gelu : R → R) (x : Buffer R) (nums : ℕ) : Option (List (ℕ × R)) :=
  if nums+4 ≤ intMax then launch256 (((nums+4-1)/4+256-1)/256) (geluKernel gelu x nums) else none

/-- `gelu` takes no stream. -/
def geluLaunch (gelu : R → R) (x : Buffer R) (nums : ℕ) : Launch (Memory R) :=
  onC .default x fun x => geluGrid gelu x nums

def launchGelu (gelu : R → R) (x : Buffer R) (nums : ℕ) : List (Launch (Memory R)) :=
  if nums = 0 then [] else [geluLaunch gelu x nums]

end Kernels

section Ints

variable {R : Type*}

/-- The largest offsets into `A` and `C` of a block and of a thread of the vectorized kernel. -/
structure VectorizedInts (M N K : ℕ) : Prop where
  blockA : (M-bm)*K ≤ intMax
  threadA : (bm-1)*K+(bk-4) ≤ intMax
  blockC : (M-bm)*N+(N-bn) ≤ intMax
  threadC : (bm-1)*N+(bn-4) ≤ intMax

instance (M N K : ℕ) : Decidable (VectorizedInts M N K) :=
  decidable_of_iff ((M-bm)*K ≤ intMax ∧ (bm-1)*K+(bk-4) ≤ intMax ∧
      (M-bm)*N+(N-bn) ≤ intMax ∧ (bm-1)*N+(bn-4) ≤ intMax)
    ⟨fun ⟨ha,hta,hc,htc⟩ => ⟨ha,hta,hc,htc⟩,fun h => ⟨h.blockA,h.threadA,h.blockC,h.threadC⟩⟩

/-- What is an `int` in `launch_custom_gemm` and in the kernel that it chooses: the sums of the
grid, the loop over `K` and those offsets. The rows of blocks have to be few enough, too. The
decode kernel is for small sizes only. -/
def CustomInts (a : Args R) : Prop :=
  canUseDecodeGemm a = true ∨
    ((a.M+bm ≤ intMax ∧ (a.M+bm-1)/bm ≤ maxGridY) ∧ a.N+bn ≤ intMax ∧
      (a.K+bk-1)/bk*bk ≤ intMax) ∧
      (canUseVectorizedBankGemm a = true → VectorizedInts a.M a.N a.K)

instance (a : Args R) : Decidable (CustomInts a) :=
  inferInstanceAs (Decidable (canUseDecodeGemm a = true ∨
    ((a.M+bm ≤ intMax ∧ (a.M+bm-1)/bm ≤ maxGridY) ∧ a.N+bn ≤ intMax ∧
      (a.K+bk-1)/bk*bk ≤ intMax) ∧
      (canUseVectorizedBankGemm a = true → VectorizedInts a.M a.N a.K)))

end Ints

section Launchers

variable {R : Type*} [CommRing R] [DecidableEq R] (sgemm : Sgemm R) (gelu : R → R)
  (shared : Shared R) (useCublas : Bool)

def launchGemmCublasRowMajor (M N K : ℕ) (alpha : R) (A B : Buffer R) (beta : R) (C : Buffer R)
    (stream : CudaStream) : Launch (Memory R) :=
  onC stream C fun C => sgemm N M K alpha B N A K beta C N

def customGemm (M N K : ℕ) (alpha : R) (A B : Buffer R) (beta : R) (bias : Option (Buffer R))
    (C : Buffer R) (stream : CudaStream) (applyGelu : Bool) : Launch (Memory R) :=
  onC stream C fun C =>
    let a : Args R := ⟨M,N,K,alpha,A,B,beta,bias,C,applyGelu⟩
    if CustomInts a then launchCustomGemm gelu a shared else none

def launchGemm (M N K : ℕ) (alpha : R) (A B : Buffer R) (beta : R) (C : Buffer R)
    (stream : CudaStream) : List (Launch (Memory R)) :=
  if M = 0 ∨ N = 0 ∨ K = 0 then []
  else if useCublas then [launchGemmCublasRowMajor sgemm M N K alpha A B beta C stream]
  else [customGemm gelu shared M N K alpha A B beta none C stream false]

def launchGemmBias (M N K : ℕ) (A B : Buffer R) (bias : Option (Buffer R)) (C : Buffer R)
    (stream : CudaStream) : List (Launch (Memory R)) :=
  if M = 0 ∨ N = 0 ∨ K = 0 then []
  else if useCublas then
    launchGemmCublasRowMajor sgemm M N K 1 A B 0 C stream::launchAddBias C bias M N stream
  else [customGemm gelu shared M N K 1 A B 0 bias C stream false]

def launchGemmBiasGelu (M N K : ℕ) (A B : Buffer R) (bias : Option (Buffer R)) (C : Buffer R)
    (stream : CudaStream) : List (Launch (Memory R)) :=
  if M = 0 ∨ N = 0 ∨ K = 0 then []
  else if useCublas then
    launchGemmCublasRowMajor sgemm M N K 1 A B 0 C stream::launchAddBias C bias M N stream++
      launchGelu gelu C (M*N)
  else [customGemm gelu shared M N K 1 A B 0 bias C stream true]

end Launchers

end MiniLlm.Gemm
