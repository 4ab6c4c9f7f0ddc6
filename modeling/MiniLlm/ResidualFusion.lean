import MiniLlm.DeviceGemm
import MiniLlm.InterchangeableGemm

/-!
# The residual as a kernel of its own

`launch_gemm_bias_residual` adds a linear layer to what is in `C` already.
The other way to do it is to compute the layer into a buffer of its own and to
add that with `residual_add`. It takes an `int` of elements, four floats at
once and no stream, so the two ways agree on the terms on which the backends do
with GELU, with both buffers aligned.
-/

set_option autoImplicit false

namespace MiniLlm.Gemm

open FlatMemory RowBuffers KernelLaunch Streams

section Kernel

variable {R : Type*} [Add R]

def residualAddKernel (x y : Buffer R) (nums vecIdx : ℕ) : Option (List (ℕ × R)) :=
  let base := vecIdx*4
  if base+3 < nums then do
    let xv ← x.load4 base
    let yv ← y.load4 base
    x.store4 base ⟨xv.x+yv.x,xv.y+yv.y,xv.z+yv.z,xv.w+yv.w⟩
  else gather (List.range' base (nums-base)) fun i => do
    let v ← x.load i
    let w ← y.load i
    x.store i (v+w)

/-- `residual_add` takes no stream. The memory behind `y` comes first. -/
def residualAddLaunch (x y : Buffer R) (nums : ℕ) : Launch (Memory R × Memory R) where
  stream := .default
  run := fun s =>
    if nums+4 ≤ intMax then
      (launch256 (((nums+4-1)/4+256-1)/256)
        (residualAddKernel (x.withData s.2) (y.withData s.1) nums)).map
          fun writes => (s.1,storeAll writes s.2)
    else none

def launchResidualAdd (x y : Buffer R) (nums : ℕ) : List (Launch (Memory R × Memory R)) :=
  if nums = 0 then [] else [residualAddLaunch x y nums]

variable {x y : Buffer R} {n : ℕ}

theorem residual_add_thread (hx : x.size = n) (hy : y.size = n)
    (halign : x.Aligned16 0 ∧ y.Aligned16 0 ∨ n < 4) (idx : ℕ) : residualAddKernel x y n idx =
      some (float4Stores (fun i => x.data i+y.data i) n (idx*4)) := by
  unfold residualAddKernel
  dsimp only
  split
  · rename_i hall
    obtain ⟨hxa,hya⟩ : x.Aligned16 (idx*4) ∧ y.Aligned16 (idx*4) := by
      unfold Buffer.Aligned16 at halign ⊢
      omega
    have hsize : idx*4+3 < x.size := hx ▸ hall
    rw [Buffer.load4_some hxa hsize, Buffer.load4_some hya (hy ▸ hall), float4_stores_all _ hall]
    exact Buffer.store4_some _ hxa hsize
  · rename_i hpart
    have hturn (i : ℕ) (hi : i ∈ List.range' (idx*4) (n-idx*4)) :
        ((x.load i).bind fun v => (y.load i).bind fun w => x.store i (v+w)) =
          some [(i,x.data i+y.data i)] := by
      have hlt : i < n := by
        rw [List.mem_range'_1] at hi
        omega
      rw [Buffer.load_some (hx ▸ hlt), Buffer.load_some (hy ▸ hlt)]
      exact Buffer.store_some _ (hx ▸ hlt)
    rw [float4_stores_rest _ hpart]
    exact gather_some _ hturn

theorem residual_add_run (hx : x.size = n) (hy : y.size = n)
    (halign : x.Aligned16 0 ∧ y.Aligned16 0 ∨ n < 4) (hint : n+4 ≤ intMax)
    (s : Memory R × Memory R) :
    ∃ d, (residualAddLaunch x y n).run s = some (s.1,d) ∧ ∀ i < n, d i = s.2 i+s.1 i := by
  obtain ⟨writes,hwrites,hfills⟩ := launch256_fills 4 (fun i => s.2 i+s.1 i)
    (residual_add_thread (x := x.withData s.2) (y := y.withData s.1) hx hy halign)
    (show n ≤ (((n+4-1)/4+256-1)/256)*(256*4) by omega)
  refine ⟨storeAll writes s.2,?_,fun i hi => ?_⟩
  · show ite (n+4 ≤ intMax) _ none = _
    rw [if_pos hint, hwrites]
    rfl
  · have hstored := hfills.stored s.2 Nat.one_pos hi
    rwa [Nat.zero_mul, Nat.zero_add] at hstored

theorem residual_add_faults
    (h : ¬n+4 ≤ intMax ∨ ¬(x.Aligned16 0 ∧ y.Aligned16 0) ∧ 4 ≤ n)
    (s : Memory R × Memory R) : (residualAddLaunch x y n).run s = none := by
  show ite (n+4 ≤ intMax) _ none = none
  split
  case isFalse => rfl
  rename_i hint
  obtain ⟨halign,hn⟩ := h.resolve_left (not_not_intro hint)
  have hthread : residualAddKernel (x.withData s.2) (y.withData s.1) n 0 = none := by
    unfold residualAddKernel
    dsimp only
    rw [if_pos (by omega), Nat.zero_mul]
    by_cases hx : x.Aligned16 0
    · have hy : ¬(y.withData s.1).Aligned16 0 := fun hy => halign ⟨hx,hy⟩
      rw [Buffer.load4_misaligned hy]
      cases (x.withData s.2).load4 0 <;> rfl
    · have hx' : ¬(x.withData s.2).Aligned16 0 := hx
      rw [Buffer.load4_misaligned hx']
      rfl
  have hfault := launch256_faults
    (show 0 < ((n+4-1)/4+256-1)/256 by omega) hthread
  rw [hfault]
  rfl

end Kernel

section Layers

variable {R : Type*} [CommRing R]

def Pointers.layer (p : Pointers) (x : Contents R) (m n : ℕ) : R :=
  (∑ k ∈ Finset.range p.K, x.A (m*p.K+k)*x.B (k*p.N+n))+
    (p.bufferBias x).elim 0 fun bias => bias.data n

def layerArgs (p : Pointers) (proj : ℕ) (x : Contents R) (y : Memory R) : Args R :=
  ({ p with C := proj } : Pointers).args { x with C := y } 1 0 (p.bufferBias x) false

def SameSum (p : Pointers) (s t : Memory R × Memory R) : Prop := SameMatrix p.M p.N s.2 t.2

variable [DecidableEq R] (be : Kernels.GemmBackend R) (gelu : R → R) (p : Pointers) (proj : ℕ)
  (x : Contents R) (y : Memory R)

/-- `launch_gemm_bias` into a buffer at `proj`. -/
def layerLaunches : List (Launch (Memory R)) :=
  launchGemmBias be.sgemm gelu be.shared be.useCublas p.M p.N p.K (p.bufferA x) (p.bufferB x)
    (p.bufferBias x) ⟨proj,p.M*p.N,y⟩ p.stream

/-- What is an `int` there fits, with either backend. -/
def LayerInts : Prop :=
  if be.useCublas then p.BiasInts else ({ p with C := proj } : Pointers).CustomInts

/-- The layer in a buffer of its own, and then `residual_add`. -/
def separateLaunches : List (Launch (Memory R × Memory R)) :=
  (layerLaunches be gelu p proj x y).map Launch.first++
    launchResidualAdd (p.bufferC x) ⟨proj,p.M*p.N,y⟩ (p.M*p.N)

def residualLaunches : List (Launch (Memory R × Memory R)) :=
  (Kernels.launchGemmBiasResidual gelu be.shared p.M p.N p.K (p.bufferA x) (p.bufferB x)
    (p.bufferBias x) (p.bufferC x) p.stream).map Launch.second

variable {p x}

theorem layer_stream : ∀ l ∈ (layerLaunches be gelu p proj x y).map Launch.first,
    (l : Launch (Memory R × Memory R)).stream = p.stream := by
  intro l hl
  obtain ⟨k,hk,rfl⟩ := List.mem_map.mp hl
  show k.stream = p.stream
  unfold layerLaunches launchGemmBias at hk
  split at hk
  · exact absurd hk List.not_mem_nil
  · split at hk
    · rcases List.mem_cons.mp hk with rfl | hk
      · rfl
      · exact add_bias_stream _ _ _ _ _ k hk
    · rw [List.mem_singleton.mp hk]
      rfl

theorem residual_run (hcustom : p.CustomInts) (s : Memory R × Memory R) :
    ∃ d, runAll (residualLaunches be gelu p x) s = some (s.1,d) ∧
      ∀ m < p.M, ∀ n < p.N, d (m*p.N+n) = s.2 (m*p.N+n)+p.layer x m n := by
  have hsized : (p.args x 1 1 (p.bufferBias x) false).Sized := Pointers.args_sized_bias 1 1 false
  obtain ⟨d,hd,hfused⟩ := fused_run gelu be.shared hsized hcustom p.stream s.2
  refine ⟨d,?_,fun m hm n hn => (hfused m hm n hn).trans ?_⟩
  · show runAll [Launch.second (fusedLaunch gelu be.shared (p.args x 1 1 (p.bufferBias x) false)
      p.stream)] s = _
    rw [run_all_singleton]
    exact congrArg (Option.map _) hd
  · show 1*(∑ k ∈ Finset.range p.K, x.A (m*p.K+k)*x.B (k*p.N+n))+1*s.2 (m*p.N+n)+
      (p.bufferBias x).elim 0 (fun bias => bias.data n) = _
    rw [Pointers.layer]
    ring

variable (hM : 0 < p.M) (hN : 0 < p.N) (hK : 0 < p.K)

include hM hN

theorem separate_launches_last : separateLaunches be gelu p proj x y =
    (layerLaunches be gelu p proj x y).map Launch.first++
      [residualAddLaunch (p.bufferC x) ⟨proj,p.M*p.N,y⟩ (p.M*p.N)] := by
  rw [separateLaunches, launchResidualAdd, if_neg (Nat.mul_pos hM hN).ne']

include hK

theorem layer_run (hints : LayerInts be p proj) (c : Memory R) :
    ∃ d, runAll (layerLaunches be gelu p proj x y) c = some d ∧
      ∀ m < p.M, ∀ n < p.N, d (m*p.N+n) = p.layer x m n := by
  have hpos : ¬(p.M = 0 ∨ p.N = 0 ∨ p.K = 0) := by omega
  let a : Args R := layerArgs p proj x y
  have hsized : a.Sized := Pointers.args_sized_bias 1 0 false
  have hvalue (m n : ℕ) : (1 : R)*(∑ k ∈ Finset.range p.K, x.A (m*p.K+k)*x.B (k*p.N+n))+
      0*c (m*p.N+n)+biasAt a n = p.layer x m n := by
    rw [one_mul, zero_mul, add_zero]
    rfl
  unfold LayerInts at hints
  unfold layerLaunches launchGemmBias
  rw [if_neg hpos]
  split <;> rename_i hcublas
  · rw [if_pos hcublas] at hints
    obtain ⟨d,hd,hlinear⟩ := linear_run be.product hsized
      ((Pointers.bias_ints_args 1 0 false).mpr hints) p.stream c
    exact ⟨d,hd,fun m hm n hn => (hlinear m hm n hn).trans (hvalue m n)⟩
  · rw [if_neg hcublas] at hints
    obtain ⟨d,hd,hfused⟩ := fused_run gelu be.shared hsized hints p.stream c
    exact ⟨d,(run_all_singleton _ _).trans hd,
      fun m hm n hn => (hfused m hm n hn).trans (hvalue m n)⟩

theorem layer_overflow (hints : ¬LayerInts be p proj) (c : Memory R) :
    runAll (layerLaunches be gelu p proj x y) c = none := by
  have hpos : ¬(p.M = 0 ∨ p.N = 0 ∨ p.K = 0) := by omega
  have hsized : (layerArgs p proj x y).Sized := Pointers.args_sized_bias 1 0 false
  unfold LayerInts at hints
  unfold layerLaunches launchGemmBias
  rw [if_neg hpos]
  split <;> rename_i hcublas
  · rw [if_pos hcublas] at hints
    exact linear_overflow be.product hsized
      (fun h => hints ((Pointers.bias_ints_args 1 0 false).mp h)) p.stream c
  · rw [if_neg hcublas] at hints
    have hover : ¬Gemm.CustomInts (layerArgs p proj x y) := hints
    exact (run_all_singleton _ _).trans (fused_overflow gelu be.shared hover p.stream c)

theorem separate_run (hints : LayerInts be p proj) (s : Memory R × Memory R) : ∃ d,
    runAll (separateLaunches be gelu p proj x y) s =
      (residualAddLaunch (p.bufferC x) ⟨proj,p.M*p.N,y⟩ (p.M*p.N)).run (d,s.2) ∧
    ∀ m < p.M, ∀ n < p.N, d (m*p.N+n) = p.layer x m n := by
  obtain ⟨d,hd,hlayer⟩ := layer_run be gelu proj y hM hN hK hints s.1
  refine ⟨d,?_,hlayer⟩
  rw [separate_launches_last be gelu proj y hM hN, run_all_append, run_all_first, hd]
  exact run_all_singleton _ _

theorem separate_agrees (hcustom : p.CustomInts) (hints : LayerInts be p proj)
    (hnums : p.M*p.N+4 ≤ intMax) (halign : p.C%4 = 0 ∧ proj%4 = 0 ∨ p.M*p.N < 4)
    (hstream : p.stream.Ordered .default) (s : Memory R × Memory R) :
    Agree (SameSum p) (separateLaunches be gelu p proj x y) (residualLaunches be gelu p x) s := by
  obtain ⟨d,hd,hlayer⟩ := separate_run be gelu proj y hM hN hK hints s
  obtain ⟨e,he,hadd⟩ := residual_add_run (x := p.bufferC x) (y := ⟨proj,p.M*p.N,y⟩)
    (n := p.M*p.N) rfl rfl halign hnums (d,s.2)
  obtain ⟨f,hf,hfused⟩ := residual_run be gelu hcustom s
  have hlayers := layer_stream be gelu (p := p) (x := x) proj y
  have horder : InOrder (separateLaunches be gelu p proj x y) := by
    rw [separate_launches_last be gelu proj y hM hN]
    refine List.pairwise_append.mpr ⟨in_order_stream hlayers,in_order_singleton _,?_⟩
    intro l hl l' hl'
    rw [hlayers l hl, List.mem_singleton.mp hl']
    exact hstream
  refine agree_in_order horder (in_order_singleton _) (hd.trans he) hf fun m hm n hn => ?_
  show e (m*p.N+n) = f (m*p.N+n)
  rw [hadd _ (row_cell_lt hm hn), hfused m hm n hn, ← hlayer m hm n hn]

theorem separate_faults (h : ¬LayerInts be p proj ∨ ¬p.M*p.N+4 ≤ intMax ∨
      ¬(p.C%4 = 0 ∧ proj%4 = 0) ∧ 4 ≤ p.M*p.N) (s : Memory R × Memory R) :
    runAll (separateLaunches be gelu p proj x y) s = none := by
  by_cases hints : LayerInts be p proj
  · obtain ⟨d,hd,_⟩ := separate_run be gelu proj y hM hN hK hints s
    rw [hd]
    exact residual_add_faults (x := p.bufferC x) (y := ⟨proj,p.M*p.N,y⟩)
      (h.resolve_left (not_not_intro hints)) _
  · rw [separate_launches_last be gelu proj y hM hN, run_all_append, run_all_first,
      layer_overflow be gelu proj y hM hN hK hints]
    rfl

theorem separate_needs_run (h : ∀ x y, Agree (SameSum p) (separateLaunches be gelu p proj x y)
      (residualLaunches be gelu p x) (y,x.C)) :
    p.CustomInts ∧ LayerInts be p proj ∧ p.M*p.N+4 ≤ intMax ∧
      (p.C%4 = 0 ∧ proj%4 = 0 ∨ p.M*p.N < 4) := by
  let x : Contents R := ⟨fun _ => 0,fun _ => 0,fun _ => 0,fun _ => 0⟩
  have hruns (hfault : ¬LayerInts be p proj ∨ ¬p.M*p.N+4 ≤ intMax ∨
      ¬(p.C%4 = 0 ∧ proj%4 = 0) ∧ 4 ≤ p.M*p.N) : False :=
    not_agree_fault (separate_faults be gelu proj _ hM hN hK hfault _) (h x fun _ => 0)
  refine ⟨?_,?_,?_,?_⟩
  · by_contra hover
    have hover' : ¬Gemm.CustomInts (p.args x 1 1 (p.bufferBias x) false) := hover
    have hfused : runAll (residualLaunches be gelu p x) ((fun _ => 0),x.C) = none := by
      show runAll [Launch.second (fusedLaunch gelu be.shared (p.args x 1 1 (p.bufferBias x) false)
        p.stream)] _ = none
      rw [run_all_singleton]
      exact congrArg (Option.map _) (fused_overflow gelu be.shared hover' p.stream x.C)
    exact not_agree_fault_right hfused (h x fun _ => 0)
  · by_contra hints
    exact hruns (.inl hints)
  · by_contra hnums
    exact hruns (.inr (.inl hnums))
  · by_contra halign
    push Not at halign
    exact hruns (.inr (.inr ⟨fun ha => halign.1 ha.1 ha.2,halign.2⟩))

/-- On a stream that the default one does not wait for, `residual_add` may come first, and then it
adds what the buffer held before. -/
theorem separate_early (hints : LayerInts be p proj) (hnums : p.M*p.N+4 ≤ intMax)
    (halign : p.C%4 = 0 ∧ proj%4 = 0 ∨ p.M*p.N < 4)
    (hstream : ¬p.stream.Ordered .default) (s : Memory R × Memory R) :
    ∃ t, Executes (separateLaunches be gelu p proj x y) s (some t) ∧
      ∀ i < p.M*p.N, t.2 i = s.2 i+s.1 i := by
  obtain ⟨e,he,hadd⟩ := residual_add_run (x := p.bufferC x) (y := ⟨proj,p.M*p.N,y⟩)
    (n := p.M*p.N) rfl rfl halign hnums s
  obtain ⟨d,hd,_⟩ := layer_run be gelu proj y hM hN hK hints s.1
  have hlast : runAll ((layerLaunches be gelu p proj x y).map Launch.first) (s.1,e) =
      some (d,e) := by
    rw [run_all_first, hd]
    rfl
  refine ⟨(d,e),?_,hadd⟩
  rw [separate_launches_last be gelu proj y hM hN, ← hlast]
  refine executes_last_first (fun l hl => ?_) he
  rw [layer_stream be gelu proj y l hl]
  exact hstream

end Layers

section Fusion

variable {R : Type*} [CommRing R]

/-- Contents whose layer starts with a one, which a `residual_add` that comes too early misses. -/
def oneFirst : Contents R := ⟨fun i => if i = 0 then 1 else 0,fun _ => 1,fun _ => 0,fun _ => 0⟩

theorem one_first_layer {p : Pointers} (hK : 0 < p.K) : p.layer (oneFirst (R := R)) 0 0 = 1 := by
  have hbias : (p.bufferBias (oneFirst (R := R))).elim 0 (fun bias => bias.data 0) = 0 := by
    unfold Pointers.bufferBias
    cases p.bias <;> rfl
  rw [Pointers.layer, hbias]
  show ∑ k ∈ Finset.range p.K, (if 0*p.K+k = 0 then (1 : R) else 0)*1+0 = 1
  simp [hK]

/-- A linear layer with `residual_add` after it leaves what the fused residual leaves, whatever is
in the buffers, exactly if no `int` overflows and no grid is refused, both buffers are aligned or
have fewer than four floats, and the default stream waits for the caller's stream. -/
theorem residual_fusion_iff [DecidableEq R] [Nontrivial R] (be : Kernels.GemmBackend R)
    (gelu : R → R) (p : Pointers) (proj : ℕ) (hM : 0 < p.M) (hN : 0 < p.N) (hK : 0 < p.K) :
    (∀ x y, Agree (SameSum p) (separateLaunches be gelu p proj x y)
      (residualLaunches be gelu p x) (y,x.C)) ↔
    (p.CustomInts ∧ LayerInts be p proj ∧ p.M*p.N+4 ≤ intMax) ∧
      (p.C%4 = 0 ∧ proj%4 = 0 ∨ p.M*p.N < 4) ∧ p.stream.Ordered .default := by
  constructor
  · intro h
    obtain ⟨hcustom,hints,hnums,halign⟩ := separate_needs_run be gelu proj hM hN hK h
    refine ⟨⟨hcustom,hints,hnums⟩,halign,?_⟩
    by_contra hstream
    let s : Memory R × Memory R := (fun _ => 0,fun _ => 0)
    obtain ⟨t,ht,hearly⟩ := separate_early be gelu proj (fun _ => 0) hM hN hK (x := oneFirst)
      hints hnums halign hstream s
    obtain ⟨f,hf,hfused⟩ := residual_run be gelu (p := p) (x := oneFirst) hcustom s
    have hresidual := executes_run_all (residualLaunches be gelu p oneFirst) s
    rw [hf] at hresidual
    obtain ⟨u,u',hu,hu',hsame⟩ := h oneFirst (fun _ => 0) _ _ ht hresidual
    obtain rfl := Option.some.inj hu
    obtain rfl := Option.some.inj hu'
    have hcell : t.2 (0*p.N+0) = f (0*p.N+0) := hsame 0 hM 0 hN
    rw [hearly _ (row_cell_lt hM hN), hfused 0 hM 0 hN, one_first_layer hK] at hcell
    have hone : (0 : R)+0 = 0+1 := hcell
    exact zero_ne_one (add_left_cancel hone)
  · rintro ⟨⟨hcustom,hints,hnums⟩,halign,hstream⟩ x y
    exact separate_agrees be gelu proj y hM hN hK hcustom hints hnums halign hstream (y,x.C)

def wholeBackend : Kernels.GemmBackend ℤ :=
  ⟨true,referenceSgemm,⟨fun _ => 0,fun _ => 0⟩,reference_sgemm_product,
    Kernels.reference_stores_inside⟩

/-- A row of four floats, with its own buffer right after it. -/
theorem aligned_row_residual : Agree (SameSum alignedRow)
    (separateLaunches wholeBackend id alignedRow 8 oneFirst fun _ => 0)
    (residualLaunches wholeBackend id alignedRow oneFirst) (fun _ => 0,oneFirst.C) :=
  (residual_fusion_iff wholeBackend id alignedRow 8 (by decide) (by decide) (by decide)).mpr
    ⟨⟨by unfold Pointers.CustomInts; decide,.inr (by decide),by decide⟩,.inl ⟨rfl,rfl⟩,.inl rfl⟩
    oneFirst fun _ => 0

end Fusion

end MiniLlm.Gemm
